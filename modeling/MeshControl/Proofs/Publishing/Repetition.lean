import Mathlib.Data.List.Nodup
import MeshControl.Proofs.Publishing.Rollback

/-!
# A pass over the same input again

A pass writes the memory that it reads, so the second of two passes over one input starts from another
memory than the first. `Publication.after_append_self` says that this does not show: where the keys of the
meshes are distinct, a mesh that is valid publishes itself both times, and one that is invalid finds no
translation with its key in the first pass that it could restore in the second.
-/

namespace MeshControl

open Access (MeshCompiler)

namespace Translation

variable {compile : MeshCompiler} {history translations : List Translation}

/-- An invalid translation is not restored by a later one with its key. -/
theorem source?_append_self (compile : MeshCompiler) (history : List Translation)
    (translation : Translation) :
    translation.source? compile (history ++ [translation]) = translation.source? compile history := by
  unfold source?
  cases validity : translation.isValid compile with
  | true => rfl
  | false => simp [lastValid?_append_singleton, validity]

/-- Where keys are distinct, a translation publishes the same whether or not it was made before, together
with those around it. -/
theorem source?_append_of_mem (distinct : (translations.map (·.mesh.key)).Nodup)
    {translation : Translation} (member : translation ∈ translations) :
    translation.source? compile (history ++ translations) = translation.source? compile history := by
  obtain ⟨earlier, later, rfl⟩ := List.append_of_mem member
  have apart : ∀ other ∈ earlier ++ later, other.mesh.key ≠ translation.mesh.key := by
    rw [List.map_append, List.map_cons] at distinct
    have fresh := (List.nodup_middle.1 distinct).notMem
    intro other inside same
    rw [← List.map_append] at fresh
    exact fresh (List.mem_map.2 ⟨other, inside, same⟩)
  calc
    translation.source? compile (history ++ (earlier ++ translation :: later))
      = translation.source? compile ((history ++ earlier ++ [translation]) ++ later) := by simp
    _ = translation.source? compile (history ++ earlier ++ [translation]) :=
        source?_append_of_ne fun other inside => apart other (List.mem_append_right _ inside)
    _ = translation.source? compile (history ++ earlier) := source?_append_self compile _ translation
    _ = translation.source? compile history :=
        source?_append_of_ne fun other inside => apart other (List.mem_append_left _ inside)

/-- Translations that are made twice leave the last valid ones where they are. -/
theorem lastValid?_append_twice (compile : MeshCompiler) (history translations : List Translation)
    (key : String) :
    lastValid? compile (history ++ translations ++ translations) key =
      lastValid? compile (history ++ translations) key := by
  simp only [lastValid?, List.reverse_append, List.find?_append, ← Option.or_assoc, Option.or_self]

end Translation

namespace Publication

variable {compile : MeshCompiler} {translations : List Translation}

/-- Where keys are distinct, no translation of a pass restores another one of the same pass. -/
theorem after_eq_map (history : List Translation) (distinct : (translations.map (·.mesh.key)).Nodup) :
    after compile history translations =
      translations.map fun translation => ⟨translation, translation.source? compile history⟩ := by
  induction translations generalizing history with
  | nil => rfl
  | cons translation rest inductionHypothesis =>
      rw [List.map_cons, List.nodup_cons] at distinct
      obtain ⟨fresh, distinct⟩ := distinct
      rw [after, inductionHypothesis _ distinct, List.map_cons]
      congr 1
      refine List.map_congr_left fun later member => ?_
      rw [Translation.source?_append_of_ne]
      rintro other inside same
      obtain rfl := List.mem_singleton.1 inside
      exact fresh (List.mem_map.2 ⟨later, member, same.symm⟩)

/-- Where keys are distinct, translations that are made again publish what they published before. -/
theorem after_append_self (history : List Translation)
    (distinct : (translations.map (·.mesh.key)).Nodup) :
    after compile (history ++ translations) translations = after compile history translations := by
  rw [after_eq_map _ distinct, after_eq_map _ distinct]
  refine List.map_congr_left fun translation member => ?_
  rw [Translation.source?_append_of_mem distinct member]

end Publication

namespace Publisher

/-- A publisher remembers the same after two passes over one input as after one, even if keys repeat. -/
theorem after_twice (settings : PassSettings) (earlier : List PassRequest) (request : PassRequest) :
    after settings (earlier ++ [request] ++ [request]) =
      { after settings (earlier ++ [request]) with
        passes := (after settings (earlier ++ [request])).passes + 1 } := by
  have memory : (after settings (earlier ++ [request] ++ [request])).lastValid =
      (after settings (earlier ++ [request])).lastValid := by
    refine SortedMap.ext_get? fun key => ?_
    rw [remembers_after, remembers_after]
    simp only [Translation.history, List.flatMap_append, List.flatMap_singleton]
    rw [Translation.lastValid?_append_twice]
  have count : (after settings (earlier ++ [request] ++ [request])).passes =
      (after settings (earlier ++ [request])).passes + 1 := by
    rw [passes_after, passes_after, List.length_append, List.length_singleton]
  dsimp only
  rw [← memory, ← count]

/-- A pass over an input with distinct keys publishes the same before and after another such pass. -/
theorem publications_twice (compile : MeshCompiler) (earlier : List PassRequest) {request : PassRequest}
    (distinct : (request.input.meshes.map Mesh.key).Nodup) :
    Publication.after compile (Translation.history (earlier ++ [request])) request.input.translations =
      Publication.after compile (Translation.history earlier) request.input.translations := by
  rw [Translation.history, List.flatMap_append, List.flatMap_singleton]
  refine Publication.after_append_self _ ?_
  simpa [Input.translations, Function.comp_def] using distinct

/-- After any passes, a pass over an input whose meshes have distinct keys can be repeated: the second time
it publishes the same objects, makes the same reports and says the same of every mesh, and only the number
of passes is greater. -/
theorem repeated_pass_agrees (ignored : List String) (compile : MeshCompiler)
    (earlier : List PassRequest) (request : PassRequest)
    (distinct : (request.input.meshes.map Mesh.key).Nodup) :
    let settings : PassSettings := { ignored, compile }
    let first := (after settings earlier).serve settings request
    let second := first.publisher.serve settings request
    second.outputs = first.outputs ∧ second.reporter = first.reporter ∧
      second.summary = { first.summary with pass := first.summary.pass + 1 } ∧
      second.publisher = { first.publisher with passes := first.publisher.passes + 1 } := by
  intro settings first second
  have between : first.publisher = after settings (earlier ++ [request]) :=
    (after_append_singleton settings earlier request).symm
  have again : second = (after settings (earlier ++ [request])).serve settings request :=
    congrArg (serve settings · request) between
  have publications := publications_twice compile earlier distinct
  refine ⟨?_, ?_, ?_, ?_⟩
  · rw [again, outputs_served, publications, outputs_served]
  · rw [again, reporter_served, reporter_served]
  · rw [again, summary_served, publications, summary_served, List.length_append, List.length_singleton]
    rfl
  · rw [again, between, ← after_append_singleton, after_twice]

section Mixed

/-- A mesh on a cluster of its name, with enforced access and one gateway. -/
private def gatedMesh (name gateway : String) : Mesh where
  metadata := { name, ns := "orbit" }
  provider := .istio { installation := { ns := "istio-system", cluster := name } }
  status :=
    { virtualMesh := some { ref := ⟨"vm", "orbit"⟩, spec := { globalAccess := .enabled } }
      ingressGateways := [⟨gateway, "istio-system"⟩] }

/-- A pass over some meshes, each with the name of its gateway, where only some gateways exist. -/
private def gatedPass (meshes : List (String × String)) (gateways : List String) : PassRequest where
  input :=
    { meshes := meshes.map fun mesh => gatedMesh mesh.1 mesh.2
      destinations := gateways.map fun name =>
        { metadata := { name, ns := "istio-system" }
          spec := { service := { ref := ⟨name, "istio-system", "east"⟩ } } } }
  outputs := .named "remote" "local"
  reporter := .fresh

/-- A mesh that is valid, one that is restored and one that was never valid, in the second pass and again
in the third. -/
theorem repeated_pass_agrees_mixed :
    let before := gatedPass [("east", "first"), ("west", "second")] ["first", "second"]
    let request := gatedPass [("west", "second"), ("north", "third"), ("east", "first")] ["first"]
    let settings : PassSettings := { compile := Access.compileMesh }
    let first := (after settings [before]).serve settings request
    let second := first.publisher.serve settings request
    (request.input.meshes.map Mesh.key).Nodup ∧ second.outputs = first.outputs ∧
      second.reporter = first.reporter ∧
      second.summary =
        { pass := 2
          valid := ["east.orbit"]
          invalid := ["west.orbit", "north.orbit"]
          rolledBack := ["west.orbit"] } := by
  intro before request settings first second
  have distinct : (request.input.meshes.map Mesh.key).Nodup := by decide
  have agree := repeated_pass_agrees Injection.builtinIgnored Access.compileMesh [before] request distinct
  have counted : first.summary =
      { pass := 1
        valid := ["east.orbit"]
        invalid := ["west.orbit", "north.orbit"]
        rolledBack := ["west.orbit"] } := by decide
  refine ⟨distinct, agree.1, agree.2.1, ?_⟩
  rw [agree.2.2.1, counted]

/-- Where a key repeats, the second pass restores what the first one has made after it. -/
example :
    let request := gatedPass [("east", "lost"), ("east", "first")] ["first"]
    let first := ({} : Publisher).serve {} request
    let second := first.publisher.serve {} request
    first.summary.rolledBack = [] ∧ second.summary.rolledBack = ["east.orbit"] := by
  decide

end Mixed

end Publisher

end MeshControl
