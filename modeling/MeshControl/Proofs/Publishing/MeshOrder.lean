import MeshControl.Proofs.MeshOrder
import MeshControl.Proofs.Publishing.Emissions
import MeshControl.Proofs.Publishing.Isolation
import MeshControl.Proofs.Publishing.Repetition

/-!
# The order of meshes does not matter

A pass publishes for its meshes one after the other, and later objects win. Where Istio meshes are apart and
keep their clusters, at most one mesh of a pass publishes anything on a cluster, be it fresh or restored from
an earlier pass (`Publication.isOn_of_published`). So no object of a mesh ever replaces one of another mesh,
and a pass over the same meshes in another order ends alike (`Publisher.pass_of_perm`).
-/

namespace MeshControl

open Access (compileMesh)

/-- The request with other meshes in its input. -/
def PassRequest.withMeshes (request : PassRequest) (meshes : List Mesh) : PassRequest :=
  { request with input := request.input.withMeshes meshes }

namespace Translation

/-- All Istio meshes with one key are installed on one cluster. -/
def Settled (translations : List Translation) : Prop :=
  ∀ translation ∈ translations, ∀ other ∈ translations, translation.mesh.key = other.mesh.key →
    ∀ istio ∈ translation.mesh.istio, ∀ otherIstio ∈ other.mesh.istio,
      istio.installation.cluster = otherIstio.installation.cluster

instance (translations : List Translation) : Decidable (Settled translations) :=
  inferInstanceAs (Decidable (∀ translation ∈ translations, ∀ other ∈ translations,
    translation.mesh.key = other.mesh.key →
      ∀ istio ∈ translation.mesh.istio, ∀ otherIstio ∈ other.mesh.istio,
        istio.installation.cluster = otherIstio.installation.cluster))

variable {input : Input} {mesh : Mesh}

/-- Only a mesh of Istio can be invalid, since nothing is reported on any other. -/
theorem istio_of_invalid (invalid : isValid compileMesh ⟨input, mesh⟩ = false) :
    ∃ istio, mesh.istio = some istio := by
  by_contra other
  have not : ∀ istio applied, ¬ Access.Enforces mesh istio applied := fun istio _ enforces =>
    other ⟨istio, enforces.isIstio⟩
  rw [isValid, Access.compileMesh_of_not_enforces not] at invalid
  cases invalid

/-- What a mesh makes does not depend on the other meshes of the input. -/
theorem verdict_withMeshes (input : Input) (meshes : List Mesh) (mesh : Mesh) :
    verdict compileMesh ⟨input.withMeshes meshes, mesh⟩ = verdict compileMesh ⟨input, mesh⟩ := by
  have made : compileMesh (input.withMeshes meshes) mesh = compileMesh input mesh :=
    Access.compileMesh_congr fun _ _ => rfl
  simp only [verdict, isValid, fresh, made]

end Translation

namespace Publication

variable {history : List Translation} {input : Input} {mesh : Mesh}

/-- What a pass after a history publishes for a mesh whose key it sees once. -/
def ofMesh (history : List Translation) (input : Input) (mesh : Mesh) : Publication :=
  ⟨⟨input, mesh⟩, Translation.source? compileMesh history ⟨input, mesh⟩⟩

theorem after_translations (history : List Translation) (distinct : (input.meshes.map Mesh.key).Nodup) :
    after compileMesh history input.translations = input.meshes.map (ofMesh history input) := by
  have keys : (input.translations.map (·.mesh.key)).Nodup := by
    simpa [Input.translations, Function.comp_def] using distinct
  rw [after_eq_map history keys, Input.translations, List.map_map]
  rfl

/-- What is published for a mesh does not depend on the other meshes of the input. -/
theorem ofMesh_withMeshes (history : List Translation) (input : Input) (meshes : List Mesh) (mesh : Mesh) :
    (ofMesh history (input.withMeshes meshes) mesh).outputs compileMesh =
        (ofMesh history input mesh).outputs compileMesh ∧
      (ofMesh history (input.withMeshes meshes) mesh).source?.isSome =
        (ofMesh history input mesh).source?.isSome :=
  outputs_eq_of_verdicts rfl rfl (Translation.verdict_withMeshes input meshes mesh) rfl

/-- A mesh for which an object is published, fresh or restored, is one of Istio on the object's cluster. -/
theorem isOn_of_published (settled : Translation.Settled (history ++ input.translations))
    (member : mesh ∈ input.meshes) {id : ObjectId} {object : OutputObject}
    (held : ((ofMesh history input mesh).outputs compileMesh).remote.get? id = some object) :
    ∃ istio, mesh.istio = some istio ∧ istio.installation.cluster = id.cluster := by
  obtain ⟨source, found, made, identity⟩ := of_get?_outputs_remote held
  obtain ⟨istio, isIstio, here, _⟩ := Access.installedAt_of_mem_compileMesh_remote made
  rw [identity] at here
  cases validity : Translation.isValid compileMesh ⟨input, mesh⟩ with
  | true =>
    have own : source = ⟨input, mesh⟩ := by
      simpa [ofMesh, Translation.source?, validity, eq_comm] using found
    rw [own] at isIstio
    exact ⟨istio, isIstio, here⟩
  | false =>
    -- The restored objects lie where an earlier mesh with the key was installed, and so does this one.
    obtain ⟨now, isNow⟩ := Translation.istio_of_invalid validity
    have last : Translation.lastValid? compileMesh history mesh.key = some source := by
      simpa [ofMesh, Translation.source?, validity] using found
    obtain ⟨earlier, named, _⟩ := Translation.of_lastValid?_eq_some last
    have present : (⟨input, mesh⟩ : Translation) ∈ input.translations := List.mem_map_of_mem member
    have kept := settled source (List.mem_append_left _ earlier) ⟨input, mesh⟩
      (List.mem_append_right _ present) named istio isIstio now isNow
    exact ⟨now, isNow, kept.symm.trans here⟩

/-- At most one mesh of a pass publishes an object at an identity. -/
theorem sole_published (settled : Translation.Settled (history ++ input.translations))
    (apart : MeshesApart input.meshes) (id : ObjectId) :
    input.meshes.Pairwise fun first second =>
      ((ofMesh history input first).outputs compileMesh).remote.get? id = none ∨
        ((ofMesh history input second).outputs compileMesh).remote.get? id = none := by
  refine (apart.sole_istio id.cluster).imp_of_mem fun {first second} member otherMember differ => ?_
  by_contra both
  rw [not_or, ← ne_eq, ← ne_eq, Option.ne_none_iff_exists', Option.ne_none_iff_exists'] at both
  obtain ⟨⟨_, held⟩, _, otherHeld⟩ := both
  exact differ ⟨isOn_of_published settled member held, isOn_of_published settled otherMember otherHeld⟩

end Publication

namespace Publisher

open Publication (ofMesh)

variable {history : List Translation} {input : Input} {reordered : List Mesh}

/-- The object that meshes publish at an identity is the same in every order of the meshes. -/
theorem published_of_perm (perm : reordered.Perm input.meshes) (apart : MeshesApart input.meshes)
    (settled : Translation.Settled (history ++ input.translations)) (id : ObjectId) :
    ((Publication.after compileMesh history (input.withMeshes reordered).translations).reverse.findSome?
        fun publication => (publication.outputs compileMesh).remote.get? id) =
      (Publication.after compileMesh history input.translations).reverse.findSome?
        fun publication => (publication.outputs compileMesh).remote.get? id := by
  have distinct : ((input.withMeshes reordered).meshes.map Mesh.key).Nodup :=
    (perm.map Mesh.key).nodup_iff.2 apart.keys
  rw [Publication.after_translations history distinct, Publication.after_translations history apart.keys,
    ← List.map_reverse, ← List.map_reverse, List.findSome?_map, List.findSome?_map]
  have alike : (fun publication : Publication => (publication.outputs compileMesh).remote.get? id) ∘
        ofMesh history (input.withMeshes reordered) =
      (fun publication : Publication => (publication.outputs compileMesh).remote.get? id) ∘
        ofMesh history input := by
    funext mesh
    simp only [Function.comp_apply, Publication.ofMesh_withMeshes]
  rw [alike]
  refine findSome?_eq_of_perm (reordered.reverse_perm.trans (perm.trans input.meshes.reverse_perm.symm)) ?_
  refine List.pairwise_reverse.2 ((Publication.sole_published settled apart id).imp ?_)
  exact fun none => none.symm

/-- The keys that a summary lists for the meshes of a pass. -/
theorem summary_translations (history : List Translation) (pass : Nat)
    (distinct : (input.meshes.map Mesh.key).Nodup) :
    Publication.summary compileMesh pass (Publication.after compileMesh history input.translations) =
      { pass
        valid := (input.meshes.filter fun mesh => Translation.isValid compileMesh ⟨input, mesh⟩).map Mesh.key
        invalid := (input.meshes.filter fun mesh =>
          !Translation.isValid compileMesh ⟨input, mesh⟩).map Mesh.key
        rolledBack := (input.meshes.filter fun mesh =>
          (ofMesh history input mesh).source?.isSome &&
            !Translation.isValid compileMesh ⟨input, mesh⟩).map Mesh.key } := by
  rw [Publication.after_translations history distinct]
  simp only [Publication.summary, List.filter_map, List.map_map, List.filter_filter]
  rfl

/-- A summary lists the same keys for the meshes in another order, in that order. -/
theorem summary_of_perm (history : List Translation) (pass : Nat) (perm : reordered.Perm input.meshes)
    (distinct : (input.meshes.map Mesh.key).Nodup) :
    let first := Publication.summary compileMesh pass
      (Publication.after compileMesh history input.translations)
    let second := Publication.summary compileMesh pass
      (Publication.after compileMesh history (input.withMeshes reordered).translations)
    second.pass = first.pass ∧ second.valid.Perm first.valid ∧ second.invalid.Perm first.invalid ∧
      second.rolledBack.Perm first.rolledBack := by
  intro first second
  have otherDistinct : ((input.withMeshes reordered).meshes.map Mesh.key).Nodup :=
    (perm.map Mesh.key).nodup_iff.2 distinct
  have validity (mesh : Mesh) : Translation.isValid compileMesh ⟨input.withMeshes reordered, mesh⟩ =
      Translation.isValid compileMesh ⟨input, mesh⟩ :=
    congrArg Prod.fst (Translation.verdict_withMeshes input reordered mesh)
  have restored (mesh : Mesh) : (ofMesh history (input.withMeshes reordered) mesh).source?.isSome =
      (ofMesh history input mesh).source?.isSome :=
    (Publication.ofMesh_withMeshes history input reordered mesh).2
  have firstListed : first = _ := summary_translations history pass distinct
  have secondListed : second = _ := summary_translations history pass otherDistinct
  simp only [validity, restored] at secondListed
  rw [firstListed, secondListed]
  exact ⟨rfl, (perm.filter _).map _, (perm.filter _).map _, (perm.filter _).map _⟩

/-- The reports on meshes are the same in every order of the meshes, in that order. -/
theorem meshReports_of_perm (perm : reordered.Perm input.meshes) :
    (meshReports compileMesh (input.withMeshes reordered)).Perm (meshReports compileMesh input) := by
  have alike (mesh : Mesh) : (compileMesh (input.withMeshes reordered) mesh).reports =
      (compileMesh input mesh).reports :=
    congrArg Access.MeshResult.reports (Access.compileMesh_congr fun _ _ => rfl)
  simp only [meshReports, alike]
  exact perm.flatMap_right _

/-- What is made for destinations is the same in every order of the meshes. -/
theorem destinations_of_perm (ignored : List String) (perm : reordered.Perm input.meshes)
    (apart : MeshesApart input.meshes) :
    destinationObjects ignored (input.withMeshes reordered) = destinationObjects ignored input ∧
      destinationReports ignored (input.withMeshes reordered) = destinationReports ignored input := by
  have membership := membershipOf_of_perm perm apart ignored
  have made := Access.compileDestination_of_perm perm apart (membershipOf ignored input)
  refine ⟨?_, ?_⟩
  · simp only [destinationObjects, membership, made]
    rfl
  · simp only [destinationReports, membership, made]
    rfl

/-- What is remembered of a pass does not depend on the order of its meshes. -/
theorem verdicts_of_perm (perm : reordered.Perm input.meshes) (apart : MeshesApart input.meshes)
    (key : String) :
    Translation.verdicts compileMesh key (input.withMeshes reordered).translations =
      Translation.verdicts compileMesh key input.translations := by
  have alike : Translation.verdict compileMesh ∘ Translation.mk (input.withMeshes reordered) =
      Translation.verdict compileMesh ∘ Translation.mk input :=
    funext (Translation.verdict_withMeshes input reordered)
  have same : reordered.filter (fun mesh => mesh.key = key) =
      input.meshes.filter fun mesh => mesh.key = key :=
    filter_eq_of_perm perm (by simpa using apart.sole_key key)
  simp only [Translation.verdicts, Input.translations, List.filter_map, List.map_map, alike]
  exact congrArg _ same

variable (ignored : List String) (earlier : List PassRequest) (request : PassRequest)

/-- A pass publishes the same objects in every order of its meshes. -/
theorem outputs_of_perm (perm : reordered.Perm request.input.meshes)
    (apart : MeshesApart request.input.meshes)
    (settled : Translation.Settled (Translation.history (earlier ++ [request]))) :
    ((after { ignored, compile := compileMesh } earlier).serve { ignored, compile := compileMesh }
        (request.withMeshes reordered)).outputs =
      ((after { ignored, compile := compileMesh } earlier).serve { ignored, compile := compileMesh }
        request).outputs := by
  have settledHere : Translation.Settled (Translation.history earlier ++ request.input.translations) := by
    rwa [← Translation.history_append_singleton]
  have remote : ((after { ignored, compile := compileMesh } earlier).serve { ignored, compile := compileMesh }
        (request.withMeshes reordered)).outputs.remote =
      ((after { ignored, compile := compileMesh } earlier).serve { ignored, compile := compileMesh }
        request).outputs.remote := by
    refine OutputSnapshot.ext_get? ?_ fun id => ?_
    · rw [(names_served ignored compileMesh earlier _).1, (names_served ignored compileMesh earlier _).1]
      rfl
    · rw [get?_served_remote, get?_served_remote]
      simp only [PassRequest.withMeshes, published_of_perm perm apart settledHere,
        (destinations_of_perm ignored perm apart).1]
  have home : ((after { ignored, compile := compileMesh } earlier).serve { ignored, compile := compileMesh }
        (request.withMeshes reordered)).outputs.home =
      ((after { ignored, compile := compileMesh } earlier).serve { ignored, compile := compileMesh }
        request).outputs.home := by
    rw [home_served, home_served]
    rfl
  exact congrArg₂ Outputs.mk remote home

/-- A pass leaves the same behind for later passes in every order of its meshes. -/
theorem publisher_of_perm (settings : PassSettings) (isDefault : settings.compile = compileMesh)
    (perm : reordered.Perm request.input.meshes) (apart : MeshesApart request.input.meshes) :
    ((after settings earlier).serve settings
        (request.withMeshes reordered)).publisher =
      ((after settings earlier).serve settings request).publisher := by
  rw [← after_append_singleton, ← after_append_singleton]
  have memory : (after settings (earlier ++
        [(request.withMeshes reordered)])).lastValid =
      (after settings (earlier ++ [request])).lastValid := by
    refine SortedMap.ext_get? fun key => ?_
    rw [remembers_after, remembers_after, isDefault, Translation.map_fresh_lastValid?,
      Translation.map_fresh_lastValid?, Translation.history_append_singleton,
      Translation.history_append_singleton, Translation.verdicts_append, Translation.verdicts_append,
      ← verdicts_of_perm perm apart key]
    rfl
  have count : (after settings (earlier ++ [request.withMeshes reordered])).passes =
      (after settings (earlier ++ [request])).passes := by
    rw [passes_after, passes_after, List.length_append, List.length_append]
    rfl
  exact congrArg₂ Publisher.mk memory count

/-- After any passes, a pass does the same in every order of its meshes: it publishes the same objects, says
the same of each mesh, makes the same reports, and leaves the same behind for later passes. No two meshes
of the pass may have one key or be Istio meshes on one cluster, and a mesh that comes back under its key
must be on the cluster where it was. -/
theorem served_of_perm (perm : reordered.Perm request.input.meshes)
    (apart : MeshesApart request.input.meshes)
    (settled : Translation.Settled (Translation.history (earlier ++ [request]))) :
    let settings : PassSettings := { ignored, compile := compileMesh }
    let first := (after settings earlier).serve settings request
    let second := (after settings earlier).serve settings
      (request.withMeshes reordered)
    second.outputs = first.outputs ∧
      (second.summary.pass = first.summary.pass ∧ second.summary.valid.Perm first.summary.valid ∧
        second.summary.invalid.Perm first.summary.invalid ∧
        second.summary.rolledBack.Perm first.summary.rolledBack) ∧
      second.reporter.reports.Perm first.reporter.reports ∧ second.publisher = first.publisher := by
  intro settings first second
  have summaries := summary_of_perm (Translation.history earlier) earlier.length perm apart.keys
  have firstSummary : first.summary = _ := summary_served ignored compileMesh earlier request
  have secondSummary : second.summary = _ :=
    summary_served ignored compileMesh earlier (request.withMeshes reordered)
  refine ⟨outputs_of_perm ignored earlier request perm apart settled, ?_, ?_,
    publisher_of_perm earlier request settings rfl perm apart⟩
  · rw [firstSummary, secondSummary]
    exact summaries
  · have firstReports : first.reporter = _ := reporter_served ignored compileMesh earlier request
    have secondReports : second.reporter = _ :=
      reporter_served ignored compileMesh earlier (request.withMeshes reordered)
    rw [firstReports, secondReports]
    simp only [PassRequest.withMeshes, (destinations_of_perm ignored perm apart).2]
    exact Reporter.reports_of_perm request.reporter ((meshReports_of_perm perm).append_left _)

section Shuffled

/-- A mesh on the cluster of its name, with enforced access and one gateway. -/
private def portMesh (name : String) : Mesh where
  metadata := { name, ns := "orbit" }
  provider := .istio { installation := { ns := "istio-system", cluster := name } }
  status :=
    { virtualMesh := some { ref := ⟨"vm", "orbit"⟩, spec := { globalAccess := .enabled } }
      ingressGateways := [⟨"gateway-" ++ name, "istio-system"⟩] }

/-- A mesh of another provider on the same cluster as the first mesh of Istio. -/
private def otherMesh : Mesh where
  metadata := { name := "lattice", ns := "orbit" }
  provider := .linkerd { ns := "linkerd", cluster := "east" }

/-- A service without a named mesh, whose policy needs the trust domain of a mesh. -/
private def quay : Destination where
  metadata := { name := "quay", ns := "shop" }
  spec := { service := { ref := ⟨"quay", "shop", "west"⟩, selector := .ofList [("app", "quay")] } }
  status :=
    { accessPolicies := [{
        ref := ⟨"ships", "shop"⟩
        spec := { sources := [{ serviceAccounts := [⟨"ship", "sea", "east"⟩] }] } }] }

/-- The workload behind the service, which runs a proxy. -/
private def quayPods : Workload where
  metadata := { name := "quay", ns := "shop", cluster := "west", labels := .ofList [("app", "quay")] }
  podTemplate := { containers := ["quay", "istio-proxy"] }

/-- A pass over some meshes, where only some gateways exist. -/
private def portPass (meshes : List Mesh) (gateways : List String) : PassRequest where
  input :=
    { meshes
      workloads := [quayPods]
      destinations := quay :: gateways.map fun name =>
        { metadata := { name := "gateway-" ++ name, ns := "istio-system" }
          spec := { service := { ref := ⟨"gateway-" ++ name, "istio-system", name⟩ } } } }
  outputs := .named "remote" "local"
  reporter := .fresh

/-- Two meshes are restored from the first pass in either order, and a third one publishes anew. -/
theorem served_of_perm_restored :
    let meshes := [portMesh "east", otherMesh, portMesh "north", portMesh "west"]
    let earlier := [portPass meshes ["east", "north", "west"]]
    let request := portPass meshes ["west"]
    let reordered := meshes.reverse
    let first := (after {} earlier).serve {} request
    let second := (after {} earlier).serve {} (request.withMeshes reordered)
    reordered.Perm request.input.meshes ∧ MeshesApart request.input.meshes ∧
      Translation.Settled (Translation.history (earlier ++ [request])) ∧
      second.outputs = first.outputs ∧
      second.summary.rolledBack.Perm ["east.orbit", "north.orbit"] ∧
      second.reporter.reports.length = 2 := by
  intro meshes earlier request reordered first second
  have perm : reordered.Perm request.input.meshes := meshes.reverse_perm
  have apart : MeshesApart request.input.meshes := ⟨by decide, by decide⟩
  have settled : Translation.Settled (Translation.history (earlier ++ [request])) := by decide
  have restored : first.summary.rolledBack = ["east.orbit", "north.orbit"] := by decide +kernel
  have reported : first.reporter.reports.length = 2 := by decide +kernel
  obtain ⟨outputs, ⟨_, _, _, rolledBack⟩, reports, _⟩ :=
    served_of_perm Injection.builtinIgnored earlier request perm apart settled
  refine ⟨perm, apart, settled, outputs, ?_, ?_⟩
  · rw [← restored]
    exact rolledBack
  · exact reports.length_eq.trans reported

end Shuffled

end Publisher

end MeshControl
