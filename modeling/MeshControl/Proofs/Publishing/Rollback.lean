import Mathlib.Data.List.Induction
import MeshControl.Proofs.Injection.Attribution
import MeshControl.Proofs.Publishing.History

/-!
# Passes restore the last valid outputs

`Publisher.Remembers` is the invariant of the publisher's memory: under each key it holds the outputs of
the last valid translation of the history with that key. `Publisher.Midway` extends it to the middle of a
pass, and `Midway.publishMesh` shows that one mesh preserves it, whether its translation is valid, is
replaced by an earlier one, or is dropped. Whole passes and sequences of passes follow by induction.
-/

namespace MeshControl

open Access (MeshCompiler)
open Injection (Detector)

namespace Outputs

/-- Merging outputs without objects changes nothing. -/
@[simp] theorem merge_named (outputs : Outputs) (remote home : String) :
    outputs.merge (.named remote home) = outputs := rfl

end Outputs

namespace Translation

/-- A translation is valid if it reports nothing under a virtual mesh against a mesh with its own key. -/
theorem isValid_iff {compile : MeshCompiler} {translation : Translation} :
    translation.isValid compile = true ↔
      ∀ mesh virtualMesh finding, .onMesh mesh virtualMesh finding ∈
        (compile translation.input translation.mesh).reports → mesh.key ≠ translation.mesh.key := by
  rw [isValid, Bool.not_eq_true', List.any_eq_false]
  constructor
  · intro quiet mesh virtualMesh finding member
    simpa [Report.concernsMesh] using quiet _ member
  · intro quiet report member
    cases report with
    | onMesh mesh virtualMesh finding => simpa [Report.concernsMesh] using quiet mesh virtualMesh finding member
    | onDestination => simp [Report.concernsMesh]

theorem lastValid?_append_singleton (compile : MeshCompiler) (history : List Translation)
    (translation : Translation) (key : String) :
    lastValid? compile (history ++ [translation]) key =
      if translation.mesh.key = key && translation.isValid compile then some translation
      else lastValid? compile history key := by
  rw [lastValid?, List.reverse_append, List.reverse_singleton, List.singleton_append, List.find?_cons]
  cases translation.mesh.key = key && translation.isValid compile <;> rfl

/-- The last valid translation of a mesh with a key stands in the history, has the key, and is valid. -/
theorem of_lastValid?_eq_some {compile : MeshCompiler} {history : List Translation} {key : String}
    {found : Translation} (last : lastValid? compile history key = some found) :
    found ∈ history ∧ found.mesh.key = key ∧ found.isValid compile = true := by
  have holds := List.find?_some last
  have member := List.mem_of_find?_eq_some last
  rw [Bool.and_eq_true, decide_eq_true_eq] at holds
  exact ⟨List.mem_reverse.1 member, holds⟩

/-- Something can be restored for a key if the history has a valid translation with it. -/
theorem isSome_lastValid?_iff {compile : Access.MeshCompiler} {history : List Translation} {key : String} :
    (lastValid? compile history key).isSome = true ↔
      ∃ translation ∈ history, translation.mesh.key = key ∧ translation.isValid compile = true := by
  simp [lastValid?]

/-- Earlier translations with other keys do not matter. -/
theorem source?_append_of_ne {compile : MeshCompiler} {history between : List Translation}
    {translation : Translation}
    (others : ∀ other ∈ between, other.mesh.key ≠ translation.mesh.key) :
    translation.source? compile (history ++ between) = translation.source? compile history := by
  have missing : between.reverse.find? (fun other =>
      other.mesh.key = translation.mesh.key && other.isValid compile) = none := by
    rw [List.find?_eq_none]
    intro other member
    simp [others other (List.mem_reverse.1 member)]
  simp only [source?, lastValid?, List.reverse_append, List.find?_append, missing, Option.none_or]

end Translation

namespace Publication

variable {compile : MeshCompiler}

/-- The objects that are published for a mesh are the latest ones that the published translation made. -/
theorem get?_outputs_remote (publication : Publication) (id : ObjectId) :
    (publication.outputs compile).remote.get? id =
      publication.source?.bind fun source =>
        OutputObject.latest? id (compile source.input source.mesh).remote := by
  cases found : publication.source? with
  | none => simp [outputs, found, Outputs.named]
  | some source => simp [outputs, found, Translation.fresh, Outputs.ofMesh]

theorem get?_outputs_home (publication : Publication) (id : ObjectId) :
    (publication.outputs compile).home.get? id =
      publication.source?.bind fun source =>
        OutputObject.latest? id (compile source.input source.mesh).home := by
  cases found : publication.source? with
  | none => simp [outputs, found, Outputs.named]
  | some source => simp [outputs, found, Translation.fresh, Outputs.ofMesh]

/-- An object that is published for a mesh was made by the published translation. -/
theorem of_get?_outputs_remote {publication : Publication} {id : ObjectId} {object : OutputObject}
    (held : (publication.outputs compile).remote.get? id = some object) :
    ∃ source, publication.source? = some source ∧
      object ∈ (compile source.input source.mesh).remote ∧ object.id = id := by
  rw [get?_outputs_remote] at held
  obtain ⟨source, found, latest⟩ := Option.bind_eq_some_iff.1 held
  exact ⟨source, found, OutputObject.of_latest?_eq_some latest⟩

end Publication

namespace Publisher

variable {compile : MeshCompiler} {history done : List Translation} {lastValid : TextMap Outputs}
  {initial state : PassState} {input : Input} {mesh : Mesh}

/-- The memory holds under each key the outputs of the last valid translation with that key. -/
def Remembers (compile : MeshCompiler) (history : List Translation) (lastValid : TextMap Outputs) : Prop :=
  ∀ key, lastValid.get? key = (Translation.lastValid? compile history key).map (·.fresh compile)

namespace Remembers

theorem empty : Remembers compile [] ∅ := fun _ => rfl

/-- A valid translation replaces what the memory holds under its key. -/
theorem valid {translation : Translation} (remembers : Remembers compile history lastValid)
    (isValid : translation.isValid compile = true) :
    Remembers compile (history ++ [translation])
      (lastValid.insert translation.mesh.key (translation.fresh compile)) := by
  intro key
  rw [SortedMap.get?_insert_of_lawful, Translation.lastValid?_append_singleton, remembers key]
  by_cases same : translation.mesh.key = key
  · simp [same, isValid]
  · simp [same, Ne.symm same]

/-- An invalid translation leaves the memory as it is. -/
theorem invalid {translation : Translation} (remembers : Remembers compile history lastValid)
    (isInvalid : translation.isValid compile = false) :
    Remembers compile (history ++ [translation]) lastValid := by
  intro key
  rw [Translation.lastValid?_append_singleton, remembers key]
  simp [isInvalid]

end Remembers

/-- What a watched mesh of a pass with a valid translation changes. -/
theorem publishMesh_of_valid (valid : Translation.isValid compile ⟨input, mesh⟩ = true) :
    publishMesh compile input state mesh =
      { lastValid := state.lastValid.insert mesh.key (Translation.fresh compile ⟨input, mesh⟩)
        outputs := state.outputs.merge (Translation.fresh compile ⟨input, mesh⟩)
        reporter := state.reporter.reportAll (compile input mesh).reports
        summary := { state.summary with valid := state.summary.valid ++ [mesh.key] } } := by
  rw [Translation.isValid, Bool.not_eq_true'] at valid
  simp only [publishMesh, ReportWatch.reportAll_eq, ReportWatch.new, valid]
  rfl

/-- What a watched mesh of a pass with an invalid translation changes. -/
theorem publishMesh_of_invalid (invalid : Translation.isValid compile ⟨input, mesh⟩ = false) :
    publishMesh compile input state mesh =
      { lastValid := state.lastValid
        outputs := state.outputs.merge ((state.lastValid.get? mesh.key).getD (.named "" ""))
        reporter := state.reporter.reportAll (compile input mesh).reports
        summary :=
          { state.summary with
            invalid := state.summary.invalid ++ [mesh.key]
            rolledBack := state.summary.rolledBack ++
              if (state.lastValid.get? mesh.key).isSome then [mesh.key] else [] } } := by
  rw [Translation.isValid, Bool.not_eq_false'] at invalid
  simp only [publishMesh, ReportWatch.reportAll_eq, ReportWatch.new, invalid]
  cases state.lastValid.get? mesh.key <;> simp

/-- The state of a pass that began in `initial` after a history and has done some translations. -/
structure Midway (compile : MeshCompiler) (history : List Translation) (initial : PassState)
    (done : List Translation) (state : PassState) : Prop where
  remembers : Remembers compile (history ++ done) state.lastValid
  outputs : state.outputs = (Publication.after compile history done).foldl
    (fun outputs publication => outputs.merge (publication.outputs compile)) initial.outputs
  reporter : state.reporter = initial.reporter.reportAll
    (done.flatMap fun translation => (compile translation.input translation.mesh).reports)
  summary : state.summary =
    Publication.summary compile initial.summary.pass (Publication.after compile history done)

namespace Midway

/-- Before the first mesh a pass has published nothing for meshes. -/
theorem start (remembers : Remembers compile history initial.lastValid)
    (fresh : initial.summary = { pass := initial.summary.pass }) :
    Midway compile history initial [] initial where
  remembers := by rwa [List.append_nil]
  outputs := rfl
  reporter := rfl
  summary := fresh

/-- One mesh publishes its fresh outputs or what the history says is to be restored. -/
theorem publishMesh (midway : Midway compile history initial done state) (input : Input) (mesh : Mesh) :
    Midway compile history initial (done ++ [⟨input, mesh⟩])
      (publishMesh compile input state mesh) := by
  have remembers := midway.remembers
  have present := remembers mesh.key
  have publications : Publication.after compile history (done ++ [⟨input, mesh⟩]) =
      Publication.after compile history done ++
        [⟨⟨input, mesh⟩, Translation.source? compile (history ++ done) ⟨input, mesh⟩⟩] := by
    rw [Publication.after_append]
    rfl
  cases validity : Translation.isValid compile ⟨input, mesh⟩ with
  | true =>
      have source : Translation.source? compile (history ++ done) ⟨input, mesh⟩ =
          some ⟨input, mesh⟩ := by simp [Translation.source?, validity]
      rw [publishMesh_of_valid validity]
      refine ⟨?_, ?_, ?_, ?_⟩
      · simpa using remembers.valid validity
      · simp [publications, source, midway.outputs, Publication.outputs]
      · simp [midway.reporter, Reporter.reportAll_append]
      · simp [publications, source, midway.summary, Publication.summary, validity]
  | false =>
      have source : Translation.source? compile (history ++ done) ⟨input, mesh⟩ =
          Translation.lastValid? compile (history ++ done) mesh.key := by
        simp [Translation.source?, validity]
      rw [publishMesh_of_invalid validity]
      refine ⟨?_, ?_, ?_, ?_⟩
      · simpa using remembers.invalid validity
      · simp [publications, source, midway.outputs, Publication.outputs, present]
      · simp [midway.reporter, Reporter.reportAll_append]
      · cases restored : Translation.lastValid? compile (history ++ done) mesh.key <;>
          simp [publications, source, midway.summary, Publication.summary, validity, present, restored]

/-- All meshes of an input publish what the history says, each after those before it. -/
theorem foldl (midway : Midway compile history initial done state) (input : Input) (meshes : List Mesh) :
    Midway compile history initial (done ++ meshes.map (Translation.mk input))
      (meshes.foldl (Publisher.publishMesh compile input) state) := by
  induction meshes generalizing done state with
  | nil => simpa using midway
  | cons mesh rest inductionHypothesis =>
      simpa using inductionHypothesis (midway.publishMesh input mesh)

end Midway

theorem foldl_publishDestination (membership : Injection.Membership) (destinations : List Destination)
    (state : OutputSnapshot × Reporter) :
    destinations.foldl (publishDestination input membership) state =
      (state.1.addAll (destinations.flatMap fun destination =>
        (Access.compileDestination input membership destination).policies.map .authorizationPolicy),
      state.2.reportAll (destinations.flatMap fun destination =>
        (Access.compileDestination input membership destination).reports)) := by
  induction destinations generalizing state with
  | nil => rfl
  | cons destination rest inductionHypothesis =>
      simp [inductionHypothesis, publishDestination, OutputSnapshot.addAll_append,
        Reporter.reportAll_append]

section Serving

variable {settings : PassSettings} {publisher : Publisher} {request : PassRequest}

/-- A requested pass when all its destinations are done and none of its meshes. -/
def begun (settings : PassSettings) (publisher : Publisher) (request : PassRequest) : PassState where
  lastValid := publisher.lastValid
  outputs := { request.outputs with
    remote := request.outputs.remote.addAll (destinationObjects settings.ignored request.input) }
  reporter := request.reporter.reportAll (destinationReports settings.ignored request.input)
  summary := { pass := publisher.passes }

/-- A requested pass when all its meshes are done and the patch is still to come. -/
def unpatched (settings : PassSettings) (publisher : Publisher) (request : PassRequest) : PassState :=
  request.input.meshes.foldl (publishMesh settings.compile request.input) (begun settings publisher request)

/-- A pass ends with the patch of what its destinations and meshes have published. -/
theorem serve_eq (settings : PassSettings) (publisher : Publisher) (request : PassRequest) :
    let state := unpatched settings publisher request
    let patched := settings.patch request.input state.outputs.remote
    publisher.serve settings request =
      { publisher := { lastValid := state.lastValid, passes := publisher.passes + 1 }
        outputs := { state.outputs with remote := patched.outputs }
        reporter := state.reporter
        summary := state.summary
        patchFailure := patched.failure } := by
  simp only [serve, pass, foldl_publishDestination]
  rfl

/-- The meshes of a pass publish what the history says, if the publisher remembers the history. -/
theorem midway_unpatched (remembers : Remembers settings.compile history publisher.lastValid) :
    Midway settings.compile history (begun settings publisher request) request.input.translations
      (unpatched settings publisher request) := by
  have begins : Midway settings.compile history (begun settings publisher request) []
      (begun settings publisher request) := Midway.start remembers rfl
  simpa [Input.translations, unpatched] using begins.foldl request.input request.input.meshes

/-- A publisher that remembers a history remembers it together with the pass that follows. -/
theorem remembers_serve (remembers : Remembers settings.compile history publisher.lastValid) :
    Remembers settings.compile (history ++ request.input.translations)
      (publisher.serve settings request).publisher.lastValid := by
  rw [serve_eq]
  exact (midway_unpatched remembers).remembers

end Serving

theorem after_append_singleton (settings : PassSettings) (earlier : List PassRequest)
    (request : PassRequest) :
    after settings (earlier ++ [request]) = ((after settings earlier).serve settings request).publisher := by
  simp [after]

/-- A new publisher remembers all that it has translated since. -/
theorem remembers_after (settings : PassSettings) (earlier : List PassRequest) :
    Remembers settings.compile (Translation.history earlier) (after settings earlier).lastValid := by
  induction earlier using List.reverseRecOn with
  | nil => exact Remembers.empty
  | append_singleton earlier request inductionHypothesis =>
      rw [after_append_singleton]
      simpa [Translation.history] using remembers_serve inductionHypothesis

/-- A new publisher counts its passes. -/
theorem passes_after (settings : PassSettings) (earlier : List PassRequest) :
    (after settings earlier).passes = earlier.length := by
  induction earlier using List.reverseRecOn with
  | nil => rfl
  | append_singleton earlier request inductionHypothesis =>
      rw [after_append_singleton, serve_eq, inductionHypothesis, List.length_append]
      rfl

/-- The pass after some others does what the history of these says, up to its patch. -/
theorem midway_after (settings : PassSettings) (earlier : List PassRequest) (request : PassRequest) :
    Midway settings.compile (Translation.history earlier)
      (begun settings (after settings earlier) request) request.input.translations
      (unpatched settings (after settings earlier) request) :=
  midway_unpatched (remembers_after settings earlier)

section WithoutPatch

variable (ignored : List String) (compile : MeshCompiler) (earlier : List PassRequest)
  (request : PassRequest)

/-- The outputs of a pass without a patch: what it began with, then the policies for destinations, then
for each mesh what the history says is to be published. -/
theorem outputs_served :
    ((after { ignored, compile } earlier).serve { ignored, compile } request).outputs =
      (Publication.after compile (Translation.history earlier) request.input.translations).foldl
        (fun outputs publication => outputs.merge (publication.outputs compile))
        { request.outputs with
          remote := request.outputs.remote.addAll (destinationObjects ignored request.input) } := by
  rw [serve_eq]
  exact (midway_after { ignored, compile } earlier request).outputs

/-- Merging publications one after the other merges both kinds of objects apart. -/
theorem foldl_merge (publications : List Publication) (outputs : Outputs) :
    publications.foldl (fun outputs publication => outputs.merge (publication.outputs compile)) outputs =
      ⟨publications.foldl (fun remote publication => remote.merge (publication.outputs compile).remote)
          outputs.remote,
        publications.foldl (fun home publication => home.merge (publication.outputs compile).home)
          outputs.home⟩ := by
  induction publications generalizing outputs with
  | nil => rfl
  | cons publication rest inductionHypothesis =>
      rw [List.foldl_cons, inductionHypothesis]
      rfl

/-- The outputs of a pass keep the names with which it began. -/
theorem names_served :
    let outputs := ((after { ignored, compile } earlier).serve { ignored, compile } request).outputs
    outputs.remote.name = request.outputs.remote.name ∧ outputs.home.name = request.outputs.home.name := by
  intro outputs
  have merged : outputs = _ := outputs_served ignored compile earlier request
  rw [merged, foldl_merge]
  exact ⟨by rw [OutputSnapshot.name_foldl_merge, OutputSnapshot.addAll_name],
    by rw [OutputSnapshot.name_foldl_merge]⟩

/-- At an identity the last publication with an object counts, then the last policy for a destination,
and then what the pass began with. -/
theorem get?_served_remote (id : ObjectId) :
    ((after { ignored, compile } earlier).serve { ignored, compile } request).outputs.remote.get? id =
      ((Publication.after compile (Translation.history earlier)
        request.input.translations).reverse.findSome? fun publication =>
          (publication.outputs compile).remote.get? id).or
        ((OutputObject.latest? id (destinationObjects ignored request.input)).or
          (request.outputs.remote.get? id)) := by
  rw [outputs_served, foldl_merge, OutputSnapshot.get?_foldl_merge, OutputSnapshot.get?_addAll]

/-- For the management plane the last publication with an object counts, and then what the pass began
with. -/
theorem get?_served_home (id : ObjectId) :
    ((after { ignored, compile } earlier).serve { ignored, compile } request).outputs.home.get? id =
      ((Publication.after compile (Translation.history earlier)
        request.input.translations).reverse.findSome? fun publication =>
          (publication.outputs compile).home.get? id).or (request.outputs.home.get? id) := by
  rw [outputs_served, foldl_merge, OutputSnapshot.get?_foldl_merge]

/-- The summary of a pass lists the meshes by the validity of their translations, and those that restore
an earlier one. -/
theorem summary_served :
    ((after { ignored, compile } earlier).serve { ignored, compile } request).summary =
      Publication.summary compile earlier.length
        (Publication.after compile (Translation.history earlier) request.input.translations) := by
  rw [serve_eq]
  have passes := passes_after { ignored, compile } earlier
  have midway := (midway_after { ignored, compile } earlier request).summary
  rwa [begun, passes] at midway

/-- A pass hands all reports to its reporter, those on destinations before those on meshes. -/
theorem reporter_served :
    ((after { ignored, compile } earlier).serve { ignored, compile } request).reporter =
      request.reporter.reportAll
        (destinationReports ignored request.input ++ meshReports compile request.input) := by
  rw [serve_eq, Reporter.reportAll_append]
  have midway := (midway_after { ignored, compile } earlier request).reporter
  simpa [begun, Input.translations, List.flatMap_map, meshReports] using midway

/-- Every pass of a new publisher publishes first the policies for destinations, and then for each mesh in order what
the mesh's own translation has made if it is valid, else what the last valid translation of a mesh with its key has
made, and otherwise nothing. A translation is valid if it reports nothing against a mesh with its key. What is
published for a mesh are all objects of both kinds that one translation has made. The summary and the reports say
so. -/
theorem pass_refines_history :
    let settings : PassSettings := { ignored, compile }
    let input := request.input
    let attributed := (Detector.new ignored input.namespaces (.ofList input.configMaps)).membershipOver input
    let compiled := Access.compileDestination input attributed
    let policies := input.destinations.flatMap fun destination =>
      (compiled destination).policies.map OutputObject.authorizationPolicy
    let publications := Publication.after compile (Translation.history earlier) input.translations
    let result := (after settings earlier).serve settings request
    result.outputs =
        publications.foldl (fun outputs publication => outputs.merge (publication.outputs compile))
          { request.outputs with remote := request.outputs.remote.addAll policies } ∧
      (∀ (publication : Publication) (id : ObjectId),
        (publication.outputs compile).remote.get? id = (publication.source?.bind fun source =>
            OutputObject.latest? id (compile source.input source.mesh).remote) ∧
          (publication.outputs compile).home.get? id = publication.source?.bind fun source =>
            OutputObject.latest? id (compile source.input source.mesh).home) ∧
      (∀ translation : Translation, translation.isValid compile = true ↔
        ∀ mesh virtualMesh finding, .onMesh mesh virtualMesh finding ∈
          (compile translation.input translation.mesh).reports → mesh.key ≠ translation.mesh.key) ∧
      (∀ id, result.outputs.remote.get? id =
        (publications.reverse.findSome? fun publication => publication.source?.bind fun source =>
          OutputObject.latest? id (compile source.input source.mesh).remote).or
          ((OutputObject.latest? id policies).or (request.outputs.remote.get? id))) ∧
      (∀ id, result.outputs.home.get? id =
        (publications.reverse.findSome? fun publication => publication.source?.bind fun source =>
          OutputObject.latest? id (compile source.input source.mesh).home).or (request.outputs.home.get? id)) ∧
      result.summary = Publication.summary compile earlier.length publications ∧
      result.reporter = request.reporter.reportAll
        ((input.destinations.flatMap fun destination => (compiled destination).reports) ++
          input.meshes.flatMap fun mesh => (compile input mesh).reports) := by
  intro settings input attributed compiled policies publications result
  have remote := get?_served_remote ignored compile earlier request
  have home := get?_served_home ignored compile earlier request
  simp only [Publication.get?_outputs_remote] at remote
  simp only [Publication.get?_outputs_home] at home
  exact ⟨outputs_served ignored compile earlier request,
    fun publication id => ⟨publication.get?_outputs_remote id, publication.get?_outputs_home id⟩,
    fun _ => Translation.isValid_iff, remote, home, summary_served ignored compile earlier request,
    reporter_served ignored compile earlier request⟩

end WithoutPatch

section Coast

private def coastMesh (name : String) : Mesh where
  metadata := { name, ns := "orbit" }
  provider := .istio { installation := { ns := "istio-system", cluster := "east" } }

private def buoy (name : String) (input : Input) : OutputObject :=
  .secret { metadata := { name, ns := "orbit" }, type := input.name }

/-- Makes one object of each kind for a mesh, typed by the input, and fails for the mesh after which the input is
named. -/
private def coastCompiler : MeshCompiler := fun input mesh =>
  { remote := [buoy (mesh.metadata.name ++ "-remote") input]
    home := [buoy (mesh.metadata.name ++ "-home") input]
    reports := if input.name = mesh.metadata.name then [.onMesh mesh.ref ⟨"vm", "orbit"⟩ (.invalid "storm")] else [] }

/-- A pass over two meshes that begins with an object of its own. -/
private def coastPass (name : String) : PassRequest where
  input := { name, meshes := [coastMesh "north", coastMesh "south"] }
  outputs := ⟨({ name := "remote" } : OutputSnapshot).add (buoy "kept" {}), { name := "local" }⟩
  reporter := .fresh

/-- In the first pass the mesh in the south fails and has nothing to restore. In the second one the mesh in the north
fails, and both of its objects from the first pass are published again beside the new ones for the south. -/
theorem pass_refines_history_coast :
    let settings : PassSettings := { compile := coastCompiler }
    let first := coastPass "south"
    let second := coastPass "north"
    let opened := ({} : Publisher).serve settings first
    let result := (after settings [first]).serve settings second
    opened.outputs.remote.objects = [buoy "kept" {}, buoy "north-remote" first.input] ∧
      opened.outputs.home.objects = [buoy "north-home" first.input] ∧
      opened.summary = { pass := 0, valid := ["north.orbit"], invalid := ["south.orbit"] } ∧
      result.outputs.remote.objects =
        [buoy "kept" {}, buoy "north-remote" first.input, buoy "south-remote" second.input] ∧
      result.outputs.home.objects = [buoy "north-home" first.input, buoy "south-home" second.input] ∧
      result.summary =
        { pass := 1, valid := ["south.orbit"], invalid := ["north.orbit"], rolledBack := ["north.orbit"] } := by
  intro settings first second opened result
  obtain ⟨openedOutputs, _, _, _, _, openedSummary, _⟩ :=
    pass_refines_history Injection.builtinIgnored coastCompiler [] first
  obtain ⟨outputs, _, _, _, _, summary, _⟩ :=
    pass_refines_history Injection.builtinIgnored coastCompiler [first] second
  refine ⟨(congrArg (·.remote.objects) openedOutputs).trans ?_, (congrArg (·.home.objects) openedOutputs).trans ?_,
    openedSummary.trans ?_, (congrArg (·.remote.objects) outputs).trans ?_,
    (congrArg (·.home.objects) outputs).trans ?_, summary.trans ?_⟩
  all_goals decide +kernel

end Coast

end Publisher

end MeshControl
