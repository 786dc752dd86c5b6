import MeshControl.Proofs.Access.Findings
import MeshControl.Proofs.CommandLine.Arguments
import MeshControl.Proofs.CommandLine.Printing
import MeshControl.Proofs.Publishing.Rollback

/-!
# Passes over files keep apart

All passes of a run share one publisher and one reporter. `runPasses_append_singleton` adds one pass at the
end of a run. Its reports and verdicts depend on its own input only, what it restores depends on the earlier
verdicts (`summary_recordAfter`), and a pass without an invalid mesh publishes what it would publish alone.
-/

namespace MeshControl

open Access (compileMesh)

namespace CommandLine

open Publisher

/-- What a run asks of its publisher for one input: a pass that begins with nothing. -/
def passOver (input : Input) : PassRequest := ⟨input, .named "remote" "local", .fresh⟩

/-- The pass over an input after passes over some others. -/
def resultAfter (settings : PassSettings) (earlier : List Input) (input : Input) : PassResult :=
  (after settings (earlier.map passOver)).serve settings (passOver input)

/-- What a run notes of the pass over an input after passes over some others. -/
def recordAfter (settings : PassSettings) (earlier : List Input) (input : Input) : PassRecord :=
  let result := resultAfter settings earlier input
  ⟨input.name, result.summary, result.reporter.reports⟩

section Records

variable (ignored : List String) {earlier : List Input} {input : Input}

theorem reporter_resultAfter (earlier : List Input) (input : Input) :
    (resultAfter { ignored } earlier input).reporter =
      .collecting (destinationReports ignored input ++ meshReports compileMesh input) := by
  have reported := reporter_served ignored compileMesh (earlier.map passOver) (passOver input)
  rw [resultAfter, reported, passOver, Reporter.fresh, Reporter.reportAll_collecting, List.nil_append]

/-- A run that goes on with an input notes its pass, takes the reports, and leaves the publisher behind. -/
theorem runPasses_cons (before : List Input) (input : Input) (inputs : List Input) (last : Outputs) :
    let later := runPasses { ignored } (after { ignored } ((before ++ [input]).map passOver)) .fresh inputs
      (resultAfter { ignored } before input).outputs
    runPasses { ignored } (after { ignored } (before.map passOver)) .fresh (input :: inputs) last =
      (recordAfter { ignored } before input :: later.1, later.2) := by
  intro later
  have taken : (resultAfter { ignored } before input).reporter.take =
      ((resultAfter { ignored } before input).reporter.reports, .fresh) := by
    rw [reporter_resultAfter]
    rfl
  have publisher : after { ignored } ((before ++ [input]).map passOver) =
      (resultAfter { ignored } before input).publisher := by
    rw [List.map_append, List.map_singleton, after_append_singleton]
    rfl
  have served : (after { ignored } (before.map passOver)).pass { ignored } input (.named "remote" "local")
      .fresh = resultAfter { ignored } before input := rfl
  simp only [runPasses, served, taken, later, publisher]
  rfl

/-- After passes over some inputs, a run over one more input has one more record and ends with the outputs of
the last pass. -/
theorem runPasses_after_append_singleton (before earlier : List Input) (input : Input) (last : Outputs) :
    runPasses { ignored } (after { ignored } (before.map passOver)) .fresh (earlier ++ [input]) last =
      ((runPasses { ignored } (after { ignored } (before.map passOver)) .fresh earlier last).1 ++
          [recordAfter { ignored } (before ++ earlier) input],
        (resultAfter { ignored } (before ++ earlier) input).outputs) := by
  -- The first input of a run goes over to the inputs before it, so these are general.
  induction earlier generalizing before last with
  | nil =>
    rw [List.nil_append, runPasses_cons, List.append_nil]
    rfl
  | cons first earlier inductionHypothesis =>
    rw [List.cons_append, runPasses_cons, inductionHypothesis, runPasses_cons, List.append_assoc,
      List.singleton_append]
    rfl

theorem runPasses_append_singleton (earlier : List Input) (input : Input) (last : Outputs) :
    runPasses { ignored } {} .fresh (earlier ++ [input]) last =
      ((runPasses { ignored } {} .fresh earlier last).1 ++ [recordAfter { ignored } earlier input],
        (resultAfter { ignored } earlier input).outputs) :=
  runPasses_after_append_singleton ignored [] earlier input last

/-- The records of a run over more inputs go on after those of the run over the earlier ones. -/
theorem records_append (earlier later : List Input) (last : Outputs) :
    ∃ more, (runPasses { ignored } {} .fresh (earlier ++ later) last).1 =
      (runPasses { ignored } {} .fresh earlier last).1 ++ more := by
  induction later using List.reverseRecOn with
  | nil => exact ⟨[], by simp⟩
  | append_singleton later input inductionHypothesis =>
    obtain ⟨more, goesOn⟩ := inductionHypothesis
    refine ⟨more ++ [recordAfter { ignored } (earlier ++ later) input], ?_⟩
    rw [← List.append_assoc, runPasses_append_singleton, goesOn, List.append_assoc]

/-- The record of a pass stands behind those of the passes before it. -/
theorem records_at (earlier later : List Input) (input : Input) (last : Outputs) :
    let records := (runPasses { ignored } {} .fresh (earlier ++ input :: later) last).1
    records.take earlier.length = (runPasses { ignored } {} .fresh earlier last).1 ∧
      records[earlier.length]? = some (recordAfter { ignored } earlier input) := by
  intro records
  obtain ⟨more, goesOn⟩ := records_append ignored (earlier ++ [input]) later last
  rw [runPasses_append_singleton, ← List.append_cons] at goesOn
  have split : records = (runPasses { ignored } {} .fresh earlier last).1 ++
      (recordAfter { ignored } earlier input :: more) :=
    goesOn.trans (List.append_cons _ _ _).symm
  have count := length_runPasses { ignored } {} .fresh earlier last
  rw [split, ← count]
  simp

/-- What a pass is summed up to, by the places of its meshes. Only what is restored depends on the passes
before it. -/
theorem summary_recordAfter (earlier : List Input) (input : Input) :
    (recordAfter { ignored } earlier input).summary =
      { pass := earlier.length
        valid := (input.meshes.zipIdx.filter fun entry =>
          Translation.isValid compileMesh ⟨input, entry.1⟩).map (·.1.key)
        invalid := (input.meshes.zipIdx.filter fun entry =>
          !Translation.isValid compileMesh ⟨input, entry.1⟩).map (·.1.key)
        rolledBack := ((input.meshes.zipIdx.filter fun entry =>
          !Translation.isValid compileMesh ⟨input, entry.1⟩).filter fun entry =>
            (Translation.source? compileMesh (Translation.history (earlier.map passOver) ++
              (input.meshes.take entry.2).map (Translation.mk input)) ⟨input, entry.1⟩).isSome).map
                (·.1.key) } := by
  have summed := summary_served ignored compileMesh (earlier.map passOver) (passOver input)
  have after := Publication.after_translations_zipIdx compileMesh
    (Translation.history (earlier.map passOver)) input
  rw [recordAfter, resultAfter, summed]
  simp only [passOver] at after ⊢
  rw [after]
  simp only [Publication.summary, List.filter_map, List.map_map, List.length_map]
  rfl

/-- Some of the records lists a key as that of a valid mesh. -/
def WasValid (records : List PassRecord) (key : String) : Prop := ∃ record ∈ records, key ∈ record.summary.valid

instance (records : List PassRecord) (key : String) : Decidable (WasValid records key) :=
  inferInstanceAs (Decidable (∃ record ∈ records, key ∈ record.summary.valid))

/-- A mesh at a place of an input can be restored: one with its key was valid in an earlier pass, or at an
earlier place of the same input. -/
def Restorable (earlier : List PassRecord) (input : Input) (entry : Mesh × Nat) : Prop :=
  WasValid earlier entry.1.key ∨ ∃ other ∈ input.meshes.take entry.2, other.key = entry.1.key ∧
    Translation.isValid compileMesh ⟨input, other⟩ = true

instance (earlier : List PassRecord) (input : Input) (entry : Mesh × Nat) :
    Decidable (Restorable earlier input entry) :=
  inferInstanceAs (Decidable (_ ∨ ∃ other ∈ input.meshes.take entry.2, other.key = entry.1.key ∧
    Translation.isValid compileMesh ⟨input, other⟩ = true))

/-- A pass lists as valid the keys of its valid translations. -/
theorem mem_valid_recordAfter {earlier : List Input} {input : Input} {key : String} :
    key ∈ (recordAfter { ignored } earlier input).summary.valid ↔
      ∃ translation ∈ input.translations, translation.mesh.key = key ∧
        translation.isValid compileMesh = true := by
  have listed : (input.meshes.zipIdx.filter fun entry =>
        Translation.isValid compileMesh ⟨input, entry.1⟩).map (·.1.key) =
      (input.meshes.filter fun mesh => Translation.isValid compileMesh ⟨input, mesh⟩).map Mesh.key := by
    conv_rhs => rw [← List.zipIdx_map_fst 0 input.meshes]
    rw [List.filter_map, List.map_map]
    rfl
  rw [summary_recordAfter, listed]
  simp only [Input.translations, List.mem_map, List.mem_filter]
  constructor
  · rintro ⟨mesh, ⟨member, valid⟩, named⟩
    exact ⟨⟨input, mesh⟩, ⟨mesh, member, rfl⟩, named, valid⟩
  · rintro ⟨_, ⟨mesh, member, rfl⟩, named, valid⟩
    exact ⟨mesh, ⟨member, valid⟩, named⟩

/-- The records say which keys were valid in the history. -/
theorem wasValid_iff {earlier : List Input} {last : Outputs} {key : String} :
    WasValid (runPasses { ignored } {} .fresh earlier last).1 key ↔
      ∃ translation ∈ Translation.history (earlier.map passOver), translation.mesh.key = key ∧
        translation.isValid compileMesh = true := by
  induction earlier using List.reverseRecOn with
  | nil => simp [WasValid, runPasses, Translation.history]
  | append_singleton earlier input inductionHypothesis =>
    unfold WasValid at inductionHypothesis ⊢
    rw [runPasses_append_singleton, List.map_append, List.map_singleton, Translation.history_append_singleton]
    simp only [List.mem_append, or_and_right, exists_or, inductionHypothesis, List.mem_singleton,
      exists_eq_left, mem_valid_recordAfter]
    rfl

/-- A mesh that is invalid at its place in a pass has a source if it can be restored. -/
theorem isSome_source?_iff {earlier : List Input} {input : Input} {last : Outputs} {entry : Mesh × Nat}
    (invalid : Translation.isValid compileMesh ⟨input, entry.1⟩ = false) :
    (Translation.source? compileMesh (Translation.history (earlier.map passOver) ++
        (input.meshes.take entry.2).map (Translation.mk input)) ⟨input, entry.1⟩).isSome = true ↔
      Restorable (runPasses { ignored } {} .fresh earlier last).1 input entry := by
  rw [Translation.source?, invalid, if_neg (by simp), Translation.isSome_lastValid?_iff, Restorable,
    wasValid_iff]
  simp only [List.mem_append, or_and_right, exists_or, List.mem_map]
  refine or_congr_right ?_
  constructor
  · rintro ⟨_, ⟨other, member, rfl⟩, named, valid⟩
    exact ⟨other, member, named, valid⟩
  · rintro ⟨other, member, named, valid⟩
    exact ⟨⟨input, other⟩, ⟨other, member, rfl⟩, named, valid⟩

end Records

/-- A pass among others, whose records come before its own, says the same as the pass alone, up to its number
and to what is restored. It restores those of the invalid meshes, by their places, that can be restored. -/
structure KeptApart (earlier : List PassRecord) (input : Input) (record alone : PassRecord) : Prop where
  number : record.summary.pass = earlier.length
  snapshot : record.snapshot = alone.snapshot
  reports : record.reports = alone.reports
  valid : record.summary.valid = alone.summary.valid
  invalid : record.summary.invalid = alone.summary.invalid
  invalidPlaces : record.summary.invalid =
    (input.meshes.zipIdx.filter fun entry =>
      Translation.isValid compileMesh ⟨input, entry.1⟩ = false).map (·.1.key)
  restoredPlaces : record.summary.rolledBack =
    ((input.meshes.zipIdx.filter fun entry =>
      Translation.isValid compileMesh ⟨input, entry.1⟩ = false).filter fun entry =>
        Restorable earlier input entry).map (·.1.key)

/-- The pass over an input after some others is kept apart from them. -/
theorem keptApart_recordAfter (ignored : List String) (earlier : List Input) (input : Input) (last : Outputs) :
    KeptApart (runPasses { ignored } {} .fresh earlier last).1 input (recordAfter { ignored } earlier input)
      (recordAfter { ignored } [] input) := by
  have summary := summary_recordAfter ignored earlier input
  have aloneSummary := summary_recordAfter ignored [] input
  have reports (before : List Input) : (recordAfter { ignored } before input).reports =
      destinationReports ignored input ++ meshReports compileMesh input :=
    congrArg Reporter.reports (reporter_resultAfter ignored before input)
  have invalidAt : (fun entry : Mesh × Nat => !Translation.isValid compileMesh ⟨input, entry.1⟩) =
      fun entry => decide (Translation.isValid compileMesh ⟨input, entry.1⟩ = false) := by
    funext entry
    simp
  refine ⟨?_, rfl, ?_, ?_, ?_, ?_, ?_⟩
  · rw [summary, length_runPasses]
  · rw [reports, reports]
  · rw [summary, aloneSummary]
  · rw [summary, aloneSummary]
  · rw [summary, invalidAt]
  · rw [summary, invalidAt]
    -- Only at the places of invalid meshes does it matter whether a mesh can be restored.
    refine congrArg (List.map _) (List.filter_congr fun entry member => ?_)
    have invalid := of_decide_eq_true (List.mem_filter.1 member).2
    rw [Bool.eq_iff_iff, isSome_source?_iff ignored invalid, decide_eq_true_iff]

/-- A pass without an invalid mesh ends with the outputs that it would end with alone. -/
theorem outputs_resultAfter (ignored : List String) (earlier : List Input) (input : Input)
    (valid : (recordAfter { ignored } earlier input).summary.invalid = []) :
    (resultAfter { ignored } earlier input).outputs = (resultAfter { ignored } [] input).outputs := by
  have eachValid : ∀ translation ∈ input.translations, translation.isValid compileMesh = true := by
    intro translation member
    obtain ⟨mesh, inside, rfl⟩ := List.mem_map.1 member
    rw [← List.zipIdx_map_fst 0 input.meshes] at inside
    obtain ⟨entry, place, rfl⟩ := List.mem_map.1 inside
    rw [summary_recordAfter] at valid
    simp only [List.map_eq_nil_iff, List.filter_eq_nil_iff] at valid
    simpa using valid entry place
  -- So no translation has to be looked up in the history.
  have published (before : List Input) := Publication.after_of_valid eachValid
    (Translation.history (before.map passOver))
  have outputs (before : List Input) :=
    outputs_served ignored compileMesh (before.map passOver) (passOver input)
  have here : (passOver input).input = input := rfl
  rw [resultAfter, resultAfter, outputs, outputs, here, published, published]

/-- The records of the passes over some inputs, and the outputs of the last pass, without a patch. -/
def passesOver (world : World) (inputs : List Input) : List PassRecord × Outputs :=
  runPasses { ignored := Injection.ignoredNamespaces (world.environment ignoredVariable) } {} .fresh inputs
    (.named "remote" "local")

/-- A run that is asked for passes over files that all load makes the passes over what they hold, and
prints them. -/
theorem run_eq_printPasses {world : World} {format : Format} {arguments paths : List String}
    {inputs : List Input} (asks : AsksForPasses world format arguments paths)
    (loads : paths.mapM (loadOverlaid? world none) = some inputs) :
    run world arguments = printPasses format (passesOver world inputs).1 (passesOver world inputs).2 := by
  have noPatch : (fun input outputs => Patcher.apply world.files input outputs .noop) =
      fun (_ : Input) (outputs : OutputSnapshot) => ({ outputs } : Patched) := by
    funext input outputs
    rw [Patcher.apply]
  rw [run_translate asks loads]
  simp only [patchedPasses, Option.elim_none, noPatch]
  rfl

/-- Passes over any inputs can be printed as an object. -/
theorem prints_passesOver (world : World) (inputs : List Input) :
    (printPasses .json (passesOver world inputs).1 (passesOver world inputs).2).Prints (passesOver world inputs).1
      (passesOver world inputs).2 :=
  prints_of_references _ (isReference_of_mem_runPasses _ (fun _ outputs => { outputs }) {} inputs _)

/-- Passes over any inputs end well in every format. -/
theorem code_printPasses (world : World) (format : Format) (inputs : List Input) :
    (printPasses format (passesOver world inputs).1 (passesOver world inputs).2).code = 0 := by
  cases format with
  | human => rfl
  | json =>
    obtain ⟨_, _, prints⟩ := prints_passesOver world inputs
    rw [prints]

/-- Files that load one after the other load at each place. -/
theorem loads_at {world : World} {earlier later : List String} {path : String} {inputs : List Input}
    (loads : (earlier ++ path :: later).mapM (loadOverlaid? world none) = some inputs) :
    ∃ before input rest, inputs = before ++ input :: rest ∧ before.length = earlier.length ∧
      rest.length = later.length ∧ loadOverlaid? world none path = some input := by
  rw [List.mapM_append, List.mapM_cons] at loads
  simp only [Option.bind_eq_bind, Option.bind_eq_some_iff, Option.pure_def, Option.some.injEq] at loads
  obtain ⟨before, loadsBefore, _, ⟨input, loadsInput, rest, loadsRest, rfl⟩, rfl⟩ := loads
  exact ⟨before, input, rest, rfl, length_of_mapM loadsBefore, length_of_mapM loadsRest, loadsInput⟩

/-- A run that is asked for passes over files that all load prints them; as an object it holds the summary and the
reports of each pass and the objects of the last one. Each pass has the number of its place and is kept apart from
those before it: its reports and the meshes that it lists as valid and invalid are those of a run over its file
alone, and it restores exactly what was valid before. If the last pass has no invalid mesh, the outputs are those
of a run over the last file alone. -/
theorem run_keeps_passes_apart {world : World} {format : Format} {arguments paths : List String}
    {inputs : List Input} (asks : AsksForPasses world format arguments paths)
    (loads : paths.mapM (loadOverlaid? world none) = some inputs) :
    let together := passesOver world inputs
    run world arguments = printPasses format together.1 together.2 ∧ (run world arguments).code = 0 ∧
      (format = .json → (run world arguments).Prints together.1 together.2) ∧
      together.1.length = paths.length ∧
      ∀ earlier path later, paths = earlier ++ path :: later →
        ∃ input record alone outputs, loadOverlaid? world none path = some input ∧
          together.1[earlier.length]? = some record ∧ passesOver world [input] = ([alone], outputs) ∧
          (∀ aloneArguments, AsksForPasses world format aloneArguments [path] →
            run world aloneArguments = printPasses format [alone] outputs ∧
              (format = .json → (run world aloneArguments).Prints [alone] outputs)) ∧
          KeptApart (together.1.take earlier.length) input record alone ∧
          (later = [] → record.summary.invalid = [] → together.2 = outputs) := by
  intro together
  have printed := run_eq_printPasses asks loads
  refine ⟨printed, ?_, ?_, ?_, ?_⟩
  · rw [printed]
    exact code_printPasses world format inputs
  · rintro rfl
    rw [printed]
    exact prints_passesOver world inputs
  · rw [← length_of_mapM loads]
    exact length_runPasses _ _ _ inputs _
  · rintro earlier path later rfl
    obtain ⟨before, input, rest, rfl, beforeLength, restLength, loaded⟩ := loads_at loads
    let ignored := Injection.ignoredNamespaces (world.environment ignoredVariable)
    obtain ⟨front, here⟩ := records_at ignored before rest input (.named "remote" "local")
    have single : passesOver world [input] =
        ([recordAfter { ignored } [] input], (resultAfter { ignored } [] input).outputs) :=
      runPasses_append_singleton ignored [] input (.named "remote" "local")
    refine ⟨input, recordAfter { ignored } before input, recordAfter { ignored } [] input,
      (resultAfter { ignored } [] input).outputs, loaded, ?_, single, ?_, ?_, ?_⟩
    · rw [← beforeLength]
      exact here
    · intro aloneArguments asksAlone
      have loadsAlone : [path].mapM (loadOverlaid? world none) = some [input] := by simp [loaded]
      have prints := prints_passesOver world [input]
      rw [single] at prints
      rw [run_eq_printPasses asksAlone loadsAlone, single]
      refine ⟨rfl, ?_⟩
      rintro rfl
      exact prints
    · have apart := keptApart_recordAfter ignored before input (.named "remote" "local")
      rw [← beforeLength]
      exact front ▸ apart
    · rintro rfl noInvalid
      rw [List.length_nil, List.length_eq_zero_iff] at restLength
      subst restLength
      have last := congrArg Prod.snd (runPasses_append_singleton ignored before input (.named "remote" "local"))
      exact last.trans (outputs_resultAfter ignored before input noInvalid)

section Lost

/-- A file with a mesh under enforced access. -/
private def meshText : String :=
  "meshes:\n- metadata:\n   name: istiod\n  provider:\n   istio:\n    installation:\n" ++
  "     namespace: orbit\n     cluster: east\n  status:\n   appliedVirtualMesh:\n    ref:\n" ++
  "     name: vm\n    spec:\n     globalAccessPolicy: ENABLED\n"

/-- What makes the mesh invalid: a gateway that has no destination. -/
private def gatewayText : String :=
  "   appliedEastWestIngressGateways:\n   - destinationRef:\n      name: gateway\n"

/-- What a file with the mesh and some gateways holds. -/
private def inputWith (name : String) (ingressGateways : List ObjectRef) : Input where
  name
  meshes :=
    [{  metadata := { name := "istiod" }
        provider := .istio { installation := { ns := "orbit", cluster := "east" } }
        status :=
          { virtualMesh := some { ref := { name := "vm" }, spec := { globalAccess := .enabled } }
            ingressGateways } }]

private def foundInput : Input := inputWith "found.yaml" []

private def lostInput : Input := inputWith "lost.yaml" [{ name := "gateway" }]

/-- A world with a file for the valid and one for the invalid mesh. -/
private def lostWorld : World where
  files :=
    { read := fun path =>
        if path = "found.yaml" then .ok meshText
        else if path = "lost.yaml" then .ok (meshText ++ gatewayText) else .error path
      complaint := fun _ => "invalid type" }
  environment _ := none
  client := .error ""
  configComplaint _ := "invalid type"

/-- The only object of the valid mesh: the policy that denies everything. -/
private def denial : OutputObject :=
  .authorizationPolicy
    { metadata :=
        { name := "global-access-control"
          ns := "orbit"
          cluster := "east"
          labels := .ofList [("agent.orbit.dev", "orbit"), ("translator.orbit.dev", "access")]
          annotations := .ofList [("parents.orbit.dev", "\x7b\"networking.orbit.dev/v1, Kind=VirtualMesh\":" ++
            "[\x7b\"name\":\"vm\",\"namespace\":\"\"\x7d]\x7d")] }
      spec := {} }

/-- A run over both files prints that the mesh of the second one is restored, which a run over the second one alone
cannot do, and the policy that was made for it in the first pass. -/
theorem run_keeps_passes_apart_restored :
    let paths := ["found.yaml", "lost.yaml"]
    let arguments := translateLine .json paths
    AsksForPasses lostWorld .json arguments paths ∧
      paths.mapM (loadOverlaid? lostWorld none) = some [foundInput, lostInput] ∧
      run lostWorld arguments = ⟨0, .json (.object [
        ("passes", .list [
          .object [("snapshot", .text "found.yaml"),
            ("summary", .object [("pass", .natural 0), ("validMeshes", .list [.text "istiod."]),
              ("invalidMeshes", .list []), ("rolledBackMeshes", .list [])]),
            ("reports", .list [])],
          .object [("snapshot", .text "lost.yaml"),
            ("summary", .object [("pass", .natural 1), ("validMeshes", .list []),
              ("invalidMeshes", .list [.text "istiod."]), ("rolledBackMeshes", .list [.text "istiod."])]),
            ("reports", .list [.object [("target", .text "virtualMeshToMesh"),
              ("mesh", .object [("name", .text "istiod"), ("namespace", .text "")]),
              ("virtual_mesh", .object [("name", .text "vm"), ("namespace", .text "")]),
              ("error", .object [("kind", .text "destinationNotFound"), ("name", .text "gateway"),
                ("namespace", .text "")])]])]]),
        ("remote", .list [denial.toJson]), ("local", .list [])])⟩ ∧
      ∃ record alone, (passesOver lostWorld [foundInput, lostInput]).1[1]? = some record ∧
        (passesOver lostWorld [lostInput]).1 = [alone] ∧ record.reports = alone.reports ∧
        record.summary.invalid = ["istiod."] ∧ record.summary.rolledBack = ["istiod."] ∧
        alone.summary.rolledBack = [] := by
  intro paths arguments
  have asks : AsksForPasses lostWorld .json arguments paths :=
    asksForPasses_translateLine lostWorld rfl .json (by decide) (by decide)
  have found : loadOverlaid? lostWorld none "found.yaml" = some foundInput := by decide +kernel
  have lost : loadOverlaid? lostWorld none "lost.yaml" = some lostInput := by decide +kernel
  have loads : paths.mapM (loadOverlaid? lostWorld none) = some [foundInput, lostInput] := by
    simp [paths, found, lost]
  have passes : passesOver lostWorld [foundInput, lostInput] =
      ([⟨"found.yaml", { pass := 0, valid := ["istiod."] }, []⟩,
        ⟨"lost.yaml", { pass := 1, invalid := ["istiod."], rolledBack := ["istiod."] },
          [.onMesh { name := "istiod" } { name := "vm" } (.destinationNotFound { name := "gateway" })]⟩],
        ⟨({ name := "remote" } : OutputSnapshot).add denial, { name := "local" }⟩) := by
    decide +kernel
  obtain ⟨_, _, prints, _, each⟩ := run_keeps_passes_apart asks loads
  obtain ⟨input, record, alone, outputs, loaded, here, single, _, apart, _⟩ :=
    each ["found.yaml"] "lost.yaml" [] rfl
  obtain rfl : lostInput = input := Option.some.inj (lost.symm.trans loaded)
  have nothing : (passesOver lostWorld [lostInput]).1.map (·.summary.rolledBack) = [[]] := by decide +kernel
  rw [single] at nothing
  have printed := prints rfl
  rw [passes] at printed
  refine ⟨asks, loads, printed.eq rfl, record, alone, here, by rw [single], apart.reports, ?_, ?_,
    by simpa using nothing⟩
  · rw [apart.invalidPlaces]
    decide +kernel
  · rw [apart.restoredPlaces]
    decide +kernel

end Lost

end CommandLine

end MeshControl
