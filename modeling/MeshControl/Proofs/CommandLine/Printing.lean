import MeshControl.CommandLine.Run
import MeshControl.Proofs.Lists
import MeshControl.Proofs.Publishing.References

/-!
# Passes can always be printed

`Outcome.Prints` says what an object about some passes holds, and `PassRecord.Notes` what is noted of a pass.
Printing passes as an object fails if a report has no form of its own. No pass makes such a report
(`isReference_of_mem_runPasses`), so a run over files that all load never fails, whatever its patch file and its
live cluster are.
-/

namespace MeshControl

/-- Reports about references have forms of their own. -/
theorem Report.isSome_mapM_toJson? {reports : List Report}
    (references : ∀ report ∈ reports, report.finding.isReference = true) :
    (reports.mapM toJson?).isSome = true :=
  isSome_mapM fun report member => (isSome_toJson?_iff report).2 (references report member)

namespace CommandLine

open Access (owedOnDestination owedOnMesh)
open Injection (Detector)

/-- What is printed about a pass: its snapshot, its number, the meshes that it lists by their verdicts, and the form
of each of its reports. -/
def PassRecord.PrintedAs (record : PassRecord) (printed : Json) : Prop :=
  ∃ reports, List.Forall₂ (fun report form => report.toJson? = some form) record.reports reports ∧
    printed = .object [("snapshot", .text record.snapshot),
      ("summary", .object [("pass", .natural record.summary.pass),
        ("validMeshes", .list (record.summary.valid.map .text)),
        ("invalidMeshes", .list (record.summary.invalid.map .text)),
        ("rolledBackMeshes", .list (record.summary.rolledBack.map .text))]),
      ("reports", .list reports)]

/-- A run has ended well and printed an object: each of its passes in order, and the objects of the last pass in the
order of their identities. -/
def Outcome.Prints (outcome : Outcome) (records : List PassRecord) (outputs : Outputs) : Prop :=
  ∃ passes, List.Forall₂ PassRecord.PrintedAs records passes ∧
    outcome = ⟨0, .json (.object [("passes", .list passes),
      ("remote", .list (outputs.remote.objects.map OutputObject.toJson)),
      ("local", .list (outputs.home.objects.map OutputObject.toJson))])⟩

/-- A record notes of the pass over an input its number, the verdicts on the meshes by what is owed on them, and all
reports that are owed. -/
structure PassRecord.Notes (record : PassRecord) (ignored : List String) (input : Input) (number : Nat) : Prop where
  snapshot : record.snapshot = input.name
  number : record.summary.pass = number
  valid : record.summary.valid = (input.meshes.filter (owedOnMesh input · = [])).map Mesh.key
  invalid : record.summary.invalid = (input.meshes.filter (owedOnMesh input · ≠ [])).map Mesh.key
  reports : record.reports =
    input.destinations.flatMap (owedOnDestination input
        ((Detector.new ignored input.namespaces (.ofList input.configMaps)).membershipOver input)) ++
      input.meshes.flatMap (owedOnMesh input)

theorem passJson?_eq_some_iff {record : PassRecord} {printed : Json} :
    passJson? record = some printed ↔ record.PrintedAs printed := by
  simp only [passJson?, Option.bind_eq_bind, Option.bind_eq_some_iff, Option.pure_def, Option.some.injEq,
    mapM_eq_some_iff, PassRecord.PrintedAs, @eq_comm _ printed]
  rfl

/-- Passes that have forms are printed in these. -/
theorem Outcome.Prints.eq {outcome : Outcome} {records : List PassRecord} {outputs : Outputs} {forms : List Json}
    (prints : outcome.Prints records outputs) (formed : records.mapM passJson? = some forms) :
    outcome = ⟨0, .json (.object [("passes", .list forms),
      ("remote", .list (outputs.remote.objects.map OutputObject.toJson)),
      ("local", .list (outputs.home.objects.map OutputObject.toJson))])⟩ := by
  obtain ⟨passes, printed, rfl⟩ := prints
  have same : records.mapM passJson? = some passes :=
    mapM_eq_some_iff.2 (printed.imp fun _ _ => passJson?_eq_some_iff.2)
  rw [Option.some.inj (formed.symm.trans same)]

theorem length_runPasses (settings : PassSettings) (publisher : Publisher) (reporter : Reporter)
    (inputs : List Input) (last : Outputs) :
    (runPasses settings publisher reporter inputs last).1.length = inputs.length := by
  induction inputs generalizing publisher reporter last with
  | nil => rfl
  | cons input inputs inductionHypothesis => simp [runPasses, inductionHypothesis]

/-- The passes of a run are noted in order, with numbers that go on from those of its publisher, whatever the
publisher remembers and the patch does. -/
theorem notes_runPasses (ignored : List String) (patch : Input → OutputSnapshot → Patched)
    (publisher : Publisher) (inputs : List Input) (last : Outputs) :
    List.Forall₂ (fun entry record => PassRecord.Notes record ignored entry.1 entry.2)
      (inputs.zipIdx publisher.passes) (runPasses { ignored, patch } publisher .fresh inputs last).1 := by
  induction inputs generalizing publisher last with
  | nil => exact .nil
  | cons input inputs inductionHypothesis =>
    let result := publisher.pass { ignored, patch } input (.named "remote" "local") .fresh
    obtain ⟨reported, number, valid, invalid⟩ :=
      Publisher.recorded_pass ignored patch publisher input (.named "remote" "local") .fresh
    have counted : result.publisher.passes = publisher.passes + 1 := rfl
    have later := inductionHypothesis result.publisher result.outputs
    rw [counted] at later
    rw [Reporter.fresh, Reporter.reportAll_collecting, Publisher.passReports_eq_owed] at reported
    simp only [List.zipIdx_cons, runPasses, Reporter.fresh, reported, Reporter.take]
    exact .cons ⟨rfl, number, valid, invalid, rfl⟩ later

/-- All reports of a run are about references, whatever its patch does. -/
theorem isReference_of_mem_runPasses (ignored : List String) (patch : Input → OutputSnapshot → Patched)
    (publisher : Publisher) (inputs : List Input) (last : Outputs) :
    ∀ record ∈ (runPasses { ignored, patch } publisher .fresh inputs last).1, ∀ report ∈ record.reports,
      report.finding.isReference = true := by
  intro record member report made
  obtain ⟨place, below, rfl⟩ := List.getElem_of_mem member
  obtain ⟨count, noted⟩ := List.forall₂_iff_get.1 (notes_runPasses ignored patch publisher inputs last)
  have notes := noted place (count ▸ below) below
  rw [List.get_eq_getElem, List.get_eq_getElem] at notes
  rw [notes.reports, ← Publisher.passReports_eq_owed] at made
  exact Publisher.isReference_of_mem_passReports made

/-- Passes whose reports are about references can be printed as an object. -/
theorem prints_of_references {records : List PassRecord} (outputs : Outputs)
    (references : ∀ record ∈ records, ∀ report ∈ record.reports, report.finding.isReference = true) :
    (printPasses .json records outputs).Prints records outputs := by
  have forms : (records.mapM passJson?).isSome = true := by
    refine isSome_mapM fun record member => ?_
    obtain ⟨printed, found⟩ :=
      Option.isSome_iff_exists.1 (Report.isSome_mapM_toJson? (references record member))
    simp [passJson?, found]
  obtain ⟨passes, found⟩ := Option.isSome_iff_exists.1 forms
  refine ⟨passes, (mapM_eq_some_iff.1 found).imp fun _ _ => passJson?_eq_some_iff.1, ?_⟩
  rw [printPasses, found]
  rfl

/-- Files that can be read load with live records over them, if any were asked for. -/
theorem loads_of_loadInput? (world : World) (liveCluster : Option String) {paths : List String}
    (readable : ∀ path ∈ paths, (loadInput? world.files path).isSome = true) :
    ∃ inputs, inputs.length = paths.length ∧ paths.mapM (loadOverlaid? world liveCluster) = some inputs := by
  have each : (paths.mapM (loadOverlaid? world liveCluster)).isSome = true := by
    refine isSome_mapM fun path member => ?_
    obtain ⟨input, loaded⟩ := Option.isSome_iff_exists.1 (readable path member)
    simp [loadOverlaid?, loaded]
  obtain ⟨inputs, loads⟩ := Option.isSome_iff_exists.1 each
  exact ⟨inputs, length_of_mapM loads, loads⟩

/-- The passes of a run over some inputs on a new publisher, each ended by the patch file if there is one: what is
noted of them, and the outputs of the last one. -/
def patchedPasses (world : World) (patchFile : Option String) (inputs : List Input) : List PassRecord × Outputs :=
  let patcher : Patcher := patchFile.elim .noop .file
  runPasses
    { ignored := Injection.ignoredNamespaces (world.environment ignoredVariable)
      patch := fun input outputs => patcher.apply world.files input outputs }
    {} .fresh inputs (.named "remote" "local")

/-- A run over files that all load makes passes over what they hold and prints them. -/
theorem run_translate {world : World} {format : Format} {arguments paths : List String}
    {patchFile liveCluster : Option String} {inputs : List Input}
    (asks : parse (world.environment patchFileVariable) arguments =
      .ok ⟨format, .translate paths patchFile liveCluster⟩)
    (loads : paths.mapM (loadOverlaid? world liveCluster) = some inputs) :
    run world arguments =
      printPasses format (patchedPasses world patchFile inputs).1 (patchedPasses world patchFile inputs).2 := by
  rw [run, asks]
  simp only [translate, loads, patchedPasses]
  cases patchFile <;> rfl

/-- Whatever a patch does, passes of any publisher over any inputs add to the reports of their reporter only such
that name a missing destination, a missing mesh or a service account on a cluster without a mesh, and these can
all be written. So a run that is asked for an object never fails once its files have been read, with any patch
file and any live cluster: it ends with code zero and prints the number, the verdicts and the owed reports of each
of its passes, and the outputs of the last one. -/
theorem reports_always_printed (ignored : List String) (patch : Input → OutputSnapshot → Patched) :
    (∀ (publisher : Publisher) (held : List Report) (passes : List (Input × Outputs)),
      ∃ made forms,
        (Publisher.serveAll { ignored, patch } publisher (.collecting held) passes).2 =
          .collecting (held ++ made) ∧
        (∀ report ∈ made, (∃ ref, report.finding = .destinationNotFound ref) ∨
          (∃ ref, report.finding = .meshNotFound ref) ∨
          ∃ account, report.finding = .noMeshForCluster account) ∧
        made.mapM Report.toJson? = some forms) ∧
      ∀ (world : World) (arguments paths : List String) (patchFile liveCluster : Option String),
        parse (world.environment patchFileVariable) arguments =
          .ok ⟨.json, .translate paths patchFile liveCluster⟩ →
        (∀ path ∈ paths, (loadInput? world.files path).isSome = true) →
        ∃ inputs, paths.mapM (loadOverlaid? world liveCluster) = some inputs ∧
          let ignored := Injection.ignoredNamespaces (world.environment ignoredVariable)
          let passes := patchedPasses world patchFile inputs
          passes.1.length = paths.length ∧
            List.Forall₂ (fun entry record => PassRecord.Notes record ignored entry.1 entry.2)
              inputs.zipIdx passes.1 ∧
            (run world arguments).Prints passes.1 passes.2 := by
  constructor
  · intro publisher held passes
    obtain ⟨made, ends, references⟩ := Publisher.reports_serveAll ignored patch publisher held passes
    obtain ⟨forms, written⟩ := Option.isSome_iff_exists.1 (Report.isSome_mapM_toJson? references)
    exact ⟨made, forms, ends, fun report member => Finding.isReference_iff.1 (references report member),
      written⟩
  · intro world arguments paths patchFile liveCluster asks readable
    obtain ⟨inputs, count, loads⟩ := loads_of_loadInput? world liveCluster readable
    refine ⟨inputs, loads, (length_runPasses _ _ _ inputs _).trans count, notes_runPasses _ _ {} inputs _, ?_⟩
    rw [run_translate asks loads]
    exact prints_of_references _ (isReference_of_mem_runPasses _ _ {} inputs _)

section MissingGateway

/-- A file with a mesh under enforced access, one of whose gateways has no destination. -/
private def reportedText : String :=
  "meshes:\n- metadata:\n   name: istiod\n  provider:\n   istio:\n    installation:\n" ++
  "     namespace: orbit\n     cluster: east\n  status:\n   appliedVirtualMesh:\n    ref:\n" ++
  "     name: vm\n    spec:\n     globalAccessPolicy: ENABLED\n" ++
  "   appliedEastWestIngressGateways:\n   - destinationRef:\n      name: gateway\n"

/-- What the file holds. -/
private def reportedInput : Input where
  name := "mesh.yaml"
  meshes :=
    [{  metadata := { name := "istiod" }
        provider := .istio { installation := { ns := "orbit", cluster := "east" } }
        status :=
          { virtualMesh := some { ref := { name := "vm" }, spec := { globalAccess := .enabled } }
            ingressGateways := [{ name := "gateway" }] } }]

/-- Neither the patch file nor the live cluster of the run below can be read. -/
private def reportedWorld : World where
  files :=
    { read := fun path => if path = "mesh.yaml" then .ok reportedText else .error "no such file"
      complaint := fun _ => "invalid type" }
  environment _ := none
  client := .error "no connection"
  configComplaint _ := "invalid type"

/-- A run with a report, without its patch file and without its live cluster prints the report. -/
theorem reports_always_printed_missing_gateway :
    let arguments :=
      ["translate", "-o", "json", "--patch-file", "patch.yaml", "--live-cluster", "east", "-f", "mesh.yaml"]
    parse (reportedWorld.environment patchFileVariable) arguments =
        .ok ⟨.json, .translate ["mesh.yaml"] (some "patch.yaml") (some "east")⟩ ∧
      (∀ path ∈ ["mesh.yaml"], (loadInput? reportedWorld.files path).isSome = true) ∧
      run reportedWorld arguments = ⟨0, .json (.object [
        ("passes", .list [.object [("snapshot", .text "mesh.yaml"),
          ("summary", .object [("pass", .natural 0), ("validMeshes", .list []),
            ("invalidMeshes", .list [.text "istiod."]), ("rolledBackMeshes", .list [])]),
          ("reports", .list [.object [("target", .text "virtualMeshToMesh"),
            ("mesh", .object [("name", .text "istiod"), ("namespace", .text "")]),
            ("virtual_mesh", .object [("name", .text "vm"), ("namespace", .text "")]),
            ("error", .object [("kind", .text "destinationNotFound"), ("name", .text "gateway"),
              ("namespace", .text "")])]])]]),
        ("remote", .list []), ("local", .list [])])⟩ := by
  intro arguments
  have asks : parse (reportedWorld.environment patchFileVariable) arguments =
      .ok ⟨.json, .translate ["mesh.yaml"] (some "patch.yaml") (some "east")⟩ := by rfl
  have loaded : loadInput? reportedWorld.files "mesh.yaml" = some reportedInput := by decide +kernel
  have readable : ∀ path ∈ ["mesh.yaml"], (loadInput? reportedWorld.files path).isSome = true := by simp [loaded]
  have holds : ["mesh.yaml"].mapM (loadOverlaid? reportedWorld (some "east")) = some [reportedInput] := by
    simp only [List.mapM_cons, List.mapM_nil, loadOverlaid?, loaded]
    rfl
  have passes : patchedPasses reportedWorld (some "patch.yaml") [reportedInput] =
      ([⟨"mesh.yaml", { pass := 0, invalid := ["istiod."] },
        [.onMesh { name := "istiod" } { name := "vm" } (.destinationNotFound { name := "gateway" })]⟩],
        .named "remote" "local") := by
    decide +kernel
  obtain ⟨inputs, loads, _, _, prints⟩ := (reports_always_printed [] fun _ outputs => { outputs }).2 reportedWorld
    arguments ["mesh.yaml"] (some "patch.yaml") (some "east") asks readable
  obtain rfl : [reportedInput] = inputs := Option.some.inj (holds.symm.trans loads)
  rw [passes] at prints
  exact ⟨asks, readable, prints.eq rfl⟩

end MissingGateway

end CommandLine

end MeshControl
