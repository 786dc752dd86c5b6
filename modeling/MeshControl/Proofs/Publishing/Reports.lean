import MeshControl.Proofs.Access.Findings
import MeshControl.Proofs.Injection.Attribution
import MeshControl.Proofs.Publishing.Rollback

/-!
# The reports of a pass are exact

Whatever a publisher remembers, one mesh adds its reports and its key to what a pass has recorded
(`Publisher.Recorded.publishMesh`), and so do all of them in order. With the rule of what is owed this gives
the whole list of reports, and the meshes that are invalid are those on which something is owed.
-/

namespace MeshControl

open Access (MeshCompiler compileMesh owedOnDestination owedOnMesh)
open Injection (Detector)

/-- A translation is valid if nothing is owed on its mesh. -/
theorem Translation.isValid_compileMesh (input : Input) (mesh : Mesh) :
    isValid compileMesh ⟨input, mesh⟩ = decide (owedOnMesh input mesh = []) := by
  have own : ∀ report ∈ owedOnMesh input mesh, report.concernsMesh mesh.key = true := by
    intro report member
    unfold owedOnMesh at member
    split at member
    · split at member
      · obtain ⟨gateway, _, rfl⟩ := List.mem_map.1 member
        simp [Report.concernsMesh, Mesh.key]
      · cases member
    · cases member
  rw [isValid, Access.compileMesh_reports, Bool.eq_iff_iff, Bool.not_eq_true', decide_eq_true_eq,
    List.any_eq_false, List.eq_nil_iff_forall_not_mem]
  exact forall₂_congr fun report member => by simp [own report member]

namespace Publisher

variable {compile : MeshCompiler} {input : Input}

/-- What a pass has recorded so far, in reports and in its summary. -/
structure Recorded (initial : PassState) (compile : MeshCompiler) (input : Input) (done : List Mesh)
    (state : PassState) : Prop where
  reporter : state.reporter = initial.reporter.reportAll (done.flatMap fun mesh => (compile input mesh).reports)
  pass : state.summary.pass = initial.summary.pass
  valid : state.summary.valid = initial.summary.valid ++
    (done.filter fun mesh => Translation.isValid compile ⟨input, mesh⟩).map Mesh.key
  invalid : state.summary.invalid = initial.summary.invalid ++
    (done.filter fun mesh => !Translation.isValid compile ⟨input, mesh⟩).map Mesh.key

namespace Recorded

theorem start (initial : PassState) (compile : MeshCompiler) (input : Input) :
    Recorded initial compile input [] initial := ⟨rfl, rfl, by simp, by simp⟩

/-- One mesh adds its reports, and its key where its verdict is listed, whatever is remembered. -/
theorem publishMesh {initial state : PassState} {done : List Mesh} (recorded : Recorded initial compile input done state)
    (mesh : Mesh) : Recorded initial compile input (done ++ [mesh]) (publishMesh compile input state mesh) := by
  cases validity : Translation.isValid compile ⟨input, mesh⟩ with
  | true =>
      rw [publishMesh_of_valid validity]
      refine ⟨?_, recorded.pass, ?_, ?_⟩
      · simp [recorded.reporter, Reporter.reportAll_append]
      · simp [recorded.valid, validity]
      · simp [recorded.invalid, validity]
  | false =>
      rw [publishMesh_of_invalid validity]
      refine ⟨?_, recorded.pass, ?_, ?_⟩
      · simp [recorded.reporter, Reporter.reportAll_append]
      · simp [recorded.valid, validity]
      · simp [recorded.invalid, validity]

/-- All meshes of an input are recorded, each after those before it. -/
theorem foldl {initial state : PassState} {done : List Mesh} (recorded : Recorded initial compile input done state)
    (meshes : List Mesh) :
    Recorded initial compile input (done ++ meshes) (meshes.foldl (Publisher.publishMesh compile input) state) := by
  induction meshes generalizing done state with
  | nil => simpa using recorded
  | cons mesh rest inductionHypothesis => simpa using inductionHypothesis (recorded.publishMesh mesh)

end Recorded

/-- What a pass of any publisher records, whatever it remembers and whatever its patch does. -/
theorem recorded_pass (ignored : List String) (patch : Input → OutputSnapshot → Patched)
    (publisher : Publisher) (input : Input) (outputs : Outputs) (reporter : Reporter) :
    let result := publisher.pass { ignored, patch } input outputs reporter
    result.reporter = reporter.reportAll (destinationReports ignored input ++ meshReports compileMesh input) ∧
      result.summary.pass = publisher.passes ∧
      result.summary.valid = (input.meshes.filter (owedOnMesh input · = [])).map Mesh.key ∧
      result.summary.invalid = (input.meshes.filter (owedOnMesh input · ≠ [])).map Mesh.key := by
  intro result
  let settings : PassSettings := { ignored, patch }
  let request : PassRequest := ⟨input, outputs, reporter⟩
  have recorded : Recorded (begun settings publisher request) compileMesh input input.meshes
      (unpatched settings publisher request) :=
    (Recorded.start (begun settings publisher request) compileMesh input).foldl input.meshes
  have ends : result.reporter = (unpatched settings publisher request).reporter :=
    congrArg PassResult.reporter (serve_eq settings publisher request)
  have summary : result.summary = (unpatched settings publisher request).summary :=
    congrArg PassResult.summary (serve_eq settings publisher request)
  refine ⟨?_, ?_, ?_, ?_⟩
  · rw [ends, recorded.reporter, Reporter.reportAll_append]
    rfl
  · rw [summary, recorded.pass]
    rfl
  · rw [summary, recorded.valid]
    simp [begun, Translation.isValid_compileMesh]
  · rw [summary, recorded.invalid]
    simp [begun, Translation.isValid_compileMesh]

/-- The reports of a pass are those that are owed, on destinations as a new detector attributes workloads. -/
theorem passReports_eq_owed (ignored : List String) (input : Input) :
    destinationReports ignored input ++ meshReports compileMesh input =
      input.destinations.flatMap (owedOnDestination input
          ((Detector.new ignored input.namespaces (.ofList input.configMaps)).membershipOver input)) ++
        input.meshes.flatMap (owedOnMesh input) := by
  have onDestinations := Access.compileDestination_reports input
    ((Detector.new ignored input.namespaces (.ofList input.configMaps)).membershipOver input)
  exact congrArg₂ (· ++ ·) (congrArg input.destinations.flatMap (funext onDestinations))
    (congrArg input.meshes.flatMap (funext (Access.compileMesh_reports input)))

/-- A pass of any publisher, whatever it remembers, hands to a reporter that keeps reports exactly those
that are owed, on the destinations in order and then on the meshes in order. Destinations are resolved by what a
new detector attributes. A mesh of the input is listed as invalid exactly if something is owed on it, and as valid
otherwise; what is owed on destinations and on other meshes does not count. -/
theorem pass_reports_owed (ignored : List String) (patch : Input → OutputSnapshot → Patched)
    (publisher : Publisher) (input : Input) (outputs : Outputs) (held : List Report) :
    let settings : PassSettings := { ignored, compile := compileMesh, patch }
    let attributed := (Detector.new ignored input.namespaces (.ofList input.configMaps)).membershipOver input
    let result := publisher.pass settings input outputs (.collecting held)
    result.reporter = .collecting (held ++ (input.destinations.flatMap (owedOnDestination input attributed) ++
        input.meshes.flatMap (owedOnMesh input))) ∧
      result.summary.invalid = (input.meshes.filter (owedOnMesh input · ≠ [])).map Mesh.key ∧
      result.summary.valid = (input.meshes.filter (owedOnMesh input · = [])).map Mesh.key := by
  intro settings attributed result
  obtain ⟨reporter, _, valid, invalid⟩ := recorded_pass ignored patch publisher input outputs (.collecting held)
  rw [Reporter.reportAll_collecting, passReports_eq_owed] at reporter
  exact ⟨reporter, invalid, valid⟩

section Cinema

private def cinemaMesh (cluster : String) (provider : Provider) (status : MeshStatus) : Mesh :=
  { metadata := { name := "mesh-" ++ cluster, ns := "orbit" }, provider, status }

private def cinemaPods (version : String) (containers : List String) : Workload where
  metadata :=
    { name := "tickets-" ++ version, ns := "cinema", cluster := "east", labels := .ofList [("app", "tickets")] }
  podTemplate := { containers }

private def cinemaDestination (name : String) (discovered : Option ObjectRef) : Destination where
  metadata := { name, ns := "orbit" }
  spec :=
    { service := { ref := ⟨name, "cinema", "east"⟩, selector := .ofList [("app", name)] }
      mesh := discovered }
  status :=
    { accessPolicies :=
        [{  ref := ⟨"staff", "orbit"⟩
            spec :=
              { sources :=
                  [{ serviceAccounts := [⟨"usher", "cinema", "west"⟩, ⟨"web", "cinema", "east"⟩] },
                    { serviceAccounts := [⟨"usher", "cinema", "west"⟩] }] } },
          { ref := ⟨"guests", "orbit"⟩ }] }

/-- An Istio mesh on the east under enforced access, and a mesh of another kind on the west. The mesh of the tickets
follows from the second workload behind them. Discovery has named a lost mesh for the screens, and nothing is known
about the mesh of the foyer, behind which no workload runs. -/
private def cinema : Input where
  meshes :=
    [cinemaMesh "east" (.istio { installation := { ns := "istio-system", cluster := "east" } })
        { virtualMesh := some { ref := ⟨"vm", "orbit"⟩, spec := { globalAccess := .enabled } }
          ingressGateways := [⟨"back", "orbit"⟩, ⟨"tickets", "orbit"⟩, ⟨"back", "orbit"⟩] },
      cinemaMesh "west" (.linkerd { ns := "linkerd", cluster := "west" }) {}]
  destinations :=
    [cinemaDestination "tickets" none, cinemaDestination "screens" (some ⟨"lost", "orbit"⟩),
      cinemaDestination "foyer" none]
  workloads := [cinemaPods "v1" ["app"], cinemaPods "v2" ["app", Injection.proxyContainer]]

/-- The account on the west is reported at each of its two mentions, the lost mesh once for each access policy, and
the lost gateway once. Nothing is reported about the foyer, and only the gateway makes a mesh invalid. -/
theorem pass_reports_owed_cinema :
    let result := ({} : Publisher).pass {} cinema (.named "remote" "local") (.collecting [])
    result.reporter = .collecting
        [.onDestination ⟨"tickets", "orbit"⟩ ⟨"staff", "orbit"⟩ (.noMeshForCluster ⟨"usher", "cinema", "west"⟩),
          .onDestination ⟨"tickets", "orbit"⟩ ⟨"staff", "orbit"⟩ (.noMeshForCluster ⟨"usher", "cinema", "west"⟩),
          .onDestination ⟨"screens", "orbit"⟩ ⟨"staff", "orbit"⟩ (.meshNotFound ⟨"lost", "orbit"⟩),
          .onDestination ⟨"screens", "orbit"⟩ ⟨"guests", "orbit"⟩ (.meshNotFound ⟨"lost", "orbit"⟩),
          .onMesh ⟨"mesh-east", "orbit"⟩ ⟨"vm", "orbit"⟩ (.destinationNotFound ⟨"back", "orbit"⟩)] ∧
      result.summary.invalid = ["mesh-east.orbit"] ∧ result.summary.valid = ["mesh-west.orbit"] := by
  intro result
  obtain ⟨reported, invalid, valid⟩ := pass_reports_owed Injection.builtinIgnored (fun _ outputs => { outputs }) {}
    cinema (.named "remote" "local") []
  refine ⟨reported.trans ?_, invalid.trans ?_, valid.trans ?_⟩
  · decide +kernel
  · decide +kernel
  · decide +kernel

end Cinema

end Publisher

end MeshControl
