import MeshControl.Proofs.Injection.Consultations

/-!
# Failures are noted once

A detector notes a failure to load a configuration when the configuration is consulted for the first time, and
only then. `Detector.anomalies_at_first_consultations` says so for any calls about any meshes, also where
different meshes have one key: whatever is consulted under a key later finds what the first consultation found.
-/

namespace MeshControl.Injection.Detector

variable (detector : Detector)

/-- A consultation notes at most one anomaly, after all others. -/
theorem anomalies_prefix_configFor (mesh : Mesh) : detector.anomalies <+: (detector.configFor mesh).2.anomalies := by
  unfold configFor
  split
  · exact List.prefix_rfl
  · split
    · exact List.prefix_rfl
    · exact List.prefix_append _ _
    · exact List.prefix_rfl

theorem anomalies_prefix_detect (workload : Workload) (meshes : List Mesh) :
    detector.anomalies <+: (detector.detect workload meshes).2.anomalies := by
  induction meshes generalizing detector with
  | nil => exact List.prefix_rfl
  | cons mesh meshes inductionHypothesis =>
    have noted : detector.anomalies <+: (detector.injects workload mesh).2.anomalies :=
      anomalies_prefix_configFor detector mesh
    rw [detect_cons]
    split_ifs
    · exact List.prefix_rfl
    · exact noted
    · exact noted.trans (inductionHypothesis _)
    · exact inductionHypothesis detector

/-- Calls note anomalies after those that are there. -/
theorem anomalies_prefix_after (calls : List Call) : detector.anomalies <+: (detector.after calls).anomalies := by
  rw [after_eq_foldl_ask]
  induction calls.flatMap Call.questions generalizing detector with
  | nil => exact List.prefix_rfl
  | cons question questions inductionHypothesis =>
    exact (anomalies_prefix_detect detector question.workload question.meshes).trans
      (inductionHypothesis (detector.ask question))

variable {detector} in
/-- What was consulted under a key is found again, and nothing is loaded. -/
theorem Recalls.configFor_of_seen {surroundings : Surroundings} {history : List Mesh}
    (recalls : Recalls surroundings history detector) {mesh first : Mesh}
    (seen : firstUnder history mesh.key = some first) :
    detector.configFor mesh = (surroundings.configOf first, detector) := by
  have held := recalls.configs mesh.key
  rw [seen, Option.map_some] at held
  simp [Detector.configFor, held]

/-- The anomalies after any calls are the failures of first consultations, in the order of the consultations. A
mesh is consulted where a workload without a proxy is compared with it on its cluster and no earlier mesh injects
the workload. More calls only add anomalies at the end, and give every mesh with a key that was consulted the
configuration of the first one. -/
theorem anomalies_at_first_consultations (surroundings : Surroundings) (calls : List Call) :
    let history := surroundings.history calls
    let detector := surroundings.detector.after calls
    (∀ mesh, mesh ∈ history ↔
      ∃ call ∈ calls, ∃ question ∈ call.questions, surroundings.Consults history question mesh) ∧
    (∀ anomaly, anomaly ∈ detector.anomalies ↔ surroundings.Due history anomaly) ∧
    (detector.anomalies.map Anomaly.mesh).Nodup ∧
    (detector.anomalies.Pairwise fun earlier later =>
      placeOf history earlier.mesh < placeOf history later.mesh) ∧
    ∀ more, detector.anomalies <+: (detector.after more).anomalies ∧
      ∀ mesh first, firstUnder history mesh.key = some first →
        (detector.after more).configFor mesh = (surroundings.configOf first, detector.after more) := by
  intro history detector
  have recalls : Recalls surroundings history detector := recalls_after surroundings calls
  refine ⟨fun mesh => ?_, recalls.due, ?_, recalls.ordered, fun more =>
    ⟨anomalies_prefix_after detector more, fun mesh first seen => ?_⟩⟩
  · have consulted : mesh ∈ history ↔
        ∃ question ∈ calls.flatMap Call.questions, surroundings.Consults ([] ++ (history ++ [])) question mesh :=
      surroundings.mem_consultations_iff [] []
    rw [List.append_nil, List.nil_append] at consulted
    refine consulted.trans ⟨?_, ?_⟩
    · rintro ⟨question, asked, consults⟩
      obtain ⟨call, member, among⟩ := List.mem_flatMap.1 asked
      exact ⟨call, member, question, among, consults⟩
    · rintro ⟨call, member, question, among, consults⟩
      exact ⟨question, List.mem_flatMap.2 ⟨call, member, among⟩, consults⟩
  · exact List.pairwise_map.2 (recalls.ordered.imp fun {earlier later} before
      (same : earlier.mesh = later.mesh) => Nat.ne_of_lt before (by rw [same]))
  · have later := recalls_after surroundings (calls ++ more)
    rw [after_append, surroundings.history_append] at later
    exact later.configFor_of_seen (firstUnder_append_of_eq_some seen _)

section Revisions

/-- A mesh on the cluster of all workloads below. -/
private def revised (name : String) (revision : Option String) : Mesh where
  metadata := { name, ns := "orbit" }
  provider := .istio { installation := { ns := "istio-system", cluster := "east" }, revision }

private def podsWith (name : String) (containers : List String) : Workload where
  metadata := { name, ns := "shop", cluster := "east" }
  podTemplate := { containers }

/-- Only the default revision has a config map, and that one has no configuration in it. -/
private def unconfigured : Surroundings where
  namespaces := []
  configMaps := [⟨configMapStem, "istio-system", "east", ∅⟩]
  ignored := builtinIgnored

/-- The first workload runs the proxy. The second one consults two meshes, the third one meets another mesh with
the key of the first of them. -/
private def threeCalls : List Call :=
  [.detect (podsWith "cart" [proxyContainer]) [revised "stable" none],
    .attributeAll [podsWith "mail" []] [revised "canary" (some "next"), revised "stable" none],
    .detect (podsWith "till" []) [revised "canary" none]]

/-- Each key has one anomaly, the one of its first consultation, though the last mesh would have had another one. -/
theorem anomalies_at_first_consultations_revised :
    let detector := unconfigured.detector.after threeCalls
    unconfigured.history threeCalls = [revised "canary" (some "next"), revised "stable" none, revised "canary" none] ∧
      detector.anomalies =
        [⟨"canary.orbit", .configMapNotFound ⟨"istio-sidecar-injector-next", "istio-system", "east"⟩⟩,
          ⟨"stable.orbit", .missingKey "istio-sidecar-injector.istio-system.east"⟩] ∧
      ∀ more, detector.anomalies <+: (detector.after more).anomalies ∧
        (detector.after more).configFor (revised "canary" none) = ({}, detector.after more) := by
  intro detector
  have consulted : unconfigured.history threeCalls =
      [revised "canary" (some "next"), revised "stable" none, revised "canary" none] := by decide +kernel
  have first : firstUnder (unconfigured.history threeCalls) (revised "canary" none).key =
      some (revised "canary" (some "next")) := by rw [consulted]; decide
  have defaults : unconfigured.configOf (revised "canary" (some "next")) = {} := by decide +kernel
  obtain ⟨_, _, _, _, more⟩ := anomalies_at_first_consultations unconfigured threeCalls
  refine ⟨consulted, by decide +kernel, fun later => ⟨(more later).1, ?_⟩⟩
  rw [← defaults]
  exact (more later).2 _ _ first

end Revisions

end MeshControl.Injection.Detector
