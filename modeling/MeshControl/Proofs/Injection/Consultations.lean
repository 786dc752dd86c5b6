import Mathlib.Data.List.Nodup
import MeshControl.Proofs.Injection.Membership

/-!
# Consulted configurations and noted failures

A detector is asked about workloads, one after the other, and consults the configurations of the meshes with
which it compares them. `Surroundings.history` says which ones, in order, without the detector's memory: under
each key the first mesh that was consulted counts from then on. `Detector.Recalls` says that the memory agrees
with the history, and that the noted anomalies are the failures of first consultations. Every consultation keeps
it, hence every run.
-/

namespace MeshControl.Injection

/-- A workload and the meshes with which it is compared in turn. -/
structure Question where
  workload : Workload
  meshes : List Mesh
  deriving DecidableEq

/-- The questions of a call, in order. -/
def Call.questions : Call → List Question
  | .detect workload meshes => [⟨workload, meshes⟩]
  | .attributeAll workloads meshes => workloads.map fun workload => ⟨workload, meshes⟩

/-- The first mesh with a key. -/
def firstUnder (history : List Mesh) (key : String) : Option Mesh := history.find? fun mesh => mesh.key = key

/-- How many meshes stand before the first one with a key. -/
def placeOf (history : List Mesh) (key : String) : Nat := history.findIdx fun mesh => mesh.key = key

/-- The mesh whose configuration counts for a mesh: the first one that was consulted under its key, or else
itself. -/
def countingFor (history : List Mesh) (mesh : Mesh) : Mesh := (firstUnder history mesh.key).getD mesh

namespace Surroundings

variable (surroundings : Surroundings)

/-- The configuration of a mesh, read from the config maps of the surroundings. -/
def configOf (mesh : Mesh) : Config := Detector.freshConfig surroundings.detector.configMaps mesh

/-- Whether the configuration that counts for a mesh after a history gives a workload's pods a sidecar. -/
def injectsAfter (history : List Mesh) (workload : Workload) (mesh : Mesh) : Bool :=
  injectRequired surroundings.detector.ignored
    (surroundings.detector.injected.contains (namespaceKey workload.ns workload.cluster))
    (surroundings.configOf (countingFor history mesh)) workload

/-- What a workload without a proxy consults after a history: the meshes on its cluster, in turn, up to the first
one that injects it. -/
def consultedAmong (history : List Mesh) (workload : Workload) : List Mesh → List Mesh
  | [] => []
  | mesh :: meshes =>
    if Detector.isCandidate workload mesh then
      if surroundings.injectsAfter history workload mesh then [mesh]
      else mesh :: consultedAmong (history ++ [mesh]) workload meshes
    else consultedAmong history workload meshes

/-- The meshes whose configurations a question consults. A workload that runs the proxy consults none. -/
def consulted (history : List Mesh) (question : Question) : List Mesh :=
  if runsProxy question.workload then []
  else surroundings.consultedAmong history question.workload question.meshes

/-- The meshes whose configurations some questions consult, one after the other. -/
def consultations (history : List Mesh) : List Question → List Mesh
  | [] => []
  | question :: questions =>
    surroundings.consulted history question ++
      consultations (history ++ surroundings.consulted history question) questions

/-- All consultations of some calls, in order. -/
def history (calls : List Call) : List Mesh := surroundings.consultations [] (calls.flatMap Call.questions)

/-- A workload without a proxy is compared with a mesh on its cluster, since no earlier mesh on its cluster
injects it. -/
structure Consults (history : List Mesh) (question : Question) (mesh : Mesh) : Prop where
  noProxy : runsProxy question.workload = false
  candidate : Detector.isCandidate question.workload mesh = true
  reached : ∃ passed rest, question.meshes = passed ++ mesh :: rest ∧
    ∀ other ∈ passed, Detector.isCandidate question.workload other = true →
      surroundings.injectsAfter history question.workload other = false

/-- An anomaly is due when the first consultation under its key failed with its error. -/
def Due (history : List Mesh) (anomaly : Anomaly) : Prop :=
  ∃ mesh istio, firstUnder history anomaly.mesh = some mesh ∧ mesh.istio = some istio ∧
    loadConfig istio surroundings.detector.configMaps = .error anomaly.error

end Surroundings

/-! ### First meshes of a history -/

section History

variable {history later : List Mesh} {mesh first : Mesh} {key : String}

theorem firstUnder_append (history later : List Mesh) (key : String) :
    firstUnder (history ++ later) key = (firstUnder history key).or (firstUnder later key) :=
  List.find?_append

theorem firstUnder_singleton (mesh : Mesh) (key : String) :
    firstUnder [mesh] key = if mesh.key = key then some mesh else none := by
  unfold firstUnder
  by_cases same : mesh.key = key
  · simp [same]
  · simp [same]

theorem firstUnder_append_of_eq_some (seen : firstUnder history key = some first) (later : List Mesh) :
    firstUnder (history ++ later) key = some first := by
  rw [firstUnder_append, seen, Option.some_or]

/-- Another consultation under a key that was consulted before changes no first mesh. -/
theorem firstUnder_append_singleton_of_seen (seen : firstUnder history mesh.key = some first) (key : String) :
    firstUnder (history ++ [mesh]) key = firstUnder history key := by
  rw [firstUnder_append, firstUnder_singleton]
  by_cases same : mesh.key = key
  · rw [← same, seen, Option.some_or]
  · rw [if_neg same, Option.or_none]

theorem placeOf_lt_length (seen : firstUnder history key = some first) : placeOf history key < history.length :=
  List.findIdx_lt_length_of_exists
    ⟨first, List.mem_of_find?_eq_some seen, by simpa [firstUnder] using List.find?_some seen⟩

theorem placeOf_append (seen : firstUnder history key = some first) (later : List Mesh) :
    placeOf (history ++ later) key = placeOf history key := by
  unfold placeOf
  rw [List.findIdx_append]
  exact if_pos (placeOf_lt_length seen)

/-- The first mesh under a key that was not consulted before comes at the end. -/
theorem placeOf_append_singleton_of_unseen (unseen : firstUnder history mesh.key = none) :
    placeOf (history ++ [mesh]) mesh.key = history.length := by
  have beyond : history.findIdx (fun other => other.key = mesh.key) = history.length :=
    List.findIdx_eq_length.2 fun other member => by simpa using List.find?_eq_none.1 unseen other member
  unfold placeOf
  rw [List.findIdx_append, beyond, if_neg (Nat.lt_irrefl _)]
  simp

/-- A mesh counts for its key from its consultation on, unless another one did before. -/
theorem countingFor_append_cons (history : List Mesh) (mesh : Mesh) (later : List Mesh) :
    countingFor (history ++ mesh :: later) mesh = countingFor history mesh := by
  unfold countingFor
  have itself : firstUnder (mesh :: later) mesh.key = some mesh := by simp [firstUnder]
  rw [firstUnder_append, itself]
  cases firstUnder history mesh.key <;> rfl

end History

namespace Surroundings

variable (surroundings : Surroundings) {workload : Workload} {mesh : Mesh}

theorem injectsAfter_append_cons (history : List Mesh) (workload : Workload) (mesh : Mesh) (later : List Mesh) :
    surroundings.injectsAfter (history ++ mesh :: later) workload mesh =
      surroundings.injectsAfter history workload mesh := by
  unfold injectsAfter
  rw [countingFor_append_cons]

/-- What a workload consults are the meshes on its cluster that it reaches, whatever is consulted later. -/
theorem mem_consultedAmong_iff (history later : List Mesh) {meshes : List Mesh} :
    mesh ∈ surroundings.consultedAmong history workload meshes ↔
      Detector.isCandidate workload mesh = true ∧
        ∃ passed rest, meshes = passed ++ mesh :: rest ∧
          ∀ other ∈ passed, Detector.isCandidate workload other = true →
            surroundings.injectsAfter
              (history ++ (surroundings.consultedAmong history workload meshes ++ later)) workload other = false := by
  induction meshes generalizing history with
  | nil => simp [consultedAmong]
  | cons head tail inductionHypothesis =>
    rw [exists_passed_cons_iff]
    unfold consultedAmong
    by_cases candidate : Detector.isCandidate workload head = true
    · -- The first mesh is consulted, and what counts for it is settled by that.
      rw [if_pos candidate]
      by_cases injects : surroundings.injectsAfter history workload head = true
      · rw [if_pos injects, List.singleton_append, injectsAfter_append_cons, injects, List.mem_singleton]
        constructor
        · rintro rfl
          exact ⟨candidate, .inl rfl⟩
        · rintro ⟨_, same | ⟨spared, _⟩⟩
          · exact same
          · cases spared candidate
      · rw [if_neg injects, List.mem_cons, List.cons_append, injectsAfter_append_cons,
          List.append_cons history head (_ ++ later), inductionHypothesis (history ++ [head])]
        rw [Bool.not_eq_true] at injects
        constructor
        · rintro (rfl | ⟨inside, reached⟩)
          · exact ⟨candidate, .inl rfl⟩
          · exact ⟨inside, .inr ⟨fun _ => injects, reached⟩⟩
        · rintro ⟨inside, same | ⟨_, reached⟩⟩
          · exact .inl same
          · exact .inr ⟨inside, reached⟩
    · rw [if_neg candidate, inductionHypothesis history]
      constructor
      · rintro ⟨inside, reached⟩
        exact ⟨inside, .inr ⟨fun here => absurd here candidate, reached⟩⟩
      · rintro ⟨inside, rfl | ⟨_, reached⟩⟩
        · exact absurd inside candidate
        · exact ⟨inside, reached⟩

theorem mem_consulted_iff (history later : List Mesh) {question : Question} :
    mesh ∈ surroundings.consulted history question ↔
      surroundings.Consults (history ++ (surroundings.consulted history question ++ later)) question mesh := by
  unfold consulted
  by_cases proxy : runsProxy question.workload = true
  · rw [if_pos proxy]
    refine iff_of_false List.not_mem_nil fun consults => ?_
    rw [consults.noProxy] at proxy
    cases proxy
  · rw [if_neg proxy, mem_consultedAmong_iff surroundings history later]
    rw [Bool.not_eq_true] at proxy
    exact ⟨fun ⟨candidate, reached⟩ => ⟨proxy, candidate, reached⟩,
      fun consults => ⟨consults.candidate, consults.reached⟩⟩

/-- What is consulted are the meshes that some question reaches, given all consultations. -/
theorem mem_consultations_iff (history later : List Mesh) {questions : List Question} :
    mesh ∈ surroundings.consultations history questions ↔
      ∃ question ∈ questions, surroundings.Consults
        (history ++ (surroundings.consultations history questions ++ later)) question mesh := by
  induction questions generalizing history with
  | nil => simp [consultations]
  | cons question questions inductionHypothesis =>
    rw [consultations, List.mem_append, List.exists_mem_cons_iff, List.append_assoc,
      mem_consulted_iff surroundings history, inductionHypothesis, List.append_assoc]

theorem consultations_append (history : List Mesh) (earlier later : List Question) :
    surroundings.consultations history (earlier ++ later) =
      surroundings.consultations history earlier ++
        surroundings.consultations (history ++ surroundings.consultations history earlier) later := by
  induction earlier generalizing history with
  | nil => simp [consultations]
  | cons question earlier inductionHypothesis =>
    rw [List.cons_append, consultations, consultations, inductionHypothesis, List.append_assoc, List.append_assoc]

/-- Later calls consult after the earlier ones. -/
theorem history_append (earlier later : List Call) :
    surroundings.history (earlier ++ later) = surroundings.history earlier ++
      surroundings.consultations (surroundings.history earlier) (later.flatMap Call.questions) := by
  unfold history
  rw [List.flatMap_append, consultations_append, List.nil_append]

theorem configOf_of_istio {istio : IstioMesh} (isIstio : mesh.istio = some istio) :
    surroundings.configOf mesh = currentConfig surroundings.detector.configMaps istio := by
  rw [configOf, Detector.freshConfig, isIstio, Option.map_some, Option.getD_some]

variable {surroundings} {anomaly : Anomaly}

/-- Of a history only the first mesh under the key of an anomaly matters for it. -/
theorem due_congr {history other : List Mesh}
    (same : firstUnder history anomaly.mesh = firstUnder other anomaly.mesh) :
    surroundings.Due history anomaly ↔ surroundings.Due other anomaly := by
  rw [Due, Due, same]

theorem Due.exists_first {history : List Mesh} (due : surroundings.Due history anomaly) :
    ∃ first, firstUnder history anomaly.mesh = some first := by
  obtain ⟨mesh, _, found, _⟩ := due
  exact ⟨mesh, found⟩

end Surroundings

theorem mem_currentAnomalies_iff {configMaps : ConfigMaps} {mesh : Mesh} {istio : IstioMesh} {anomaly : Anomaly} :
    anomaly ∈ currentAnomalies configMaps mesh istio ↔
      anomaly.mesh = mesh.key ∧ loadConfig istio configMaps = .error anomaly.error := by
  unfold currentAnomalies
  cases loadConfig istio configMaps with
  | ok config => simp
  | error error =>
    rw [List.mem_singleton]
    constructor
    · rintro rfl
      exact ⟨rfl, rfl⟩
    · rintro ⟨keys, errors⟩
      cases anomaly
      cases keys
      cases errors
      rfl

namespace Detector

variable {surroundings : Surroundings} {history : List Mesh} {detector : Detector} {mesh : Mesh}

/-- The detector after a question. -/
def ask (detector : Detector) (question : Question) : Detector :=
  (detector.detect question.workload question.meshes).2

/-- The detector after some calls. -/
def after (detector : Detector) (calls : List Call) : Detector :=
  calls.foldl (fun detector call => (detector.answer call).2) detector

theorem after_append (detector : Detector) (earlier later : List Call) :
    detector.after (earlier ++ later) = (detector.after earlier).after later :=
  List.foldl_append

/-- A workload that runs the proxy consults nothing. -/
theorem detect_snd_of_runsProxy {workload : Workload} (proxy : runsProxy workload = true) (meshes : List Mesh) :
    (detector.detect workload meshes).2 = detector := by
  induction meshes with
  | nil => rfl
  | cons mesh meshes inductionHypothesis =>
    rw [detect_cons, if_pos proxy]
    split_ifs
    · rfl
    · exact inductionHypothesis

theorem attributeOne_snd (meshes : List Mesh) (state : Membership × Detector) (workload : Workload) :
    (attributeOne meshes state workload).2 = state.2.ask ⟨workload, meshes⟩ := by
  rw [attributeOne_eq]
  rfl

/-- A call leaves behind the detector that its questions leave behind. -/
theorem answer_snd (detector : Detector) (call : Call) :
    (detector.answer call).2 = call.questions.foldl ask detector := by
  cases call with
  | detect workload meshes => rfl
  | attributeAll workloads meshes =>
    have folded (state : Membership × Detector) :
        (workloads.foldl (attributeOne meshes) state).2 =
          (workloads.map fun workload => ⟨workload, meshes⟩).foldl ask state.2 := by
      induction workloads generalizing state with
      | nil => rfl
      | cons workload workloads inductionHypothesis =>
        rw [List.foldl_cons, List.map_cons, List.foldl_cons, ← attributeOne_snd, inductionHypothesis]
    exact folded ({}, detector)

theorem after_eq_foldl_ask (detector : Detector) (calls : List Call) :
    detector.after calls = (calls.flatMap Call.questions).foldl ask detector := by
  rw [List.foldl_flatMap]
  exact List.foldl_ext _ _ detector fun detector call _ => answer_snd detector call

/-- What a detector holds after a history of consultations: under each key the configuration of the first mesh,
and the failures of first consultations in their order. -/
structure Recalls (surroundings : Surroundings) (history : List Mesh) (detector : Detector) : Prop where
  configMaps : detector.configMaps = surroundings.detector.configMaps
  ignored : detector.ignored = surroundings.detector.ignored
  injected : detector.injected = surroundings.detector.injected
  configs : ∀ key, detector.configs.get? key = (firstUnder history key).map surroundings.configOf
  due : ∀ anomaly, anomaly ∈ detector.anomalies ↔ surroundings.Due history anomaly
  ordered : detector.anomalies.Pairwise fun earlier later =>
    placeOf history earlier.mesh < placeOf history later.mesh

namespace Recalls

theorem start (surroundings : Surroundings) : Recalls surroundings [] surroundings.detector where
  configMaps := rfl
  ignored := rfl
  injected := rfl
  configs _ := rfl
  due anomaly := by
    refine iff_of_false List.not_mem_nil ?_
    rintro ⟨mesh, istio, found, _⟩
    cases found
  ordered := .nil

/-- The anomalies keep their places when more is consulted. -/
theorem ordered_append (recalls : Recalls surroundings history detector) (later : List Mesh) :
    detector.anomalies.Pairwise fun first second =>
      placeOf (history ++ later) first.mesh < placeOf (history ++ later) second.mesh := by
  refine recalls.ordered.imp_of_mem fun {first second} member otherMember before => ?_
  obtain ⟨_, seen⟩ := ((recalls.due first).1 member).exists_first
  obtain ⟨_, otherSeen⟩ := ((recalls.due second).1 otherMember).exists_first
  rwa [placeOf_append seen, placeOf_append otherSeen]

/-- A detector that is asked for a configuration again has nothing to remember. -/
theorem append_seen (recalls : Recalls surroundings history detector) {first : Mesh}
    (seen : firstUnder history mesh.key = some first) : Recalls surroundings (history ++ [mesh]) detector where
  configMaps := recalls.configMaps
  ignored := recalls.ignored
  injected := recalls.injected
  configs key := by rw [recalls.configs, firstUnder_append_singleton_of_seen seen]
  due anomaly := by
    rw [recalls.due]
    exact Surroundings.due_congr (firstUnder_append_singleton_of_seen seen _).symm
  ordered := recalls.ordered_append [mesh]

/-- A detector that is asked for a configuration for the first time remembers it, and the failure to load it. -/
theorem append_unseen (recalls : Recalls surroundings history detector)
    (unseen : firstUnder history mesh.key = none) {istio : IstioMesh} (isIstio : mesh.istio = some istio) :
    Recalls surroundings (history ++ [mesh]) { detector with
      configs := detector.configs.insert mesh.key (surroundings.configOf mesh)
      anomalies := detector.anomalies ++ currentAnomalies surroundings.detector.configMaps mesh istio } where
  configMaps := recalls.configMaps
  ignored := recalls.ignored
  injected := recalls.injected
  configs key := by
    rw [SortedMap.get?_insert_of_lawful, firstUnder_append, firstUnder_singleton]
    by_cases same : key = mesh.key
    · rw [if_pos same, if_pos same.symm, same, unseen, Option.none_or, Option.map_some]
    · rw [if_neg same, if_neg (Ne.symm same), Option.or_none, recalls.configs]
  due anomaly := by
    rw [List.mem_append, recalls.due, mem_currentAnomalies_iff]
    by_cases same : anomaly.mesh = mesh.key
    · have first : firstUnder (history ++ [mesh]) anomaly.mesh = some mesh := by
        rw [same, firstUnder_append, unseen, firstUnder_singleton, if_pos rfl, Option.none_or]
      constructor
      · rintro (due | ⟨_, failed⟩)
        · obtain ⟨_, seen⟩ := due.exists_first
          rw [same, unseen] at seen
          cases seen
        · exact ⟨mesh, istio, first, isIstio, failed⟩
      · rintro ⟨other, otherIstio, found, otherIsIstio, failed⟩
        obtain rfl := Option.some.inj (first.symm.trans found)
        obtain rfl := Option.some.inj (isIstio.symm.trans otherIsIstio)
        exact .inr ⟨same, failed⟩
    · have untouched : firstUnder history anomaly.mesh = firstUnder (history ++ [mesh]) anomaly.mesh := by
        rw [firstUnder_append, firstUnder_singleton, if_neg (Ne.symm same), Option.or_none]
      rw [or_iff_left fun noted => same noted.1, Surroundings.due_congr untouched]
  ordered := by
    refine List.pairwise_append.2 ⟨recalls.ordered_append [mesh], ?_, fun first member second noted => ?_⟩
    · unfold currentAnomalies
      cases loadConfig istio surroundings.detector.configMaps <;> simp
    · obtain ⟨_, seen⟩ := ((recalls.due first).1 member).exists_first
      rw [(mem_currentAnomalies_iff.1 noted).1, placeOf_append seen, placeOf_append_singleton_of_unseen unseen]
      exact placeOf_lt_length seen

/-- A consultation gives the configuration that counts after the history, and becomes its last entry. -/
theorem configFor (recalls : Recalls surroundings history detector) {istio : IstioMesh}
    (isIstio : mesh.istio = some istio) :
    (detector.configFor mesh).1 = surroundings.configOf (countingFor history mesh) ∧
      Recalls surroundings (history ++ [mesh]) (detector.configFor mesh).2 := by
  have held := recalls.configs mesh.key
  unfold countingFor
  cases first : firstUnder history mesh.key with
  | some counting =>
    rw [first, Option.map_some] at held
    have unchanged : detector.configFor mesh = (surroundings.configOf counting, detector) := by
      simp [Detector.configFor, held]
    rw [unchanged]
    exact ⟨rfl, recalls.append_seen first⟩
  | none =>
    rw [first, Option.map_none] at held
    have loaded : currentConfig detector.configMaps istio = surroundings.configOf mesh := by
      rw [recalls.configMaps, surroundings.configOf_of_istio isIstio]
    have noted : currentAnomalies detector.configMaps mesh istio =
        currentAnomalies surroundings.detector.configMaps mesh istio := by rw [recalls.configMaps]
    rw [configFor_of_unheld held isIstio, loaded, noted]
    exact ⟨rfl, recalls.append_unseen first isIstio⟩

/-- The injector of a mesh decides by the configuration that counts for the mesh. -/
theorem injects (recalls : Recalls surroundings history detector) (workload : Workload) {istio : IstioMesh}
    (isIstio : mesh.istio = some istio) :
    (detector.injects workload mesh).1 = surroundings.injectsAfter history workload mesh ∧
      Recalls surroundings (history ++ [mesh]) (detector.injects workload mesh).2 := by
  obtain ⟨counts, after⟩ := recalls.configFor isIstio
  refine ⟨?_, after⟩
  unfold Detector.injects Surroundings.injectsAfter
  dsimp only
  rw [counts, after.ignored, recalls.injected]

/-- A workload without a proxy that is compared with meshes consults what the history says. -/
theorem detect (recalls : Recalls surroundings history detector) {workload : Workload}
    (noProxy : runsProxy workload = false) (meshes : List Mesh) :
    Recalls surroundings (history ++ surroundings.consultedAmong history workload meshes)
      (detector.detect workload meshes).2 := by
  -- Each consultation lengthens the history, so the later meshes meet any detector that recalls one.
  induction meshes generalizing history detector with
  | nil => simpa [Surroundings.consultedAmong, Detector.detect] using recalls
  | cons mesh meshes inductionHypothesis =>
    rw [detect_cons, Surroundings.consultedAmong, noProxy, if_neg Bool.false_ne_true]
    by_cases candidate : isCandidate workload mesh = true
    · obtain ⟨istio, isIstio, _⟩ := (isCandidate_iff workload mesh).1 candidate
      obtain ⟨decided, after⟩ := recalls.injects workload isIstio
      rw [if_pos candidate, if_pos candidate, decided]
      split_ifs
      · exact after
      · simpa using inductionHypothesis after
    · rw [if_neg candidate, if_neg candidate]
      exact inductionHypothesis recalls

/-- After a question a detector recalls what the question consults. -/
theorem ask (recalls : Recalls surroundings history detector) (question : Question) :
    Recalls surroundings (history ++ surroundings.consulted history question) (detector.ask question) := by
  unfold Detector.ask Surroundings.consulted
  by_cases proxy : runsProxy question.workload = true
  · rw [if_pos proxy, List.append_nil, detect_snd_of_runsProxy proxy]
    exact recalls
  · rw [if_neg proxy]
    exact recalls.detect (Bool.not_eq_true _ ▸ proxy) question.meshes

/-- After some questions a detector recalls what they consult, one after the other. -/
theorem foldl_ask (recalls : Recalls surroundings history detector) (questions : List Question) :
    Recalls surroundings (history ++ surroundings.consultations history questions)
      (questions.foldl Detector.ask detector) := by
  induction questions generalizing history detector with
  | nil => simpa [Surroundings.consultations] using recalls
  | cons question questions inductionHypothesis =>
    rw [List.foldl_cons, Surroundings.consultations, ← List.append_assoc]
    exact inductionHypothesis (recalls.ask question)

end Recalls

/-- After any calls a new detector recalls their consultations. -/
theorem recalls_after (surroundings : Surroundings) (calls : List Call) :
    Recalls surroundings (surroundings.history calls) (surroundings.detector.after calls) := by
  rw [after_eq_foldl_ask]
  exact (Recalls.start surroundings).foldl_ask (calls.flatMap Call.questions)

end Detector

end MeshControl.Injection
