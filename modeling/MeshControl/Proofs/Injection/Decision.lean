import MeshControl.Injection.Detector

/-!
# When an injector gives a workload's pods a sidecar

`Gives` states the decision as a rule over the records: which facts ask for a sidecar, which refuse
one, and which of them count before others. `injectRequired_iff` shows that the decision function
follows the rule, once the namespace's answer is known.
-/

namespace MeshControl.Injection

/-- Some selector that can be compiled and asks for something matches the labels of a workload. -/
def SelectedBy (selectors : List LabelSelector) (workload : Workload) : Prop :=
  ∃ selector ∈ selectors, ∃ compiled, Selector.compile selector = .ok compiled ∧
    compiled.requirements ≠ [] ∧ ∀ requirement ∈ compiled.requirements, requirement.holds workload.labels

/-- The annotation of a workload's pods asks for a sidecar. Letters count without their case. -/
def Asks (workload : Workload) : Prop :=
  ∃ answer, workload.podAnnotation injectAnnotation = some answer ∧
    answer.map Char.toLower ∈ ["y", "yes", "true", "on"]

/-- The pods of a workload have no annotation about sidecars, or an empty one. -/
def Silent (workload : Workload) : Prop :=
  ∀ answer, workload.podAnnotation injectAnnotation = some answer → answer = ""

/-- The record of a namespace turns injection on for the workloads in it. -/
structure TurnsOn (ignored : List String) (record : NamespaceRecord) : Prop where
  notSystem : record.name ≠ systemNamespace
  notIgnored : record.name ∉ ignored
  labelled : record.labels.contains revisionLabel = true ∨
    record.labels.get? injectionLabel = some "enabled"

/-- Some record of a workload's namespace turns injection on. -/
def NamespaceAsks (ignored : List String) (namespaces : List NamespaceRecord) (workload : Workload) : Prop :=
  ∃ record ∈ namespaces, record.name = workload.ns ∧ record.cluster = workload.cluster ∧
    TurnsOn ignored record

/-- The rule by which an injector gives the pods of a workload a sidecar. -/
structure Gives (ignored : List String) (namespaces : List NamespaceRecord) (config : Config)
    (workload : Workload) : Prop where
  ownNetwork : workload.podTemplate.hostNetwork = false
  notIgnored : workload.ns ∉ ignored
  asked : Asks workload ∨
    Silent workload ∧ ¬ SelectedBy config.never workload ∧
      (NamespaceAsks ignored namespaces workload ∨ SelectedBy config.always workload ∨
        config.policy = .enabled)

section Decisions

variable (ignored : List String) (namespaces : List NamespaceRecord) (config : Config)
  (selectors : List LabelSelector) (record : NamespaceRecord) (workload : Workload)

theorem anyMatches_iff : anyMatches selectors workload = true ↔ SelectedBy selectors workload := by
  unfold anyMatches SelectedBy
  rw [List.any_eq_true]
  refine exists_congr fun selector => and_congr_right fun _ => ?_
  cases Selector.compile selector with
  | error error => simp
  | ok compiled => simp [Selector.isEmpty, Selector.holds]

theorem labelsEnable_iff : labelsEnable record ignored = true ↔ TurnsOn ignored record := by
  unfold labelsEnable
  constructor
  · intro enables
    split at enables
    · cases enables
    · next allowed =>
      simp only [Bool.or_eq_true, decide_eq_true_eq, List.contains_iff_mem, not_or] at allowed
      exact ⟨allowed.1, allowed.2, by simpa using enables⟩
  · rintro ⟨notSystem, notIgnored, labelled⟩
    simpa [notSystem, notIgnored] using labelled

@[simp] theorem map_toLower_empty : "".map Char.toLower = "" := String.map_eq_empty.2 rfl

theorem request_eq_injection_iff : request workload = .injection ↔ Asks workload := by
  unfold request Asks
  cases workload.podAnnotation injectAnnotation with
  | none => simp
  | some answer =>
    simp only [Option.getD_some, Option.some.injEq, exists_eq_left', List.mem_cons, List.not_mem_nil,
      or_false]
    split <;> simp_all

theorem request_eq_nothing_iff : request workload = .nothing ↔ Silent workload := by
  unfold request Silent
  cases workload.podAnnotation injectAnnotation with
  | none => simp
  | some answer =>
    have empty : answer.map Char.toLower = "" ↔ answer = "" := String.map_eq_empty
    simp only [Option.getD_some, Option.some.injEq, forall_eq']
    rw [← empty]
    split <;> simp_all

instance : Decidable (SelectedBy selectors workload) := decidable_of_iff _ (anyMatches_iff selectors workload)

instance : Decidable (Asks workload) := decidable_of_iff _ (request_eq_injection_iff workload)

instance : Decidable (Silent workload) := decidable_of_iff _ (request_eq_nothing_iff workload)

instance : Decidable (TurnsOn ignored record) := decidable_of_iff _ (labelsEnable_iff ignored record)

instance : Decidable (NamespaceAsks ignored namespaces workload) :=
  inferInstanceAs (Decidable (∃ record ∈ namespaces, record.name = workload.ns ∧
    record.cluster = workload.cluster ∧ TurnsOn ignored record))

instance : Decidable (Gives ignored namespaces config workload) :=
  decidable_of_iff (workload.podTemplate.hostNetwork = false ∧ workload.ns ∉ ignored ∧
      (Asks workload ∨ Silent workload ∧ ¬ SelectedBy config.never workload ∧
        (NamespaceAsks ignored namespaces workload ∨ SelectedBy config.always workload ∨
          config.policy = .enabled)))
    ⟨fun ⟨ownNetwork, notIgnored, asked⟩ => ⟨ownNetwork, notIgnored, asked⟩,
      fun gives => ⟨gives.ownNetwork, gives.notIgnored, gives.asked⟩⟩

end Decisions

/-- What the pods ask for goes before what is decided without it. -/
theorem match_request_iff (workload : Workload) (otherwise : Bool) :
    (match request workload with
      | .injection => true
      | .refusal => false
      | .nothing => otherwise) = true ↔ Asks workload ∨ Silent workload ∧ otherwise = true := by
  have injection := request_eq_injection_iff workload
  have nothing := request_eq_nothing_iff workload
  cases requested : request workload with
  | injection => exact iff_of_true rfl (.inl (injection.1 requested))
  | refusal =>
    have notAsked : ¬ Asks workload := by simp [← injection, requested]
    have notSilent : ¬ Silent workload := by simp [← nothing, requested]
    simp [notAsked, notSilent]
  | nothing =>
    have notAsked : ¬ Asks workload := by simp [← injection, requested]
    have isSilent : Silent workload := nothing.1 requested
    simp [notAsked, isSilent]

/-- The selectors that refuse go before the namespace, the selectors that ask and the policy. -/
theorem unasked_iff (config : Config) (workload : Workload) (namespaceInjected : Bool) :
    (if anyMatches config.never workload then false
      else if namespaceInjected || anyMatches config.always workload then true
      else decide (config.policy = .enabled)) = true ↔
      ¬ SelectedBy config.never workload ∧
        (namespaceInjected = true ∨ SelectedBy config.always workload ∨ config.policy = .enabled) := by
  rw [← anyMatches_iff, ← anyMatches_iff]
  split
  · next refused => simp [refused]
  · next notRefused =>
    split
    · next asked =>
      rw [Bool.or_eq_true] at asked
      exact iff_of_true rfl ⟨notRefused, or_assoc.1 (.inl asked)⟩
    · next notAsked =>
      simp only [Bool.or_eq_true, not_or] at notAsked
      simp [notRefused, notAsked]

/-- The decision function follows the rule, given the ignored namespaces in any order and the answer of
the namespace where it counts. -/
theorem injectRequired_iff {held ignored : List String} {namespaceInjected : Bool}
    {namespaces : List NamespaceRecord} (config : Config) {workload : Workload}
    (alike : workload.ns ∈ held ↔ workload.ns ∈ ignored)
    (asks : workload.ns ∉ ignored →
      (namespaceInjected = true ↔ NamespaceAsks ignored namespaces workload)) :
    injectRequired held namespaceInjected config workload = true ↔
      Gives ignored namespaces config workload := by
  unfold injectRequired
  split
  · next excluded =>
    simp only [Bool.or_eq_true, List.contains_iff_mem, alike] at excluded
    refine iff_of_false Bool.false_ne_true fun gives => ?_
    rcases excluded with onHost | isIgnored
    · exact absurd onHost (by simp [gives.ownNetwork])
    · exact gives.notIgnored isIgnored
  · next allowed =>
    simp only [Bool.or_eq_true, List.contains_iff_mem, alike, not_or, Bool.not_eq_true] at allowed
    refine (match_request_iff workload _).trans ?_
    rw [unasked_iff, asks allowed.2]
    exact ⟨fun asked => ⟨allowed.1, allowed.2, asked⟩, fun gives => gives.asked⟩

end MeshControl.Injection
