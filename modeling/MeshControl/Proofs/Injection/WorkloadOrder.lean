import MeshControl.Proofs.Injection.Consultations

/-!
# The order of workloads does not matter

A detector learns while it attributes workloads, so the order of the workloads decides which of them makes it load
a configuration. Among meshes with different keys this shows neither in the membership nor in what is noted:
`Detector.attribution_of_any_order` compares one call with another order of the workloads, and with several calls
that share them out.
-/

namespace MeshControl.Injection

/-- All attributions of some memberships together. Of several for one key the last one counts. -/
def Membership.unite (memberships : List Membership) : Membership :=
  ⟨.ofList (memberships.flatMap fun membership => membership.byWorkload.entries)⟩

namespace Detector

/-- The memberships of some lists of workloads that are attributed one after the other, and the detector after
all of them. -/
def attributeParts (meshes : List Mesh) (detector : Detector) : List (List Workload) → List Membership × Detector
  | [] => ([], detector)
  | part :: parts =>
    let (membership, detector) := detector.attributeAll part meshes
    let (memberships, detector) := attributeParts meshes detector parts
    (membership :: memberships, detector)

/-- The questions of calls that attribute workloads among the same meshes. -/
def questionsAmong (meshes : List Mesh) (workloads : List Workload) : List Question :=
  workloads.map fun workload => ⟨workload, meshes⟩

variable {detector later : Detector} {meshes : List Mesh}

theorem keys_entries_sublist (detector : Detector) (meshes : List Mesh) (workloads : List Workload) :
    ((detector.entries meshes workloads).map (·.1)).Sublist (workloads.map Workload.key) := by
  unfold entries
  induction workloads with
  | nil => exact .slnil
  | cons workload workloads inductionHypothesis =>
    cases found : meshes.find? (detector.takes workload) with
    | none => simpa [found] using inductionHypothesis.cons workload.key
    | some mesh => simpa [found] using inductionHypothesis.cons_cons workload.key

theorem entries_flatten (detector : Detector) (meshes : List Mesh) (parts : List (List Workload)) :
    detector.entries meshes parts.flatten = parts.flatMap (detector.entries meshes) := by
  induction parts with
  | nil => rfl
  | cons part parts inductionHypothesis =>
    rw [List.flatten_cons, entries, List.filterMap_append, List.flatMap_cons, ← inductionHypothesis]
    rfl

theorem attributeParts_snd (detector : Detector) (meshes : List Mesh) (parts : List (List Workload)) :
    (attributeParts meshes detector parts).2 =
      (questionsAmong meshes parts.flatten).foldl ask detector := by
  induction parts generalizing detector with
  | nil => rfl
  | cons part parts inductionHypothesis =>
    have asked : (detector.attributeAll part meshes).2 = (questionsAmong meshes part).foldl ask detector :=
      answer_snd detector (.attributeAll part meshes)
    rw [List.flatten_cons, questionsAmong, List.map_append, List.foldl_append]
    exact (inductionHypothesis (detector.attributeAll part meshes).2).trans (by rw [asked]; rfl)

section Distinct

variable (distinct : (meshes.map Mesh.key).Nodup)
include distinct

/-- Several calls store what the detector that is asked first gives to each workload. -/
theorem AnswersLike.attributeParts (like : AnswersLike meshes later detector) (parts : List (List Workload)) :
    (attributeParts meshes later parts).1 = parts.map fun part => ⟨.ofList (detector.entries meshes part)⟩ := by
  induction parts generalizing later with
  | nil => rfl
  | cons part parts inductionHypothesis =>
    obtain ⟨stored, after⟩ := like.attributeAll distinct part
    rw [List.map_cons, ← stored, ← inductionHypothesis after]
    rfl

/-- The membership of workloads with different keys is the same in every order. -/
theorem attributeAll_fst_of_perm (detector : Detector) {workloads reordered : List Workload}
    (workloadKeys : (workloads.map Workload.key).Nodup) (perm : reordered.Perm workloads) :
    (detector.attributeAll reordered meshes).1 = (detector.attributeAll workloads meshes).1 := by
  have like : AnswersLike meshes detector detector := .refl meshes detector
  rw [(like.attributeAll distinct reordered).1, (like.attributeAll distinct workloads).1]
  exact congrArg Membership.mk (SortedMap.ofList_eq_of_perm
    (workloadKeys.sublist (keys_entries_sublist detector meshes workloads)) (perm.filterMap _))

/-- Memberships of parts, united in any order, are the membership of the whole. -/
theorem unite_attributeParts (detector : Detector) {workloads : List Workload}
    (workloadKeys : (workloads.map Workload.key).Nodup) {parts : List (List Workload)}
    (shared : parts.flatten.Perm workloads) {memberships : List Membership}
    (reordered : memberships.Perm (attributeParts meshes detector parts).1) :
    Membership.unite memberships = (detector.attributeAll workloads meshes).1 := by
  have like : AnswersLike meshes detector detector := .refl meshes detector
  have wholeKeys : ((detector.entries meshes workloads).map (·.1)).Nodup :=
    workloadKeys.sublist (keys_entries_sublist detector meshes workloads)
  have partKeys : ∀ part ∈ parts, ((detector.entries meshes part).map (·.1)).Nodup := fun part member =>
    (((shared.map Workload.key).nodup_iff.2 workloadKeys).sublist
      ((List.sublist_flatten_of_mem member).map Workload.key)).sublist (keys_entries_sublist detector meshes part)
  rw [like.attributeParts distinct] at reordered
  rw [(like.attributeAll distinct workloads).1, Membership.unite]
  congr 1
  refine SortedMap.ofList_eq_of_perm wholeKeys ?_
  calc
    (memberships.flatMap fun membership => membership.byWorkload.entries).Perm
        ((parts.map fun part => (⟨.ofList (detector.entries meshes part)⟩ : Membership)).flatMap
          fun membership => membership.byWorkload.entries) := reordered.flatMap_right _
    _ = parts.flatMap fun part => (SortedMap.ofList (detector.entries meshes part)).entries :=
      List.flatMap_map ..
    List.Perm _ (parts.flatMap (detector.entries meshes)) :=
      List.Perm.flatMap_left parts fun part member => SortedMap.entries_ofList_perm (partKeys part member)
    _ = detector.entries meshes parts.flatten := (entries_flatten detector meshes parts).symm
    List.Perm _ (detector.entries meshes workloads) := shared.filterMap _

end Distinct

/-! ### What is consulted in any order -/

section Distinct

variable {surroundings : Surroundings} {history consulted other : List Mesh} {mesh : Mesh} {workload : Workload}
  {workloads reordered : List Workload}
variable (distinct : (meshes.map Mesh.key).Nodup)
include distinct

/-- Among meshes with different keys the first one under a key is the one with the key. -/
theorem firstUnder_eq_some_iff (among : consulted ⊆ meshes) {key : String} :
    firstUnder consulted key = some mesh ↔ mesh ∈ consulted ∧ mesh.key = key :=
  find?_eq_some_iff_of_apart fun _ member _ otherMember =>
    List.inj_on_of_nodup_map distinct (among member) (among otherMember)

/-- Consulting some of the meshes does not change what counts for any of them. -/
theorem countingFor_append (among : consulted ⊆ meshes) (member : mesh ∈ meshes) :
    countingFor (history ++ consulted) mesh = countingFor history mesh := by
  unfold countingFor
  rw [firstUnder_append]
  cases firstUnder history mesh.key with
  | some first => rfl
  | none =>
    cases found : firstUnder consulted mesh.key with
    | none => rfl
    | some first =>
      obtain ⟨inside, same⟩ := (firstUnder_eq_some_iff distinct among).1 found
      rw [List.inj_on_of_nodup_map distinct (among inside) member same]
      rfl

/-- Whether a workload consults one of the meshes does not depend on what else of them was consulted. -/
theorem consults_append (among : consulted ⊆ meshes) :
    surroundings.Consults (history ++ consulted) ⟨workload, meshes⟩ mesh ↔
      surroundings.Consults history ⟨workload, meshes⟩ mesh := by
  have decided (passed rest : List Mesh) (split : meshes = passed ++ mesh :: rest) :
      ∀ other ∈ passed, surroundings.injectsAfter (history ++ consulted) workload other =
        surroundings.injectsAfter history workload other := by
    intro other inside
    unfold Surroundings.injectsAfter
    rw [countingFor_append distinct among (split ▸ List.mem_append_left _ inside)]
  constructor
  · rintro ⟨noProxy, candidate, passed, rest, split, spared⟩
    exact ⟨noProxy, candidate, passed, rest, split, fun other inside here =>
      (decided passed rest split other inside).symm.trans (spared other inside here)⟩
  · rintro ⟨noProxy, candidate, passed, rest, split, spared⟩
    exact ⟨noProxy, candidate, passed, rest, split, fun other inside here =>
      (decided passed rest split other inside).trans (spared other inside here)⟩

omit distinct in
/-- What some workloads consult are meshes among which they are searched. -/
theorem consultations_subset :
    surroundings.consultations history (questionsAmong meshes workloads) ⊆ meshes := by
  intro mesh member
  obtain ⟨question, asked, consults⟩ := (surroundings.mem_consultations_iff history []).1 member
  obtain ⟨workload, _, rfl⟩ := List.mem_map.1 asked
  obtain ⟨passed, rest, split, _⟩ := consults.reached
  have inside : mesh ∈ passed ++ mesh :: rest := List.mem_append_right passed List.mem_cons_self
  rwa [← split] at inside

/-- What some workloads consult is what each of them consults by itself. -/
theorem mem_consultations_among_iff :
    mesh ∈ surroundings.consultations history (questionsAmong meshes workloads) ↔
      ∃ workload ∈ workloads, surroundings.Consults history ⟨workload, meshes⟩ mesh := by
  rw [surroundings.mem_consultations_iff history [], List.append_nil]
  constructor
  · rintro ⟨question, asked, consults⟩
    obtain ⟨workload, member, rfl⟩ := List.mem_map.1 asked
    exact ⟨workload, member, (consults_append distinct consultations_subset).1 consults⟩
  · rintro ⟨workload, member, consults⟩
    exact ⟨⟨workload, meshes⟩, List.mem_map_of_mem member,
      (consults_append distinct consultations_subset).2 consults⟩

/-- The same workloads in another order make the same anomalies due. -/
theorem due_of_perm (perm : reordered.Perm workloads) (anomaly : Anomaly) :
    surroundings.Due (history ++ surroundings.consultations history (questionsAmong meshes reordered)) anomaly ↔
      surroundings.Due (history ++ surroundings.consultations history (questionsAmong meshes workloads)) anomaly := by
  refine Surroundings.due_congr ?_
  rw [firstUnder_append, firstUnder_append]
  congr 1
  refine Option.ext fun mesh => ?_
  rw [firstUnder_eq_some_iff distinct consultations_subset, firstUnder_eq_some_iff distinct consultations_subset,
    mem_consultations_among_iff distinct, mem_consultations_among_iff distinct]
  simp only [perm.mem_iff]

/-- Attributing the same workloads in another order, shared out in any way, notes the same anomalies. -/
theorem mem_anomalies_attributeParts {detector : Detector} (recalls : Recalls surroundings history detector)
    {parts : List (List Workload)} (shared : parts.flatten.Perm workloads) (anomaly : Anomaly) :
    anomaly ∈ (attributeParts meshes detector parts).2.anomalies ↔
      anomaly ∈ (detector.attributeAll workloads meshes).2.anomalies := by
  have whole : (detector.attributeAll workloads meshes).2 = (questionsAmong meshes workloads).foldl ask detector :=
    answer_snd detector (.attributeAll workloads meshes)
  rw [attributeParts_snd, whole, (recalls.foldl_ask (questionsAmong meshes parts.flatten)).due,
    (recalls.foldl_ask (questionsAmong meshes workloads)).due, due_of_perm distinct shared]

end Distinct

/-- A detector that has answered any calls attributes workloads with different keys among meshes with different
keys alike in every order, and alike in one call or in several ones that share them out: the membership is the
same, that of several calls united in any order, and the same anomalies are noted. -/
theorem attribution_of_any_order (surroundings : Surroundings) (earlier : List Call) (meshes : List Mesh)
    (meshKeys : (meshes.map Mesh.key).Nodup) (workloads : List Workload)
    (workloadKeys : (workloads.map Workload.key).Nodup) :
    let detector := surroundings.detector.after earlier
    let whole := detector.attributeAll workloads meshes
    (∀ reordered : List Workload, reordered.Perm workloads →
      (detector.attributeAll reordered meshes).1 = whole.1 ∧
        ∀ anomaly, anomaly ∈ (detector.attributeAll reordered meshes).2.anomalies ↔ anomaly ∈ whole.2.anomalies) ∧
    ∀ parts : List (List Workload), parts.flatten.Perm workloads →
      (∀ memberships : List Membership, memberships.Perm (attributeParts meshes detector parts).1 →
        Membership.unite memberships = whole.1) ∧
      ∀ anomaly, anomaly ∈ (attributeParts meshes detector parts).2.anomalies ↔ anomaly ∈ whole.2.anomalies := by
  intro detector whole
  have recalls := recalls_after surroundings earlier
  constructor
  · intro reordered perm
    have single : [reordered].flatten.Perm workloads := by simpa using perm
    exact ⟨attributeAll_fst_of_perm meshKeys detector workloadKeys perm,
      mem_anomalies_attributeParts meshKeys recalls single⟩
  · intro parts shared
    exact ⟨fun memberships united => unite_attributeParts meshKeys detector workloadKeys shared united,
      mem_anomalies_attributeParts meshKeys recalls shared⟩

section Shop

/-- A mesh on the cluster of all workloads below. -/
private def shopMesh (name : String) (revision : Option String) : Mesh where
  metadata := { name, ns := "orbit" }
  provider := .istio { installation := { ns := "istio-system", cluster := "east" }, revision }

private def shopPods (name : String) (asked : Option String) : Workload where
  metadata := { name, ns := "shop", cluster := "east" }
  podTemplate := { annotations := asked.map fun answer => .ofList [Prod.mk injectAnnotation answer] }

/-- The namespace turns injection on. Only the default revision has a configuration. -/
private def shop : Surroundings where
  namespaces := [⟨"shop", "east", .ofList [(injectionLabel, "enabled")]⟩]
  configMaps := [⟨configMapStem, "istio-system", "east", .ofList [(configKey, "policy: disabled")]⟩,
    ⟨configMapStem ++ "-next", "istio-system", "east", ∅⟩]
  ignored := builtinIgnored

/-- Whichever workload comes first makes the detector load, in vain, the configuration of the first mesh. -/
theorem attribution_of_any_order_shop :
    let meshes := [shopMesh "canary" (some "next"), shopMesh "stable" none]
    let workloads := [shopPods "till" (some "Yes"), shopPods "cart" (some "no"), shopPods "mail" none]
    let parts := [[shopPods "mail" none], [], [shopPods "cart" (some "no"), shopPods "till" (some "Yes")]]
    let detector := shop.detector.after [.detect (shopPods "cart" (some "no")) [shopMesh "stable" none]]
    (meshes.map Mesh.key).Nodup ∧ (workloads.map Workload.key).Nodup ∧ parts.flatten.Perm workloads ∧
      Membership.unite (attributeParts meshes detector parts).1 =
        ⟨.ofList [("till.shop.east", "canary.orbit"), ("mail.shop.east", "canary.orbit")]⟩ ∧
      ∀ anomaly, anomaly ∈ (attributeParts meshes detector parts).2.anomalies ↔
        anomaly = ⟨"canary.orbit", .missingKey "istio-sidecar-injector-next.istio-system.east"⟩ := by
  intro meshes workloads parts detector
  have meshKeys : (meshes.map Mesh.key).Nodup := by decide
  have workloadKeys : (workloads.map Workload.key).Nodup := by decide
  have shared : parts.flatten.Perm workloads := by decide
  have whole : (detector.attributeAll workloads meshes).1 =
      ⟨.ofList [("till.shop.east", "canary.orbit"), ("mail.shop.east", "canary.orbit")]⟩ := by decide +kernel
  have noted : (detector.attributeAll workloads meshes).2.anomalies =
      [⟨"canary.orbit", .missingKey "istio-sidecar-injector-next.istio-system.east"⟩] := by decide +kernel
  obtain ⟨united, alike⟩ := (attribution_of_any_order shop [.detect (shopPods "cart" (some "no"))
    [shopMesh "stable" none]] meshes meshKeys workloads workloadKeys).2 parts shared
  refine ⟨meshKeys, workloadKeys, shared, (united _ (List.Perm.refl _)).trans whole, fun anomaly => ?_⟩
  rw [alike, noted, List.mem_singleton]

end Shop

end Detector

end MeshControl.Injection
