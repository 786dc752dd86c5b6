import MeshControl.Proofs.Injection.Consultations

/-!
# Where ignored namespaces come from

The names of ignored namespaces may stand in a text when a detector is made, or be given to the detector later. A
detector that learns of them later has an index of namespaces that was made without them. This does not show
(`Detector.answers_of_ignored_later`), since a workload of an ignored namespace is refused before the index is looked
at, unless the key of an ignored namespace is also that of another one. `Detector.ActsLike` relates two detectors
with different indexes, and every call keeps it.
-/

namespace MeshControl

/-! ### Lists in a text -/

namespace Text

theorem splitChars_of_not_mem {separator : Char} {chars : List Char} (free : separator ∉ chars) :
    splitChars separator chars = [chars] := by
  induction chars with
  | nil => rfl
  | cons char rest inductionHypothesis =>
    rw [List.mem_cons, not_or] at free
    simp [splitChars, Ne.symm free.1, inductionHypothesis free.2]

theorem splitChars_append {separator : Char} {part : List Char} (free : separator ∉ part) (rest : List Char) :
    splitChars separator (part ++ separator :: rest) = part :: splitChars separator rest := by
  induction part with
  | nil => simp [splitChars]
  | cons char part inductionHypothesis =>
    rw [List.mem_cons, not_or] at free
    simp [splitChars, Ne.symm free.1, inductionHypothesis free.2]

/-- Parts without the separator are found again between the separators that join them. -/
theorem splitChars_intercalate {separator : Char} {parts : List (List Char)} (some : parts ≠ [])
    (free : ∀ part ∈ parts, separator ∉ part) :
    splitChars separator ([separator].intercalate parts) = parts := by
  induction parts with
  | nil => exact absurd rfl some
  | cons part parts inductionHypothesis =>
    rw [List.forall_mem_cons] at free
    cases parts with
    | nil => simpa using splitChars_of_not_mem free.1
    | cons next parts =>
      rw [List.intercalate_cons_cons, List.append_assoc, List.singleton_append, splitChars_append free.1,
        inductionHypothesis (List.cons_ne_nil next parts) free.2]

theorem split_intercalate {parts : List String} (some : parts ≠ []) (free : ∀ part ∈ parts, ',' ∉ part.toList) :
    split ',' (",".intercalate parts) = parts := by
  have comma : ",".toList = [','] := rfl
  unfold split
  rw [String.toList_intercalate, comma, splitChars_intercalate (by simpa using some) (by simpa using free),
    List.map_map]
  simp

/-- A text without white space at its ends is not trimmed. -/
theorem trim_of_ends {text : String} (first : ∀ char ∈ text.toList.head?, isBlank char = false)
    (last : ∀ char ∈ text.toList.getLast?, isBlank char = false) : trim text = text := by
  have kept (chars : List Char) (first : ∀ char ∈ chars.head?, isBlank char = false) :
      chars.dropWhile isBlank = chars := by
    cases chars with
    | nil => rfl
    | cons char rest => simp [first char rfl]
  unfold trim trimChars
  rw [kept _ first, kept, List.reverse_reverse, String.ofList_toList]
  simpa [List.head?_reverse] using last

end Text

namespace Injection

/-- A name that can stand in a list of names: it is not empty and has no comma in it and no white space around it. -/
structure Listable (name : String) : Prop where
  occupied : name ≠ ""
  noComma : ',' ∉ name.toList
  first : ∀ char ∈ name.toList.head?, Text.isBlank char = false
  last : ∀ char ∈ name.toList.getLast?, Text.isBlank char = false

instance (name : String) : Decidable (Listable name) :=
  decidable_of_iff (name ≠ "" ∧ ',' ∉ name.toList ∧ (name.toList.head?.all fun char => !Text.isBlank char) = true ∧
      (name.toList.getLast?.all fun char => !Text.isBlank char) = true)
    ⟨fun ⟨occupied, noComma, first, last⟩ =>
        ⟨occupied, noComma, by simpa [Option.all_eq_true] using first, by simpa [Option.all_eq_true] using last⟩,
      fun listable => ⟨listable.occupied, listable.noComma, by simpa [Option.all_eq_true] using listable.first,
        by simpa [Option.all_eq_true] using listable.last⟩⟩

/-- The names that are listed in a text are ignored besides those that always are. -/
theorem ignoredNamespaces_intercalate {names : List String} (listable : ∀ name ∈ names, Listable name) :
    ignoredNamespaces (some (",".intercalate names)) = addNew builtinIgnored names := by
  unfold ignoredNamespaces
  dsimp only
  cases names with
  | nil => rfl
  | cons name names =>
    rw [Text.split_intercalate (List.cons_ne_nil name names) fun part member => (listable part member).noComma]
    have trimmed : (name :: names).map Text.trim = name :: names :=
      (List.map_congr_left fun part member =>
        Text.trim_of_ends (listable part member).first (listable part member).last).trans (List.map_id _)
    rw [trimmed, List.filter_eq_self.2 fun part member => by simpa using (listable part member).occupied]

/-- The records of listed namespaces are not indexed like the namespaces of some workloads, except under the names
of these. -/
def IndexedApart (names : List String) (namespaces : List NamespaceRecord) (asked : Workload → Prop) : Prop :=
  ∀ record ∈ namespaces, record.name ∈ names → ∀ workload, asked workload →
    namespaceKey record.name record.cluster = namespaceKey workload.ns workload.cluster → record.name = workload.ns

/-- Only a slash in the name of a namespace and another one in the name of a cluster can confuse the index. -/
theorem indexedApart_of_slashes {names : List String} {namespaces : List NamespaceRecord} {asked : Workload → Prop}
    (records : ∀ record ∈ namespaces, ∀ workload, asked workload →
      '/' ∉ record.name.toList ∨ '/' ∉ workload.cluster.toList)
    (workloads : ∀ record ∈ namespaces, ∀ workload, asked workload →
      '/' ∉ workload.ns.toList ∨ '/' ∉ record.cluster.toList) : IndexedApart names namespaces asked :=
  fun record member _ workload isAsked same =>
    name_eq_of_namespaceKey_eq_of_apart (records record member workload isAsked)
      (workloads record member workload isAsked) same

/-- A decision takes from the ignored namespaces only whether the workload's one is among them, and asks the
namespace only if it is not. -/
theorem injectRequired_congr {held ignored : List String} {injected other : Bool} {workload : Workload}
    (alike : workload.ns ∈ held ↔ workload.ns ∈ ignored) (agree : workload.ns ∉ ignored → injected = other)
    (config : Config) :
    injectRequired held injected config workload = injectRequired ignored other config workload := by
  unfold injectRequired
  by_cases isIgnored : workload.ns ∈ ignored
  · simp [isIgnored, alike.2 isIgnored]
  · rw [agree isIgnored]
    simp [isIgnored, mt alike.1 isIgnored]

namespace Detector

/-! ### Detectors that act alike -/

/-- Two detectors that know the same about meshes, and decide alike about some workloads whatever the configuration
of a mesh is. -/
structure ActsLike (asked : Workload → Prop) (later early : Detector) : Prop where
  configMaps : later.configMaps = early.configMaps
  configs : later.configs = early.configs
  anomalies : later.anomalies = early.anomalies
  decides : ∀ workload, asked workload → ∀ config,
    injectRequired later.ignored (later.injected.contains (namespaceKey workload.ns workload.cluster)) config workload =
      injectRequired early.ignored (early.injected.contains (namespaceKey workload.ns workload.cluster)) config workload

namespace ActsLike

variable {asked : Workload → Prop} {later early : Detector} {workload : Workload}

/-- The decisions are about namespaces, so both detectors may come to know other things about meshes. -/
theorem know (like : ActsLike asked later early) (configMaps : ConfigMaps) (configs : TextMap Config)
    (anomalies : List Anomaly) :
    ActsLike asked { later with configMaps, configs, anomalies } { early with configMaps, configs, anomalies } where
  configMaps := rfl
  configs := rfl
  anomalies := rfl
  decides := like.decides

theorem configFor (like : ActsLike asked later early) (mesh : Mesh) :
    (later.configFor mesh).1 = (early.configFor mesh).1 ∧
      ActsLike asked (later.configFor mesh).2 (early.configFor mesh).2 := by
  unfold Detector.configFor
  rw [like.configMaps, like.configs, like.anomalies]
  cases early.configs.get? mesh.key with
  | some config => exact ⟨rfl, like⟩
  | none =>
    cases mesh.istio.map fun istio => loadConfig istio early.configMaps with
    | none => exact ⟨rfl, like.know _ _ _⟩
    | some loaded =>
      cases loaded with
      | ok config => exact ⟨rfl, like.know _ _ _⟩
      | error error => exact ⟨rfl, like.know _ _ _⟩

/-- A load changes neither the ignored namespaces nor the index. -/
theorem injects (like : ActsLike asked later early) (isAsked : asked workload) (mesh : Mesh) :
    (later.injects workload mesh).1 = (early.injects workload mesh).1 ∧
      ActsLike asked (later.injects workload mesh).2 (early.injects workload mesh).2 := by
  obtain ⟨same, after⟩ := like.configFor mesh
  refine ⟨?_, after⟩
  obtain ⟨_, _, laterAfter, _⟩ := configFor_snd later mesh
  obtain ⟨_, _, earlyAfter, _⟩ := configFor_snd early mesh
  simp only [Detector.injects, laterAfter, earlyAfter, same]
  exact like.decides workload isAsked _

theorem detect (like : ActsLike asked later early) (isAsked : asked workload) (meshes : List Mesh) :
    (later.detect workload meshes).1 = (early.detect workload meshes).1 ∧
      ActsLike asked (later.detect workload meshes).2 (early.detect workload meshes).2 := by
  -- Both may have loaded a configuration before they come to the later meshes.
  induction meshes generalizing later early with
  | nil => exact ⟨rfl, like⟩
  | cons mesh meshes inductionHypothesis =>
    obtain ⟨decided, after⟩ := like.injects isAsked mesh
    rw [detect_cons, detect_cons, decided]
    split_ifs
    · exact ⟨rfl, like⟩
    · exact ⟨rfl, after⟩
    · exact inductionHypothesis after
    · exact inductionHypothesis like

theorem attributeOne {laterState earlyState : Membership × Detector}
    (like : ActsLike asked laterState.2 earlyState.2) (sameSoFar : laterState.1 = earlyState.1)
    (isAsked : asked workload) (meshes : List Mesh) :
    (Detector.attributeOne meshes laterState workload).1 = (Detector.attributeOne meshes earlyState workload).1 ∧
      ActsLike asked (Detector.attributeOne meshes laterState workload).2
        (Detector.attributeOne meshes earlyState workload).2 := by
  obtain ⟨detected, after⟩ := like.detect isAsked meshes
  rw [attributeOne_eq, attributeOne_eq, sameSoFar, detected]
  exact ⟨rfl, after⟩

theorem foldl_attributeOne {laterState earlyState : Membership × Detector}
    (like : ActsLike asked laterState.2 earlyState.2) (sameSoFar : laterState.1 = earlyState.1)
    {workloads : List Workload} (areAsked : ∀ workload ∈ workloads, asked workload) (meshes : List Mesh) :
    (workloads.foldl (Detector.attributeOne meshes) laterState).1 =
        (workloads.foldl (Detector.attributeOne meshes) earlyState).1 ∧
      ActsLike asked (workloads.foldl (Detector.attributeOne meshes) laterState).2
        (workloads.foldl (Detector.attributeOne meshes) earlyState).2 := by
  induction workloads generalizing laterState earlyState with
  | nil => exact ⟨sameSoFar, like⟩
  | cons workload workloads inductionHypothesis =>
    rw [List.forall_mem_cons] at areAsked
    obtain ⟨same, after⟩ := like.attributeOne sameSoFar areAsked.1 meshes
    exact inductionHypothesis after same areAsked.2

theorem answer (like : ActsLike asked later early) {call : Call}
    (areAsked : ∀ workload ∈ call.workloads, asked workload) :
    (later.answer call).1 = (early.answer call).1 ∧ ActsLike asked (later.answer call).2 (early.answer call).2 := by
  cases call with
  | detect workload meshes =>
    obtain ⟨detected, after⟩ := like.detect (areAsked workload List.mem_cons_self) meshes
    exact ⟨congrArg Answer.mesh detected, after⟩
  | attributeAll workloads meshes =>
    have start : ActsLike asked (({}, later) : Membership × Detector).2 (({}, early) : Membership × Detector).2 := like
    obtain ⟨attributed, after⟩ := start.foldl_attributeOne rfl areAsked meshes
    exact ⟨congrArg Answer.membership attributed, after⟩

/-- Detectors that act alike give the same answers to any calls about the workloads, and act alike after them. -/
theorem answers (like : ActsLike asked later early) {calls : List Call}
    (areAsked : ∀ call ∈ calls, ∀ workload ∈ call.workloads, asked workload) :
    later.answers calls = early.answers calls ∧ ActsLike asked (later.after calls) (early.after calls) := by
  induction calls generalizing later early with
  | nil => exact ⟨rfl, like⟩
  | cons call calls inductionHypothesis =>
    rw [List.forall_mem_cons] at areAsked
    obtain ⟨answered, next⟩ := like.answer areAsked.1
    obtain ⟨rest, last⟩ := inductionHypothesis next areAsked.2
    refine ⟨?_, last⟩
    rw [Detector.answers, Detector.answers, answered, rest]

end ActsLike

/-! ### Ignoring from the start or later -/

/-- Names that are given to a detector in several calls might as well be given in one. -/
theorem foldl_ignore (detector : Detector) (parts : List (List String)) :
    parts.foldl ignore detector = detector.ignore parts.flatten := by
  induction parts generalizing detector with
  | nil => rfl
  | cons part parts inductionHypothesis =>
    rw [List.foldl_cons, inductionHypothesis, List.flatten_cons]
    simp only [ignore, addNew, List.foldl_append]

/-- What the index of a detector holds too much, since it was made before the detector knew of ignored namespaces,
are the keys of ignored namespaces. -/
theorem actsLike_ignore {ignored names extra : List String} {namespaces : List NamespaceRecord}
    {asked : Workload → Prop} (same : ∀ name, name ∈ extra ↔ name ∈ names)
    (apart : IndexedApart names namespaces asked) (configMaps : ConfigMaps) :
    ActsLike asked ((Detector.new ignored namespaces configMaps).ignore extra)
      (Detector.new (addNew ignored names) namespaces configMaps) where
  configMaps := rfl
  configs := rfl
  anomalies := rfl
  decides := by
    intro workload isAsked config
    have alike : workload.ns ∈ addNew ignored extra ↔ workload.ns ∈ addNew ignored names := by
      rw [mem_addNew, mem_addNew, same]
    refine injectRequired_congr alike (fun notIgnored => ?_) config
    rw [ignore_injected, Bool.eq_iff_iff, List.contains_iff_mem, List.contains_iff_mem, mem_injected_new, mem_injected_new]
    refine exists_congr fun record => and_congr_right fun member => and_congr_left fun key => ?_
    constructor
    · rintro ⟨notSystem, outside, labelled⟩
      refine ⟨notSystem, fun inside => ?_, labelled⟩
      -- The namespace of the record is in the list, so it is the ignored one of the workload.
      have listed : record.name ∈ names := (mem_addNew.1 inside).resolve_left outside
      exact notIgnored (apart record member listed workload isAsked key ▸ inside)
    · rintro ⟨notSystem, outside, labelled⟩
      exact ⟨notSystem, fun inside => outside (mem_addNew.2 (.inl inside)), labelled⟩

/-- Names of ignored namespaces that are listed in a text when a detector is made, and the same names given to the
detector later, in one or several calls, in any order and any number of times, make detectors with the same answers
and the same anomalies. The index that was made before the names were given does not show, unless a workload is
asked about whose namespace is indexed like another one in the list. -/
theorem answers_of_ignored_later (names : List String) (listable : ∀ name ∈ names, Listable name)
    (parts : List (List String)) (same : ∀ name, name ∈ parts.flatten ↔ name ∈ names)
    (namespaces : List NamespaceRecord) (configMaps : ConfigMaps) (calls : List Call)
    (apart : IndexedApart names namespaces fun workload => ∃ call ∈ calls, workload ∈ call.workloads) :
    let early := Detector.new (ignoredNamespaces (some (",".intercalate names))) namespaces configMaps
    let later := parts.foldl ignore (Detector.new (ignoredNamespaces none) namespaces configMaps)
    later.answers calls = early.answers calls ∧ (later.after calls).anomalies = (early.after calls).anomalies := by
  intro early later
  have like : ActsLike (fun workload => ∃ call ∈ calls, workload ∈ call.workloads) later early := by
    have listed : early = Detector.new (addNew builtinIgnored names) namespaces configMaps := by
      rw [← ignoredNamespaces_intercalate listable]
    have given : later = (Detector.new builtinIgnored namespaces configMaps).ignore parts.flatten :=
      foldl_ignore _ parts
    rw [listed, given]
    exact actsLike_ignore same apart configMaps
  obtain ⟨answered, last⟩ := like.answers fun call member workload inside => ⟨call, member, inside⟩
  exact ⟨answered, last.anomalies⟩

section Park

/-- The only mesh on its cluster. -/
private def parkMesh : Mesh where
  metadata := { name := "istiod", ns := "orbit" }
  provider := .istio { installation := { ns := "istio-system", cluster := "east" } }

/-- A mesh without a configuration, on a cluster with a slash in its name. -/
private def islandMesh : Mesh where
  metadata := { name := "island", ns := "orbit" }
  provider := .istio { installation := { ns := "istio-system", cluster := "eu/east" } }

private def parkPods (name ns cluster : String) (asked : Option String) : Workload where
  metadata := { name, ns, cluster }
  podTemplate := { annotations := asked.map fun answer => .ofList [Prod.mk injectAnnotation answer] }

private def turnedOn (name cluster : String) : NamespaceRecord := ⟨name, cluster, .ofList [(injectionLabel, "enabled")]⟩

private def parkConfig : ConfigMaps :=
  .ofList [⟨configMapStem, "istio-system", "east", .ofList [(configKey, "policy: disabled")]⟩]

private def parkCalls : List Call :=
  [.attributeAll [parkPods "pinball" "arcade" "east" none, parkPods "cart" "shop" "east" none,
      parkPods "night" "jobs" "east" (some "yes"), parkPods "mail" "post" "eu/east" none] [parkMesh, islandMesh],
    .detect (parkPods "racer" "arcade" "eu/east" (some "yes")) [islandMesh]]

/-- The detector that ignores the namespace `arcade` later has its key in the index, to no effect. -/
theorem answers_of_ignored_later_arcade :
    let names := ["arcade", "jobs"]
    let parts := [["jobs", "arcade"], [], ["jobs"]]
    let namespaces := [turnedOn "arcade" "east", turnedOn "shop" "east", turnedOn "arcade" "eu/east"]
    let early := Detector.new (ignoredNamespaces (some (",".intercalate names))) namespaces parkConfig
    let later := parts.foldl ignore (Detector.new (ignoredNamespaces none) namespaces parkConfig)
    (∀ name ∈ names, Listable name) ∧ (∀ name, name ∈ parts.flatten ↔ name ∈ names) ∧
      IndexedApart names namespaces (fun workload => ∃ call ∈ parkCalls, workload ∈ call.workloads) ∧
      early.injected = ["shop/east"] ∧ later.injected = ["arcade/east", "shop/east", "arcade/eu/east"] ∧
      later.answers parkCalls =
        [.membership ⟨.ofList [("cart.shop.east", "istiod.orbit")]⟩, .mesh none] ∧
      (later.after parkCalls).anomalies = [⟨"island.orbit",
        .configMapNotFound ⟨"istio-sidecar-injector", "istio-system", "eu/east"⟩⟩] := by
  intro names parts namespaces early later
  have listable : ∀ name ∈ names, Listable name := by decide
  have same : ∀ name, name ∈ parts.flatten ↔ name ∈ names := by simp [parts, names, or_comm]
  have apart : IndexedApart names namespaces fun workload => ∃ call ∈ parkCalls, workload ∈ call.workloads := by
    have records : ∀ record ∈ namespaces, '/' ∉ record.name.toList := by decide
    have workloads : ∀ call ∈ parkCalls, ∀ workload ∈ call.workloads, '/' ∉ workload.ns.toList := by decide
    exact indexedApart_of_slashes (fun record member _ _ => .inl (records record member))
      fun _ _ workload ⟨call, member, inside⟩ => .inl (workloads call member workload inside)
  obtain ⟨answered, noted⟩ :=
    answers_of_ignored_later names listable parts same namespaces parkConfig parkCalls apart
  refine ⟨listable, same, apart, by decide, by decide, answered.trans ?_, noted.trans ?_⟩
  · decide +kernel
  · decide +kernel

/-- The namespace `shop` on the cluster `eu/east` has the same key as the namespace `shop/eu` on the cluster `east`,
so the detector that ignores `shop` later takes the labels of the one for those of the other. -/
theorem ignored_later_shows_through_key :
    let namespaces := [turnedOn "shop" "eu/east"]
    let calls := [.detect (parkPods "cart" "shop/eu" "east" none) [parkMesh]]
    let early := Detector.new (ignoredNamespaces (some (",".intercalate ["shop"]))) namespaces parkConfig
    let later := [["shop"]].foldl ignore (Detector.new (ignoredNamespaces none) namespaces parkConfig)
    (∀ name ∈ ["shop"], Listable name) ∧ early.answers calls = [.mesh none] ∧
      later.answers calls = [.mesh (some parkMesh)] ∧ later.answers calls ≠ early.answers calls := by
  intro namespaces calls early later
  have refused : early.answers calls = [.mesh none] := by decide +kernel
  have taken : later.answers calls = [.mesh (some parkMesh)] := by decide +kernel
  refine ⟨by decide, refused, taken, ?_⟩
  rw [refused, taken]
  decide

end Park

end Detector

end Injection

end MeshControl
