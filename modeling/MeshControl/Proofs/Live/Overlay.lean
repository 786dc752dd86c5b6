import MeshControl.Live
import MeshControl.Proofs.Injection.ConfigMaps

/-!
# Overlays

An overlay replaces the records of its cluster, namespaces and config maps alike, and puts the loaded ones last
(`Live.replaced`). What is replaced is gone, so that the last of several overlays for a cluster counts. Overlays for
different clusters leave different lists in different orders, but no look-up of a config map tells them apart, since
all records under one key are on one cluster (`Injection.ConfigMaps.last?_eq_none_or_of_apart`).
-/

namespace MeshControl.Live

open Injection (ConfigMaps)

section Replaced

variable {ρ : Type} (clusterOf : ρ → String) {cluster other : String} (records : List ρ) {loaded : List ρ}

/-- Records in which those on a cluster are replaced by loaded ones. -/
def replaced (cluster : String) (records loaded : List ρ) : List ρ :=
  (records.filter fun record => clusterOf record ≠ cluster) ++ loaded

section Tagged

variable (tagged : ∀ record ∈ loaded, clusterOf record = cluster)
include tagged

/-- The records on the cluster are the loaded ones. -/
theorem filter_replaced_self :
    (replaced clusterOf cluster records loaded).filter (fun record => clusterOf record = cluster) = loaded := by
  have kept : loaded.filter (fun record => clusterOf record = cluster) = loaded :=
    List.filter_eq_self.2 fun record member => decide_eq_true (tagged record member)
  rw [replaced, List.filter_append, kept, List.filter_filter]
  simp

/-- The records on all other clusters stay, in their order. -/
theorem filter_replaced_others :
    (replaced clusterOf cluster records loaded).filter (fun record => clusterOf record ≠ cluster) =
      records.filter fun record => clusterOf record ≠ cluster := by
  have none : loaded.filter (fun record => clusterOf record ≠ cluster) = [] :=
    List.filter_eq_nil_iff.2 fun record member => by simp [tagged record member]
  rw [replaced, List.filter_append, none, List.append_nil, List.filter_filter]
  simp

/-- Of two replacements for one cluster nothing is left of the first. -/
theorem replaced_replaced (later : List ρ) :
    replaced clusterOf cluster (replaced clusterOf cluster records loaded) later =
      replaced clusterOf cluster records later :=
  congrArg (· ++ later) (filter_replaced_others clusterOf records tagged)

/-- A replacement for another cluster keeps what was loaded before. -/
theorem replaced_replaced_of_ne (apart : cluster ≠ other) (later : List ρ) :
    replaced clusterOf other (replaced clusterOf cluster records loaded) later =
      (records.filter fun record => clusterOf record ≠ cluster ∧ clusterOf record ≠ other) ++ loaded ++ later := by
  have kept : loaded.filter (fun record => clusterOf record ≠ other) = loaded :=
    List.filter_eq_self.2 fun record member => by simpa [tagged record member] using apart
  rw [replaced, replaced, List.filter_append, kept, List.filter_filter]
  congr 2
  exact List.filter_congr fun record _ => by rw [Bool.decide_and, Bool.and_comm]

/-- The records on another cluster stay, in their order. -/
theorem filter_replaced_of_ne (apart : other ≠ cluster) :
    (replaced clusterOf cluster records loaded).filter (fun record => clusterOf record = other) =
      records.filter fun record => clusterOf record = other := by
  have among (list : List ρ) : list.filter (fun record => clusterOf record = other) =
      (list.filter fun record => clusterOf record ≠ cluster).filter fun record => clusterOf record = other := by
    rw [List.filter_filter]
    refine List.filter_congr fun record _ => ?_
    by_cases here : clusterOf record = other
    · simp [here, apart]
    · simp [here]
  rw [among, filter_replaced_others clusterOf records tagged, ← among]

end Tagged

end Replaced

namespace InjectionInputs

/-- All loaded records are those of the cluster that was asked. -/
structure Tagged (inputs : InjectionInputs) : Prop where
  namespaces : ∀ record ∈ inputs.namespaces, record.cluster = inputs.cluster
  configMaps : ∀ record ∈ inputs.configMaps, record.cluster = inputs.cluster

variable {first second : InjectionInputs}

theorem applyTo_eq (inputs : InjectionInputs) (input : Input) :
    inputs.applyTo input =
      { input with
        namespaces := replaced NamespaceRecord.cluster inputs.cluster input.namespaces inputs.namespaces
        configMaps := replaced ConfigMapRecord.cluster inputs.cluster input.configMaps inputs.configMaps } :=
  rfl

/-- On its cluster an overlay puts its own namespaces, and on all others it leaves those that are there. -/
theorem namespacesOn_applyTo (tagged : first.Tagged) (input : Input) (cluster : String) :
    (first.applyTo input).namespacesOn cluster =
      if cluster = first.cluster then first.namespaces else input.namespacesOn cluster := by
  split
  · next own =>
    subst own
    exact filter_replaced_self NamespaceRecord.cluster input.namespaces tagged.namespaces
  · next other =>
    exact filter_replaced_of_ne NamespaceRecord.cluster input.namespaces tagged.namespaces other

/-- Of two overlays for one cluster nothing is left of the first. -/
theorem applyTo_applyTo (tagged : first.Tagged) (same : first.cluster = second.cluster) (input : Input) :
    second.applyTo (first.applyTo input) = second.applyTo input := by
  have namespaces : (second.applyTo (first.applyTo input)).namespaces = (second.applyTo input).namespaces := by
    rw [applyTo, applyTo, applyTo, ← same]
    exact replaced_replaced NamespaceRecord.cluster input.namespaces tagged.namespaces second.namespaces
  have configMaps : (second.applyTo (first.applyTo input)).configMaps = (second.applyTo input).configMaps := by
    rw [applyTo, applyTo, applyTo, ← same]
    exact replaced_replaced ConfigMapRecord.cluster input.configMaps tagged.configMaps second.configMaps
  exact congrArg₂ (fun namespaces configMaps => { input with namespaces, configMaps }) namespaces configMaps

/-- Config maps that two overlays for different clusters leave are found alike in both orders. -/
theorem last?_applyTo_comm (tagged : first.Tagged) (secondTagged : second.Tagged)
    (apart : first.cluster ≠ second.cluster) (noDot : '.' ∉ first.cluster.toList)
    (secondNoDot : '.' ∉ second.cluster.toList) (input : Input) (key : String) :
    ConfigMaps.last? key (second.applyTo (first.applyTo input)).configMaps =
      ConfigMaps.last? key (first.applyTo (second.applyTo input)).configMaps := by
  have forward : (second.applyTo (first.applyTo input)).configMaps = _ :=
    replaced_replaced_of_ne ConfigMapRecord.cluster input.configMaps tagged.configMaps apart second.configMaps
  have backward : (first.applyTo (second.applyTo input)).configMaps = _ :=
    replaced_replaced_of_ne ConfigMapRecord.cluster input.configMaps secondTagged.configMaps apart.symm
      first.configMaps
  simp only [forward, backward, and_comm, ConfigMaps.last?_append]
  rcases ConfigMaps.last?_eq_none_or_of_apart tagged.configMaps secondTagged.configMaps noDot secondNoDot apart
    key with none | none
  · rw [none, Option.none_or, Option.none_or]
  · rw [none, Option.none_or, Option.none_or]

/-- An overlay replaces what an input holds for its cluster by the loaded records, in their order, and leaves
everything else as it is and where it stands. The last of several overlays for one cluster counts, so that one is as
good as two. Overlays for different clusters may come in either order: every cluster has the same namespaces, and
every look-up of a config map finds the same, unless a cluster has a dot in its name. -/
theorem overlays_replace_by_cluster (input : Input) (tagged : first.Tagged) (secondTagged : second.Tagged) :
    let overlaid := first.applyTo input
    overlaid.namespacesOn first.cluster = first.namespaces ∧
      overlaid.configMaps.filter (fun record => record.cluster = first.cluster) = first.configMaps ∧
      overlaid.namespaces.filter (fun record => record.cluster ≠ first.cluster) =
        input.namespaces.filter (fun record => record.cluster ≠ first.cluster) ∧
      overlaid.configMaps.filter (fun record => record.cluster ≠ first.cluster) =
        input.configMaps.filter (fun record => record.cluster ≠ first.cluster) ∧
      overlaid = { input with namespaces := overlaid.namespaces, configMaps := overlaid.configMaps } ∧
      first.applyTo overlaid = overlaid ∧
      (first.cluster = second.cluster → second.applyTo overlaid = second.applyTo input) ∧
      (first.cluster ≠ second.cluster →
        (∀ cluster, (second.applyTo overlaid).namespacesOn cluster =
          (first.applyTo (second.applyTo input)).namespacesOn cluster) ∧
        ('.' ∉ first.cluster.toList → '.' ∉ second.cluster.toList →
          ∀ ref, (ConfigMaps.ofList (second.applyTo overlaid).configMaps).find ref =
            (ConfigMaps.ofList (first.applyTo (second.applyTo input)).configMaps).find ref)) := by
  intro overlaid
  refine ⟨(namespacesOn_applyTo tagged input first.cluster).trans (if_pos rfl), ?_, ?_, ?_, rfl,
    applyTo_applyTo tagged rfl input, fun same => applyTo_applyTo tagged same input, fun apart => ⟨?_, ?_⟩⟩
  · exact filter_replaced_self ConfigMapRecord.cluster input.configMaps tagged.configMaps
  · exact filter_replaced_others NamespaceRecord.cluster input.namespaces tagged.namespaces
  · exact filter_replaced_others ConfigMapRecord.cluster input.configMaps tagged.configMaps
  · intro cluster
    simp only [overlaid, namespacesOn_applyTo tagged, namespacesOn_applyTo secondTagged]
    by_cases own : cluster = first.cluster
    · rw [if_pos own, if_pos own, if_neg (own ▸ apart)]
    · rw [if_neg own, if_neg own]
  · intro noDot secondNoDot ref
    exact ConfigMaps.find_congr (last?_applyTo_comm tagged secondTagged apart noDot secondNoDot input ref.key)

section TwoClusters

private def scattered : Input where
  namespaces := [⟨"shop", "east", ∅⟩, ⟨"shop", "north", ∅⟩, ⟨"mail", "west", ∅⟩, ⟨"shop", "west", ∅⟩]
  configMaps := [⟨"istio-sidecar-injector-1.9", "mesh", "east", ∅⟩, ⟨"istio", "mesh", "north", ∅⟩]

private def eastLoaded : InjectionInputs where
  cluster := "east"
  namespaces := [⟨"shop", "east", .ofList [("istio-injection", "enabled")]⟩]
  configMaps := [⟨"istio-sidecar-injector", "mesh", "east", ∅⟩]

private def westLoaded : InjectionInputs where
  cluster := "west"
  namespaces := [⟨"cart", "west", ∅⟩]
  configMaps := [⟨"istio-sidecar-injector", "mesh", "west", ∅⟩, ⟨"istio", "mesh", "west", ∅⟩]

/-- The stale records of two clusters are replaced in either order, and the dotted name is no longer found. -/
theorem overlays_replace_by_cluster_scattered :
    eastLoaded.Tagged ∧ westLoaded.Tagged ∧
      (eastLoaded.applyTo scattered).namespaces =
        [⟨"shop", "north", ∅⟩, ⟨"mail", "west", ∅⟩, ⟨"shop", "west", ∅⟩] ++ eastLoaded.namespaces ∧
      westLoaded.applyTo (eastLoaded.applyTo scattered) ≠ eastLoaded.applyTo (westLoaded.applyTo scattered) ∧
      (ConfigMaps.ofList (westLoaded.applyTo (eastLoaded.applyTo scattered)).configMaps).find
          ⟨"istio-sidecar-injector-1.9", "mesh", "east"⟩ =
        .error (.configMapNotFound ⟨"istio-sidecar-injector-1.9", "mesh", "east"⟩) := by
  have eastTagged : eastLoaded.Tagged := ⟨by decide, by decide⟩
  have westTagged : westLoaded.Tagged := ⟨by decide, by decide⟩
  obtain ⟨_, _, _, _, _, _, _, commute⟩ := overlays_replace_by_cluster scattered eastTagged westTagged
  obtain ⟨_, found⟩ := commute (by decide)
  refine ⟨eastTagged, westTagged, by decide, by decide, ?_⟩
  rw [found (by decide) (by decide)]
  decide +kernel

end TwoClusters

end InjectionInputs

end MeshControl.Live
