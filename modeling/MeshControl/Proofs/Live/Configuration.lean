import MeshControl.Proofs.Lists
import MeshControl.Proofs.Live.Overlay

/-!
# Live configuration of injectors

Of the config maps in a namespace only those are loaded whose names start as all names of injector config maps do.
`Live.last?_applyTo_of_load` shows that under the key of an injector config map an overlaid input has what the API
lists, and nothing else: what was loaded from other namespaces and what the input held for other clusters is under
other keys, and what it held for this cluster is gone.
-/

namespace MeshControl

namespace Injection

/-- The name of an injector config map starts with the stem, whatever the revision is. -/
theorem stem_prefix_configMapName (revision : Option String) :
    configMapStem.toList <+: (configMapName revision).toList := by
  unfold configMapName
  split
  · exact List.prefix_refl _
  · exact List.prefix_refl _
  · exact List.prefix_refl _
  · rw [String.toList_append, String.toList_append, List.append_assoc]
    exact List.prefix_append _ _

end Injection

namespace Live

open Injection (ConfigMaps configMapStem configMapName loadConfig)

/-- Listing the config maps of a namespace answers with config maps in this namespace. -/
def Api.Placed (api : Api) : Prop :=
  ∀ ns listed, api.configMaps ns = .ok listed → ∀ configMap ∈ listed, configMap.ns = some ns

/-- A config map is loaded exactly if the name on its record starts with the stem. -/
theorem ApiConfigMap.isInjectorConfig_iff (configMap : ApiConfigMap) (cluster : String) :
    configMap.isInjectorConfig = true ↔ configMapStem.toList <+: (configMap.toRecord cluster).name.toList := by
  unfold isInjectorConfig toRecord
  cases configMap.name with
  | none =>
    have noStem : ¬ configMapStem.toList <+: "".toList := by decide
    simpa using noStem
  | some name => exact List.isPrefixOf_iff_prefix

theorem configMapsIn_eq_ok_iff {api : Api} {cluster ns : String} {records : List ConfigMapRecord} :
    configMapsIn api cluster ns = .ok records ↔
      ∃ listed, api.configMaps ns = .ok listed ∧
        records = (listed.filter ApiConfigMap.isInjectorConfig).map (·.toRecord cluster) := by
  unfold configMapsIn
  cases api.configMaps ns with
  | error reason => simp
  | ok listed => simp [eq_comm]

/-- What is loaded are all namespaces and, one listed namespace after the other, its injector config maps. -/
theorem load_eq_ok_iff {api : Api} {cluster : String} {meshNamespaces : List String} {inputs : InjectionInputs} :
    load (.ok api) cluster meshNamespaces = .ok inputs ↔
      ∃ namespaces configMaps, api.namespaces = .ok namespaces ∧
        meshNamespaces.mapM (configMapsIn api cluster) = .ok configMaps ∧
        inputs = ⟨cluster, namespaces.map (·.toRecord cluster), configMaps.flatten⟩ := by
  simp only [load, Except.mapError, bind, Except.bind, pure, Except.pure]
  cases api.namespaces with
  | error reason => simp
  | ok namespaces =>
    cases meshNamespaces.mapM (configMapsIn api cluster) with
    | error error => simp
    | ok configMaps => simp [eq_comm]

section Loaded

variable {api : Api} {cluster ns : String} {meshNamespaces : List String} {inputs : InjectionInputs}

/-- The loaded config maps are those of injectors in the namespaces that were asked for, each of which answers. -/
theorem configMaps_of_load (loaded : load (.ok api) cluster meshNamespaces = .ok inputs) :
    ∃ lists : List (List ConfigMapRecord), inputs.configMaps = lists.flatten ∧
      (∀ ns ∈ meshNamespaces, ∃ listed, api.configMaps ns = .ok listed ∧
        (listed.filter ApiConfigMap.isInjectorConfig).map (·.toRecord cluster) ∈ lists) ∧
      ∀ list ∈ lists, ∃ ns ∈ meshNamespaces, ∃ listed, api.configMaps ns = .ok listed ∧
        list = (listed.filter ApiConfigMap.isInjectorConfig).map (·.toRecord cluster) := by
  obtain ⟨namespaces, lists, _, each, rfl⟩ := load_eq_ok_iff.1 loaded
  obtain ⟨given, origins⟩ := results_of_mapM each
  refine ⟨lists, rfl, fun ns asked => ?_, fun list member => ?_⟩
  · obtain ⟨list, member, made⟩ := given ns asked
    obtain ⟨listed, answered, rfl⟩ := configMapsIn_eq_ok_iff.1 made
    exact ⟨listed, answered, member⟩
  · obtain ⟨ns, asked, made⟩ := origins list member
    exact ⟨ns, asked, configMapsIn_eq_ok_iff.1 made⟩

/-- All loaded records are on the cluster for which they are loaded. -/
theorem tagged_of_load (loaded : load (.ok api) cluster meshNamespaces = .ok inputs) :
    inputs.cluster = cluster ∧ inputs.Tagged := by
  obtain ⟨lists, flat, _, origins⟩ := configMaps_of_load loaded
  obtain ⟨namespaces, _, _, _, rfl⟩ := load_eq_ok_iff.1 loaded
  refine ⟨rfl, fun record member => ?_, fun record member => ?_⟩
  · obtain ⟨listed, _, rfl⟩ := List.mem_map.1 member
    rfl
  · rw [flat] at member
    obtain ⟨list, inside, among⟩ := List.mem_flatten.1 member
    obtain ⟨ns, _, listed, _, rfl⟩ := origins list inside
    obtain ⟨configMap, _, rfl⟩ := List.mem_map.1 among
    rfl

variable (placed : api.Placed) (noDot : '.' ∉ cluster.toList)
include placed noDot

/-- A listed config map that has the key of a reference is in its namespace and has its name. -/
theorem Api.Placed.eq_of_key_eq {other name : String} {listed : List ApiConfigMap} {configMap : ApiConfigMap}
    (answered : api.configMaps other = .ok listed) (member : configMap ∈ listed) (nsNoDot : '.' ∉ ns.toList)
    (otherNoDot : '.' ∉ other.toList)
    (same : (configMap.toRecord cluster).key = ClusterRef.key ⟨name, ns, cluster⟩) :
    other = ns ∧ (configMap.toRecord cluster).name = name := by
  have inOther : (configMap.toRecord cluster).ns = other := by
    rw [ApiConfigMap.toRecord, placed other listed answered configMap member, Option.getD_some]
  have recordNoDot : '.' ∉ (configMap.toRecord cluster).ns.toList := by rwa [inOther]
  have refs : (configMap.toRecord cluster).ref = ⟨name, ns, cluster⟩ :=
    ClusterRef.eq_of_key_eq recordNoDot nsNoDot noDot noDot same
  exact ⟨inOther.symm.trans (congrArg ClusterRef.ns refs), congrArg ClusterRef.name refs⟩

/-- Under the key of an injector config map all that was loaded is what its namespace lists. -/
theorem last?_of_load (loaded : load (.ok api) cluster meshNamespaces = .ok inputs)
    (nsNoDots : ∀ ns ∈ meshNamespaces, '.' ∉ ns.toList) (asked : ns ∈ meshNamespaces)
    {listed : List ApiConfigMap} (answered : api.configMaps ns = .ok listed) (revision : Option String) :
    ConfigMaps.last? (ClusterRef.key ⟨configMapName revision, ns, cluster⟩) inputs.configMaps =
      ConfigMaps.last? (ClusterRef.key ⟨configMapName revision, ns, cluster⟩) (listed.map (·.toRecord cluster)) := by
  obtain ⟨lists, flat, given, origins⟩ := configMaps_of_load loaded
  have nsNoDot := nsNoDots ns asked
  -- What the name leaves out of the own namespace has another name than the one asked for.
  have own : ConfigMaps.last? (ClusterRef.key ⟨configMapName revision, ns, cluster⟩)
        ((listed.filter ApiConfigMap.isInjectorConfig).map (·.toRecord cluster)) =
      ConfigMaps.last? (ClusterRef.key ⟨configMapName revision, ns, cluster⟩)
        (listed.map (·.toRecord cluster)) := by
    refine ConfigMaps.last?_map_filter fun configMap member dropped same => ?_
    obtain ⟨_, named⟩ := placed.eq_of_key_eq noDot answered member nsNoDot nsNoDot same
    have isInjector := (configMap.isInjectorConfig_iff cluster).2
      (named ▸ Injection.stem_prefix_configMapName revision)
    exact Bool.noConfusion (dropped.symm.trans isInjector)
  rw [flat]
  refine ConfigMaps.last?_flatten (fun list member => ?_) ?_
  · obtain ⟨other, otherAsked, otherListed, otherAnswered, rfl⟩ := origins list member
    by_cases same : other = ns
    · subst same
      cases answered.symm.trans otherAnswered
      exact .inl own
    · refine .inr (ConfigMaps.last?_eq_none_iff.2 fun record among sameKey => same ?_)
      obtain ⟨configMap, kept, rfl⟩ := List.mem_map.1 among
      exact (placed.eq_of_key_eq noDot otherAnswered (List.mem_of_mem_filter kept) nsNoDot
        (nsNoDots other otherAsked) sameKey).1
  · obtain ⟨sameListed, sameAnswered, member⟩ := given ns asked
    cases answered.symm.trans sameAnswered
    exact ⟨_, member, own⟩

/-- Under the key of an injector config map an overlaid input holds what its namespace lists. -/
theorem last?_applyTo_of_load (loaded : load (.ok api) cluster meshNamespaces = .ok inputs)
    (nsNoDots : ∀ ns ∈ meshNamespaces, '.' ∉ ns.toList) {input : Input}
    (inputNoDots : ∀ record ∈ input.configMaps, '.' ∉ record.cluster.toList) (asked : ns ∈ meshNamespaces)
    {listed : List ApiConfigMap} (answered : api.configMaps ns = .ok listed) (revision : Option String) :
    ConfigMaps.last? (ClusterRef.key ⟨configMapName revision, ns, cluster⟩) (inputs.applyTo input).configMaps =
      ConfigMaps.last? (ClusterRef.key ⟨configMapName revision, ns, cluster⟩) (listed.map (·.toRecord cluster)) := by
  have elsewhere : ConfigMaps.last? (ClusterRef.key ⟨configMapName revision, ns, cluster⟩)
      (input.configMaps.filter fun record => record.cluster ≠ inputs.cluster) = none := by
    refine ConfigMaps.last?_eq_none_iff.2 fun record member same => ?_
    obtain ⟨inside, other⟩ := List.mem_filter.1 member
    rw [decide_eq_true_eq, (tagged_of_load loaded).1] at other
    exact other (ClusterRef.cluster_eq_of_key_eq (inputNoDots record inside) noDot same)
  rw [InjectionInputs.applyTo, ConfigMaps.last?_append, elsewhere, Option.or_none]
  exact last?_of_load placed noDot loaded nsNoDots asked answered revision

end Loaded

/-- An input that is overlaid with what was loaded gives each Istio mesh on the cluster, if its namespace was asked
for, the configuration or the error that all config maps give which the API lists for the namespace. Whatever config
map the result holds for the cluster is listed by the API in a namespace that was asked for. -/
theorem overlaid_config_is_live {api : Api} (placed : api.Placed) {cluster : String} {meshNamespaces : List String}
    {inputs : InjectionInputs} (loaded : load (.ok api) cluster meshNamespaces = .ok inputs) (input : Input)
    (noDot : '.' ∉ cluster.toList) (nsNoDots : ∀ ns ∈ meshNamespaces, '.' ∉ ns.toList)
    (inputNoDots : ∀ record ∈ input.configMaps, '.' ∉ record.cluster.toList) :
    (∀ istio : IstioMesh, istio.installation.cluster = cluster → istio.installation.ns ∈ meshNamespaces →
        ∃ listed, api.configMaps istio.installation.ns = .ok listed ∧
          loadConfig istio (.ofList (inputs.applyTo input).configMaps) =
            loadConfig istio (.ofList (listed.map (·.toRecord cluster)))) ∧
      ∀ record ∈ (inputs.applyTo input).configMaps, record.cluster = cluster →
        ∃ ns ∈ meshNamespaces, ∃ listed, api.configMaps ns = .ok listed ∧
          ∃ configMap ∈ listed, configMap.toRecord cluster = record := by
  obtain ⟨lists, flat, given, origins⟩ := configMaps_of_load loaded
  refine ⟨fun istio installed asked => ?_, fun record member onCluster => ?_⟩
  · obtain ⟨listed, answered, _⟩ := given istio.installation.ns asked
    have same := ConfigMaps.find_congr
      (last?_applyTo_of_load placed noDot loaded nsNoDots inputNoDots asked answered istio.revision)
    refine ⟨listed, answered, ?_⟩
    rw [loadConfig, loadConfig, installed, same]
  · rcases List.mem_append.1 member with kept | isLoaded
    · obtain ⟨_, other⟩ := List.mem_filter.1 kept
      rw [decide_eq_true_eq, (tagged_of_load loaded).1] at other
      exact absurd onCluster other
    · rw [flat] at isLoaded
      obtain ⟨list, inside, among⟩ := List.mem_flatten.1 isLoaded
      obtain ⟨ns, asked, listed, answered, rfl⟩ := origins list inside
      obtain ⟨configMap, injector, rfl⟩ := List.mem_map.1 among
      exact ⟨ns, asked, listed, answered, configMap, List.mem_of_mem_filter injector, rfl⟩

section Revised

private def policyText (policy : String) : Labels := .ofList [(Injection.configKey, "policy: " ++ policy)]

/-- Two control planes, one of them with a dotted revision, and config maps that are not for injectors. -/
private def eastApi : Api where
  namespaces := .ok [{ name := some "shop" }]
  configMaps ns := .ok ([{ name := some "istio", ns := some "mesh", data := some (policyText "disabled") },
    { name := some "istio-sidecar-injector-1.9", ns := some "mesh", data := some (policyText "enabled") },
    { name := some "istio-sidecar-injector", ns := some "trial" },
    { ns := some "trial" }].filter fun configMap => configMap.ns = some ns)

/-- What a file held: both revisions with another policy, and a revision on another cluster. -/
private def staleInput : Input where
  configMaps := [⟨"istio-sidecar-injector-1.9", "mesh", "east", policyText "disabled"⟩,
    ⟨"istio-sidecar-injector-1.8", "mesh", "east", policyText "enabled"⟩,
    ⟨"istio-sidecar-injector-1.9", "mesh", "west", policyText "disabled"⟩]

private def revisedMesh (revision : String) (ns : String) : IstioMesh where
  installation := { ns, cluster := "east" }
  revision := some revision

/-- The dotted revision has its live configuration, the one that only the file knew has none, and in the other
namespace the config map has lost its data. -/
theorem overlaid_config_is_live_revised :
    eastApi.Placed ∧
      (∀ ns ∈ ["mesh", "trial", "mesh"], '.' ∉ ns.toList) ∧
      (∀ record ∈ staleInput.configMaps, '.' ∉ record.cluster.toList) ∧
      ∃ inputs, load (.ok eastApi) "east" ["mesh", "trial", "mesh"] = .ok inputs ∧
        loadConfig (revisedMesh "1.9" "mesh") (.ofList (inputs.applyTo staleInput).configMaps) =
          .ok { policy := .enabled } ∧
        loadConfig (revisedMesh "1.8" "mesh") (.ofList (inputs.applyTo staleInput).configMaps) =
          .error (.configMapNotFound ⟨"istio-sidecar-injector-1.8", "mesh", "east"⟩) ∧
        loadConfig (revisedMesh "default" "trial") (.ofList (inputs.applyTo staleInput).configMaps) =
          .error (.missingKey "istio-sidecar-injector.trial.east") := by
  have placed : eastApi.Placed := by
    intro ns listed answered configMap member
    cases answered
    simpa using (List.mem_filter.1 member).2
  have nsNoDots : ∀ ns ∈ ["mesh", "trial", "mesh"], '.' ∉ ns.toList := by decide
  have inputNoDots : ∀ record ∈ staleInput.configMaps, '.' ∉ record.cluster.toList := by decide
  obtain ⟨inputs, loaded⟩ : ∃ inputs, load (.ok eastApi) "east" ["mesh", "trial", "mesh"] = .ok inputs := ⟨_, rfl⟩
  obtain ⟨live, _⟩ := overlaid_config_is_live placed loaded staleInput (by decide) nsNoDots inputNoDots
  refine ⟨placed, nsNoDots, inputNoDots, inputs, loaded, ?_, ?_, ?_⟩
  · obtain ⟨listed, answered, same⟩ := live (revisedMesh "1.9" "mesh") rfl (by decide)
    cases answered
    rw [same]
    decide +kernel
  · obtain ⟨listed, answered, same⟩ := live (revisedMesh "1.8" "mesh") rfl (by decide)
    cases answered
    rw [same]
    decide +kernel
  · obtain ⟨listed, answered, same⟩ := live (revisedMesh "default" "trial") rfl (by decide)
    cases answered
    rw [same]
    decide +kernel

end Revised

end Live

end MeshControl
