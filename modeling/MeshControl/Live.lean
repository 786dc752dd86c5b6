import MeshControl.Injection.Config
import MeshControl.Input

/-!
# Live records of a cluster

The namespaces and injector config maps of an input can be replaced by those that the API of a
running cluster lists. The API is a value here: what it lists, or why it does not.
-/

namespace MeshControl.Live

/-- A namespace as the API lists it. -/
structure ApiNamespace where
  name : Option String := none
  labels : Option Labels := none
  deriving DecidableEq, Inhabited

/-- A config map as the API lists it. -/
structure ApiConfigMap where
  name : Option String := none
  ns : Option String := none
  data : Option Labels := none
  deriving DecidableEq, Inhabited

/-- The API of a cluster. Listing answers objects or the reason of a failure. -/
structure Api where
  namespaces : Except String (List ApiNamespace)
  /-- The config maps in a namespace. -/
  configMaps : String → Except String (List ApiConfigMap)

/-- The records of one cluster that decide about injection. -/
structure InjectionInputs where
  cluster : String
  namespaces : List NamespaceRecord
  configMaps : List ConfigMapRecord
  deriving DecidableEq, Inhabited

/-- Why live records cannot be loaded, each with the reason that the API gives. -/
inductive LoadError where
  | client (reason : String)
  | namespaces (reason : String)
  | configMaps (ns reason : String)
  deriving DecidableEq, Repr, Inhabited

/-- The wording of the error. -/
def LoadError.message : LoadError → String
  | .client reason => "building kube client: " ++ reason
  | .namespaces reason => "listing namespaces: " ++ reason
  | .configMaps ns reason => "listing config maps in " ++ ns ++ ": " ++ reason

namespace ApiNamespace

/-- The record of a namespace on a cluster. -/
def toRecord (listed : ApiNamespace) (cluster : String) : NamespaceRecord :=
  ⟨listed.name.getD "", cluster, listed.labels.getD ∅⟩

open Reading in
/-- A namespace with its metadata around name and labels. -/
def read {ν : Type} [Readable ν] : Reads ν ApiNamespace :=
  namedRecord ((fun metadata => metadata.getD {}) <$>
    lenient "metadata" (namedRecord (mk <$> lenient "name" Readable.text <*> lenient "labels" labelMap)))

end ApiNamespace

namespace ApiConfigMap

/-- The record of a config map on a cluster. -/
def toRecord (listed : ApiConfigMap) (cluster : String) : ConfigMapRecord :=
  ⟨listed.name.getD "", listed.ns.getD "", cluster, listed.data.getD ∅⟩

/-- Whether a config map configures an injector, judging by its name. -/
def isInjectorConfig (listed : ApiConfigMap) : Bool :=
  listed.name.any fun name => Injection.configMapStem.toList.isPrefixOf name.toList

open Reading in
/-- A config map with its metadata around name and namespace. -/
def read {ν : Type} [Readable ν] : Reads ν ApiConfigMap :=
  namedRecord ((fun metadata data =>
      let (name, ns) := metadata.getD (none, none)
      ⟨name, ns, data⟩) <$>
    lenient "metadata" (namedRecord (Prod.mk <$> lenient "name" Readable.text <*>
      lenient "namespace" Readable.text)) <*>
    lenient "data" labelMap)

end ApiConfigMap

namespace InjectionInputs

def toJson (inputs : InjectionInputs) : Json :=
  .object [("cluster", .text inputs.cluster),
    ("namespaces", .list (inputs.namespaces.map NamespaceRecord.toJson)),
    ("configMaps", .list (inputs.configMaps.map ConfigMapRecord.toJson))]

/-- Replaces what an input holds for the cluster by the loaded records, which come last. -/
def applyTo (inputs : InjectionInputs) (input : Input) : Input :=
  { input with
    namespaces := (input.namespaces.filter fun record => record.cluster ≠ inputs.cluster) ++ inputs.namespaces
    configMaps := (input.configMaps.filter fun record => record.cluster ≠ inputs.cluster) ++ inputs.configMaps }

end InjectionInputs

/-- The records of the injector config maps in a namespace. -/
def configMapsIn (api : Api) (cluster ns : String) : Except LoadError (List ConfigMapRecord) :=
  match api.configMaps ns with
  | .error reason => .error (.configMaps ns reason)
  | .ok listed => .ok ((listed.filter ApiConfigMap.isInjectorConfig).map (·.toRecord cluster))

/-- Loads all namespaces of a cluster and the injector config maps in some of them. -/
def load (client : Except String Api) (cluster : String) (meshNamespaces : List String) :
    Except LoadError InjectionInputs := do
  let api ← client.mapError .client
  let namespaces ← api.namespaces.mapError .namespaces
  let configMaps ← meshNamespaces.mapM (configMapsIn api cluster)
  return ⟨cluster, namespaces.map (·.toRecord cluster), configMaps.flatten⟩

/-- The namespaces of the Istio control planes on a cluster, ascending and distinct. -/
def controlPlanes (input : Input) (cluster : String) : List String :=
  SortedMap.distinct (((input.meshes.filterMap Mesh.istio).filter fun istio =>
    istio.installation.cluster = cluster).map (·.installation.ns))

/-- An input with live records for a cluster. If they cannot be loaded, the input stays as it is. -/
def overlay (client : Except String Api) (cluster : String) (input : Input) : Input :=
  match load client cluster (controlPlanes input cluster) with
  | .ok inputs => inputs.applyTo input
  | .error _ => input

end MeshControl.Live
