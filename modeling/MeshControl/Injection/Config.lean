import MeshControl.Injection.Selector
import MeshControl.Mesh
import MeshControl.Record
import MeshControl.Yaml.Value

/-!
# Configuration of the sidecar injector

The injector of a mesh is configured by a config map in the namespace of its control plane. The map is
named for the revision of the mesh, and one of its keys holds the configuration as YAML text.
-/

namespace MeshControl.Injection

/-- What the injector does with a pod that nothing else decides about. -/
inductive Policy where
  | enabled
  | disabled
  deriving DecidableEq, Repr, Inhabited

/-- The part of the injector's configuration that decides whether a pod gets a sidecar. -/
structure Config where
  policy : Policy := .disabled
  /-- Pods with matching labels get a sidecar. -/
  always : List LabelSelector := []
  /-- Pods with matching labels get none. -/
  never : List LabelSelector := []
  deriving DecidableEq, Inhabited

/-- Why the configuration of a mesh cannot be loaded. -/
inductive ConfigError where
  | configMapNotFound (ref : ClusterRef)
  /-- The config map with the given key has no configuration in it. -/
  | missingKey (configMap : String)
  /-- The config map with the given key has a text in it that holds no configuration. -/
  | unreadable (configMap source : String)
  deriving DecidableEq, Repr, Inhabited

/-- The name of the config map of the default revision, with which all others start. -/
def configMapStem : String := "istio-sidecar-injector"

/-- The key of the config map that holds the configuration. -/
def configKey : String := "config"

/-- The name of the config map for a revision. -/
def configMapName (revision : Option String) : String :=
  match revision with
  | none | some "" | some "default" => configMapStem
  | some revision => configMapStem ++ "-" ++ revision

namespace Policy

open Reading in
/-- Any name but that of the enabled policy means disabled. -/
def read {ν : Type} [Readable ν] : Reads ν Policy := constantOr [("enabled", .enabled)] (some .disabled)

/-- The written name of the policy. -/
def name : Policy → String
  | .enabled => "enabled"
  | .disabled => "disabled"

end Policy

namespace Config

open Reading in
def read {ν : Type} [Readable ν] : Reads ν Config :=
  record (mk <$> withDefault "policy" .disabled Policy.read <*>
    withDefault "alwaysInjectSelector" [] (listOf LabelSelector.read) <*>
    withDefault "neverInjectSelector" [] (listOf LabelSelector.read))

/-- The configuration that a YAML text holds. -/
def parse? (source : String) : Option Config := Yaml.read? read source

def toJson (config : Config) : Json :=
  .object [("policy", .text config.policy.name), ("always", .list (config.always.map LabelSelector.toJson)),
    ("never", .list (config.never.map LabelSelector.toJson))]

end Config

namespace ConfigError

/-- A short name for the kind of the error. -/
def kind : ConfigError → String
  | .configMapNotFound _ => "not_found"
  | .missingKey _ => "missing_key"
  | .unreadable _ _ => "parse"

/-- The wording of the error. What is wrong with a text that holds no configuration is said by the YAML
library, in its complaint about the text. -/
def message (complaint : String → String) : ConfigError → String
  | .configMapNotFound ref => "config map " ++ ref.name ++ " not found in " ++ ref.cluster ++ "/" ++ ref.ns
  | .missingKey configMap => "config map " ++ configMap ++ " has no 'config' key"
  | .unreadable configMap source => "config map " ++ configMap ++ ": parse 'config': " ++ complaint source

end ConfigError

/-- Config maps by their dotted keys; of several with one key the last one counts. -/
structure ConfigMaps where
  byKey : TextMap ConfigMapRecord := ∅
  deriving DecidableEq, Inhabited

namespace ConfigMaps

/-- The config maps of some records. -/
def ofList (records : List ConfigMapRecord) : ConfigMaps :=
  ⟨.ofList (records.map fun record => (record.key, record))⟩

/-- The number of keys. -/
def size (configMaps : ConfigMaps) : Nat := configMaps.byKey.size

/-- Whether there is no config map. -/
def isEmpty (configMaps : ConfigMaps) : Bool := configMaps.byKey.isEmpty

/-- The config map with the key of a reference. -/
def find (configMaps : ConfigMaps) (ref : ClusterRef) : Except ConfigError ConfigMapRecord :=
  match configMaps.byKey.get? ref.key with
  | some record => .ok record
  | none => .error (.configMapNotFound ref)

end ConfigMaps

/-- Loads the configuration of an Istio mesh. -/
def loadConfig (mesh : IstioMesh) (configMaps : ConfigMaps) : Except ConfigError Config := do
  let record ←
    configMaps.find ⟨configMapName mesh.revision, mesh.installation.ns, mesh.installation.cluster⟩
  match record.data.get? configKey with
  | none => throw (.missingKey record.key)
  | some source =>
    match Config.parse? source with
    | none => throw (.unreadable record.key source)
    | some config => return config

end MeshControl.Injection
