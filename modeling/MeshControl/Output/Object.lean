import MeshControl.Record

/-!
# Generated objects

The objects that passes write to clusters: authorization policies of Istio, and secrets. An object
is identified by its type, cluster, namespace and name, in this order of importance.
-/

namespace MeshControl

/-- What a matching authorization policy does with a request. -/
inductive AuthorizationAction where
  | allow
  | deny
  deriving DecidableEq, Repr, Inhabited

/-- What a request must do to match a rule. An empty list matches everything. -/
structure Operation where
  ports : List String := []
  methods : List String := []
  paths : List String := []
  deriving DecidableEq, Repr, Inhabited

/-- A rule of an authorization policy. The empty rule matches every request. -/
structure Rule where
  /-- The allowed principals of each source. -/
  sources : List (List String) := []
  operations : List Operation := []
  deriving DecidableEq, Repr, Inhabited

/-- What an authorization policy says. The empty one denies every request to its namespace. -/
structure AuthorizationSpec where
  /-- The labels of the workloads it applies to; without a selector it applies to all. -/
  selector : Option Labels := none
  action : Option AuthorizationAction := none
  rules : List Rule := []
  deriving DecidableEq, Inhabited

/-- An authorization policy of Istio. -/
structure AuthorizationPolicy where
  metadata : Metadata
  spec : AuthorizationSpec := {}
  deriving DecidableEq, Inhabited

/-- The types of generated objects, in their order. -/
inductive ResourceType where
  | authorizationPolicy
  | secret
  deriving DecidableEq, Ord, Repr, Inhabited

/-- A generated object. -/
inductive OutputObject where
  | authorizationPolicy (policy : AuthorizationPolicy)
  | secret (object : Secret)
  deriving DecidableEq, Inhabited

/-- What tells the objects of one type apart. -/
structure ObjectKey where
  cluster : String
  ns : String
  name : String
  deriving DecidableEq, Ord, Repr, Inhabited

/-- The identity of a generated object. -/
structure ObjectId where
  type : ResourceType
  cluster : String
  ns : String
  name : String
  deriving DecidableEq, Ord, Repr, Inhabited

/-- The part of an identity that tells objects of its type apart. -/
def ObjectId.key (id : ObjectId) : ObjectKey := ⟨id.cluster, id.ns, id.name⟩

/-- The identity of an object of a type. -/
def ObjectKey.withType (key : ObjectKey) (type : ResourceType) : ObjectId := ⟨type, key.cluster, key.ns, key.name⟩

namespace ResourceType

/-- The kind of the objects of a type. -/
def kind : ResourceType → String
  | .authorizationPolicy => "AuthorizationPolicy"
  | .secret => "Secret"

/-- Group, version and kind of the objects of a type. -/
def groupVersionKind : ResourceType → String
  | .authorizationPolicy => "security.istio.io/v1beta1, Kind=AuthorizationPolicy"
  | .secret => "v1, Kind=Secret"

/-- All types in order. -/
def all : List ResourceType := [.authorizationPolicy, .secret]

end ResourceType

namespace AuthorizationAction

/-- The written name of an action. -/
def name : AuthorizationAction → String
  | .allow => "ALLOW"
  | .deny => "DENY"

def toJson (action : AuthorizationAction) : Json := .text action.name

open Reading in
def read {ν : Type} [Readable ν] : Reads ν AuthorizationAction :=
  constantOf ([.allow, .deny].map fun action => (name action, action))

end AuthorizationAction

namespace Operation

/-- Whether the operation restricts nothing. -/
def isEmpty (operation : Operation) : Bool :=
  operation.ports.isEmpty && operation.methods.isEmpty && operation.paths.isEmpty

def toJson (operation : Operation) : Json :=
  .object (Json.fieldUnless operation.ports.isEmpty "ports" (.texts operation.ports) ++
    Json.fieldUnless operation.methods.isEmpty "methods" (.texts operation.methods) ++
    Json.fieldUnless operation.paths.isEmpty "paths" (.texts operation.paths))

open Reading in
def read {ν : Type} [Readable ν] : Reads ν Operation :=
  record (mk <$> withDefault "ports" [] (listOf Readable.text) <*>
    withDefault "methods" [] (listOf Readable.text) <*> withDefault "paths" [] (listOf Readable.text))

end Operation

namespace Rule

/-- A source is an object around its principals. -/
def sourceToJson (principals : List String) : Json :=
  .object [("source", .object (Json.fieldUnless principals.isEmpty "principals" (.texts principals)))]

/-- An operation is held in an object of its own. -/
def operationToJson (operation : Operation) : Json := .object [("operation", operation.toJson)]

def toJson (rule : Rule) : Json :=
  .object (Json.fieldUnless rule.sources.isEmpty "from" (.list (rule.sources.map sourceToJson)) ++
    Json.fieldUnless rule.operations.isEmpty "to" (.list (rule.operations.map operationToJson)))

open Reading

variable {ν : Type} [Readable ν]

/-- A source is an object around its principals. -/
def readSource : Reads ν (List String) :=
  record (required "source" (record (withDefault "principals" [] (listOf Readable.text))))

/-- An operation is held in an object of its own. -/
def readOperation : Reads ν Operation := record (required "operation" Operation.read)

def read : Reads ν Rule :=
  record (mk <$> withDefault "from" [] (listOf readSource) <*>
    withDefault "to" [] (listOf readOperation))

end Rule

namespace AuthorizationSpec

/-- A selector is an object around its labels. -/
def selectorToJson (labels : Labels) : Json := .object [("matchLabels", .ofLabels labels)]

def toJson (spec : AuthorizationSpec) : Json :=
  .object (Json.fieldOf? "selector" selectorToJson spec.selector ++
    Json.fieldOf? "action" AuthorizationAction.toJson spec.action ++
    Json.fieldUnless spec.rules.isEmpty "rules" (.list (spec.rules.map Rule.toJson)))

open Reading

variable {ν : Type} [Readable ν]

/-- A selector is an object around its labels. -/
def readSelector : Reads ν Labels := record (withDefault "matchLabels" ∅ labelMap)

def read : Reads ν AuthorizationSpec :=
  record (mk <$> optionalField "selector" readSelector <*>
    optionalField "action" AuthorizationAction.read <*> withDefault "rules" [] (listOf Rule.read))

end AuthorizationSpec

namespace AuthorizationPolicy

/-- The fields of a policy, for objects that hold more than the policy. -/
def jsonFields (policy : AuthorizationPolicy) : List (String × Json) :=
  [("metadata", policy.metadata.toJson), ("spec", policy.spec.toJson)]

def toJson (policy : AuthorizationPolicy) : Json := .object policy.jsonFields

open Reading in
/-- The description of a policy's fields. -/
def fields {ν : Type} [Readable ν] : Fields ν AuthorizationPolicy :=
  mk <$> required "metadata" Metadata.read <*> withDefault "spec" {} AuthorizationSpec.read

def read {ν : Type} [Readable ν] : Reads ν AuthorizationPolicy := Reading.record fields

end AuthorizationPolicy

namespace OutputObject

/-- The type of an object. -/
def type : OutputObject → ResourceType
  | .authorizationPolicy _ => .authorizationPolicy
  | .secret _ => .secret

/-- The metadata of an object. -/
def metadata : OutputObject → Metadata
  | .authorizationPolicy policy => policy.metadata
  | .secret object => object.metadata

/-- Changes the metadata of an object. -/
def mapMetadata (change : Metadata → Metadata) : OutputObject → OutputObject
  | .authorizationPolicy policy => .authorizationPolicy { policy with metadata := change policy.metadata }
  | .secret object => .secret { object with metadata := change object.metadata }

/-- The identity of an object. -/
def id (object : OutputObject) : ObjectId :=
  ⟨object.type, object.metadata.cluster, object.metadata.ns, object.metadata.name⟩

/-- An object is written with its kind first. -/
def toJson (object : OutputObject) : Json :=
  .object (("kind", .text object.type.kind) ::
    match object with
    | .authorizationPolicy policy => policy.jsonFields
    | .secret object => object.jsonFields)

open Reading in
/-- The fields of the objects of each kind. -/
def alternatives : List (String × Fields Held OutputObject) :=
  [(ResourceType.authorizationPolicy.kind, .authorizationPolicy <$> AuthorizationPolicy.fields),
    (ResourceType.secret.kind, .secret <$> Secret.fields)]

/-- The kind decides which other fields are read. -/
def read : Reads Json OutputObject := Json.readKind "kind" alternatives

end OutputObject

end MeshControl
