import MeshControl.Json.Read
import MeshControl.Text.Quoted

/-!
# Label selectors

A label selector asks for exact label values and for expressions over labels. Compiling checks the
expressions and turns both into one list of requirements, all of which a set of labels must meet.
-/

namespace MeshControl

/-- An expression over one label, as users write it. -/
structure LabelExpression where
  key : String
  operator : String
  values : Option (List String) := none
  deriving DecidableEq, Repr, Inhabited

/-- A label selector, as users write it. -/
structure LabelSelector where
  matchLabels : Option Labels := none
  matchExpressions : Option (List LabelExpression) := none
  deriving DecidableEq, Inhabited

namespace LabelExpression

def toJson (expression : LabelExpression) : Json :=
  .object ([("key", .text expression.key), ("operator", .text expression.operator)] ++
    Json.fieldOf? "values" Json.texts expression.values)

open Reading in
def read {ν : Type} [Readable ν] : Reads ν LabelExpression :=
  namedRecord ((fun key operator values => ⟨key.getD "", operator.getD "", values⟩) <$>
    lenient "key" Readable.text <*> lenient "operator" Readable.text <*>
    lenient "values" (listOf Readable.text))

end LabelExpression

namespace LabelSelector

def toJson (selector : LabelSelector) : Json :=
  .object (Json.fieldOf? "matchExpressions"
      (fun expressions => .list (expressions.map LabelExpression.toJson)) selector.matchExpressions ++
    Json.fieldOf? "matchLabels" Json.ofLabels selector.matchLabels)

open Reading in
def read {ν : Type} [Readable ν] : Reads ν LabelSelector :=
  namedRecord (mk <$> lenient "matchLabels" labelMap <*>
    lenient "matchExpressions" (listOf LabelExpression.read))

end LabelSelector

namespace Injection

/-- How a requirement compares a label with its values. -/
inductive Operator where
  | among
  | notAmong
  | present
  | absent
  deriving DecidableEq, Repr, Inhabited

/-- Why a selector cannot be compiled. Each error holds the operator and the key of the expression. -/
inductive SelectorError where
  | unknownOperator (operator key : String)
  /-- The operator compares with values, and there are none. -/
  | missingValues (operator key : String)
  /-- The operator compares with no values, and there are some. -/
  | unexpectedValues (operator key : String)
  deriving DecidableEq, Repr, Inhabited

/-- A checked expression over one label. -/
structure Requirement where
  key : String
  operator : Operator
  values : List String
  deriving DecidableEq, Repr, Inhabited

/-- A checked selector. -/
structure Selector where
  requirements : List Requirement := []
  deriving DecidableEq, Repr, Inhabited

namespace Operator

/-- Whether the value of a label, if the label is there, compares well with some values. -/
def holds (operator : Operator) (label : Option String) (values : List String) : Bool :=
  match operator with
  | .among => label.any values.contains
  | .notAmong => label.all fun value => !values.contains value
  | .present => label.isSome
  | .absent => label.isNone

/-- The operator with a written name. -/
def ofName? (name : String) : Option Operator :=
  match name with
  | "In" => some .among
  | "NotIn" => some .notAmong
  | "Exists" => some .present
  | "DoesNotExist" => some .absent
  | _ => none

/-- Whether the operator compares with values. -/
def needsValues : Operator → Bool
  | .among | .notAmong => true
  | .present | .absent => false

/-- All operators in the order in which they are listed. -/
def all : List Operator := [.among, .notAmong, .present, .absent]

end Operator

namespace SelectorError

/-- The wording of the error. -/
def message : SelectorError → String
  | .unknownOperator operator key => "unknown operator " ++ Text.quoted operator ++ " for key " ++ key
  | .missingValues operator key => "operator " ++ Text.quoted operator ++ " for key " ++ key ++ " requires values"
  | .unexpectedValues operator key =>
    "operator " ++ Text.quoted operator ++ " for key " ++ key ++ " takes no values"

end SelectorError

namespace Requirement

/-- Checks an expression. Absent values count as none. -/
def compile (expression : LabelExpression) : Except SelectorError Requirement :=
  let values := expression.values.getD []
  match Operator.ofName? expression.operator with
  | none => .error (.unknownOperator expression.operator expression.key)
  | some operator =>
    if operator.needsValues && values.isEmpty then
      .error (.missingValues expression.operator expression.key)
    else if !operator.needsValues && !values.isEmpty then
      .error (.unexpectedValues expression.operator expression.key)
    else .ok ⟨expression.key, operator, values⟩

/-- Whether labels meet the requirement. -/
def holds (requirement : Requirement) (labels : Labels) : Bool :=
  requirement.operator.holds (labels.get? requirement.key) requirement.values

end Requirement

namespace Selector

/-- Checks a selector. An exact label becomes a requirement with one value; the first expression that
cannot be checked gives the error. -/
def compile (selector : LabelSelector) : Except SelectorError Selector := do
  let exact := (selector.matchLabels.getD ∅).entries.map fun entry => ⟨entry.1, .among, [entry.2]⟩
  let checked ← (selector.matchExpressions.getD []).mapM Requirement.compile
  return ⟨exact ++ checked⟩

/-- Whether the selector asks for nothing. -/
def isEmpty (selector : Selector) : Bool := selector.requirements.isEmpty

/-- Whether labels meet all requirements. The empty selector matches everything; who does not want
that asks whether it is empty. -/
def holds (selector : Selector) (labels : Labels) : Bool :=
  selector.requirements.all fun requirement => requirement.holds labels

end Selector

end Injection

end MeshControl
