import MeshControl.Proofs.Injection.Decision
import MeshControl.Proofs.Lists
import MeshControl.Proofs.SortedMap

/-!
# What label selectors mean

Selectors are compiled before they are matched. `LabelExpression.WellFormed`, `LabelExpression.Offends` and
`LabelSelector.Matches` say on the selector as it is written which ones compile, why the others do not, and which
labels match. `Injection.Selector.compiled_meaning` ties both together, from one lemma for a single expression and
one for a list of them.
-/

namespace MeshControl

open Injection (Requirement Selector SelectorError)

namespace LabelExpression

/-- The values of an expression. Absent values count as none. -/
def listed (expression : LabelExpression) : List String := expression.values.getD []

/-- An expression that can be checked has one of the four operators, with values where it compares with them and
without where it does not. -/
def WellFormed (expression : LabelExpression) : Prop :=
  expression.operator ∈ ["In", "NotIn"] ∧ expression.listed ≠ [] ∨
    expression.operator ∈ ["Exists", "DoesNotExist"] ∧ expression.listed = []

instance (expression : LabelExpression) : Decidable expression.WellFormed := inferInstanceAs (Decidable (_ ∨ _))

/-- What is wrong with an expression. -/
inductive Offends (expression : LabelExpression) : SelectorError → Prop where
  | unknown (strange : expression.operator ∉ ["In", "NotIn", "Exists", "DoesNotExist"]) :
      Offends expression (.unknownOperator expression.operator expression.key)
  | valueless (compares : expression.operator ∈ ["In", "NotIn"]) (none : expression.listed = []) :
      Offends expression (.missingValues expression.operator expression.key)
  | valued (asks : expression.operator ∈ ["Exists", "DoesNotExist"]) (some : expression.listed ≠ []) :
      Offends expression (.unexpectedValues expression.operator expression.key)

/-- Some labels meet an expression: the label is there with a listed value, is absent or has another value, is
there, or is absent. -/
def Meets (expression : LabelExpression) (labels : Labels) : Prop :=
  match expression.operator with
  | "In" => ∃ value, labels.get? expression.key = some value ∧ value ∈ expression.listed
  | "NotIn" => ∀ value, labels.get? expression.key = some value → value ∉ expression.listed
  | "Exists" => ∃ value, labels.get? expression.key = some value
  | "DoesNotExist" => labels.get? expression.key = none
  | _ => False

/-- The expression with the opposite operator, for the operators that have a negative form. -/
def opposite? (expression : LabelExpression) : Option LabelExpression :=
  match expression.operator with
  | "In" => some { expression with operator := "NotIn" }
  | "Exists" => some { expression with operator := "DoesNotExist" }
  | _ => none

/-- An expression that cannot be checked has a fault. -/
theorem wellFormed_or_offends (expression : LabelExpression) :
    expression.WellFormed ∨ ∃ error, expression.Offends error := by
  by_cases compares : expression.operator ∈ ["In", "NotIn"]
  · by_cases none : expression.listed = []
    · exact .inr ⟨_, .valueless compares none⟩
    · exact .inl (.inl ⟨compares, none⟩)
  · by_cases asks : expression.operator ∈ ["Exists", "DoesNotExist"]
    · by_cases none : expression.listed = []
      · exact .inl (.inr ⟨asks, none⟩)
      · exact .inr ⟨_, .valued asks none⟩
    · refine .inr ⟨_, .unknown fun known => ?_⟩
      rcases List.mem_append.1 (show expression.operator ∈ ["In", "NotIn"] ++ ["Exists", "DoesNotExist"] from known)
        with first | second
      · exact compares first
      · exact asks second

end LabelExpression

namespace LabelSelector

/-- The exact labels of a selector. -/
def exact (selector : LabelSelector) : Labels := selector.matchLabels.getD ∅

/-- The expressions of a selector. -/
def expressions (selector : LabelSelector) : List LabelExpression := selector.matchExpressions.getD []

/-- Some labels have all exact labels of a selector and meet all its expressions. -/
structure Matches (selector : LabelSelector) (labels : Labels) : Prop where
  exact : ∀ key value, selector.exact.get? key = some value → labels.get? key = some value
  expressions : ∀ expression ∈ selector.expressions, expression.Meets labels

/-- A selector that can be compiled and asks for something. -/
structure Asks (selector : LabelSelector) : Prop where
  wellFormed : ∀ expression ∈ selector.expressions, expression.WellFormed
  asks : selector.exact ≠ ∅ ∨ selector.expressions ≠ []

instance (selector : LabelSelector) : Decidable selector.Asks :=
  decidable_of_iff ((∀ expression ∈ selector.expressions, expression.WellFormed) ∧
      (selector.exact ≠ ∅ ∨ selector.expressions ≠ []))
    ⟨fun ⟨wellFormed, asks⟩ => ⟨wellFormed, asks⟩, fun asking => ⟨asking.wellFormed, asking.asks⟩⟩

end LabelSelector

namespace Injection

/-! ### One expression -/

namespace Requirement

variable {expression : LabelExpression} {requirement : Requirement} {labels : Labels}

theorem compile_of_offends {error : SelectorError} (offends : expression.Offends error) :
    compile expression = .error error := by
  obtain ⟨key, operator, values⟩ := expression
  cases offends with
  | unknown strange =>
    simp only [List.mem_cons, List.not_mem_nil, or_false, not_or] at strange
    simp [compile, Operator.ofName?, strange]
  | valueless compares none =>
    simp only [List.mem_cons, List.not_mem_nil, or_false] at compares
    rcases compares with rfl | rfl <;>
      simp_all [compile, Operator.ofName?, Operator.needsValues, LabelExpression.listed]
  | valued asks some =>
    simp only [List.mem_cons, List.not_mem_nil, or_false] at asks
    rcases asks with rfl | rfl <;>
      simp_all [compile, Operator.ofName?, Operator.needsValues, LabelExpression.listed]

/-- An operator that has values exactly if it needs them makes a requirement. -/
theorem compile_of_ofName? (operator : Operator) (known : Operator.ofName? expression.operator = some operator)
    (fits : operator.needsValues = !expression.listed.isEmpty) :
    compile expression = .ok ⟨expression.key, operator, expression.listed⟩ := by
  have values : expression.values.getD [] = expression.listed := rfl
  simp [compile, known, values, fits]

/-- A well-formed expression becomes a requirement that holds where the expression is met. -/
theorem compile_of_wellFormed (wellFormed : expression.WellFormed) :
    ∃ requirement, compile expression = .ok requirement ∧
      ∀ labels, requirement.holds labels = true ↔ expression.Meets labels := by
  obtain ⟨key, operator, values⟩ := expression
  rcases wellFormed with ⟨compares, some⟩ | ⟨asks, none⟩
  · have fits : true = !(LabelExpression.listed ⟨key, operator, values⟩).isEmpty := by simpa using some
    simp only [List.mem_cons, List.not_mem_nil, or_false] at compares
    rcases compares with rfl | rfl
    · refine ⟨_, compile_of_ofName? .among rfl fits, fun labels => ?_⟩
      simp [holds, Operator.holds, LabelExpression.Meets, Option.any_eq_true]
    · refine ⟨_, compile_of_ofName? .notAmong rfl fits, fun labels => ?_⟩
      simp [holds, Operator.holds, LabelExpression.Meets, Option.all_eq_true]
  · have fits : false = !(LabelExpression.listed ⟨key, operator, values⟩).isEmpty := by simpa using none
    simp only [List.mem_cons, List.not_mem_nil, or_false] at asks
    rcases asks with rfl | rfl
    · refine ⟨_, compile_of_ofName? .present rfl fits, fun labels => ?_⟩
      simp [holds, Operator.holds, LabelExpression.Meets, Option.isSome_iff_exists]
    · refine ⟨_, compile_of_ofName? .absent rfl fits, fun labels => ?_⟩
      simp [holds, Operator.holds, LabelExpression.Meets]

/-- An expression compiles exactly if it is well formed. -/
theorem exists_compile_iff : (∃ requirement, compile expression = .ok requirement) ↔ expression.WellFormed := by
  constructor
  · rintro ⟨requirement, compiled⟩
    rcases expression.wellFormed_or_offends with wellFormed | ⟨error, offends⟩
    · exact wellFormed
    · cases (compile_of_offends offends).symm.trans compiled
  · intro wellFormed
    obtain ⟨requirement, compiled, _⟩ := compile_of_wellFormed wellFormed
    exact ⟨requirement, compiled⟩

theorem compile_eq_error_iff {error : SelectorError} :
    compile expression = .error error ↔ expression.Offends error := by
  refine ⟨fun failed => ?_, compile_of_offends⟩
  rcases expression.wellFormed_or_offends with wellFormed | ⟨other, offends⟩
  · obtain ⟨requirement, compiled, _⟩ := compile_of_wellFormed wellFormed
    cases compiled.symm.trans failed
  · cases (compile_of_offends offends).symm.trans failed
    exact offends

theorem holds_of_compile (compiled : compile expression = .ok requirement) (labels : Labels) :
    requirement.holds labels = true ↔ expression.Meets labels := by
  obtain ⟨other, made, meaning⟩ := compile_of_wellFormed (exists_compile_iff.1 ⟨requirement, compiled⟩)
  obtain rfl := Except.ok.inj (made.symm.trans compiled)
  exact meaning labels

end Requirement

/-! ### Selectors -/

namespace Selector

variable {selector : LabelSelector} {compiled : Selector} {labels : Labels}

/-- The requirements of the exact labels come before those of the expressions. -/
theorem compile_eq (selector : LabelSelector) :
    compile selector = (selector.expressions.mapM Requirement.compile).map fun checked =>
      ⟨(selector.exact.entries.map fun entry => ⟨entry.1, .among, [entry.2]⟩) ++ checked⟩ := by
  unfold compile LabelSelector.expressions
  cases (selector.matchExpressions.getD []).mapM Requirement.compile <;> rfl

/-- What a selector compiles to. -/
theorem requirements_of_compile (made : compile selector = .ok compiled) :
    ∃ checked, selector.expressions.mapM Requirement.compile = .ok checked ∧ compiled.requirements =
      (selector.exact.entries.map fun entry => ⟨entry.1, .among, [entry.2]⟩) ++ checked := by
  rw [compile_eq] at made
  cases checked : selector.expressions.mapM Requirement.compile with
  | error error => simp [checked, Except.map] at made
  | ok requirements =>
    simp only [checked, Except.map, Except.ok.injEq] at made
    exact ⟨requirements, rfl, made ▸ rfl⟩

/-- A selector compiles exactly if all its expressions are well formed. -/
theorem exists_compile_iff :
    (∃ compiled, compile selector = .ok compiled) ↔ ∀ expression ∈ selector.expressions, expression.WellFormed := by
  constructor
  · rintro ⟨compiled, made⟩ expression member
    obtain ⟨checked, each, _⟩ := requirements_of_compile made
    obtain ⟨requirement, _, one⟩ := (results_of_mapM each).1 expression member
    exact Requirement.exists_compile_iff.1 ⟨requirement, one⟩
  · intro wellFormed
    obtain ⟨requirements, checked⟩ := exists_mapM_of_forall fun expression member =>
      Requirement.exists_compile_iff.2 (wellFormed expression member)
    exact ⟨_, by rw [compile_eq, checked]; rfl⟩

/-- A selector that does not compile gives the error of its first expression with a fault. -/
theorem compile_eq_error_iff {error : SelectorError} :
    compile selector = .error error ↔ ∃ expression, expression.Offends error ∧
      ∃ earlier later, selector.expressions = earlier ++ expression :: later ∧
        ∀ other ∈ earlier, other.WellFormed := by
  have failed : compile selector = .error error ↔
      selector.expressions.mapM Requirement.compile = .error error := by
    rw [compile_eq]
    cases selector.expressions.mapM Requirement.compile <;> simp [Except.map]
  simp only [failed, mapM_eq_error_iff, Requirement.compile_eq_error_iff, Requirement.exists_compile_iff]

/-- The exact labels of a selector are required one by one. -/
theorem holds_exact_iff :
    (∀ requirement ∈ selector.exact.entries.map fun entry => (⟨entry.1, .among, [entry.2]⟩ : Requirement),
        requirement.holds labels = true) ↔
      ∀ key value, selector.exact.get? key = some value → labels.get? key = some value := by
  rw [List.forall_mem_map]
  constructor
  · intro each key value held
    simpa [Requirement.holds, Operator.holds, Option.any_eq_true] using
      each (key, value) (SortedMap.mem_entries_iff.2 held)
  · rintro each ⟨key, value⟩ member
    simpa [Requirement.holds, Operator.holds, Option.any_eq_true] using
      each key value (SortedMap.mem_entries_iff.1 member)

/-- A compiled selector matches the labels that the selector asks for. -/
theorem holds_iff (made : compile selector = .ok compiled) (labels : Labels) :
    compiled.holds labels = true ↔ selector.Matches labels := by
  obtain ⟨checked, each, requirements⟩ := requirements_of_compile made
  obtain ⟨given, origins⟩ := results_of_mapM each
  rw [holds, List.all_eq_true, requirements, List.forall_mem_append, holds_exact_iff]
  constructor
  · rintro ⟨exact, met⟩
    refine ⟨exact, fun expression member => ?_⟩
    obtain ⟨requirement, among, one⟩ := given expression member
    exact (Requirement.holds_of_compile one labels).1 (met requirement among)
  · rintro ⟨exact, met⟩
    refine ⟨exact, fun requirement among => ?_⟩
    obtain ⟨expression, member, one⟩ := origins requirement among
    exact (Requirement.holds_of_compile one labels).2 (met expression member)

/-- A compiled selector is empty exactly if the selector asks for nothing. -/
theorem isEmpty_iff (made : compile selector = .ok compiled) :
    compiled.isEmpty = true ↔ selector.exact = ∅ ∧ selector.expressions = [] := by
  obtain ⟨checked, each, requirements⟩ := requirements_of_compile made
  obtain ⟨given, origins⟩ := results_of_mapM each
  rw [isEmpty, List.isEmpty_iff, requirements, List.append_eq_nil_iff, List.map_eq_nil_iff]
  refine and_congr ⟨fun none => SortedMap.ext_entries none, fun none => by rw [none]; rfl⟩ ?_
  rw [List.eq_nil_iff_forall_not_mem, List.eq_nil_iff_forall_not_mem]
  constructor
  · intro none expression member
    obtain ⟨requirement, among, _⟩ := given expression member
    exact none requirement among
  · intro none requirement among
    obtain ⟨expression, member, _⟩ := origins requirement among
    exact none expression member

/-- A selector counts in an injector's configuration if it can be compiled and asks for something. -/
theorem asks_iff :
    selector.Asks ↔ ∃ compiled, compile selector = .ok compiled ∧ compiled.isEmpty = false := by
  constructor
  · rintro ⟨wellFormed, asks⟩
    obtain ⟨compiled, made⟩ := exists_compile_iff.2 wellFormed
    refine ⟨compiled, made, ?_⟩
    rwa [← Bool.not_eq_true, isEmpty_iff made, not_and_or]
  · rintro ⟨compiled, made, some⟩
    refine ⟨exists_compile_iff.1 ⟨compiled, made⟩, ?_⟩
    rwa [← Bool.not_eq_true, isEmpty_iff made, not_and_or] at some

end Selector

/-- Selectors that do not count may be left out. -/
theorem anyMatches_filter_asks (selectors : List LabelSelector) (workload : Workload) :
    anyMatches (selectors.filter fun selector => selector.Asks) workload = anyMatches selectors workload := by
  unfold anyMatches
  rw [List.any_filter]
  congr 1
  funext selector
  by_cases asks : selector.Asks
  · simp [asks]
  · have silent : ∀ compiled, Selector.compile selector = .ok compiled → compiled.isEmpty = true := by
      intro compiled made
      by_contra some
      exact asks (Selector.asks_iff.2 ⟨compiled, made, Bool.not_eq_true _ ▸ some⟩)
    cases made : Selector.compile selector with
    | error error => simp [asks]
    | ok compiled => simp [asks, silent compiled made]

end Injection

namespace LabelExpression

variable {expression other : LabelExpression}

/-- Opposite expressions are well formed together, and exactly one of them is met by given labels. -/
theorem of_opposite (opposite : expression.opposite? = some other) :
    (other.WellFormed ↔ expression.WellFormed) ∧
      (expression.WellFormed → ∀ labels, other.Meets labels ↔ ¬ expression.Meets labels) := by
  obtain ⟨key, operator, values⟩ := expression
  unfold opposite? at opposite
  dsimp only at opposite
  split at opposite
  · -- `In` and `NotIn`
    obtain rfl := Option.some.inj opposite
    exact ⟨by simp [WellFormed, listed], fun _ labels => by simp [Meets, listed]⟩
  · -- `Exists` and `DoesNotExist`
    obtain rfl := Option.some.inj opposite
    refine ⟨by simp [WellFormed, listed], fun _ labels => ?_⟩
    simp [Meets, Option.eq_none_iff_forall_ne_some]
  · cases opposite

end LabelExpression

/-- A selector with a single expression and nothing else matches the labels that meet it. -/
theorem LabelSelector.matches_iff_of_single {selector : LabelSelector} {expression : LabelExpression}
    {labels : Labels} (inexact : selector.exact = ∅) (only : selector.expressions = [expression]) :
    selector.Matches labels ↔ expression.Meets labels := by
  refine ⟨fun both => both.expressions expression (only ▸ List.mem_cons_self), fun met => ⟨?_, ?_⟩⟩
  · intro key value held
    rw [inexact] at held
    cases held
  · rw [only, List.forall_mem_singleton]
    exact met

namespace Injection

/-- Selectors that cannot be compiled or ask for nothing may be left out of a configuration. -/
theorem injectRequired_filter_asks (ignored : List String) (namespaceInjected : Bool) (config : Config)
    (workload : Workload) :
    injectRequired ignored namespaceInjected
        { config with
          always := config.always.filter fun selector => selector.Asks
          never := config.never.filter fun selector => selector.Asks } workload =
      injectRequired ignored namespaceInjected config workload := by
  unfold injectRequired
  simp only [anyMatches_filter_asks]

namespace Selector

variable {selector wider : LabelSelector} {compiled : Selector} {expression other : LabelExpression}

/-- The opposite of the only expression of a selector turns its result around. -/
theorem compile_opposite (made : compile selector = .ok compiled) (inexact : selector.exact = ∅)
    (only : selector.expressions = [expression]) (opposite : expression.opposite? = some other) :
    ∃ negated, compile { selector with matchExpressions := some [other] } = .ok negated ∧
      ∀ labels, negated.holds labels = !compiled.holds labels := by
  have wellFormed : expression.WellFormed :=
    exists_compile_iff.1 ⟨compiled, made⟩ expression (only ▸ List.mem_cons_self)
  obtain ⟨alike, reversed⟩ := expression.of_opposite opposite
  have negatable : ∀ member ∈ ({ selector with matchExpressions := some [other] } : LabelSelector).expressions,
      member.WellFormed := fun member inside => List.mem_singleton.1 inside ▸ alike.2 wellFormed
  obtain ⟨negated, negatedMade⟩ := exists_compile_iff.2 negatable
  have inexactToo : ({ selector with matchExpressions := some [other] } : LabelSelector).exact = ∅ := inexact
  refine ⟨negated, negatedMade, fun labels => ?_⟩
  rw [Bool.eq_not, ne_eq, Bool.eq_iff_iff, holds_iff negatedMade, holds_iff made,
    LabelSelector.matches_iff_of_single inexactToo rfl, LabelSelector.matches_iff_of_single inexact only,
    reversed wellFormed]
  exact not_iff_self

/-- More well-formed expressions match fewer labels. -/
theorem compile_wider (made : compile selector = .ok compiled) (sameExact : wider.exact = selector.exact)
    (kept : selector.expressions ⊆ wider.expressions)
    (added : ∀ expression ∈ wider.expressions, expression ∈ selector.expressions ∨ expression.WellFormed) :
    ∃ narrower, compile wider = .ok narrower ∧
      ∀ labels, narrower.holds labels = true → compiled.holds labels = true := by
  have wellFormed : ∀ expression ∈ wider.expressions, expression.WellFormed := fun expression member =>
    (added expression member).elim (exists_compile_iff.1 ⟨compiled, made⟩ expression) id
  obtain ⟨narrower, narrowerMade⟩ := exists_compile_iff.2 wellFormed
  refine ⟨narrower, narrowerMade, fun labels holds => ?_⟩
  obtain ⟨exact, met⟩ := (holds_iff narrowerMade labels).1 holds
  exact (holds_iff made labels).2 ⟨sameExact ▸ exact, fun expression member => met expression (kept member)⟩

/-- A selector compiles exactly if its expressions are well formed, and fails with the error of the first one
that is not. A compiled selector matches the labels that have its exact labels and meet its expressions. So the
opposite of a single expression turns the result around, more expressions only take labels away, and selectors
that do not compile or ask for nothing have no part in the decision of an injector. -/
theorem compiled_meaning (selector : LabelSelector) :
    ((∃ compiled, compile selector = .ok compiled) ↔
      ∀ expression ∈ selector.expressions, expression.WellFormed) ∧
    (∀ error, compile selector = .error error ↔ ∃ expression, expression.Offends error ∧
      ∃ earlier later, selector.expressions = earlier ++ expression :: later ∧
        ∀ other ∈ earlier, other.WellFormed) ∧
    (∀ compiled, compile selector = .ok compiled →
      (∀ labels, compiled.holds labels = true ↔ selector.Matches labels) ∧
      (∀ expression other, selector.exact = ∅ → selector.expressions = [expression] →
        expression.opposite? = some other →
          ∃ negated, compile { selector with matchExpressions := some [other] } = .ok negated ∧
            ∀ labels, negated.holds labels = !compiled.holds labels) ∧
      ∀ wider : LabelSelector, wider.exact = selector.exact → selector.expressions ⊆ wider.expressions →
        (∀ expression ∈ wider.expressions, expression ∈ selector.expressions ∨ expression.WellFormed) →
          ∃ narrower, compile wider = .ok narrower ∧
            ∀ labels, narrower.holds labels = true → compiled.holds labels = true) ∧
    ∀ ignored namespaceInjected config workload,
      injectRequired ignored namespaceInjected
          { config with
            always := config.always.filter fun selector => selector.Asks
            never := config.never.filter fun selector => selector.Asks } workload =
        injectRequired ignored namespaceInjected config workload :=
  ⟨exists_compile_iff, fun _ => compile_eq_error_iff, fun _ made =>
    ⟨holds_iff made, fun _ _ => compile_opposite made, fun _ => compile_wider made⟩,
    injectRequired_filter_asks⟩

section Frontends

/-- Frontends of the shop that are no legacy ones. -/
private def frontends : LabelSelector where
  matchLabels := some (.ofList [("app", "shop")])
  matchExpressions := some [⟨"tier", "NotIn", some ["db", "cache"]⟩, ⟨"legacy", "DoesNotExist", none⟩]

/-- Of the last three expressions, which all have a fault, the first one gives the error. -/
private def faulty : LabelSelector where
  matchExpressions := some [⟨"app", "Exists", some []⟩, ⟨"tier", "In", none⟩, ⟨"zone", "Like", some ["a"]⟩,
    ⟨"app", "Exists", some ["shop"]⟩]

theorem compiled_meaning_frontends :
    (∃ compiled, compile frontends = .ok compiled ∧
      compiled.holds (.ofList [("app", "shop")]) = true ∧
      compiled.holds (.ofList [("app", "shop"), ("tier", "db")]) = false) ∧
      compile faulty = .error (.missingValues "In" "tier") := by
  obtain ⟨compiles, _, meaning, _⟩ := compiled_meaning frontends
  obtain ⟨_, failure, _, _⟩ := compiled_meaning faulty
  obtain ⟨compiled, made⟩ := compiles.2 (by decide)
  have means := (meaning compiled made).1
  have plain : frontends.Matches (.ofList [("app", "shop")]) := by
    have untiered : SortedMap.get? (.ofList [("app", "shop")] : Labels) "tier" = none := by decide
    have modern : SortedMap.get? (.ofList [("app", "shop")] : Labels) "legacy" = none := by decide
    refine ⟨fun key value held => held, ?_⟩
    simp [frontends, LabelSelector.expressions, LabelExpression.Meets, untiered, modern]
  have database : ¬ frontends.Matches (.ofList [("app", "shop"), ("tier", "db")]) := fun matching =>
    matching.expressions ⟨"tier", "NotIn", some ["db", "cache"]⟩ (by decide) "db" (by decide) (by decide)
  refine ⟨⟨compiled, made, (means _).2 plain, ?_⟩, ?_⟩
  · rw [← Bool.not_eq_true, means]
    exact database
  · exact (failure _).2 ⟨⟨"tier", "In", none⟩, .valueless (by decide) rfl,
      [⟨"app", "Exists", some []⟩], _, rfl, by decide⟩

end Frontends

end Selector

end Injection

end MeshControl
