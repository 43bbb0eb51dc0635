/-
# Rules

A rule carries out actions on the data when its condition holds. Its scope may
restrict it to some countries and roles. Of the rules in scope, those of higher
priority run first.

Key definitions: `Action`, `RuleScope`, `Rule`, `RuleSet`, `Rule.inScope`.
-/
import PageFlow.Condition
import PageFlow.Context

namespace PageFlow

/-- What a rule does when its condition holds. -/
inductive Action where
  /-- Writes a value into the data: the one a path leads to, or else the one
  given, or else `null`. -/
  | setField (path : String) (value : Option Json) (valueFrom : Option String)
  /-- Reports an event to the host. -/
  | emitEvent (event : String) (payload : Option Json)

/-- The countries and roles that a rule is for. An empty list admits all. -/
structure RuleScope where
  countries : List String
  roles : List String

/-- A condition and what to do when it holds. -/
structure Rule where
  ruleId : String
  description : String
  priority : Binary64
  scope : Option RuleScope
  condition : Condition
  actions : List Action

/-- The rules of an application. -/
structure RuleSet where
  version : String
  rules : List Rule

/-- The rule set without rules. -/
def RuleSet.empty : RuleSet := ⟨"", []⟩

/-- Whether a scope admits a context. -/
def RuleScope.admits (scope : RuleScope) (context : Context) : Bool :=
  (scope.countries.isEmpty || context.country.any fun c => scope.countries.contains c) &&
    (scope.roles.isEmpty || context.hasAnyRole scope.roles)

/-- Whether a rule is for a context. -/
def Rule.inScope (rule : Rule) (context : Context) : Bool :=
  match rule.scope with
  | none => true
  | some scope => scope.admits context

end PageFlow
