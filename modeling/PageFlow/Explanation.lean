/-
# Explaining a trace

The explanation of a trace is a text for people, for a terminal or in Markdown.
It has a section for the event and one for each of the rules and the call, if
the trace has them. On demand it lists the value of every clause.

Key definitions: `ExplainFormat`, `Trace.explain`.
-/
import PageFlow.Json.Printer
import PageFlow.Trace

namespace PageFlow

/-- What an explanation is written for. -/
inductive ExplainFormat where
  | terminal
  | markdown
  deriving DecidableEq

namespace ExplainFormat

/-- The title of a section. -/
def heading (title : String) : ExplainFormat → List String
  | .terminal =>
    ["\x1b[1m" ++ title ++ "\x1b[0m",
      String.ofList (List.replicate title.length (Char.ofNat 0x2550))]
  | .markdown => ["## " ++ title, ""]

/-- A line about something that went well. -/
def success (text : String) : ExplainFormat → String
  | .terminal => "  \x1b[32m[ok]\x1b[0m " ++ text
  | .markdown => "- [x] " ++ text

/-- A line about something that went wrong. -/
def warning (text : String) : ExplainFormat → String
  | .terminal => "  \x1b[33m[!!]\x1b[0m " ++ text
  | .markdown => "- [ ] " ++ text

/-- A name that stands out. -/
def name (text : String) : ExplainFormat → String
  | .terminal => "\x1b[36m" ++ text ++ "\x1b[0m"
  | .markdown => "`" ++ text ++ "`"

end ExplainFormat

/-- The lines about the clauses of a condition. -/
def clauseLines (results : Dict Bool) : List String :=
  results.map fun r => "    " ++ r.1 ++ " = " ++ (if r.2 then "true" else "false")

/-- The sentence about what became of an event. -/
def FlowTrace.summary (t : FlowTrace) (format : ExplainFormat) : String :=
  let event := format.name t.event
  let source := format.name t.fromStateId
  match t.reason with
  | .ok =>
    "Event " ++ event ++ " moved the flow from " ++ source ++ " to " ++
      format.name t.toStateId ++ "."
  | .noTransition =>
    "Event " ++ event ++ " has no transition from " ++ source ++ "; the state is unchanged."
  | .guardFailed =>
    "Event " ++ event ++ " was blocked by the transition guard; the flow stays in " ++ source ++
      "."
  | .error => "Event " ++ event ++ " could not be resolved from " ++ source ++ "."

/-- The lines about an event. -/
def FlowTrace.lines (t : FlowTrace) (format : ExplainFormat) (verbose : Bool) : List String :=
  format.heading "FLOW" ++ [t.summary format] ++
    (t.uiPageId.map fun page => "Page: " ++ format.name page).toList ++
    (t.guardResult.map fun passed =>
      if passed then format.success "guard passed" else format.warning "guard failed").toList ++
    (t.errorMessage.map format.warning).toList ++
    t.conditionErrors.map format.warning ++
    if verbose then clauseLines t.conditionResults else []

/-- The line about a rule that was considered. -/
def RulesTrace.ruleLine (t : RulesTrace) (format : ExplainFormat) (id : String) : String :=
  if t.rulesMatched.contains id then format.success (format.name id ++ " matched")
  else "  - " ++ format.name id ++ " did not match"

/-- The line about an event that a rule reported. -/
def EmittedEvent.line (format : ExplainFormat) (e : EmittedEvent) : String :=
  "  event " ++ format.name e.event ++ " from " ++ e.ruleId ++
    match e.payload with
    | some payload => " " ++ payload.compact
    | none => ""

/-- The lines about the rules. -/
def RulesTrace.lines (t : RulesTrace) (format : ExplainFormat) (verbose : Bool) : List String :=
  format.heading "RULES" ++
    [toString t.rulesConsidered.length ++ " rule(s) in scope, " ++
      toString t.rulesMatched.length ++ " matched."] ++
    t.rulesConsidered.map (t.ruleLine format) ++
    t.events.map (EmittedEvent.line format) ++
    t.errors.map (fun e => format.warning (e.ruleId ++ ": " ++ e.message)) ++
    if verbose then clauseLines t.conditionResults else []

/-- The lines about a call. -/
def ApiTrace.lines (t : ApiTrace) (format : ExplainFormat) : List String :=
  let target := if t.url = "" then "(not sent)" else t.method ++ " " ++ t.url
  format.heading "API" ++ [format.name t.apiId ++ ": " ++ target] ++
    (t.response.map fun r => "Response status: " ++ toString r.status).toList ++
    [match t.error with
      | none => format.success "call succeeded"
      | some e => format.warning e] ++
    (t.errors.filter fun e => t.error != some e).map format.warning ++
    ["Took " ++ toString t.timing.durationMs ++ " ms."]

/-- The lines of an explanation. -/
def Trace.lines (t : Trace) (format : ExplainFormat) (verbose : Bool) : List String :=
  t.flow.lines format verbose ++
    (match t.rules with
      | some rules => "" :: rules.lines format verbose
      | none => []) ++
    (match t.api with
      | some api => "" :: api.lines format
      | none => []) ++
    ["", "Started " ++ t.timing.startedAt ++ " and took " ++ toString t.timing.durationMs ++ " ms."]

/-- Lines in one text, each with its end. -/
def unlines (lines : List String) : String := String.join (lines.map fun line => line ++ "\n")

/-- Explains a trace. -/
def Trace.explain (t : Trace) (format : ExplainFormat) (verbose : Bool) : String :=
  unlines (t.lines format verbose)

end PageFlow
