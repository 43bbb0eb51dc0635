/-
# Explanations of traces that were read

An explanation shows of the values in a trace only the payloads of events, each by its
compact text, which no other value has. So a trace that was printed and read again is
explained as it was if its events are read as they were, and otherwise differently for
people and in Markdown, verbose or not.

Key definitions: `Trace.KeepsEvents`.
Key theorems: `Trace.explain_reread`.
-/
import PageFlow.Explanation
import PageFlow.Proofs.Json.Printer
import PageFlow.Proofs.Trace.Reread

namespace PageFlow

/-- The events of the rules are read as they were printed. -/
def Trace.KeepsEvents (t : Trace) : Prop :=
  ∀ rules ∈ t.rules, ∀ e ∈ rules.events, e.reread = e

/-! ### Lines -/

theorem toList_unlines_cons (line : String) (lines : List String) :
    (unlines (line :: lines)).toList = line.toList ++ '\n' :: (unlines lines).toList := by
  rw [unlines, List.map_cons, String.join_cons, String.toList_append, String.toList_append,
    List.append_assoc]
  rfl

theorem toList_unlines_append (lines more : List String) :
    (unlines (lines ++ more)).toList = (unlines lines).toList ++ (unlines more).toList := by
  induction lines with
  | nil => rfl
  | cons line lines ih =>
    rw [List.cons_append, toList_unlines_cons, toList_unlines_cons, ih, List.append_assoc]
    rfl

/-! ### Events -/

variable (format : ExplainFormat)

namespace EmittedEvent

/-- The line of an event that is read shows whether it is read as it was. -/
theorem line_append_inj {e : EmittedEvent} {r s : List Char}
    (h : (e.reread.line format).toList ++ '\n' :: r = (e.line format).toList ++ '\n' :: s) :
    e.reread = e ∧ r = s := by
  obtain ⟨ruleId, event, payload⟩ := e
  cases payload with
  | none => exact ⟨rfl, (List.cons.inj (List.append_cancel_left h)).2⟩
  | some value =>
    have hstops : ∀ rest, Document.Cursor.Stops ('\n' :: rest) := by rintro rest c ⟨⟩; decide
    simp only [line, reread, Option.map_some, String.toList_append, List.append_assoc,
      Json.compact, String.toList_ofList] at h
    obtain ⟨hvalue, hrest⟩ := Json.compactChars_append_inj (hstops r) (hstops s)
      (List.append_cancel_left (List.append_cancel_left (List.append_cancel_left
        (List.append_cancel_left (List.append_cancel_left h)))))
    exact ⟨congrArg (fun value => EmittedEvent.mk ruleId event (some value)) hvalue,
      (List.cons.inj hrest).2⟩

theorem reread_eq_of_unlines {r s : List Char} : ∀ {events : List EmittedEvent},
    (unlines ((events.map reread).map (line format))).toList ++ r =
      (unlines (events.map (line format))).toList ++ s → ∀ e ∈ events, e.reread = e
  | [], _ => by simp
  | e :: events, h => by
    rw [List.map_cons, List.map_cons, List.map_cons, toList_unlines_cons, toList_unlines_cons,
      List.append_assoc, List.append_assoc] at h
    obtain ⟨hsame, hrest⟩ := line_append_inj format h
    exact List.forall_mem_cons.mpr ⟨hsame, reread_eq_of_unlines hrest⟩

end EmittedEvent

/-! ### Traces -/

variable (verbose : Bool)

/-- The lines about the rules before those of the events. -/
def RulesTrace.openingLines (t : RulesTrace) : List String :=
  format.heading "RULES" ++
    [toString t.rulesConsidered.length ++ " rule(s) in scope, " ++
      toString t.rulesMatched.length ++ " matched."] ++
    t.rulesConsidered.map (t.ruleLine format)

/-- The lines about the rules behind those of the events. -/
def RulesTrace.closingLines (t : RulesTrace) : List String :=
  t.errors.map (fun e => format.warning (e.ruleId ++ ": " ++ e.message)) ++
    if verbose then clauseLines t.conditionResults else []

theorem RulesTrace.lines_eq (t : RulesTrace) : t.lines format verbose =
    t.openingLines format ++ (t.events.map (EmittedEvent.line format) ++
      t.closingLines format verbose) := by
  rw [lines, openingLines, closingLines, List.append_assoc, List.append_assoc]

/-- The bodies of the request and of the response are not shown. -/
theorem ApiTrace.lines_reread (t : ApiTrace) : t.reread.lines format = t.lines format := by
  obtain ⟨apiId, method, endpoint, url, request, response, error, errors, timing⟩ := t
  cases response <;> rfl

/-- What is read of the trace of the rules is the trace if its events are kept. -/
theorem RulesTrace.reread_eq {t : RulesTrace} (h : ∀ e ∈ t.events, e.reread = e) :
    t.reread = t := by
  rw [reread, List.map_congr_left h, List.map_id']

namespace Trace

/-- The lines about the rules, if they ran. -/
def ruleLines (t : Trace) : List String :=
  match t.rules with
  | some rules => "" :: rules.lines format verbose
  | none => []

/-- The lines about the call, if there was one, and about the times. -/
def closingLines (t : Trace) : List String :=
  (match t.api with
    | some api => "" :: api.lines format
    | none => []) ++
    ["", "Started " ++ t.timing.startedAt ++ " and took " ++ toString t.timing.durationMs ++ " ms."]

theorem lines_eq (t : Trace) : t.lines format verbose =
    t.flow.lines format verbose ++ (t.ruleLines format verbose ++ t.closingLines format) := by
  rw [lines, List.append_assoc, List.append_assoc]
  rfl

theorem lines_reread (t : Trace) : t.reread.lines format verbose =
    t.flow.lines format verbose ++ (t.reread.ruleLines format verbose ++ t.closingLines format) := by
  obtain ⟨timing, flow, rules, api⟩ := t
  rw [lines_eq]
  cases api with
  | none => rfl
  | some api =>
    simp only [closingLines, reread, Option.map_some, ApiTrace.lines_reread]

/-- **A trace that was read is explained as it was** just if its events are read as
they were, for either format, verbose or not. -/
theorem explain_reread (t : Trace) :
    t.reread.explain format verbose = t.explain format verbose ↔ t.KeepsEvents := by
  rw [explain, explain, lines_reread, lines_eq, ← String.toList_inj]
  simp only [toList_unlines_append, List.append_cancel_left_eq, List.append_cancel_right_eq]
  obtain ⟨timing, flow, rules, api⟩ := t
  cases rules with
  | none => exact ⟨fun _ _ hrules => (nomatch hrules), fun _ => rfl⟩
  | some rules =>
    simp only [ruleLines, reread, Option.map_some]
    constructor
    · intro h rules hrules
      obtain rfl := Option.some.inj hrules
      rw [toList_unlines_cons, toList_unlines_cons, RulesTrace.lines_eq, RulesTrace.lines_eq,
        toList_unlines_append, toList_unlines_append, toList_unlines_append,
        toList_unlines_append] at h
      exact EmittedEvent.reread_eq_of_unlines format
        (List.append_cancel_left (List.cons.inj (List.append_cancel_left h)).2)
    · intro h
      rw [RulesTrace.reread_eq (h rules rfl)]

-- A payload need not be kept: the number that is read of `1e-30` is printed otherwise.
example : (Document.parseJson "1e-30".toList).toOption.map
    (fun payload => (payload.compact, payload.reread.compact)) =
      some ("9.999999999999999e-31", "1e-30") := by decide +kernel

end Trace
end PageFlow
