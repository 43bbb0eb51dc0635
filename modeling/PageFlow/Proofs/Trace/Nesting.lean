/-
# How deep traces are nested

A value from a document stands deeper in a trace than in that document: the payload of
an event in four arrays and objects, the bodies of a call in three, and in an outcome
in one more. Nothing else in a trace is deep.

Key theorems: `Trace.nesting_json_le`, `StepOutcome.nesting_json_le`.
-/
import PageFlow.Proofs.Json.Reread
import PageFlow.Step

namespace PageFlow

/-! ### Arrays and objects -/

namespace Json

variable {n : Nat}

theorem nestingItems_le {items : List Json} :
    nestingItems items ≤ n ↔ ∀ x ∈ items, x.nesting ≤ n := by
  induction items with
  | nil => simp [nestingItems]
  | cons x rest ih => rw [nestingItems, Nat.max_le, ih, List.forall_mem_cons]

theorem nestingFields_le {fields : List (String × Json)} :
    nestingFields fields ≤ n ↔ ∀ e ∈ fields, e.2.nesting ≤ n := by
  induction fields with
  | nil => simp [nestingFields]
  | cons e rest ih => rw [nestingFields, Nat.max_le, ih, List.forall_mem_cons]

theorem nesting_array_le {items : List Json} :
    (array items).nesting ≤ n + 1 ↔ ∀ x ∈ items, x.nesting ≤ n := by
  rw [nesting, Nat.add_le_add_iff_right, nestingItems_le]

theorem nesting_object_le {fields : List (String × Json)} :
    (object fields).nesting ≤ n + 1 ↔ ∀ e ∈ fields, e.2.nesting ≤ n := by
  rw [nesting, Nat.add_le_add_iff_right, nestingFields_le]

/-- The value of a field, if it is there, is nested no deeper. -/
def FieldWithin (n : Nat) (field : Option (String × Json)) : Prop :=
  ∀ e ∈ field, e.2.nesting ≤ n

theorem nesting_ofFields_le {fields : List (Option (String × Json))} :
    (ofFields fields).nesting ≤ n + 1 ↔ ∀ field ∈ fields, FieldWithin n field := by
  rw [ofFields, nesting_object_le]
  constructor
  · rintro h field hfield e rfl
    exact h e (List.mem_filterMap.mpr ⟨_, hfield, rfl⟩)
  · intro h e he
    obtain ⟨field, hfield, rfl⟩ := List.mem_filterMap.mp he
    exact h _ hfield e rfl

@[simp]
theorem fieldWithin_field {key : String} {value : Json} :
    FieldWithin n (field key value) ↔ value.nesting ≤ n := by
  simp [FieldWithin, field]

@[simp]
theorem fieldWithin_fieldIfSome {key : String} {value : Option Json} :
    FieldWithin n (fieldIfSome key value) ↔ ∀ v ∈ value, v.nesting ≤ n := by
  cases value <;> simp [FieldWithin, fieldIfSome]

@[simp]
theorem fieldWithin_fieldUnlessEmpty {α : Type} {key : String} {list : List α} {value : Json} :
    FieldWithin n (fieldUnlessEmpty key list value) ↔ (list ≠ [] → value.nesting ≤ n) := by
  cases list <;> simp [FieldWithin, fieldUnlessEmpty]

@[simp]
theorem nesting_string (s : String) : (string s).nesting = 0 := rfl

@[simp]
theorem nesting_bool (b : Bool) : (bool b).nesting = 0 := rfl

@[simp]
theorem nesting_ofNat (n : Nat) : (ofNat n).nesting = 0 := rfl

theorem nesting_ofTexts_le (texts : List String) : (ofTexts texts).nesting ≤ 1 := by
  rw [ofTexts, nesting_array_le]
  simp [nesting]

theorem nesting_mapValues_le {α : Type} {encode : α → Json} (h : ∀ x, (encode x).nesting = 0)
    (d : Dict α) : (object (d.mapValues encode)).nesting ≤ 1 := by
  rw [nesting_object_le]
  intro e he
  obtain ⟨field, -, rfl⟩ := List.mem_map.mp he
  exact Nat.le_of_eq (h _)

end Json

/-! ### Traces -/

theorem nesting_clauseResultsJson_le (results : Dict Bool) :
    (clauseResultsJson results).nesting ≤ 1 :=
  Json.nesting_mapValues_le (fun _ => rfl) results

theorem FlowTrace.nesting_json_le (t : FlowTrace) : t.json.nesting ≤ 2 := by
  have hresults := nesting_clauseResultsJson_le t.conditionResults
  have herrors := Json.nesting_ofTexts_le t.conditionErrors
  rw [json, Json.nesting_ofFields_le]
  simp only [List.forall_mem_cons, Json.fieldWithin_field, Json.fieldWithin_fieldIfSome,
    Json.fieldWithin_fieldUnlessEmpty, Option.forall_mem_map]
  simp [hresults, herrors]

variable {n : Nat}

theorem EmittedEvent.nesting_json_le {e : EmittedEvent} :
    e.json.nesting ≤ n + 1 ↔ ∀ payload ∈ e.payload, payload.nesting ≤ n := by
  rw [json, Json.nesting_ofFields_le]
  simp

theorem RulesTrace.nesting_json_le {t : RulesTrace} : t.json.nesting ≤ n + 3 ↔
    ∀ e ∈ t.events, ∀ payload ∈ e.payload, payload.nesting ≤ n := by
  have hconsidered := Json.nesting_ofTexts_le t.rulesConsidered
  have hmatched := Json.nesting_ofTexts_le t.rulesMatched
  have hresults := nesting_clauseResultsJson_le t.conditionResults
  have herrors : ∀ e ∈ t.errors, e.json.nesting ≤ n + 1 := fun e _ => Nat.le_add_left 1 n
  rw [json, Json.nesting_object_le]
  simp only [List.forall_mem_cons, Json.nesting_array_le, List.forall_mem_map,
    EmittedEvent.nesting_json_le]
  constructor
  · exact fun h => h.2.2.2.1
  · exact fun h => ⟨by omega, by omega, by omega, h, herrors, List.forall_mem_nil _⟩

theorem ApiRequestTrace.nesting_json_le {t : ApiRequestTrace} : t.json.nesting ≤ n + 2 ↔
    ∀ body ∈ t.body, body.nesting ≤ n + 1 := by
  have hquery := Json.nesting_mapValues_le Json.nesting_string t.query
  have hheaders := Json.nesting_mapValues_le Json.nesting_string t.headers
  rw [json, Json.nesting_ofFields_le]
  simp [hquery.trans (Nat.le_add_left 1 n), hheaders.trans (Nat.le_add_left 1 n)]

theorem ApiResponseTrace.nesting_json_le {t : ApiResponseTrace} : t.json.nesting ≤ n + 1 ↔
    t.body.nesting ≤ n := by
  rw [json, Json.nesting_object_le]
  simp

theorem ApiTrace.nesting_json_le {t : ApiTrace} : t.json.nesting ≤ n + 3 ↔
    (∀ body ∈ t.request.body, body.nesting ≤ n + 1) ∧
      ∀ response ∈ t.response, response.body.nesting ≤ n + 1 := by
  have herrors := (Json.nesting_ofTexts_le t.errors).trans (Nat.le_add_left 1 (n + 1))
  rw [json, Json.nesting_ofFields_le]
  simp [herrors, ApiRequestTrace.nesting_json_le, ApiResponseTrace.nesting_json_le]

/-- **A trace is nested as deep as the payloads of its events and the bodies of its call
make it.** -/
theorem Trace.nesting_json_le {t : Trace} : t.json.nesting ≤ n + 4 ↔
    (∀ rules ∈ t.rules, ∀ e ∈ rules.events, ∀ payload ∈ e.payload, payload.nesting ≤ n) ∧
      ∀ api ∈ t.api, (∀ body ∈ api.request.body, body.nesting ≤ n + 1) ∧
        ∀ response ∈ api.response, response.body.nesting ≤ n + 1 := by
  have hflow := t.flow.nesting_json_le
  have hflow : t.flow.json.nesting ≤ n + 3 := by omega
  rw [json, Json.nesting_ofFields_le]
  simp [hflow, RulesTrace.nesting_json_le, ApiTrace.nesting_json_le]

/-- An outcome has its trace one level deeper, beside its context, its data and its schema. -/
theorem StepOutcome.nesting_json_le {o : StepOutcome} : o.json.nesting ≤ n + 1 ↔
    o.updatedContext.json.nesting ≤ n ∧ (Json.object o.updatedData).nesting ≤ n ∧
      (∀ schema ∈ o.uiSchema, schema.nesting ≤ n) ∧ o.trace.json.nesting ≤ n := by
  have hschema : (o.uiSchema.getD .null).nesting ≤ n ↔ ∀ schema ∈ o.uiSchema, schema.nesting ≤ n := by
    cases o.uiSchema <;> simp [Json.nesting]
  rw [json, Json.nesting_object_le]
  simp [hschema]

end PageFlow
