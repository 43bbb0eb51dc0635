/-
# Conditions that are read back

The forms of a condition have different keys, so what is written of a condition
fits its own form and none that is tried before it, at any depth. The values of
operands are read in canonical form, and such values stay as they are.

Key definitions: `Operand.Ordered`, `Comparison.Ordered`, `Condition.Ordered`.
Key theorems: `Condition.ordered_of_ofContent?`, `Condition.ofContent?_json`,
`settles_decodeCondition`.
-/
import PageFlow.Condition.Document
import PageFlow.Proofs.Document.RoundTrip

namespace PageFlow
open Document

/-- A value that is an operand is ordered. -/
def Operand.Ordered : Operand → Prop
  | .path _ => True
  | .value x => x.Ordered

/-- The values of both operands are ordered. -/
structure Comparison.Ordered (c : Comparison) : Prop where
  left : c.left.Ordered
  right : ∀ o ∈ c.right, o.Ordered

namespace Condition

mutual

/-- The values of all operands, at any depth, are ordered. -/
def Ordered : Condition → Prop
  | .all parts => OrderedList parts
  | .any parts => OrderedList parts
  | .not part => Ordered part
  | .compare c => c.Ordered

/-- The values of the operands of all parts are ordered. -/
def OrderedList : List Condition → Prop
  | [] => True
  | c :: rest => Ordered c ∧ OrderedList rest

end

end Condition

/-! ### What is read is ordered -/

theorem Operand.ordered_of_ofContent? {content : Json} {o : Operand}
    (h : ofContent? content = some o) : o.Ordered := by
  unfold ofContent? at h
  split at h
  · split at h
    · exact Option.some.inj h ▸ trivial
    · split at h
      · exact Option.some.inj h ▸ Json.ordered_canonical _
      · exact nomatch h
  · exact nomatch h

theorem Operand.ordered_of_ofOptional? {content : Json} {o : Option Operand}
    (h : ofOptional? content = some o) : ∀ operand ∈ o, operand.Ordered := by
  unfold ofOptional? at h
  split at h
  · obtain rfl := Option.some.inj h
    simp
  · obtain ⟨operand, hoperand, rfl⟩ := Option.map_eq_some_iff.mp h
    rintro _ ⟨⟩
    exact ordered_of_ofContent? hoperand

theorem Comparison.ordered_of_ofParts? {op left right : Json} {c : Comparison}
    (h : ofParts? op left right = some c) : c.Ordered := by
  simp only [ofParts?, bind, Option.bind_eq_some_iff, pure, Option.some.injEq] at h
  obtain ⟨operator, -, left, hleft, right, hright, rfl⟩ := h
  exact ⟨Operand.ordered_of_ofContent? hleft, Operand.ordered_of_ofOptional? hright⟩

theorem Comparison.ordered_of_ofContent? {content : Json} {c : Comparison}
    (h : ofContent? content = some c) : c.Ordered := by
  unfold ofContent? at h
  split at h
  · split at h
    · exact ordered_of_ofParts? h
    · exact ordered_of_ofParts? h
    · exact nomatch h
  · exact ordered_of_ofParts? h
  · exact ordered_of_ofParts? h
  · exact nomatch h

namespace Condition

theorem ordered_compare {content : Json} {c : Condition}
    (h : (Comparison.ofContent? content).map Condition.compare = some c) : c.Ordered := by
  obtain ⟨comparison, hcomparison, rfl⟩ := Option.map_eq_some_iff.mp h
  rw [Ordered]
  exact Comparison.ordered_of_ofContent? hcomparison

mutual

/-- The values in a condition that is read are ordered. -/
theorem ordered_of_ofContent? : ∀ {content : Json} {c : Condition},
    ofContent? content = some c → c.Ordered
  | .object fields, c, h => by
    rw [ofContent?] at h
    split at h
    · next parts hall =>
      obtain rfl := Option.some.inj h
      rw [Ordered]
      exact ordered_of_partsUnder (hall ▸ List.mem_singleton_self _)
    · split at h
      · next parts hany =>
        obtain rfl := Option.some.inj h
        rw [Ordered]
        exact ordered_of_partsUnder (hany ▸ List.mem_singleton_self _)
      · split at h
        · next part hnot =>
          obtain rfl := Option.some.inj h
          rw [Ordered]
          exact ordered_of_partUnder (hnot ▸ List.mem_singleton_self _)
        · exact ordered_compare h
  | .array items, c, h => by
    rw [ofContent?] at h
    exact ordered_compare h
  | .null, c, h => nomatch h
  | .bool _, c, h => nomatch h
  | .number _, c, h => nomatch h
  | .string _, c, h => nomatch h

theorem ordered_of_listOfContent? : ∀ {items : List Json} {parts : List Condition},
    listOfContent? items = some parts → OrderedList parts
  | [], parts, h => by
    obtain rfl : [] = parts := Option.some.inj h
    trivial
  | x :: rest, parts, h => by
    rw [listOfContent?] at h
    split at h
    · exact nomatch h
    · next c hc =>
      obtain ⟨more, hmore, rfl⟩ := Option.map_eq_some_iff.mp h
      exact ⟨ordered_of_ofContent? hc, ordered_of_listOfContent? hmore⟩

theorem ordered_of_partsUnder {key : String} : ∀ {fields : List (String × Json)}
    {parts : List Condition}, some parts ∈ partsUnder key fields → OrderedList parts
  | (k, .array items) :: rest, parts, h => by
    rw [partsUnder] at h
    split at h
    · rcases List.mem_cons.mp h with hitems | hrest
      · exact ordered_of_listOfContent? hitems.symm
      · exact ordered_of_partsUnder hrest
    · exact ordered_of_partsUnder h
  | (k, .null) :: rest, parts, h | (k, .bool _) :: rest, parts, h
  | (k, .number _) :: rest, parts, h | (k, .string _) :: rest, parts, h
  | (k, .object _) :: rest, parts, h => by
    rw [partsUnder] at h
    · split at h
      · exact ordered_of_partsUnder ((List.mem_cons.mp h).resolve_left nofun)
      · exact ordered_of_partsUnder h
    · exact nofun

theorem ordered_of_partUnder {key : String} : ∀ {fields : List (String × Json)}
    {part : Condition}, some part ∈ partUnder key fields → Ordered part
  | (k, x) :: rest, part, h => by
    rw [partUnder] at h
    split at h
    · rcases List.mem_cons.mp h with hx | hrest
      · exact ordered_of_ofContent? hx.symm
      · exact ordered_of_partUnder hrest
    · exact ordered_of_partUnder h

end

end Condition

/-! ### What is written is read -/

theorem Operator.ofContent?_name (op : Operator) : ofContent? (.string op.name) = some op := by
  cases op <;> rfl

theorem Operand.ofContent?_json {o : Operand} (h : o.Ordered) :
    ofContent? o.json.canonical = some o := by
  cases o with
  | path raw => rfl
  | value x =>
    show some (Operand.value x.canonical.canonical) = _
    rw [Json.canonical_of_ordered h, Json.canonical_of_ordered h]

theorem Operand.ofOptional?_json {o : Operand} (h : o.Ordered) :
    ofOptional? o.json.canonical = some (some o) := by
  have hread := ofContent?_json h
  cases o <;> exact congrArg (Option.map some) hread

theorem Comparison.canonical_json (c : Comparison) :
    c.json.canonical = .object (("left", c.left.json.canonical) :: ("op", .string c.op.name) ::
      (c.right.map fun o => ("right", o.json.canonical)).toList) := by
  obtain ⟨op, left, right⟩ := c
  have hop : ("op" : String) ≠ "left" ∧ ("left" : String) < "op" := by decide
  have hleft : ("left" : String) ≠ "right" ∧ ¬ ("right" : String) < "left" := by decide
  have hright : ("op" : String) ≠ "right" ∧ ¬ ("right" : String) < "op" := by decide
  cases right <;>
    simp only [json, Json.ofFields, Json.field, Json.fieldIfSome, Json.canonical,
      Json.canonicalFields, Dict.ofList, Dict.insertAll, Dict.insert, List.filterMap_cons,
      List.filterMap_nil, List.foldl_cons, List.foldl_nil, Option.map_none, Option.map_some,
      Option.toList_none, Option.toList_some, id, hop, hleft, hright, if_true, if_false]

theorem Comparison.ofContent?_json {c : Comparison} (h : c.Ordered) :
    ofContent? c.json.canonical = some c := by
  obtain ⟨op, left, right⟩ := c
  rw [canonical_json]
  have hleft := Operand.ofContent?_json h.left
  cases right with
  | none =>
    simp [ofContent?, valuesUnder, ofParts?, Operator.ofContent?_name, hleft, Operand.ofOptional?]
  | some right =>
    have hright := Operand.ofOptional?_json (h.right right rfl)
    simp [ofContent?, valuesUnder, ofParts?, Operator.ofContent?_name, hleft, hright]

namespace Condition

theorem partsUnder_of_absent (key : String) : ∀ {fields : List (String × Json)},
    (∀ e ∈ fields, e.1 ≠ key) → partsUnder key fields = []
  | [], _ => rfl
  | (k, x) :: rest, h => by
    have hk : k ≠ key := h (k, x) List.mem_cons_self
    have ih := partsUnder_of_absent key fun e he => h e (List.mem_cons_of_mem (k, x) he)
    cases x <;> simp [partsUnder, hk, ih]

theorem partUnder_of_absent (key : String) : ∀ {fields : List (String × Json)},
    (∀ e ∈ fields, e.1 ≠ key) → partUnder key fields = []
  | [], _ => rfl
  | (k, x) :: rest, h => by
    rw [partUnder, if_neg (h (k, x) List.mem_cons_self),
      partUnder_of_absent key fun e he => h e (List.mem_cons_of_mem (k, x) he)]

theorem ofContent?_of_absent {fields : List (String × Json)}
    (h : ∀ e ∈ fields, e.1 ≠ "all" ∧ e.1 ≠ "any" ∧ e.1 ≠ "not") :
    ofContent? (.object fields) = (Comparison.ofContent? (.object fields)).map .compare := by
  rw [ofContent?, partsUnder_of_absent "all" fun e he => (h e he).1,
    partsUnder_of_absent "any" fun e he => (h e he).2.1,
    partUnder_of_absent "not" fun e he => (h e he).2.2]

mutual

/-- **A condition is read back in its own form.** -/
theorem ofContent?_json : ∀ {c : Condition}, c.Ordered → ofContent? c.json.canonical = some c
  | .all parts, h => by
    rw [Ordered] at h
    show ofContent? (.object [("all", .array (Json.canonicalItems (jsonList parts)))]) = _
    rw [ofContent?, partsUnder, if_pos rfl, partsUnder, listOfContent?_json h]
  | .any parts, h => by
    rw [Ordered] at h
    show ofContent? (.object [("any", .array (Json.canonicalItems (jsonList parts)))]) = _
    rw [ofContent?, partsUnder_of_absent "all" (by simp), partsUnder, if_pos rfl,
      partsUnder, listOfContent?_json h]
  | .not part, h => by
    rw [Ordered] at h
    show ofContent? (.object [("not", part.json.canonical)]) = _
    rw [ofContent?, partsUnder_of_absent "all" (by simp),
      partsUnder_of_absent "any" (by simp), partUnder, if_pos rfl, partUnder,
      ofContent?_json h]
  | .compare c, h => by
    rw [Ordered] at h
    rw [json, c.canonical_json, ofContent?_of_absent, ← c.canonical_json,
      Comparison.ofContent?_json h, Option.map_some]
    intro e he
    cases hright : c.right <;> simp [hright] at he <;> rcases he with rfl | rfl | rfl <;> simp

theorem listOfContent?_json : ∀ {parts : List Condition}, OrderedList parts →
    listOfContent? (Json.canonicalItems (jsonList parts)) = some parts
  | [], _ => rfl
  | c :: rest, h => by
    rw [jsonList, Json.canonicalItems, listOfContent?, ofContent?_json h.1, listOfContent?_json h.2]
    rfl

end

theorem json_ne_null (c : Condition) : c.json ≠ .null := by
  cases c <;> rw [json] <;> exact nofun

end Condition

theorem readsBack_decodeCondition {c : Condition} (h : c.Ordered) :
    decodeCondition.ReadsBack c.json c := by
  intro origin
  rw [decodeCondition, Node.content_ofJson]
  dsimp only
  rw [Condition.ofContent?_json h]

/-- Every condition that is read reads back from what is written of it. -/
theorem settles_decodeCondition : decodeCondition.Settles Condition.json := by
  intro origin node c hc
  unfold decodeCondition at hc
  split at hc
  · cases hc
  · split at hc
    · next content _ c' hcontent =>
      obtain rfl := Except.ok.inj hc
      exact readsBack_decodeCondition (Condition.ordered_of_ofContent? hcontent)
    · cases hc

end PageFlow
