/-
# Mapped values are ordered

Paths lead to ordered values in ordered values, and writes of ordered values leave
ordered ones. Every transform gives an ordered value for an ordered one. So from
an ordered scope all values of a section are ordered, and they keep the order of
its keys.

Key definitions: `Scope.Ordered`.
Key theorems: `ordered_of_write`, `Transform.ordered_of_function`,
`ordered_of_mem_mappedValues`, `sorted_mappedValues`, `ordered_writeEach`.
-/
import PageFlow.Call.Request
import PageFlow.Proofs.Document.Decoder
import PageFlow.Proofs.Json.Congruence
import PageFlow.Proofs.Outcome

namespace PageFlow

/-! ### Paths -/

theorem Json.ordered_of_at? {value v : Json} {segments : List String} (h : value.Ordered)
    (hv : Json.at? segments value = some v) : v.Ordered := by
  have halike : Option.Rel Json.Alike (Json.at? segments value) _ := (Json.Alike.refl h).at?
  rw [hv, Option.rel_some_some] at halike
  exact halike.left

/-- A write of an ordered value leaves ordered fields. -/
theorem ordered_of_write {path : Path} {new : Json} {fields next : Dict Json}
    (hnew : new.Ordered) (h : (Json.object fields).Ordered)
    (hwrite : write path new fields = .ok next) : (Json.object next).Ordered := by
  have hagree : Agree _ (write path new fields) _ := agree_write (.refl hnew) (.refl h)
  rw [hwrite] at hagree
  cases hagree with
  | ok halike => exact halike.left

/-! ### Scopes -/

/-- All values that paths are read from are ordered. -/
structure Scope.Ordered (scope : Scope) : Prop where
  data : (Json.object scope.data).Ordered
  context : scope.context.Ordered
  response : ∀ v ∈ scope.response, v.Ordered

theorem Json.ordered_getD_null {o : Option Json} (h : ∀ v ∈ o, v.Ordered) :
    (o.getD .null).Ordered := by
  cases o with
  | none => trivial
  | some v => exact h v rfl

namespace Scope.Ordered

variable {scope : Scope}

theorem lookup (h : scope.Ordered) {path : Path} {found : Option Json}
    (hfound : scope.lookup path = .ok found) : ∀ v ∈ found, v.Ordered := by
  intro v hv
  unfold Scope.lookup at hfound
  split at hfound
  · obtain rfl := Except.ok.inj hfound
    split at hv
    · exact nomatch hv
    · exact Json.ordered_of_at? h.data hv
  · obtain rfl := Except.ok.inj hfound
    exact Json.ordered_of_at? h.context hv
  · next response _ hresponse =>
    obtain rfl := Except.ok.inj hfound
    exact Json.ordered_of_at? (h.response response hresponse) hv
  · exact nomatch hfound

theorem resolve (h : scope.Ordered) {path : Path} {value : Json}
    (hvalue : scope.resolve path = .ok value) : value.Ordered := by
  unfold Scope.resolve at hvalue
  split at hvalue
  · exact Except.ok.inj hvalue ▸ h.data
  · obtain ⟨found, hfound, rfl⟩ := eq_ok_of_map hvalue
    exact Json.ordered_getD_null (h.lookup hfound)

end Scope.Ordered

/-! ### Transforms -/

theorem Json.ordered_text (s : String) : (Json.string s).Ordered := trivial

theorem Json.ordered_numeral (n : Number) : (Json.number n).Ordered := trivial

theorem Decimal.ordered_json (d : Decimal) : d.json.Ordered := by
  unfold Decimal.json
  dsimp only
  generalize (if d.normalize.scale = 0
    then (d.normalize.toInt? leastInteger (-leastInteger)).bind Number.ofInt? else none) = whole
  cases whole with
  | some n => exact Json.ordered_numeral n
  | none => cases d.normalize.toBinary64 <;> trivial

namespace Transform

theorem ordered_onText (f : List Char → List Char) {value : Json} (h : value.Ordered) :
    (onText f value).Ordered := by
  unfold onText
  split
  · exact Json.ordered_text _
  · exact h

theorem ordered_string (value : Json) : (string value).Ordered := by
  cases value <;> exact Json.ordered_text _

theorem ordered_number (value : Json) : (number value).Ordered := by
  unfold number
  split
  · exact Json.ordered_numeral _
  · split
    · exact Decimal.ordered_json _
    · trivial

theorem ordered_length (value : Json) : (length value).Ordered := by
  cases value <;> exact Json.ordered_numeral _

theorem ordered_onNumber (f : Decimal → Decimal) (value : Json) : (onNumber f value).Ordered := by
  unfold onNumber
  split
  · exact Decimal.ordered_json _
  · trivial

/-- No function makes an ordered value disordered. -/
theorem ordered_of_function {name : String} {f : Json → Json} (hf : function? name = some f)
    {value : Json} (h : value.Ordered) : (f value).Ordered := by
  obtain ⟨entry, hentry, rfl⟩ := Option.map_eq_some_iff.mp hf
  have hmem := List.mem_of_find?_eq_some hentry
  simp only [functions, List.mem_cons, List.not_mem_nil, or_false] at hmem
  rcases hmem with rfl | rfl | rfl | rfl | rfl | rfl | rfl | rfl | rfl | rfl | rfl | rfl | rfl
  all_goals first
    | exact ordered_onText _ h
    | exact ordered_string value
    | exact ordered_number value
    | exact ordered_length value
    | exact ordered_onNumber _ value
    | exact Json.ordered_text _
    | trivial

theorem ordered_of_apply {expression : String} {value result : Json} (h : value.Ordered)
    (hresult : apply expression value = .ok result) : result.Ordered := by
  obtain ⟨f, hf, rfl⟩ := eq_ok_of_map hresult
  unfold compile at hf
  split at hf
  · exact nomatch hf
  · split at hf
    · next name _ _ hfunction =>
      obtain rfl := Except.ok.inj hf
      exact ordered_of_function hfunction h
    · exact nomatch hf

end Transform

/-! ### Entries -/

theorem ordered_of_parseJson {text : List Char} {value : Json}
    (h : Document.parseJson text = .ok value) : value.Ordered := by
  obtain ⟨node, hnode⟩ := Document.exists_of_parse h
  exact Document.Node.ordered_of_json hnode

theorem Reference.ordered_literalValue (text : List Char) : (literalValue text).Ordered := by
  unfold literalValue
  split
  · next hparse => exact ordered_of_parseJson hparse
  · trivial

theorem Scope.Ordered.reference {scope : Scope} (h : scope.Ordered) {raw : String} {value : Json}
    (hvalue : (Reference.parse raw).bind (Reference.resolve scope) = .ok value) :
    value.Ordered := by
  obtain ⟨reference, hreference, hresolve⟩ := eq_ok_of_bind hvalue
  cases reference with
  | path p => exact h.resolve (eq_ok_of_mapError hresolve)
  | literal v =>
    obtain rfl := Except.ok.inj hresolve
    unfold Reference.parse at hreference
    dsimp only at hreference
    split at hreference
    · obtain ⟨rfl⟩ := Except.ok.inj hreference
      exact Reference.ordered_literalValue _
    · split at hreference <;> exact nomatch hreference

theorem Scope.Ordered.entry {scope : Scope} (h : scope.Ordered) {entry : MappingEntry}
    {value : Json} (hvalue : entry.resolve scope = .ok value) : value.Ordered := by
  unfold MappingEntry.resolve at hvalue
  split at hvalue
  · exact nomatch hvalue
  · next source hsource =>
    have hordered := h.reference hsource
    split at hvalue
    · exact Except.ok.inj hvalue ▸ hordered
    · exact Transform.ordered_of_apply hordered (eq_ok_of_mapError hvalue)

/-! ### Sections -/

theorem ordered_of_mem_mappedValues {scope : Scope} (h : scope.Ordered) :
    ∀ {entries : Dict MappingEntry}, ∀ e ∈ mappedValues scope entries, e.2.Ordered
  | (key, entry) :: rest, e, he => by
    rw [mappedValues] at he
    split at he
    · next value hvalue =>
      rcases List.mem_cons.mp he with rfl | he
      · exact h.entry hvalue
      · exact ordered_of_mem_mappedValues h e he
    · exact ordered_of_mem_mappedValues h e he

theorem keys_mappedValues_sublist (scope : Scope) : ∀ entries : Dict MappingEntry,
    (Dict.keys (mappedValues scope entries)).Sublist (Dict.keys entries)
  | [] => .slnil
  | (key, entry) :: rest => by
    rw [mappedValues]
    split
    · exact (keys_mappedValues_sublist scope rest).cons_cons key
    · exact (keys_mappedValues_sublist scope rest).cons key

/-- Mapped values keep the order of the entries. -/
theorem sorted_mappedValues (scope : Scope) {entries : Dict MappingEntry}
    (h : Dict.Sorted entries) : Dict.Sorted (mappedValues scope entries) :=
  h.of_keys_sublist (keys_mappedValues_sublist scope entries)

theorem keys_parameters_sublist : ∀ values : Dict Json,
    (Dict.keys (parameters values)).Sublist (Dict.keys values)
  | [] => .slnil
  | (key, value) :: rest => by
    have ih := keys_parameters_sublist rest
    rw [parameters] at ih ⊢
    rw [List.filterMap_cons]
    cases parameterText value with
    | none => exact ih.cons key
    | some text => exact ih.cons_cons key

theorem sorted_parameters {values : Dict Json} (h : Dict.Sorted values) :
    Dict.Sorted (parameters values) :=
  h.of_keys_sublist (keys_parameters_sublist values)

/-- Writing ordered values one after the other leaves ordered fields. -/
theorem ordered_writeEach (parse : String → Except PathError Path) :
    ∀ {values fields : Dict Json}, (∀ e ∈ values, e.2.Ordered) → (Json.object fields).Ordered →
      (Json.object (writeEach parse values fields).1).Ordered
  | [], _, _, h => h
  | (key, value) :: rest, fields, hvalues, h => by
    obtain ⟨hvalue, hrest⟩ := List.forall_mem_cons.mp hvalues
    rw [writeEach]
    split
    · next next hnext =>
      obtain ⟨target, -, hwrite⟩ := eq_ok_of_bind hnext
      exact ordered_writeEach parse hrest (ordered_of_write hvalue h hwrite)
    · exact ordered_writeEach parse hrest h

end PageFlow
