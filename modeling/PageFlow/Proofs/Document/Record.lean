/-
# Records that are read back

An object that was written has each field once and no faults. Under each known
name its reader finds the value that the object has there, so a field is read
as what its value was written for, and an absent field as its default.

Key theorems: `Document.halted_fields_ofJson`, `Document.slot?_fields_ofJson`,
`Document.defaulted_of_find?`, `Document.optional_of_find?`.
-/
import Mathlib.Data.List.Forall2
import PageFlow.Document.Record
import PageFlow.Proofs.Json.Ordered

namespace PageFlow
namespace Document

variable {α β : Type}

/-! ### Attempts -/

@[simp] theorem Attempt.done_seq (f : α → β) (x : α) :
    Attempt.done f <*> Attempt.done x = Attempt.done (f x) := rfl

@[simp] theorem Attempt.map_done (f : α → β) (x : α) :
    f <$> Attempt.done x = Attempt.done (f x) := rfl

/-! ### Values -/

mutual

theorem Node.skip_ofJson : ∀ value : Json, (Node.ofJson value).skip = none
  | .null => rfl
  | .bool _ => rfl
  | .number _ => rfl
  | .string _ => rfl
  | .array items => by rw [Node.ofJson, Node.skip, Items.skip_ofJson items]
  | .object fields => by rw [Node.ofJson, Node.skip, Entries.skip_ofJson fields]

theorem Items.skip_ofJson : ∀ items : List Json, (Items.ofJson items).skip = none
  | [] => rfl
  | x :: rest => by
    rw [Items.ofJson, Items.skip, Node.skip_ofJson x, Items.skip_ofJson rest, Option.or_none]

theorem Entries.skip_ofJson : ∀ fields : List (String × Json), (Entries.ofJson fields).skip = none
  | [] => rfl
  | (_, x) :: rest => by
    rw [Entries.ofJson, Entries.skip, Node.skip_ofJson x, Entries.skip_ofJson rest, Option.or_none]

end

theorem Items.decode_ofJson {decode : Node → Decoded α} {encode : α → Json} :
    ∀ {xs : List α}, (∀ x ∈ xs, decode (Node.ofJson (encode x)) = .ok x) →
      (Items.ofJson (xs.map encode)).decode decode = .ok xs
  | [], _ => rfl
  | x :: rest, h => by
    rw [List.map_cons, Items.ofJson, Items.decode, h x List.mem_cons_self,
      Items.decode_ofJson fun y hy => h y (List.mem_cons_of_mem _ hy)]
    rfl

theorem decodeList_ofJson {decode : Decoder α} {encode : α → Json} {origin : Origin} {xs : List α}
    (h : ∀ x ∈ xs, decode origin (Node.ofJson (encode x)) = .ok x) :
    decodeList decode origin (Node.ofJson (.array (xs.map encode))) = .ok xs := by
  rw [Node.ofJson]
  exact Items.decode_ofJson h

theorem Entries.decode_ofJson {decode : Node → Decoded α} {encode : α → Json} :
    ∀ {d : Dict α}, (∀ e ∈ d, decode (Node.ofJson (encode e.2)) = .ok e.2) →
      (Entries.ofJson (d.mapValues encode)).decode decode = .ok d
  | [], _ => rfl
  | (k, x) :: rest, h => by
    have ih := Entries.decode_ofJson (d := rest) fun e he => h e (List.mem_cons_of_mem _ he)
    rw [Dict.mapValues] at ih
    rw [Dict.mapValues, List.map_cons, Entries.ofJson, Entries.decode, h (k, x) List.mem_cons_self,
      ih]
    rfl

theorem decodeDict_ofJson {decode : Decoder α} {encode : α → Json} {origin : Origin} {d : Dict α}
    (hsorted : Dict.Sorted d)
    (h : ∀ e ∈ d, decode origin (Node.ofJson (encode e.2)) = .ok e.2) :
    decodeDict decode origin (Node.ofJson (.object (d.mapValues encode))) = .ok d := by
  rw [Node.ofJson, decodeDict, Entries.decode_ofJson h, Except.map, Dict.ofList_of_sorted hsorted]

theorem decodeOption_of_not_null {decode : Decoder α} {origin : Origin} {value : Json}
    (h : value ≠ .null) :
    decodeOption decode origin (Node.ofJson value) =
      (decode origin (Node.ofJson value)).map some := by
  cases value with
  | null => exact absurd rfl h
  | _ => rfl

/-! ### Fields -/

variable {names : List String} {fields : Dict Json}

/-- No fault ends the reading of an object that was written. -/
theorem halted_fields_ofJson :
    ∀ {fields : Dict Json} {position : Nat} {seen : List String}, fields.keys.Nodup →
      (∀ key ∈ fields.keys, key ∉ seen) →
      ((Entries.ofJson fields).fields names position seen).halted = none
  | [], _, _, _, _ => rfl
  | (k, x) :: rest, position, seen, hkeys, hseen => by
    obtain ⟨hk, hrest⟩ := List.nodup_cons.mp hkeys
    have hfresh : seen.contains k = false := by simpa using hseen k List.mem_cons_self
    have hothers : ∀ key ∈ Dict.keys rest, key ∉ seen :=
      fun key hkey => hseen key (List.mem_cons_of_mem _ hkey)
    rw [Entries.ofJson, Entries.fields, hfresh, Node.skip_ofJson]
    split
    · refine halted_fields_ofJson hrest fun key hkey => ?_
      rw [List.mem_cons, not_or]
      exact ⟨fun heq => hk (heq ▸ hkey), hothers key hkey⟩
    · exact halted_fields_ofJson hrest hothers

/-- Under a known name the reader finds the value that the object has there. -/
theorem slot?_fields_ofJson {name : String} (hname : name ∈ names) :
    ∀ {fields : Dict Json} (position : Nat) (seen : List String), fields.keys.Nodup →
      (∀ key ∈ fields.keys, key ∉ seen) →
      (((Entries.ofJson fields).fields names position seen).slot? name).map
          (fun slot => (slot.node, slot.after)) =
        (Dict.find? name fields).map fun value => (Node.ofJson value, none)
  | [], _, _, _, _ => rfl
  | (k, x) :: rest, position, seen, hkeys, hseen => by
    obtain ⟨hk, hrest⟩ := List.nodup_cons.mp hkeys
    have hfresh : seen.contains k = false := by simpa using hseen k List.mem_cons_self
    have hothers : ∀ key ∈ Dict.keys rest, key ∉ seen :=
      fun key hkey => hseen key (List.mem_cons_of_mem _ hkey)
    rw [Entries.ofJson, Entries.fields, hfresh, Node.skip_ofJson, Dict.find?]
    split
    · have ih := slot?_fields_ofJson hname (position + 1) (k :: seen) hrest
        fun key hkey => by
          rw [List.mem_cons, not_or]
          exact ⟨fun heq => hk (heq ▸ hkey), hothers key hkey⟩
      rw [Fields.slot?] at ih ⊢
      rw [if_neg Bool.false_ne_true, List.find?_cons]
      by_cases heq : k = name
      · simp [heq]
      · have hne : (k == name) = false := beq_eq_false_iff_ne.mpr heq
        rw [hne, if_neg heq]
        exact ih
    · next hunknown =>
      have heq : k ≠ name := fun heq => hunknown (by simpa [heq] using hname)
      rw [if_neg heq]
      exact slot?_fields_ofJson hname (position + 1) seen hrest hothers

section
variable {name : String} {decode : Node → Decoded α} (hkeys : fields.keys.Nodup)
  (hname : name ∈ names)

include hkeys hname

/-- A field is read as what its value was written for. -/
theorem defaulted_of_find? {default x : α} {value : Json}
    (hfind : Dict.find? name fields = some value) (hx : decode (Node.ofJson value) = .ok x) :
    ((Entries.ofJson fields).fields names 0 []).defaulted name default decode = .done x := by
  have hslot := slot?_fields_ofJson hname 0 [] hkeys (by simp)
  rw [hfind, Option.map_some, Option.map_eq_some_iff] at hslot
  obtain ⟨slot, hslot, heq⟩ := hslot
  obtain ⟨hnode, hafter⟩ := Prod.mk.inj heq
  rw [Fields.defaulted, hslot]
  dsimp only
  rw [Fields.read, hnode, hx]
  rfl

theorem defaulted_of_absent {default : α} (hfind : Dict.find? name fields = none) :
    ((Entries.ofJson fields).fields names 0 []).defaulted name default decode = .done default := by
  have hslot := slot?_fields_ofJson hname 0 [] hkeys (by simp)
  rw [hfind, Option.map_none, Option.map_eq_none_iff] at hslot
  rw [Fields.defaulted, hslot]

/-- A field that may be absent is read as what its value, if any, was written for. -/
theorem optional_of_find? {o : Option α} {encode : α → Json}
    (hfind : Dict.find? name fields = o.map encode)
    (hx : ∀ x ∈ o, encode x ≠ .null ∧ decode (Node.ofJson (encode x)) = .ok x) :
    ((Entries.ofJson fields).fields names 0 []).optional name decode = .done o := by
  cases o with
  | none => exact defaulted_of_absent hkeys hname hfind
  | some x =>
    obtain ⟨hnull, hx⟩ := hx x rfl
    refine defaulted_of_find? hkeys hname hfind ?_
    rw [decodeOption_of_not_null hnull, hx]
    rfl

end

/-! ### Objects whose fields have a fixed order -/

section
variable {key name : String} {value : Json} {o : Option Json} {rest : List (Option (String × Json))}

theorem find?_field : Dict.find? name ((Json.field key value :: rest).filterMap id) =
    if key = name then some value else Dict.find? name (rest.filterMap id) := rfl

theorem find?_fieldIfSome : Dict.find? name ((Json.fieldIfSome key o :: rest).filterMap id) =
    if key = name then o.or (Dict.find? name (rest.filterMap id))
    else Dict.find? name (rest.filterMap id) := by
  cases o with
  | none => rw [Option.none_or, ite_self]; rfl
  | some v => rw [Option.some_or]; rfl

theorem orderedFields_field : Json.OrderedFields ((Json.field key value :: rest).filterMap id) ↔
    value.Ordered ∧ Json.OrderedFields (rest.filterMap id) := Iff.rfl

theorem orderedFields_fieldIfSome :
    Json.OrderedFields ((Json.fieldIfSome key o :: rest).filterMap id) ↔
      (∀ v ∈ o, v.Ordered) ∧ Json.OrderedFields (rest.filterMap id) := by
  cases o with
  | none => simp [Json.fieldIfSome]
  | some v => simp [Json.fieldIfSome, Json.OrderedFields]

theorem fst_field : (∀ e ∈ Json.field key value, e.1 = name) ↔ key = name := by
  simp [Json.field]

theorem fst_fieldIfSome : (∀ e ∈ Json.fieldIfSome key o, e.1 = name) ↔ (o.isSome → key = name) := by
  cases o <;> simp [Json.fieldIfSome]

end

/-- The keys of fields that are given in a fixed order. -/
theorem keys_filterMap_sublist :
    ∀ {fields : List (Option (String × Json))} {names : List String},
      List.Forall₂ (fun field name => ∀ e ∈ field, e.1 = name) fields names →
      (Dict.keys (fields.filterMap id)).Sublist names
  | _, _, .nil => .slnil
  | none :: _, _ :: _, .cons _ h => (keys_filterMap_sublist h).cons _
  | some e :: _, name :: _, .cons he h => by
    obtain rfl := he e rfl
    exact (keys_filterMap_sublist h).cons_cons _

end Document
end PageFlow
