/-
# Segments and the items of arrays

Behind an array, a segment picks the item of its number. The number is written in
digits, with a plus sign in front of them or without one, and has to fit 64 bits. A
number that the array has an item for leads to this item, in reading and in writing
alike, at every level of a value. Any other number, and any other segment, leads
nowhere: nothing is found, and every write is refused, a number as out of bounds and
any other segment as one that no array takes.

Key definitions: `NumbersItem`, `LeadsToItem`, `LeadsNowhere`.
Key theorems: `arrayIndex?_eq_some_iff`, `Json.at?_append`, `Json.put_append`,
`item_of_segment`.
-/
import PageFlow.Proofs.Number.Numeral
import PageFlow.Proofs.Path.Refusal

namespace PageFlow

-- Powers are those of the core library, whatever else is imported.
attribute [local instance (2000)] instPowNat

/-! ### Numbers of items -/

/-- A segment is the number of an item: digits, perhaps with a plus sign in front, whose
decimal value fits 64 bits. -/
inductive NumbersItem (segment : String) : Nat → Prop
  | plain (hdigits : AreDigits segment.toList)
      (hfits : Nat.ofDigitChars 10 segment.toList 0 < 2 ^ (64 : Nat)) :
    NumbersItem segment (Nat.ofDigitChars 10 segment.toList 0)
  | signed {digits : List Char} (hsign : segment.toList = '+' :: digits)
      (hdigits : AreDigits digits) (hfits : Nat.ofDigitChars 10 digits 0 < 2 ^ (64 : Nat)) :
    NumbersItem segment (Nat.ofDigitChars 10 digits 0)

theorem AreDigits.head?_ne_plus {cs : List Char} (h : AreDigits cs) : cs.head? ≠ some '+' := by
  intro hhead
  have hplus : '+'.isDigit = true := h.2 '+' (List.mem_of_head? hhead)
  exact absurd hplus (by decide)

section
variable {segment : String} {digits : List Char} {i : Nat}

theorem arrayIndex?_of_digits
    (hsplit : segment.toList = '+' :: digits ∨ segment.toList = digits ∧ digits.head? ≠ some '+') :
    arrayIndex? segment = some i ↔ AreDigits digits ∧
      Nat.ofDigitChars 10 digits 0 < 2 ^ (64 : Nat) ∧ Nat.ofDigitChars 10 digits 0 = i := by
  have hdigits : arrayIndex? segment =
      if digits.isEmpty || !digits.all Char.isDigit then none
      else if Nat.ofDigitChars 10 digits 0 < 2 ^ (64 : Nat) then
        some (Nat.ofDigitChars 10 digits 0)
      else none := by
    unfold arrayIndex?
    rcases hsplit with hsplit | ⟨hsplit, hhead⟩
    · rw [hsplit]
      rfl
    · rw [hsplit]
      cases digits with
      | nil => rfl
      | cons c rest =>
        have hc : c ≠ '+' := fun hc => hhead (hc ▸ rfl)
        split
        · next heq => exact absurd (List.cons.inj heq).1 hc
        · rfl
  rw [hdigits]
  by_cases h : AreDigits digits
  · have hcheck : (digits.isEmpty || !digits.all Char.isDigit) = false := by
      simpa [AreDigits] using h
    simp [hcheck, h]
  · have hcheck : (digits.isEmpty || !digits.all Char.isDigit) = true := by
      by_contra hcheck
      exact h (by simpa [AreDigits] using hcheck)
    simp [hcheck, h]

/-- **A segment has the number that it is written as.** -/
theorem arrayIndex?_eq_some_iff : arrayIndex? segment = some i ↔ NumbersItem segment i := by
  constructor
  · intro h
    by_cases hsign : segment.toList.head? = some '+'
    · obtain ⟨digits, hsplit⟩ := List.head?_eq_some_iff.mp hsign
      obtain ⟨hdigits, hfits, rfl⟩ := (arrayIndex?_of_digits (.inl hsplit)).mp h
      exact .signed hsplit hdigits hfits
    · obtain ⟨hdigits, hfits, rfl⟩ := (arrayIndex?_of_digits (.inr ⟨rfl, hsign⟩)).mp h
      exact .plain hdigits hfits
  · rintro (⟨hdigits, hfits⟩ | ⟨hsplit, hdigits, hfits⟩)
    · exact (arrayIndex?_of_digits (.inr ⟨rfl, hdigits.head?_ne_plus⟩)).mpr ⟨hdigits, hfits, rfl⟩
    · exact (arrayIndex?_of_digits (.inl hsplit)).mpr ⟨hdigits, hfits, rfl⟩

end

/-! ### Paths through a value that is found -/

namespace Json

/-- What is found at the end of some segments is where the look-up goes on. -/
theorem at?_append {front rest : List String} {value found : Json}
    (h : at? front value = some found) : at? (front ++ rest) value = at? rest found := by
  induction front generalizing value with
  | nil =>
    obtain rfl := Option.some.inj h
    rfl
  | cons segment front ih =>
    rw [at?_cons] at h
    obtain ⟨child, hchild, h⟩ := Option.bind_eq_some_iff.mp h
    rw [List.cons_append, at?_cons, hchild, Option.bind_some, ih h]

/-- A write goes into what is found at the end of some segments, and puts what becomes of it
in its place. -/
theorem put_append {new : Json} {front rest : List String} {value found : Json}
    (h : at? front value = some found) :
    put new (front ++ rest) value =
      (put new rest found).bind fun changed => put changed front value := by
  induction front generalizing value with
  | nil =>
    obtain rfl := Option.some.inj h
    show put new rest value = (put new rest value).bind .ok
    cases put new rest value <;> rfl
  | cons segment front ih =>
    rw [at?_cons] at h
    obtain ⟨child, hchild, hfound⟩ := Option.bind_eq_some_iff.mp h
    rw [List.cons_append]
    cases value with
    | object fields =>
      rw [at?_object] at hchild
      simp only [put, hchild, Option.getD_some, ih hfound]
      cases put new rest found <;> rfl
    | array items =>
      cases hi : itemIndex items.length segment with
      | error e =>
        rw [at?_array_of_error hi] at hchild
        cases hchild
      | ok i =>
        rw [at?_array_of_ok hi] at hchild
        obtain rfl := Option.some.inj hchild
        simp only [put_of_itemIndex hi, ih hfound]
        cases put new rest found <;> rfl
    | null | bool _ | number _ | string _ => cases hchild

end Json

theorem putFields_append {new found : Json} {front rest : List String} {fields : Dict Json}
    (hfront : front ≠ []) (h : Json.at? front (.object fields) = some found) :
    putFields new (front ++ rest) fields =
      (Json.put new rest found).bind fun changed => putFields changed front fields := by
  obtain ⟨segment, front, rfl⟩ := List.exists_cons_of_ne_nil hfront
  rw [Json.at?_cons, Json.at?_object] at h
  obtain ⟨child, hchild, hfound⟩ := Option.bind_eq_some_iff.mp h
  rw [List.cons_append]
  simp only [putFields, hchild, Option.getD_some, Json.put_append hfound]
  cases Json.put new rest found <;> rfl

/-- Nothing is found at the end of the segments, and every write there is refused, for this
reason. -/
def LeadsNowhere (value : Json) (segments : List String) (refusal : Refusal) : Prop :=
  Json.at? segments value = none ∧
  ∀ (fields : Dict Json) (path : Path) (new : Json), value = .object fields →
    path.segments = segments → write path new fields = .error (refusal.pathError path.raw)

/-- Behind the array at its front, a path leads to the item `i` and from there on: it is
looked up in that item, and a write puts what becomes of the item in its place. -/
def LeadsToItem (value : Json) (front : List String) (items : List Json) (i : Nat)
    (segments back : List String) : Prop :=
  ∃ item, items[i]? = some item ∧ Json.at? segments value = Json.at? back item ∧
  ∀ (fields : Dict Json) (path : Path) (new : Json), value = .object fields →
    path.segments = segments → write path new fields =
      ((Json.put new back item).mapError (·.pathError path.raw)).bind fun changed =>
        write { path with segments := front } (.array (items.set i changed)) fields

section
variable {value : Json} {front : List String} {items : List Json}
  (h : Json.at? front value = some (.array items))
include h

theorem leadsNowhere_of_itemIndex {segment : String} {refusal : Refusal}
    (hindex : itemIndex items.length segment = .error refusal) (back : List String) :
    LeadsNowhere value (front ++ segment :: back) refusal := by
  constructor
  · rw [Json.at?_append h, Json.at?_cons, Json.at?_array_of_error hindex, Option.bind_none]
  · rintro fields path new rfl hsegments
    have hblocked : Json.BlockedAt path.segments (.object fields) refusal :=
      ⟨front, segment, back, .array items, hsegments, h, Json.blocks_array_iff.mpr hindex⟩
    rw [write_eq, putFields_eq_error_iff.mpr (.inr hblocked), mapError_error]

theorem leadsToItem_of_itemIndex {segment : String} {i : Nat}
    (hindex : itemIndex items.length segment = .ok i) (back : List String) :
    LeadsToItem value front items i (front ++ segment :: back) back := by
  have hitem := Json.at?_array_of_ok hindex
  obtain ⟨-, hlt⟩ := itemIndex_eq_ok hindex
  refine ⟨items.getD i .null, by simp [hlt], ?_, ?_⟩
  · rw [Json.at?_append h, Json.at?_cons, hitem, Option.bind_some]
  · rintro fields path new rfl hsegments
    -- Fields are an object and no array, so a segment leads to the array.
    have hfront : front ≠ [] := by
      rintro rfl
      cases h
    rw [write_eq, hsegments, putFields_append hfront h, Json.put_of_itemIndex hindex]
    cases Json.put new back (items.getD i .null) with
    | error e => rfl
    | ok changed => exact (write_eq { path with segments := front } _ fields).symm

end

/-- **In an array a segment picks the item of its number.** Where a path has led to an array,
something is found behind its next segment just if this is the number of an item, and then
that is the item. The rest of the path is looked up in this item, and a write changes it there
and puts it back in its place. A number that the array has no item for leads nowhere, since it
is out of bounds, and so does every segment that is not a number, since no array takes it. -/
theorem item_of_segment {value : Json} {front : List String} {items : List Json}
    (h : Json.at? front value = some (.array items)) (segment : String) (back : List String) :
    (∀ found, Json.at? (front ++ [segment]) value = some found ↔
      ∃ i, NumbersItem segment i ∧ items[i]? = some found) ∧
    (∀ i, NumbersItem segment i → i < items.length →
      LeadsToItem value front items i (front ++ segment :: back) back) ∧
    (∀ i, NumbersItem segment i → items.length ≤ i →
      LeadsNowhere value (front ++ segment :: back) (.indexOutOfBounds segment)) ∧
    ((∀ i, ¬ NumbersItem segment i) →
      LeadsNowhere value (front ++ segment :: back) (.notAContainer segment)) := by
  simp only [← arrayIndex?_eq_some_iff]
  refine ⟨fun found => ?_, fun i hi hlt => ?_, fun i hi hle => ?_, fun hnone => ?_⟩
  · rw [Json.at?_append h]
    simp [Json.at?, Option.bind_eq_some_iff]
  · apply leadsToItem_of_itemIndex h
    rw [itemIndex, hi]
    exact if_pos hlt
  · apply leadsNowhere_of_itemIndex h
    rw [itemIndex, hi]
    exact if_neg hle.not_gt
  · apply leadsNowhere_of_itemIndex h
    rw [itemIndex, Option.eq_none_iff_forall_ne_some.mpr hnone]

/-- A shelf with a bare item and one that is counted. -/
def shelfItems : List Json := [.string "A1", .object [("count", .bool false)]]

/-- The data that hold the shelf. -/
def shelfFields : Dict Json := [("items", .array shelfItems)]

/-- The second item is written into; there is no third one, and none is called the first. -/
theorem item_of_segment_shelf :
    Json.at? ["items"] (.object shelfFields) = some (.array shelfItems) ∧
    write ⟨"items.1.count", .data, ["items", "1", "count"]⟩ (.bool true) shelfFields =
      .ok [("items", .array [.string "A1", .object [("count", .bool true)]])] ∧
    LeadsNowhere (.object shelfFields) ["items", "2"] (.indexOutOfBounds "2") ∧
    LeadsNowhere (.object shelfFields) ["items", "first"] (.notAContainer "first") := by
  have hshelf : Json.at? ["items"] (.object shelfFields) = some (.array shelfItems) := rfl
  refine ⟨hshelf, ?_, ?_, ?_⟩
  · have hnumber : NumbersItem "1" 1 := arrayIndex?_eq_some_iff.mp rfl
    obtain ⟨item, hitem, -, hwrite⟩ :=
      (item_of_segment hshelf "1" ["count"]).2.1 1 hnumber (by decide)
    obtain rfl := Option.some.inj hitem
    rw [hwrite shelfFields _ (.bool true) rfl rfl]
    rfl
  · have hnumber : NumbersItem "2" 2 := arrayIndex?_eq_some_iff.mp rfl
    exact (item_of_segment hshelf "2" []).2.2.1 2 hnumber (by decide)
  · refine (item_of_segment hshelf "first" []).2.2.2 fun i hnumber => ?_
    have hnone : arrayIndex? "first" = none := rfl
    cases hnone.symm.trans (arrayIndex?_eq_some_iff.mpr hnumber)

/-- A segment with a sign is not made of digits only, and is still the number of an item. And
digits that do not fit 64 bits are a number past the end of the array, but a write is refused
as if they were no number. -/
theorem not_item_of_segment_digits :
    (¬ AreDigits "+0".toList ∧
      Json.at? ["items", "+0"] (.object shelfFields) = some (.string "A1")) ∧
    AreDigits "18446744073709551616".toList ∧
      shelfItems.length ≤ Nat.ofDigitChars 10 "18446744073709551616".toList 0 ∧
      write ⟨"items.18446744073709551616", .data, ["items", "18446744073709551616"]⟩ .null
          shelfFields =
        .error (.notAContainer "items.18446744073709551616" "18446744073709551616") := by
  refine ⟨⟨fun h => absurd rfl h.head?_ne_plus, rfl⟩, ⟨by decide, ?_⟩, by decide, rfl⟩
  exact List.all_eq_true.mp (by decide)

end PageFlow
