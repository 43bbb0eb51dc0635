/-
# Writes and the paths beside them

Two paths overlap when one is the beginning of the other, where two segments
count as the same that are one text or the number of one array item. A write
changes nothing at a path that does not overlap its own: the objects that it
creates on the way, or puts in place of a `null`, hold only what leads to it.

Key definitions: `SameSegment`, `Overlap`.
Key theorems: `Json.at?_put`, `at?_of_write`.
-/
import PageFlow.Proofs.Path.InPlace

namespace PageFlow

/-- Whether two segments pick the same: they are one text, or the number of one item. -/
def SameSegment (s t : String) : Prop :=
  s = t ∨ ∃ i, arrayIndex? s = some i ∧ arrayIndex? t = some i

instance (s t : String) : Decidable (SameSegment s t) :=
  decidable_of_iff (s = t ∨ (arrayIndex? s).isSome ∧ arrayIndex? t = arrayIndex? s) <| by
    unfold SameSegment
    cases arrayIndex? s <;> simp

theorem SameSegment.symm {s t : String} (h : SameSegment s t) : SameSegment t s := by
  rcases h with rfl | ⟨i, hs, ht⟩
  · exact .inl rfl
  · exact .inr ⟨i, ht, hs⟩

/-- Whether one path is the beginning of the other: wherever both have a segment,
the two pick the same. -/
def Overlap (p q : List String) : Prop := ∀ e ∈ p.zip q, SameSegment e.1 e.2

instance (p q : List String) : Decidable (Overlap p q) :=
  inferInstanceAs (Decidable (∀ e ∈ p.zip q, SameSegment e.1 e.2))

namespace Overlap

theorem nil_left (q : List String) : Overlap [] q := fun _ he => nomatch he

theorem nil_right (p : List String) : Overlap p [] := by
  rw [Overlap, List.zip_nil_right]
  exact fun _ he => nomatch he

theorem refl : ∀ p : List String, Overlap p p
  | [] => nil_left []
  | _ :: p => List.forall_mem_cons.mpr ⟨.inl rfl, refl p⟩

theorem cons {s t : String} {p q : List String} (hst : SameSegment s t) (h : Overlap p q) :
    Overlap (s :: p) (t :: q) :=
  List.forall_mem_cons.mpr ⟨hst, h⟩

theorem symm : ∀ {p q : List String}, Overlap p q → Overlap q p
  | [], q, _ => nil_right q
  | s :: p, [], _ => nil_left (s :: p)
  | s :: p, t :: q, h => by
    obtain ⟨hst, hpq⟩ := List.forall_mem_cons.mp h
    exact (symm hpq).cons hst.symm

end Overlap

theorem ne_nil_of_not_overlap {p q : List String} (h : ¬ Overlap p q) : p ≠ [] ∧ q ≠ [] := by
  constructor
  · rintro rfl
    exact h (Overlap.nil_left q)
  · rintro rfl
    exact h (Overlap.nil_right p)

/-- What is left of two paths behind segments that pick the same. -/
theorem not_overlap_rest {s t : String} {p q : List String} (hst : SameSegment s t)
    (h : ¬ Overlap (s :: p) (t :: q)) : ¬ Overlap p q ∧ q ≠ [] := by
  have hrest : ¬ Overlap p q := fun hpq => h (hpq.cons hst)
  refine ⟨hrest, ?_⟩
  rintro rfl
  exact hrest (Overlap.nil_right p)

/-! ### Writes -/

theorem Json.at?_null {q : List String} (h : q ≠ []) : at? q .null = none := by
  obtain ⟨t, q, rfl⟩ := List.exists_cons_of_ne_nil h
  rfl

theorem itemIndex_eq_ok {size i : Nat} {segment : String} (h : itemIndex size segment = .ok i) :
    arrayIndex? segment = some i ∧ i < size := by
  unfold itemIndex at h
  split at h
  · exact nomatch h
  · next j hj =>
    split at h
    · next hlt =>
      obtain rfl := Except.ok.inj h
      exact ⟨hj, hlt⟩
    · exact nomatch h

namespace Json

theorem at?_of_openFields {value : Json} {fields : Dict Json} (h : openFields? value = some fields)
    (segment : String) (rest : List String) :
    at? (segment :: rest) value = (Dict.find? segment fields).bind (at? rest) := by
  obtain rfl | ⟨rfl, rfl⟩ := openFields?_eq_some h
  · rfl
  · rfl

/-- A write leaves what is found at a path that does not overlap its own. -/
theorem at?_put {new : Json} : ∀ {p q : List String} {value next : Json}, ¬ Overlap p q →
    put new p value = .ok next → at? q next = at? q value
  | [], q, _, _, h, _ => absurd (Overlap.nil_left q) h
  | _ :: _, [], _, _, h, _ => absurd (Overlap.nil_right _) h
  | s :: p, t :: q, _, _, h, hput => by
    obtain ⟨fields, child, hfields, hchild, rfl⟩ | ⟨items, i, child, rfl, hi, hchild, rfl⟩ :=
      put_cons_cases hput
    · rw [at?_of_openFields hfields]
      by_cases hst : s = t
      · subst hst
        obtain ⟨hrest, hq⟩ := not_overlap_rest (.inl rfl) h
        simp only [at?, Dict.find?_insert_self, Option.bind_some, at?_put hrest hchild]
        cases Dict.find? s fields with
        | none => exact at?_null hq
        | some old => rfl
      · have hts : t ≠ s := fun hts => hst hts.symm
        simp only [at?, Dict.find?_insert_of_ne hts]
    · obtain ⟨hs, hlt⟩ := itemIndex_eq_ok hi
      simp only [at?]
      cases ht : arrayIndex? t with
      | none => rfl
      | some j =>
        simp only [Option.bind_some]
        by_cases hij : i = j
        · -- Both segments are the number of the item that was replaced.
          subst hij
          obtain ⟨hrest, -⟩ := not_overlap_rest (.inr ⟨i, hs, ht⟩) h
          have hitem : items[i]? = some (items.getD i .null) := by simp [hlt]
          rw [List.getElem?_set_self hlt, hitem]
          exact at?_put hrest hchild
        · rw [List.getElem?_set_ne hij]

end Json

/-- **A write leaves all data beside its path.** -/
theorem at?_of_write {path : Path} {new : Json} {data next : Dict Json} {q : List String}
    (h : ¬ Overlap path.segments q) (hwrite : write path new data = .ok next) :
    Json.at? q (.object next) = Json.at? q (.object data) := by
  have hsegments : path.segments ≠ [] := by
    intro hnil
    exact h (hnil ▸ Overlap.nil_left q)
  exact Json.at?_put h ((write_eq_ok_iff hsegments).mp hwrite)

end PageFlow
