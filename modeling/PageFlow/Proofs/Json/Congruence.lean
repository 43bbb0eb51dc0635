/-
# What is done with alike values

Looking up a path, writing at a path and comparing do not tell alike values
apart: they find and make alike values, and they fail in the same way.

Key definitions: `Agree`.
Key theorems: `Json.Alike.at?`, `Json.Alike.put`, `agree_write`,
`Operator.holds_congr`.
-/
import PageFlow.Condition
import PageFlow.Proofs.Path.InPlace
import PageFlow.Proofs.Json.Equality

namespace PageFlow

/-- Both fail with one error, or both succeed with related results. -/
inductive Agree {ε α β : Type} (r : α → β → Prop) : Except ε α → Except ε β → Prop
  | error (e : ε) : Agree r (.error e) (.error e)
  | ok {a : α} {b : β} (h : r a b) : Agree r (.ok a) (.ok b)

namespace Agree

variable {ε ε' α β γ δ : Type} {r : α → β → Prop} {s : γ → δ → Prop}

theorem map {x : Except ε α} {y : Except ε β} {f : α → γ} {g : β → δ} (h : Agree r x y)
    (hfg : ∀ a b, r a b → s (f a) (g b)) : Agree s (x.map f) (y.map g) := by
  cases h with
  | error e => exact .error e
  | ok h => exact .ok (hfg _ _ h)

theorem bind {x : Except ε α} {y : Except ε β} {f : α → Except ε γ} {g : β → Except ε δ}
    (h : Agree r x y) (hfg : ∀ a b, r a b → Agree s (f a) (g b)) :
    Agree s (x.bind f) (y.bind g) := by
  cases h with
  | error e => exact .error e
  | ok h => exact hfg _ _ h

theorem mapError {x : Except ε α} {y : Except ε β} (h : Agree r x y) (f : ε → ε') :
    Agree r (x.mapError f) (y.mapError f) := by
  cases h with
  | error e => exact .error (f e)
  | ok h => exact .ok h

end Agree

namespace Json

/-! ### Shapes -/

theorem Alike.of_null {y : Json} (h : Alike .null y) : y = .null := by
  have := h.equal
  cases y <;> simp_all [Json.equal]

theorem Alike.of_object {a : Dict Json} {y : Json} (h : Alike (.object a) y) :
    ∃ b, y = .object b := by
  have := h.equal
  cases y <;> simp_all [Json.equal]

theorem Alike.of_array {xs : List Json} {y : Json} (h : Alike (.array xs) y) :
    ∃ ys, y = .array ys := by
  have := h.equal
  cases y <;> simp_all [Json.equal]

theorem Alike.of_string {s : String} {y : Json} (h : Alike (.string s) y) : y = .string s := by
  have := h.equal
  cases y <;> simp_all [Json.equal]

theorem Alike.of_bool {b : Bool} {y : Json} (h : Alike (.bool b) y) : y = .bool b := by
  have := h.equal
  cases y <;> simp_all [Json.equal]

theorem Alike.of_number {a : Number} {y : Json} (h : Alike (.number a) y) :
    ∃ b, y = .number b ∧ a.compareValue b = .eq := by
  have := h.equal
  cases y <;> simp_all [Json.equal]

theorem alike_null : Alike .null .null := .refl trivial

theorem alike_getD_null {o o' : Option Json} (h : Option.Rel Alike o o') :
    Alike (o.getD .null) (o'.getD .null) := by
  cases h with
  | some h => exact h
  | none => exact alike_null

/-! ### Paths -/

/-- A path leads to alike values, or nowhere in both. -/
theorem Alike.at? : ∀ {segments : List String} {x y : Json}, Alike x y →
    Option.Rel Alike (Json.at? segments x) (Json.at? segments y)
  | [], _, _, h => .some h
  | segment :: rest, x, y, h => by
    cases x with
    | null =>
      obtain rfl := h.of_null
      exact .none
    | bool b =>
      obtain rfl := h.of_bool
      exact .none
    | string s =>
      obtain rfl := h.of_string
      exact .none
    | number a =>
      obtain ⟨b, rfl, -⟩ := h.of_number
      exact .none
    | object a =>
      obtain ⟨b, rfl⟩ := h.of_object
      have hfind := h.find? segment
      simp only [Json.at?]
      cases hx : Dict.find? segment a <;> cases hy : Dict.find? segment b <;>
        simp only [hx, hy, Option.rel_some_some, Option.not_rel_some_none,
          Option.not_rel_none_some] at hfind
      · exact .none
      · exact Alike.at? hfind
    | array xs =>
      obtain ⟨ys, rfl⟩ := h.of_array
      simp only [Json.at?]
      cases arrayIndex? segment with
      | none => exact .none
      | some i =>
        have hitem := h.getElem? i
        simp only [Option.bind_some]
        cases hx : xs[i]? <;> cases hy : ys[i]? <;>
          simp only [hx, hy, Option.rel_some_some, Option.not_rel_some_none,
            Option.not_rel_none_some] at hitem
        · exact .none
        · exact Alike.at? hitem

/-- Writing alike values at one path of alike values gives alike values, or is refused alike. -/
theorem Alike.put {new new' : Json} (hnew : Alike new new') :
    ∀ {segments : List String} {x y : Json}, Alike x y →
      Agree Alike (Json.put new segments x) (Json.put new' segments y)
  | [], _, _, _ => .ok hnew
  | segment :: rest, x, y, h => by
    cases x with
    | null =>
      obtain rfl := h.of_null
      simp only [Json.put]
      refine (Alike.put hnew alike_null).map fun child child' hchild => ?_
      exact Alike.insert (a := []) (b := []) (.refl ⟨trivial, trivial⟩) hchild segment
    | bool b =>
      obtain rfl := h.of_bool
      exact .error _
    | string s =>
      obtain rfl := h.of_string
      exact .error _
    | number a =>
      obtain ⟨b, rfl, -⟩ := h.of_number
      exact .error _
    | object a =>
      obtain ⟨b, rfl⟩ := h.of_object
      simp only [Json.put]
      refine (Alike.put hnew (alike_getD_null (h.find? segment))).map fun child child' hchild => ?_
      exact h.insert hchild segment
    | array xs =>
      obtain ⟨ys, rfl⟩ := h.of_array
      simp only [Json.put, h.length_eq]
      cases itemIndex ys.length segment with
      | error e => exact .error e
      | ok i =>
        have hitem := alike_getD_null (h.getElem? i)
        rw [← List.getD_eq_getElem?_getD, ← List.getD_eq_getElem?_getD] at hitem
        exact (Alike.put hnew hitem).map fun child child' hchild => h.set hchild i

end Json

/-- A write into alike data gives alike data, or is refused alike. -/
theorem agree_write {path : Path} {new new' : Json} {data data' : Dict Json}
    (hnew : Json.Alike new new') (h : Json.Alike (.object data) (.object data')) :
    Agree (fun d d' => Json.Alike (.object d) (.object d')) (write path new data)
      (write path new' data') := by
  rw [write_eq, write_eq]
  refine Agree.mapError ?_ _
  unfold putFields
  cases path.segments with
  | nil => exact .error _
  | cons segment rest =>
    refine (hnew.put (Json.alike_getD_null (h.find? segment))).map fun child child' hchild => ?_
    exact h.insert hchild segment

/-! ### Operators -/

namespace Json

/-- Values that are alike, or the same. The values that a condition gives need not be ordered. -/
def Interchangeable (x y : Json) : Prop := x = y ∨ Alike x y

theorem Alike.equal_left {x y : Json} (h : Alike x y) (z : Json) : x.equal z = y.equal z := by
  rw [Bool.eq_iff_iff]
  exact ⟨equal_trans h.symm.equal, equal_trans h.equal⟩

theorem Alike.equal_right {x y : Json} (h : Alike x y) (z : Json) : z.equal x = z.equal y := by
  rw [Bool.eq_iff_iff]
  exact ⟨fun hz => equal_trans hz h.equal, fun hz => equal_trans hz h.symm.equal⟩

theorem Alike.compareValue_left {x y : Json} (h : Alike x y) (z : Json) :
    x.compareValue z = y.compareValue z := by
  cases x with
  | number a =>
    obtain ⟨b, rfl, hab⟩ := h.of_number
    cases z <;> simp only [compareValue, Number.compareValue_congr hab]
  | string s => rw [h.of_string]
  | null => rw [h.of_null]
  | bool b => rw [h.of_bool]
  | array xs =>
    obtain ⟨ys, rfl⟩ := h.of_array
    rfl
  | object a =>
    obtain ⟨b, rfl⟩ := h.of_object
    rfl

theorem Alike.compareValue_right {x y : Json} (h : Alike x y) (z : Json) :
    z.compareValue x = z.compareValue y := by
  cases x with
  | number a =>
    obtain ⟨b, rfl, hab⟩ := h.of_number
    cases z <;> simp only [compareValue]
    rw [← Number.compareValue_swap, Number.compareValue_congr hab, Number.compareValue_swap]
  | string s => rw [h.of_string]
  | null => rw [h.of_null]
  | bool b => rw [h.of_bool]
  | array xs =>
    obtain ⟨ys, rfl⟩ := h.of_array
    cases z <;> rfl
  | object a =>
    obtain ⟨b, rfl⟩ := h.of_object
    cases z <;> rfl

theorem Alike.isNull_eq {x y : Json} (h : Alike x y) : x.isNull = y.isNull := by
  have := h.equal
  cases x <;> cases y <;> simp_all [Json.equal, isNull]

/-- A test that does not tell alike items apart holds for some item of both arrays, or of none. -/
theorem Alike.any_eq {xs ys : List Json} (h : Alike (.array xs) (.array ys)) {p : Json → Bool}
    (hp : ∀ x y, Alike x y → p x = p y) : xs.any p = ys.any p := by
  have hle : ∀ {xs ys : List Json}, Alike (.array xs) (.array ys) → xs.any p = true →
      ys.any p = true := by
    intro xs ys h hany
    obtain ⟨x, hx, hpx⟩ := List.any_eq_true.mp hany
    obtain ⟨i, hi⟩ := List.getElem?_of_mem hx
    have hitem := h.getElem? i
    rw [hi] at hitem
    cases hy : ys[i]? with
    | none => simp [hy] at hitem
    | some y =>
      rw [hy, Option.rel_some_some] at hitem
      exact List.any_eq_true.mpr ⟨y, List.mem_of_getElem? hy, hp x y hitem ▸ hpx⟩
  rw [Bool.eq_iff_iff]
  exact ⟨hle h, hle h.symm⟩

theorem Alike.contains_left {x y : Json} (h : Alike x y) (z : Json) :
    x.contains z = y.contains z := by
  cases x with
  | null => rw [h.of_null]
  | bool b => rw [h.of_bool]
  | string s => rw [h.of_string]
  | number a =>
    obtain ⟨b, rfl, -⟩ := h.of_number
    rfl
  | array xs =>
    obtain ⟨ys, rfl⟩ := h.of_array
    exact h.any_eq fun x y hxy => hxy.equal_left z
  | object a =>
    obtain ⟨b, rfl⟩ := h.of_object
    cases z <;> try rfl
    rename_i key
    have hfind := h.find? key
    simp only [contains, Dict.has]
    cases hx : Dict.find? key a <;> cases hy : Dict.find? key b <;> simp_all

theorem Alike.contains_right {x y : Json} (h : Alike x y) (z : Json) :
    z.contains x = z.contains y := by
  have harray : ∀ items : List Json, contains (.array items) x = contains (.array items) y := by
    intro items
    simp only [contains, h.equal_right]
  cases x with
  | null => rw [h.of_null]
  | bool b => rw [h.of_bool]
  | string s => rw [h.of_string]
  | number a =>
    obtain ⟨b, rfl, -⟩ := h.of_number
    cases z <;> first | exact harray _ | rfl
  | array xs =>
    obtain ⟨ys, rfl⟩ := h.of_array
    cases z <;> first | exact harray _ | rfl
  | object a =>
    obtain ⟨b, rfl⟩ := h.of_object
    cases z <;> first | exact harray _ | rfl

end Json

theorem Operator.holds_congr_left (op : Operator) {l l' : Json} (h : l.Alike l') (r : Json) :
    op.holds l r = op.holds l' r := by
  cases op with
  | eq => exact h.equal_left r
  | neq => exact congrArg (!·) (h.equal_left r)
  | «exists» => exact congrArg (!·) h.isNull_eq
  | contains => exact h.contains_left r
  | isIn => simp only [holds, h.equal_left]
  | _ => simp only [holds, h.compareValue_left r]

theorem Operator.holds_congr_right (op : Operator) (l : Json) {r r' : Json} (h : r.Alike r') :
    op.holds l r = op.holds l r' := by
  cases op with
  | eq => exact h.equal_right l
  | neq => exact congrArg (!·) (h.equal_right l)
  | «exists» => rfl
  | contains => exact h.contains_right l
  | isIn =>
    simp only [holds]
    cases r with
    | array xs =>
      obtain ⟨ys, rfl⟩ := h.of_array
      exact h.any_eq fun x y hxy => hxy.equal_right l
    | null => rw [h.of_null]
    | bool b => rw [h.of_bool]
    | string s => rw [h.of_string]
    | number a =>
      obtain ⟨b, rfl, -⟩ := h.of_number
      rfl
    | object a =>
      obtain ⟨b, rfl⟩ := h.of_object
      rfl
  | _ => simp only [holds, h.compareValue_right l]

/-- **No operator tells alike operands apart.** -/
theorem Operator.holds_congr (op : Operator) {l l' r r' : Json} (hl : l.Interchangeable l')
    (hr : r.Interchangeable r') : op.holds l r = op.holds l' r' := by
  have hleft : op.holds l r = op.holds l' r :=
    hl.elim (fun h => by rw [h]) fun h => op.holds_congr_left h r
  have hright : op.holds l' r = op.holds l' r' :=
    hr.elim (fun h => by rw [h]) fun h => op.holds_congr_right l' h
  exact hleft.trans hright

end PageFlow
