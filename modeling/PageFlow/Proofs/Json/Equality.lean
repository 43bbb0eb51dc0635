/-
# Equal values

Equality by value is an equivalence on ordered values. Two ordered values that
are equal are called alike. Alike objects have alike values under each key, and
alike arrays alike items at each place; and what has them is alike. So what
replaces alike parts of alike values by alike parts gives alike values.

Key definitions: `Json.Alike`.
Key theorems: `Json.equal_self`, `Json.equal_symm`, `Json.equal_trans`,
`Json.Alike.find?`, `Json.Alike.getElem?`, `Json.alike_object`, `Json.alike_array`,
`Json.Alike.insert`, `Json.Alike.set`.
-/
import Mathlib.Data.List.Perm.Subperm
import PageFlow.Proofs.Json.Ordered
import PageFlow.Proofs.Number.Order

namespace PageFlow
namespace Dict

variable {α β : Type}

theorem mem_keys_iff {key : String} {d : Dict α} : key ∈ d.keys ↔ (find? key d).isSome = true := by
  constructor
  · intro h
    obtain ⟨e, he, rfl⟩ := List.mem_map.mp h
    exact isSome_find?_of_mem he
  · intro h
    obtain ⟨value, hvalue⟩ := Option.isSome_iff_exists.mp h
    exact List.mem_map.mpr ⟨_, mem_of_find? hvalue, rfl⟩

theorem keys_perm_of_subset {a : Dict α} {b : Dict β} (ha : Sorted a)
    (hlength : a.length = b.length) (h : ∀ key ∈ a.keys, key ∈ b.keys) : a.keys.Perm b.keys := by
  have hsub : a.keys.Subperm b.keys := List.subperm_of_subset ha.nodup_keys h
  refine hsub.perm_of_length_le ?_
  simp [keys, hlength]

theorem length_eq_of_keys {a : Dict α} {b : Dict β} (ha : Sorted a) (hb : Sorted b)
    (h : ∀ key, key ∈ a.keys ↔ key ∈ b.keys) : a.length = b.length := by
  have hperm := (List.perm_ext_iff_of_nodup ha.nodup_keys hb.nodup_keys).mpr h
  simpa [keys] using hperm.length_eq

end Dict

namespace Json

theorem equalFields_iff : ∀ {fields : List (String × Json)} {others : Dict Json},
    equalFields fields others = true ↔
      ∀ e ∈ fields, ∃ y, Dict.find? e.1 others = some y ∧ equal e.2 y = true
  | [], others => by simp [equalFields]
  | (k, x) :: rest, others => by
    rw [equalFields, Bool.and_eq_true, @equalFields_iff rest, List.forall_mem_cons]
    refine and_congr_left fun _ => ?_
    cases Dict.find? k others <;> simp

/-! ### Equality is an equivalence -/

mutual

theorem equal_self : ∀ {x : Json}, Ordered x → equal x x = true
  | .null, _ => by simp [equal]
  | .bool _, _ => by simp [equal]
  | .number a, _ => by simp [equal, Number.compareValue_self a]
  | .string _, _ => by simp [equal]
  | .array items, h => by
    rw [Ordered] at h
    simp [equal, equalItems_self h]
  | .object fields, h => by
    rw [Ordered] at h
    have hfields := equalFields_self h.2 fun e he => Dict.find?_of_mem h.1 he
    simp [equal, hfields]

theorem equalItems_self : ∀ {items : List Json}, OrderedItems items → equalItems items items = true
  | [], _ => by simp [equalItems]
  | x :: rest, h => by
    rw [OrderedItems] at h
    simp [equalItems, equal_self h.1, equalItems_self h.2]

theorem equalFields_self : ∀ {rest : List (String × Json)} {fields : Dict Json},
    OrderedFields rest → (∀ e ∈ rest, Dict.find? e.1 fields = some e.2) →
      equalFields rest fields = true
  | [], _, _, _ => by simp [equalFields]
  | (k, x) :: rest, fields, h, hfind => by
    rw [OrderedFields] at h
    have hx : Dict.find? k fields = some x := hfind (k, x) List.mem_cons_self
    have hrest := equalFields_self h.2 fun e he => hfind e (List.mem_cons_of_mem _ he)
    simp [equalFields, hx, equal_self h.1, hrest]

end

mutual

theorem equal_symm : ∀ {x y : Json}, Ordered x → Ordered y → equal x y = true → equal y x = true
  | .null, y, _, _, h => by
    cases y <;> simp_all [equal]
  | .bool _, y, _, _, h => by
    cases y <;> simp_all [equal]
  | .string _, y, _, _, h => by
    cases y <;> simp_all [equal]
  | .number a, y, _, _, h => by
    cases y <;> simp only [equal, Bool.false_eq_true, beq_iff_eq] at h ⊢
    rw [← Number.compareValue_swap, h]
    rfl
  | .array items, y, hx, hy, h => by
    cases y <;> simp only [equal, Bool.false_eq_true, Bool.and_eq_true, beq_iff_eq] at h ⊢
    rw [Ordered] at hx hy
    exact ⟨h.1.symm, equalItems_symm hx hy h.1 h.2⟩
  | .object fields, y, hx, hy, h => by
    cases y with
    | object others =>
      simp only [equal, Bool.and_eq_true, beq_iff_eq] at h ⊢
      rw [Ordered] at hx hy
      have hback := equalFields_symm hx.2 (orderedFields_iff.mp hy.2) h.2
      have hkeys : (Dict.keys fields).Perm (Dict.keys others) := by
        refine Dict.keys_perm_of_subset hx.1 h.1 fun key hkey => ?_
        obtain ⟨e, he, rfl⟩ := List.mem_map.mp hkey
        obtain ⟨y, hy, -⟩ := hback e he
        exact Dict.mem_keys_iff.mpr (by rw [hy]; rfl)
      refine ⟨h.1.symm, equalFields_iff.mpr fun e he => ?_⟩
      have hkey : e.1 ∈ Dict.keys fields := hkeys.mem_iff.mpr (List.mem_map.mpr ⟨e, he, rfl⟩)
      obtain ⟨e', he', hsame⟩ := List.mem_map.mp hkey
      obtain ⟨y, hfind, hequal⟩ := hback e' he'
      refine ⟨e'.2, ?_, ?_⟩
      · rw [← hsame]
        exact Dict.find?_of_mem hx.1 he'
      · rw [hsame, Dict.find?_of_mem hy.1 he] at hfind
        obtain rfl := Option.some.inj hfind
        exact hequal
    | _ => simp [equal] at h

theorem equalItems_symm : ∀ {xs ys : List Json}, OrderedItems xs → OrderedItems ys →
    xs.length = ys.length → equalItems xs ys = true → equalItems ys xs = true
  | [], [], _, _, _, _ => by simp [equalItems]
  | [], _ :: _, _, _, hlength, _ => by simp at hlength
  | _ :: _, [], _, _, hlength, _ => by simp at hlength
  | x :: xs, y :: ys, hx, hy, hlength, h => by
    rw [OrderedItems] at hx hy
    simp only [equalItems, Bool.and_eq_true] at h ⊢
    exact ⟨equal_symm hx.1 hy.1 h.1, equalItems_symm hx.2 hy.2 (by simpa using hlength) h.2⟩

theorem equalFields_symm : ∀ {fields : List (String × Json)} {others : Dict Json},
    OrderedFields fields → (∀ e ∈ others, Ordered e.2) → equalFields fields others = true →
      ∀ e ∈ fields, ∃ y, Dict.find? e.1 others = some y ∧ equal y e.2 = true
  | [], _, _, _, _ => by simp
  | (k, x) :: rest, others, hfields, hothers, h => by
    rw [OrderedFields] at hfields
    obtain ⟨⟨y, hfind, hequal⟩, hrest⟩ := List.forall_mem_cons.mp (equalFields_iff.mp h)
    refine List.forall_mem_cons.mpr ⟨⟨y, hfind, ?_⟩, ?_⟩
    · exact equal_symm hfields.1 (hothers _ (Dict.mem_of_find? hfind)) hequal
    · exact equalFields_symm hfields.2 hothers (equalFields_iff.mpr hrest)

end

mutual

theorem equal_trans : ∀ {x y z : Json}, equal x y = true → equal y z = true → equal x z = true
  | .null, y, z, hxy, hyz => by
    cases y <;> simp only [equal, Bool.false_eq_true] at hxy
    exact hyz
  | .bool _, y, z, hxy, hyz => by
    cases y <;> simp only [equal, Bool.false_eq_true, beq_iff_eq] at hxy
    exact hxy ▸ hyz
  | .string _, y, z, hxy, hyz => by
    cases y <;> simp only [equal, Bool.false_eq_true, beq_iff_eq] at hxy
    exact hxy ▸ hyz
  | .number a, y, z, hxy, hyz => by
    cases y <;> simp only [equal, Bool.false_eq_true, beq_iff_eq] at hxy
    cases z <;> simp only [equal, Bool.false_eq_true, beq_iff_eq] at hyz ⊢
    rw [Number.compareValue_congr hxy, hyz]
  | .array items, y, z, hxy, hyz => by
    cases y <;> simp only [equal, Bool.false_eq_true, Bool.and_eq_true, beq_iff_eq] at hxy
    cases z <;> simp only [equal, Bool.false_eq_true, Bool.and_eq_true, beq_iff_eq] at hyz ⊢
    exact ⟨hxy.1.trans hyz.1, equalItems_trans hxy.1 hyz.1 hxy.2 hyz.2⟩
  | .object fields, y, z, hxy, hyz => by
    cases y <;> simp only [equal, Bool.false_eq_true, Bool.and_eq_true, beq_iff_eq] at hxy
    cases z <;> simp only [equal, Bool.false_eq_true, Bool.and_eq_true, beq_iff_eq] at hyz ⊢
    exact ⟨hxy.1.trans hyz.1, equalFields_trans hxy.2 hyz.2⟩

theorem equalItems_trans : ∀ {xs ys zs : List Json}, xs.length = ys.length →
    ys.length = zs.length → equalItems xs ys = true → equalItems ys zs = true →
      equalItems xs zs = true
  | [], _, _, _, _, _, _ => by simp [equalItems]
  | x :: xs, [], _, hlength, _, _, _ => by simp at hlength
  | x :: xs, y :: ys, [], _, hlength, _, _ => by simp at hlength
  | x :: xs, y :: ys, z :: zs, hxy, hyz, h, h' => by
    simp only [equalItems, Bool.and_eq_true] at h h' ⊢
    exact ⟨equal_trans h.1 h'.1,
      equalItems_trans (by simpa using hxy) (by simpa using hyz) h.2 h'.2⟩

theorem equalFields_trans : ∀ {fields : List (String × Json)} {others more : Dict Json},
    equalFields fields others = true → equalFields others more = true →
      equalFields fields more = true
  | [], _, _, _, _ => by simp [equalFields]
  | (k, x) :: rest, others, more, h, h' => by
    obtain ⟨⟨y, hfind, hequal⟩, hrest⟩ := List.forall_mem_cons.mp (equalFields_iff.mp h)
    obtain ⟨z, hfind', hequal'⟩ := equalFields_iff.mp h' _ (Dict.mem_of_find? hfind)
    have hz : equal x z = true := equal_trans hequal hequal'
    have htail := equalFields_trans (equalFields_iff.mpr hrest) h'
    simp only at hfind'
    rw [equalFields, hfind', Bool.and_eq_true]
    exact ⟨hz, htail⟩

end

/-! ### Alike values -/

/-- Ordered values that are equal. -/
structure Alike (x y : Json) : Prop where
  left : x.Ordered
  right : y.Ordered
  equal : x.equal y = true

namespace Alike

theorem refl {x : Json} (h : x.Ordered) : Alike x x := ⟨h, h, equal_self h⟩

theorem symm {x y : Json} (h : Alike x y) : Alike y x :=
  ⟨h.right, h.left, equal_symm h.left h.right h.equal⟩

end Alike

theorem equalItems_iff : ∀ {xs ys : List Json}, xs.length = ys.length →
    (equalItems xs ys = true ↔ ∀ (i : Nat) (x y : Json), xs[i]? = some x → ys[i]? = some y →
      equal x y = true)
  | [], [], _ => by simp [equalItems]
  | [], _ :: _, hlength => by simp at hlength
  | _ :: _, [], hlength => by simp at hlength
  | x :: xs, y :: ys, hlength => by
    rw [equalItems, Bool.and_eq_true, equalItems_iff (by simpa using hlength)]
    constructor
    · rintro ⟨hhead, htail⟩ i x' y' hx hy
      cases i with
      | zero => simp_all
      | succ i => exact htail i x' y' (by simpa using hx) (by simpa using hy)
    · intro h
      exact ⟨h 0 x y rfl rfl,
        fun i x' y' hx hy => h (i + 1) x' y' (by simpa using hx) (by simpa using hy)⟩

theorem Alike.length_eq {xs ys : List Json} (h : Alike (.array xs) (.array ys)) :
    xs.length = ys.length := by
  have hequal := h.equal
  simp only [Json.equal, Bool.and_eq_true, beq_iff_eq] at hequal
  exact hequal.1

/-- Alike arrays have alike items at each place. -/
theorem Alike.getElem? {xs ys : List Json} (h : Alike (.array xs) (.array ys)) (i : Nat) :
    Option.Rel Alike xs[i]? ys[i]? := by
  obtain ⟨hx, hy, hequal⟩ := h
  rw [Ordered, orderedItems_iff] at hx hy
  simp only [Json.equal, Bool.and_eq_true, beq_iff_eq] at hequal
  obtain ⟨hlength, hitems⟩ := hequal
  cases hxi : xs[i]? with
  | none =>
    have : ys[i]? = none := by
      rw [List.getElem?_eq_none_iff] at hxi ⊢
      omega
    rw [this]
    exact .none
  | some x =>
    obtain ⟨hlt, -⟩ := List.getElem?_eq_some_iff.mp hxi
    obtain ⟨y, hyi⟩ : ∃ y, ys[i]? = some y := ⟨_, List.getElem?_eq_getElem (hlength ▸ hlt)⟩
    rw [hyi]
    refine .some ⟨hx x (List.mem_of_getElem? hxi), hy y (List.mem_of_getElem? hyi), ?_⟩
    exact (equalItems_iff hlength).mp hitems i x y hxi hyi

/-- Arrays with alike items are alike. -/
theorem alike_array {xs ys : List Json} (h : ∀ i : Nat, Option.Rel Alike xs[i]? ys[i]?) :
    Alike (.array xs) (.array ys) := by
  have hiff : ∀ i : Nat, xs[i]? = none ↔ ys[i]? = none := by
    intro i
    have hi := h i
    cases hx : xs[i]? <;> cases hy : ys[i]? <;> simp_all
  have hlength : xs.length = ys.length := by
    have hx := (hiff xs.length).mp (List.getElem?_eq_none (Nat.le_refl _))
    have hy := (hiff ys.length).mpr (List.getElem?_eq_none (Nat.le_refl _))
    rw [List.getElem?_eq_none_iff] at hx hy
    omega
  have halike : ∀ (i : Nat) (x y : Json), xs[i]? = some x → ys[i]? = some y → Alike x y := by
    intro i x y hx hy
    have hi := h i
    rwa [hx, hy, Option.rel_some_some] at hi
  refine ⟨?_, ?_, ?_⟩
  · rw [Ordered, orderedItems_iff]
    intro x hx
    obtain ⟨i, hi⟩ := List.getElem?_of_mem hx
    obtain ⟨y, hy⟩ := Option.ne_none_iff_exists'.mp (mt (hiff i).mpr (by rw [hi]; simp))
    exact (halike i x y hi hy).left
  · rw [Ordered, orderedItems_iff]
    intro y hy
    obtain ⟨i, hi⟩ := List.getElem?_of_mem hy
    obtain ⟨x, hx⟩ := Option.ne_none_iff_exists'.mp (mt (hiff i).mp (by rw [hi]; simp))
    exact (halike i x y hx hi).right
  · rw [Json.equal, Bool.and_eq_true, beq_iff_eq, equalItems_iff hlength]
    exact ⟨hlength, fun i x y hx hy => (halike i x y hx hy).equal⟩

/-- Alike objects have alike values under each key. -/
theorem Alike.find? {a b : Dict Json} (h : Alike (.object a) (.object b)) (key : String) :
    Option.Rel Alike (Dict.find? key a) (Dict.find? key b) := by
  -- from left to right, for both sides of the pair
  have hfound : ∀ {a b : Dict Json}, Alike (.object a) (.object b) → ∀ {x : Json},
      Dict.find? key a = some x → ∃ y, Dict.find? key b = some y ∧ Alike x y := by
    intro a b h x hx
    obtain ⟨ha, hb, hequal⟩ := h
    rw [Ordered, orderedFields_iff] at ha hb
    simp only [Json.equal, Bool.and_eq_true] at hequal
    have hmem := Dict.mem_of_find? hx
    obtain ⟨y, hy, hxy⟩ := equalFields_iff.mp hequal.2 _ hmem
    exact ⟨y, hy, ha.2 _ hmem, hb.2 _ (Dict.mem_of_find? hy), hxy⟩
  cases hx : Dict.find? key a with
  | some x =>
    obtain ⟨y, hy, hxy⟩ := hfound h hx
    rw [hy]
    exact .some hxy
  | none =>
    cases hy : Dict.find? key b with
    | none => exact .none
    | some y =>
      obtain ⟨x, hx', -⟩ := hfound h.symm hy
      rw [hx] at hx'
      cases hx'

/-- Objects with alike values under each key are alike. -/
theorem alike_object {a b : Dict Json} (ha : Dict.Sorted a) (hb : Dict.Sorted b)
    (h : ∀ key, Option.Rel Alike (Dict.find? key a) (Dict.find? key b)) :
    Alike (.object a) (.object b) := by
  have halike : ∀ (key : String) (x y : Json), Dict.find? key a = some x →
      Dict.find? key b = some y → Alike x y := by
    intro key x y hx hy
    have hkey := h key
    rwa [hx, hy, Option.rel_some_some] at hkey
  have hiff : ∀ key, (Dict.find? key a).isSome = true ↔ (Dict.find? key b).isSome = true := by
    intro key
    have hkey := h key
    cases hx : Dict.find? key a <;> cases hy : Dict.find? key b <;> simp_all
  have hlength : a.length = b.length :=
    Dict.length_eq_of_keys ha hb fun key => by
      rw [Dict.mem_keys_iff, Dict.mem_keys_iff, hiff]
  refine ⟨?_, ?_, ?_⟩
  · rw [Ordered, orderedFields_iff]
    refine ⟨ha, fun e he => ?_⟩
    have hx := Dict.find?_of_mem ha he
    obtain ⟨y, hy⟩ := Option.isSome_iff_exists.mp ((hiff e.1).mp (by rw [hx]; rfl))
    exact (halike e.1 e.2 y hx hy).left
  · rw [Ordered, orderedFields_iff]
    refine ⟨hb, fun e he => ?_⟩
    have hy := Dict.find?_of_mem hb he
    obtain ⟨x, hx⟩ := Option.isSome_iff_exists.mp ((hiff e.1).mpr (by rw [hy]; rfl))
    exact (halike e.1 x e.2 hx hy).right
  · rw [Json.equal, Bool.and_eq_true, beq_iff_eq, equalFields_iff]
    refine ⟨hlength, fun e he => ?_⟩
    have hx := Dict.find?_of_mem ha he
    obtain ⟨y, hy⟩ := Option.isSome_iff_exists.mp ((hiff e.1).mp (by rw [hx]; rfl))
    exact ⟨y, hy, (halike e.1 e.2 y hx hy).equal⟩

/-! ### Replacing parts -/

theorem Alike.insert {a b : Dict Json} {x y : Json} (h : Alike (.object a) (.object b))
    (hxy : Alike x y) (key : String) :
    Alike (.object (Dict.insert key x a)) (.object (Dict.insert key y b)) := by
  have ha : Dict.Sorted a := h.left.1
  have hb : Dict.Sorted b := h.right.1
  refine alike_object (ha.insert x) (hb.insert y) fun other => ?_
  by_cases hkey : other = key
  · rw [hkey, Dict.find?_insert_self, Dict.find?_insert_self]
    exact .some hxy
  · rw [Dict.find?_insert_of_ne hkey, Dict.find?_insert_of_ne hkey]
    exact h.find? other

theorem Alike.set {xs ys : List Json} {x y : Json} (h : Alike (.array xs) (.array ys))
    (hxy : Alike x y) (i : Nat) : Alike (.array (xs.set i x)) (.array (ys.set i y)) := by
  refine alike_array fun j => ?_
  rw [List.getElem?_set, List.getElem?_set, h.length_eq]
  split
  · split
    · exact .some hxy
    · exact .none
  · exact h.getElem? j

end Json
end PageFlow
