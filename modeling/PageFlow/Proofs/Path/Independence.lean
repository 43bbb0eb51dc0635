/-
# Writes at independent paths

Two paths are independent when they part: where their segments first differ, both have
one, and the two are not numbers of one array item. Such paths do not overlap. A write
at one of two paths that do not overlap changes nothing that a look along the other way
sees, so it does not change whether the other write is refused, or why; and the two may
trade places. This holds also where both go through a missing value or a `null` that the
first of them turns into an object.

Key definitions: `Independent`.
Key theorems: `Json.checkPut_of_put`, `Json.put_comm`, `write_map_of_beside`,
`write_comm_of_beside`, `write_independent`.
-/
import PageFlow.Proofs.Dict
import PageFlow.Proofs.Path.Overlap

namespace PageFlow

/-- Two paths part at segments that differ and are not numbers of one array item. -/
def Independent (p q : List String) : Prop :=
  ∃ front s t p' q', p = front ++ s :: p' ∧ q = front ++ t :: q' ∧ s ≠ t ∧
    ∀ i, ¬ (arrayIndex? s = some i ∧ arrayIndex? t = some i)

namespace Independent

variable {p q : List String}

theorem symm (h : Independent p q) : Independent q p := by
  obtain ⟨front, s, t, p', q', hp, hq, hne, hindex⟩ := h
  exact ⟨front, t, s, q', p', hq, hp, hne.symm, fun i hi => hindex i hi.symm⟩

theorem not_overlap (h : Independent p q) : ¬ Overlap p q := by
  obtain ⟨front, s, t, p', q', rfl, rfl, hne, hindex⟩ := h
  intro hoverlap
  have hmem : (s, t) ∈ (front ++ s :: p').zip (front ++ t :: q') := by
    rw [List.zip_append rfl, List.zip_cons_cons]
    exact List.mem_append_right _ List.mem_cons_self
  rcases hoverlap _ hmem with hst | ⟨i, hi⟩
  · exact hne hst
  · exact hindex i hi

end Independent

namespace Json

theorem checkPut_of_put {new : Json} : ∀ {p q : List String} {value next : Json},
    ¬ Overlap p q → put new p value = .ok next → checkPut q next = checkPut q value
  | [], q, _, _, h, _ => absurd (Overlap.nil_left q) h
  | _ :: _, [], _, _, h, _ => absurd (Overlap.nil_right _) h
  | s :: p, t :: q, _, _, h, hput => by
    obtain ⟨fields, child, hfields, hchild, rfl⟩ | ⟨items, i, child, rfl, hi, hchild, rfl⟩ :=
      put_cons_cases hput
    · rw [checkPut_of_openFields hfields, checkPut_of_openFields rfl]
      by_cases hst : s = t
      · subst hst
        obtain ⟨hrest, -⟩ := not_overlap_rest (.inl rfl) h
        rw [Dict.find?_insert_self, Option.getD_some, checkPut_of_put hrest hchild]
      · rw [Dict.find?_insert_of_ne (Ne.symm hst)]
    · obtain ⟨hs, hlt⟩ := itemIndex_eq_ok hi
      rw [checkPut, checkPut, List.length_set]
      cases hj : itemIndex items.length t with
      | error e => rfl
      | ok j =>
        dsimp only
        by_cases hij : i = j
        · subst hij
          obtain ⟨hrest, -⟩ := not_overlap_rest (.inr ⟨i, hs, (itemIndex_eq_ok hj).1⟩) h
          have hitem : (items.set i child).getD i .null = child := by simp [hlt]
          rw [hitem, checkPut_of_put hrest hchild]
        · have hitem : (items.set i child).getD j .null = items.getD j .null := by simp [hij]
          rw [hitem]

theorem put_comm {new other : Json} : ∀ {p q : List String} {value left right : Json},
    ¬ Overlap p q → put new p value = .ok left → put other q value = .ok right →
      ∃ both, put other q left = .ok both ∧ put new p right = .ok both
  | [], q, _, _, _, h, _, _ => absurd (Overlap.nil_left q) h
  | _ :: _, [], _, _, _, h, _, _ => absurd (Overlap.nil_right _) h
  | s :: p, t :: q, _, _, _, h, hp, hq => by
    obtain ⟨fields, left, hfields, hleft, rfl⟩ | ⟨items, i, left, rfl, hi, hleft, rfl⟩ :=
      put_cons_cases hp
    · rw [put_of_openFields hfields] at hq
      obtain ⟨right, hright, rfl⟩ := eq_ok_of_map hq
      by_cases hst : s = t
      · -- both go into one field, which may have been missing, and part behind it
        subst hst
        obtain ⟨hrest, -⟩ := not_overlap_rest (.inl rfl) h
        obtain ⟨both, hqp, hpq⟩ := put_comm hrest hleft hright
        refine ⟨.object (Dict.insert s both fields), ?_, ?_⟩
        · rw [put, Dict.find?_insert_self, Option.getD_some, hqp, Except.map,
            Dict.insert_insert_self]
        · rw [put, Dict.find?_insert_self, Option.getD_some, hpq, Except.map,
            Dict.insert_insert_self]
      · refine ⟨.object (Dict.insert t right (Dict.insert s left fields)), ?_, ?_⟩
        · rw [put, Dict.find?_insert_of_ne (Ne.symm hst), hright, Except.map]
        · rw [put, Dict.find?_insert_of_ne hst, hleft, Except.map, Dict.insert_comm hst]
    · obtain ⟨hs, hilt⟩ := itemIndex_eq_ok hi
      obtain ⟨_, _, hnone, -⟩ | ⟨_, j, right, hitems, hj, hright, rfl⟩ := put_cons_cases hq
      · exact nomatch hnone
      obtain rfl := Json.array.inj hitems
      obtain ⟨ht, hjlt⟩ := itemIndex_eq_ok hj
      by_cases hij : i = j
      · -- the segments may be two spellings of one number
        subst hij
        obtain ⟨hrest, -⟩ := not_overlap_rest (.inr ⟨i, hs, ht⟩) h
        obtain ⟨both, hqp, hpq⟩ := put_comm hrest hleft hright
        have hitem : ∀ child, (items.set i child).getD i .null = child := by simp [hilt]
        refine ⟨.array (items.set i both), ?_, ?_⟩
        · rw [put_of_itemIndex (by rwa [List.length_set]), hitem, hqp, Except.map, List.set_set]
        · rw [put_of_itemIndex (by rwa [List.length_set]), hitem, hpq, Except.map, List.set_set]
      · have hitem : ∀ {k l} child, k ≠ l →
            (items.set k child).getD l .null = items.getD l .null := by
          intro k l child hkl
          simp [hkl]
        refine ⟨.array ((items.set i left).set j right), ?_, ?_⟩
        · rw [put_of_itemIndex (by rwa [List.length_set]), hitem left hij, hright, Except.map]
        · rw [put_of_itemIndex (by rwa [List.length_set]), hitem right (Ne.symm hij), hleft,
            Except.map, List.set_comm _ _ hij]

end Json

variable {p q : Path} {fields : Dict Json}

/-- A write leaves whether another one at a path beside its own is refused, and why. -/
theorem write_map_of_beside {v : Json} {next : Dict Json} (h : ¬ Overlap p.segments q.segments)
    (hwrite : write p v fields = .ok next) (w : Json) :
    (write q w next).map (fun _ => ()) = (write q w fields).map (fun _ => ()) := by
  obtain ⟨hp, hq⟩ := ne_nil_of_not_overlap h
  rw [write_map_eq w next hq, write_map_eq w fields hq,
    Json.checkPut_of_put h ((write_eq_ok_iff hp).mp hwrite)]

/-- Two writes at paths that do not overlap and succeed, one after the other, may trade
places. -/
theorem write_comm_of_beside {v w : Json} {both : Dict Json}
    (h : ¬ Overlap p.segments q.segments)
    (hwrites : (write p v fields).bind (write q w) = .ok both) :
    (write q w fields).bind (write p v) = .ok both := by
  obtain ⟨hp, hq⟩ := ne_nil_of_not_overlap h
  obtain ⟨left, hleft, hboth⟩ := eq_ok_of_bind hwrites
  have hresult := write_map_of_beside h hleft w
  rw [hboth] at hresult
  obtain ⟨right, hright, -⟩ := eq_ok_of_map hresult.symm
  obtain ⟨value, hqp, hpq⟩ := Json.put_comm h ((write_eq_ok_iff hp).mp hleft)
    ((write_eq_ok_iff hq).mp hright)
  obtain rfl : .object both = value :=
    Except.ok.inj (((write_eq_ok_iff hq).mp hboth).symm.trans hqp)
  rw [hright]
  exact (write_eq_ok_iff hp).mpr hpq

theorem write_map_of_write {v : Json} {next : Dict Json} (h : Independent p.segments q.segments)
    (hwrite : write p v fields = .ok next) (w : Json) :
    (write q w next).map (fun _ => ()) = (write q w fields).map (fun _ => ()) :=
  write_map_of_beside h.not_overlap hwrite w

theorem write_comm {v w : Json} {both : Dict Json} (h : Independent p.segments q.segments)
    (hwrites : (write p v fields).bind (write q w) = .ok both) :
    (write q w fields).bind (write p v) = .ok both :=
  write_comm_of_beside h.not_overlap hwrites

/-- **Writes at independent paths do not interfere.** A write at one of them leaves what is
found at the other, or that nothing is; it leaves whether the other write is refused, and
why; and the two writes succeed in either order or in none, and give the same fields. -/
theorem write_independent (h : Independent p.segments q.segments) (v w : Json)
    (fields : Dict Json) :
    (∀ next, write p v fields = .ok next →
      Json.at? q.segments (.object next) = Json.at? q.segments (.object fields)) ∧
    (∀ next, write p v fields = .ok next →
      (write q w next).map (fun _ => ()) = (write q w fields).map (fun _ => ())) ∧
    ∀ both, (write p v fields).bind (write q w) = .ok both ↔
      (write q w fields).bind (write p v) = .ok both :=
  ⟨fun _ => at?_of_write h.not_overlap, fun _ hwrite => write_map_of_write h hwrite w,
    fun _ => ⟨write_comm h, write_comm h.symm⟩⟩

/-- A guest of whom nothing is known, with two seats. -/
def guestFields : Dict Json := [("guest", .null), ("seats", .array [.null, .null])]

/-- The name and the address of a guest are put into one new object, in either order. -/
theorem write_independent_guest :
    let name : Path := ⟨"guest.name", .data, ["guest", "name"]⟩
    let city : Path := ⟨"guest.home.city", .data, ["guest", "home", "city"]⟩
    Independent name.segments city.segments ∧
    ∃ next both, write name (.string "Ada") guestFields = .ok next ∧
      Json.at? city.segments (.object next) = none ∧
      (write city (.string "Rome") next).map (fun _ => ()) = .ok () ∧
      (write name (.string "Ada") guestFields).bind (write city (.string "Rome")) = .ok both ∧
      (write city (.string "Rome") guestFields).bind (write name (.string "Ada")) = .ok both := by
  intro name city
  have hindependent : Independent name.segments city.segments :=
    ⟨["guest"], "name", "home", [], ["city"], rfl, rfl, by decide,
      fun i hi => nomatch (show arrayIndex? "name" = none from rfl).symm.trans hi.1⟩
  obtain ⟨hfound, hresult, horder⟩ :=
    write_independent hindependent (.string "Ada") (.string "Rome") guestFields
  obtain ⟨next, hnext⟩ : ∃ next, write name (.string "Ada") guestFields = .ok next := ⟨_, rfl⟩
  obtain ⟨both, hboth⟩ : ∃ both,
    (write name (.string "Ada") guestFields).bind (write city (.string "Rome")) = .ok both :=
      ⟨_, rfl⟩
  exact ⟨hindependent, next, both, hnext, hfound next hnext, hresult next hnext, hboth,
    (horder both).mp hboth⟩

end PageFlow
