/-
# Reading what was written

Reading and writing at one path fit together: what was written is what is read,
writing what is there changes nothing, and of two writes the second is all that
remains. Reading, the look over the way of a write and the walk that changes the
fields each take a segment on their own terms, so the laws hold because the three
agree at every object, array and `null` on the way.

Key theorems: `Json.at?_of_put`, `Json.put_of_at?`, `Json.put_of_put`, `write_lens`.
-/
import PageFlow.Proofs.Json.Ordered
import PageFlow.Proofs.Path.Overlap

namespace PageFlow
namespace Json

theorem at?_of_put {new : Json} : ∀ {segments : List String} {value next : Json},
    put new segments value = .ok next → at? segments next = some new
  | [], _, _, h => congrArg some (Except.ok.inj h).symm
  | segment :: rest, _, _, h => by
    obtain ⟨fields, child, -, hchild, rfl⟩ | ⟨items, i, child, rfl, hi, hchild, rfl⟩ :=
      put_cons_cases h
    · rw [at?, Dict.find?_insert_self, Option.bind_some, at?_of_put hchild]
    · obtain ⟨hsegment, hlt⟩ := itemIndex_eq_ok hi
      rw [at?, hsegment, Option.bind_some, List.getElem?_set_self hlt, Option.bind_some,
        at?_of_put hchild]

/-- What is found at the end of the segments can be put back, and changes nothing. -/
theorem put_of_at? {found : Json} : ∀ {segments : List String} {value : Json}, value.Ordered →
    at? segments value = some found → put found segments value = .ok value
  | [], _, _, h => congrArg Except.ok (Option.some.inj h).symm
  | segment :: rest, .object fields, hordered, h => by
    rw [Ordered] at hordered
    obtain ⟨child, hchild, h⟩ := Option.bind_eq_some_iff.mp h
    have hmem := Dict.mem_of_find? hchild
    have hback := put_of_at? (orderedFields_iff.mp hordered.2 _ hmem) h
    rw [put, hchild, Option.getD_some, hback, Except.map, Dict.insert_find? hordered.1 hchild]
  | segment :: rest, .array items, hordered, h => by
    rw [Ordered] at hordered
    obtain ⟨i, hsegment, h⟩ := Option.bind_eq_some_iff.mp h
    obtain ⟨child, hchild, h⟩ := Option.bind_eq_some_iff.mp h
    obtain ⟨hlt, rfl⟩ := List.getElem?_eq_some_iff.mp hchild
    have hback := put_of_at? (orderedItems_iff.mp hordered _ (List.getElem_mem hlt)) h
    have hi : itemIndex items.length segment = .ok i := by simp [itemIndex, hsegment, hlt]
    simp [put, hi, hlt, hback, Except.map]
  | _ :: _, .null, _, h => nomatch h
  | _ :: _, .bool _, _, h => nomatch h
  | _ :: _, .number _, _, h => nomatch h
  | _ :: _, .string _, _, h => nomatch h

theorem put_of_put {first second : Json} : ∀ {segments : List String} {value next : Json},
    put first segments value = .ok next → put second segments next = put second segments value
  | [], _, _, _ => rfl
  | segment :: rest, _, _, h => by
    obtain ⟨fields, child, hfields, hchild, rfl⟩ | ⟨items, i, child, rfl, hi, hchild, rfl⟩ :=
      put_cons_cases h
    · rw [put_of_openFields hfields, put, Dict.find?_insert_self, Option.getD_some,
        put_of_put hchild]
      simp only [Dict.insert_insert_self]
    · obtain ⟨-, hlt⟩ := itemIndex_eq_ok hi
      have hitem : (items.set i child).getD i .null = child := by simp [hlt]
      rw [put_of_itemIndex hi, put_of_itemIndex (by rwa [List.length_set]), hitem,
        put_of_put hchild]
      simp only [List.set_set]

end Json

variable {path : Path} {fields : Dict Json}

/-- After a write, another one at the same path has the result that it would have had
before. -/
theorem write_of_write {v : Json} {next : Dict Json} (hsegments : path.segments ≠ [])
    (h : write path v fields = .ok next) (w : Json) : write path w next = write path w fields := by
  obtain ⟨segment, rest, hcons⟩ := List.exists_cons_of_ne_nil hsegments
  rw [write_eq, hcons] at h
  obtain ⟨child, hchild, rfl⟩ := eq_ok_of_map (eq_ok_of_mapError h)
  simp only [write_eq, hcons, putFields, Dict.find?_insert_self, Option.getD_some,
    Json.put_of_put hchild, Dict.insert_insert_self]

theorem exists_write {v : Json} {next : Dict Json} (hsegments : path.segments ≠ [])
    (h : write path v fields = .ok next) (w : Json) : ∃ last, write path w fields = .ok last := by
  have hresult : (write path w fields).map (fun _ => ()) = .ok () := by
    rw [write_map_eq w fields hsegments, ← write_map_eq v fields hsegments, h]
    rfl
  obtain ⟨last, hlast, -⟩ := eq_ok_of_map hresult
  exact ⟨last, hlast⟩

/-- **Reading and writing obey the laws of a lens.** At a path with a segment, what was
written is what is found; in ordered fields, as all are that are read, writing what is found
succeeds and changes nothing; and after a write that succeeds another one succeeds, with the
outcome of the second alone. -/
theorem write_lens (hsegments : path.segments ≠ []) (fields : Dict Json) :
    (∀ v next, write path v fields = .ok next →
      Json.at? path.segments (.object next) = some v) ∧
    (∀ v, (Json.object fields).Ordered → Json.at? path.segments (.object fields) = some v →
      write path v fields = .ok fields) ∧
    ∀ v w next, write path v fields = .ok next →
      ∃ last, write path w next = .ok last ∧ write path w fields = .ok last := by
  refine ⟨fun v next h => ?_, fun v hordered h => ?_, fun v w next h => ?_⟩
  · exact Json.at?_of_put ((write_eq_ok_iff hsegments).mp h)
  · exact (write_eq_ok_iff hsegments).mpr (Json.put_of_at? hordered h)
  · obtain ⟨last, hlast⟩ := exists_write hsegments h w
    exact ⟨last, (write_of_write hsegments h w).trans hlast, hlast⟩

/-- A cart with one item, and without a buyer yet. -/
def cartFields : Dict Json :=
  [("cart", .object [("buyer", .null), ("items", .array [.object [("count", .bool false)]])])]

/-- The item is found under a number with a sign in front, and so is what is written there;
a buyer's name is written into an object of its own. -/
theorem write_lens_cart :
    let count : Path := ⟨"cart.items.+0.count", .data, ["cart", "items", "+0", "count"]⟩
    let name : Path := ⟨"cart.buyer.name", .data, ["cart", "buyer", "name"]⟩
    write count (.bool false) cartFields = .ok cartFields ∧
    (∃ next, write name (.string "Ada") cartFields = .ok next ∧
      Json.at? name.segments (.object next) = some (.string "Ada") ∧
      ∃ last, write name .null next = .ok last ∧ write name .null cartFields = .ok last) := by
  intro count name
  have hcanonical : (Json.object cartFields).canonical = .object cartFields := rfl
  have hordered : (Json.object cartFields).Ordered := hcanonical ▸ Json.ordered_canonical _
  have hcount : count.segments ≠ [] := by decide
  have hname : name.segments ≠ [] := by decide
  obtain ⟨-, hback, -⟩ := write_lens hcount cartFields
  obtain ⟨hfound, -, hagain⟩ := write_lens hname cartFields
  obtain ⟨next, hnext⟩ : ∃ next, write name (.string "Ada") cartFields = .ok next := ⟨_, rfl⟩
  exact ⟨hback _ hordered rfl, next, hnext, hfound _ _ hnext, hagain _ _ _ hnext⟩

end PageFlow
