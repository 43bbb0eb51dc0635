/-
# Dictionaries with text keys

A dictionary is the list of its entries. Every dictionary the engine builds
lists its keys in ascending code point order, each once, because `insert`
replaces an entry in place or puts a new one before the first greater key.
The order is part of every answer: entries are printed, mapped and written in
key order.

Key definitions: `Dict.find?`, `Dict.insert`, `Dict.ofList`, `Dict.Sorted`.
Key theorems: `Dict.find?_insert_self`, `Dict.find?_insert_of_ne`,
`Dict.insert_insert_self`, `Dict.insert_find?`.
-/
namespace PageFlow

/-- The entries of a dictionary, first to last. -/
abbrev Dict (α : Type) := List (String × α)

namespace Dict

variable {α β : Type}

/-- The value under `key`, if there is one. -/
def find? (key : String) : Dict α → Option α
  | [] => none
  | (k, v) :: rest => if k = key then some v else find? key rest

/-- Whether some entry has this key. -/
def has (key : String) (d : Dict α) : Bool := (find? key d).isSome

/-- Puts `value` under `key`, in place of what stood there. -/
def insert (key : String) (value : α) : Dict α → Dict α
  | [] => [(key, value)]
  | (k, v) :: rest =>
    if k = key then (key, value) :: rest
    else if key < k then (key, value) :: (k, v) :: rest
    else (k, v) :: insert key value rest

/-- Removes the first entry under `key`. -/
def erase (key : String) : Dict α → Dict α
  | [] => []
  | (k, v) :: rest => if k = key then rest else (k, v) :: erase key rest

/-- Inserts the entries of `more`, first to last, so the last of equal keys stays. -/
def insertAll (d : Dict α) (more : List (String × α)) : Dict α :=
  more.foldl (fun acc e => insert e.1 e.2 acc) d

/-- The dictionary of a list of entries: sorted, the last of equal keys kept. -/
def ofList (entries : List (String × α)) : Dict α := insertAll [] entries

/-- The keys, first to last. -/
def keys (d : Dict α) : List String := d.map (·.1)

/-- The same keys with each value replaced by its image. -/
def mapValues (f : α → β) (d : Dict α) : Dict β := d.map fun e => (e.1, f e.2)

/-- Each key is below all later ones. -/
def Sorted : Dict α → Prop
  | [] => True
  | (k, _) :: rest => (∀ e ∈ rest, k < e.1) ∧ Sorted rest

theorem find?_insert_self (key : String) (value : α) :
    ∀ d : Dict α, find? key (insert key value d) = some value
  | [] => by simp [insert, find?]
  | (k, v) :: rest => by
    unfold insert
    split
    · simp [find?]
    · split
      · simp [find?]
      · rename_i h _
        simp [find?, h, find?_insert_self key value rest]

theorem find?_insert_of_ne {key other : String} (h : other ≠ key) (value : α) :
    ∀ d : Dict α, find? other (insert key value d) = find? other d
  | [] => by simp [insert, find?, h.symm]
  | (k, v) :: rest => by
    unfold insert
    split
    · rename_i hk
      subst hk
      simp [find?, h.symm]
    · split
      · simp [find?, h.symm]
      · simp [find?, find?_insert_of_ne h value rest]

/-- A second insertion under the same key takes the place of the first. -/
theorem insert_insert_self (key : String) (v w : α) :
    ∀ d : Dict α, insert key w (insert key v d) = insert key w d
  | [] => by simp [insert]
  | (k, u) :: rest => by
    by_cases hk : k = key
    · simp [insert, hk]
    · by_cases hlt : key < k
      · simp [insert, hk, hlt]
      · simp [insert, hk, hlt, insert_insert_self key v w rest]

/-- Putting back what a key already holds changes nothing. -/
theorem insert_find? {key : String} {value : α} :
    ∀ {d : Dict α}, Sorted d → find? key d = some value → insert key value d = d
  | [], _, h => by simp [find?] at h
  | (k, v) :: rest, hs, h => by
    by_cases hk : k = key
    · subst hk
      simp [find?] at h
      simp [insert, h]
    · simp only [find?, hk, if_false] at h
      have hlt : ¬ key < k := by
        intro hlt
        have mem : ∀ {d : Dict α}, find? key d = some value → ∃ e ∈ d, e.1 = key := by
          intro d
          induction d with
          | nil => simp [find?]
          | cons e d ih =>
            obtain ⟨k', v'⟩ := e
            by_cases he : k' = key
            · intro _; exact ⟨(k', v'), by simp, he⟩
            · simp only [find?, he, if_false]
              intro h'
              obtain ⟨e, hm, hke⟩ := ih h'
              exact ⟨e, by simp [hm], hke⟩
        obtain ⟨e, hm, hke⟩ := mem h
        have := hs.1 e hm
        rw [hke] at this
        exact String.lt_irrefl _ (String.lt_trans hlt this)
      simp [insert, hk, hlt, insert_find? hs.2 h]

end Dict
end PageFlow
