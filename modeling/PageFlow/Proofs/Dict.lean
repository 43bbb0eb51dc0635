/-
# Laws of dictionaries

What a look-up finds is an entry. A dictionary made from a list of entries has
an entry for each key of the list, and no entry that is not in the list; if
equal keys hold equal values it has all entries of the list. What `insert` makes
of a sorted dictionary is sorted, so all dictionaries that are made from lists
are. An entry that is renamed moves past the entries between the two keys.

Key definitions: `Dict.rename`, `Dict.Between`.
Key theorems: `Dict.mem_of_find?`, `Dict.isSome_find?_ofList`,
`Dict.mem_of_mem_insert`, `Dict.mem_insertAll`, `Dict.insert_comm`, `Dict.Sorted.insert`,
`Dict.sorted_ofList`, `Dict.find?_of_mem`, `Dict.Sorted.eq_of_mem_iff`,
`Dict.ofList_of_sorted`, `Dict.Sorted.lt_of_split`, `Dict.Sorted.rename_cases`.
-/
import Mathlib.Data.List.Nodup
import PageFlow.Dict

namespace PageFlow
namespace Dict

variable {α β : Type}

theorem mem_of_find? {key : String} {value : α} :
    ∀ {d : Dict α}, find? key d = some value → (key, value) ∈ d
  | [], h => by simp [find?] at h
  | (k, v) :: rest, h => by
    by_cases hk : k = key
    · simp only [find?, hk, if_true, Option.some.injEq] at h
      simp [hk, h]
    · simp only [find?, hk, if_false] at h
      exact List.mem_cons_of_mem _ (mem_of_find? h)

theorem isSome_find?_of_mem {entry : String × α} :
    ∀ {d : Dict α}, entry ∈ d → (find? entry.1 d).isSome
  | (k, v) :: rest, h => by
    by_cases hk : k = entry.1
    · simp [find?, hk]
    · simp only [find?, hk, if_false]
      rcases List.mem_cons.mp h with rfl | h
      · exact absurd rfl hk
      · exact isSome_find?_of_mem h

theorem isSome_find?_insert {key other : String} (value : α) {d : Dict α}
    (h : key = other ∨ (find? key d).isSome) : (find? key (insert other value d)).isSome := by
  by_cases hk : key = other
  · rw [hk, find?_insert_self]; rfl
  · rw [find?_insert_of_ne hk]
    exact h.resolve_left hk

theorem isSome_find?_insertAll {key : String} :
    ∀ (more : List (String × α)) (d : Dict α),
      (∃ e ∈ more, e.1 = key) ∨ (find? key d).isSome → (find? key (insertAll d more)).isSome
  | [], d, h => by simpa [insertAll] using h
  | e :: more, d, h => by
    refine isSome_find?_insertAll more (insert e.1 e.2 d) ?_
    rcases h with ⟨e', hm, he⟩ | h
    · rcases List.mem_cons.mp hm with rfl | hm
      · exact Or.inr (isSome_find?_insert _ (Or.inl he.symm))
      · exact Or.inl ⟨e', hm, he⟩
    · exact Or.inr (isSome_find?_insert _ (Or.inr h))

/-- Each key of a list of entries is a key of its dictionary. -/
theorem isSome_find?_ofList {entries : List (String × α)} {entry : String × α}
    (h : entry ∈ entries) : (find? entry.1 (ofList entries)).isSome :=
  isSome_find?_insertAll entries [] (Or.inl ⟨entry, h, rfl⟩)

/-- An entry that is there after an insertion was there before, or was inserted. -/
theorem mem_of_mem_insert {key : String} {value : α} {e : String × α} :
    ∀ {d : Dict α}, e ∈ insert key value d → e = (key, value) ∨ e ∈ d
  | [], h => by simpa [insert] using h
  | (k, v) :: rest, h => by
    unfold insert at h
    split at h
    · rcases List.mem_cons.mp h with h | h
      · exact Or.inl h
      · exact Or.inr (List.mem_cons_of_mem _ h)
    · split at h
      · exact List.mem_cons.mp h
      · rcases List.mem_cons.mp h with h | h
        · exact Or.inr (h ▸ List.mem_cons_self)
        · exact (mem_of_mem_insert h).imp_right (List.mem_cons_of_mem _)

theorem mem_of_mem_insertAll {e : String × α} :
    ∀ (more : List (String × α)) (d : Dict α), e ∈ insertAll d more → e ∈ more ∨ e ∈ d
  | [], _, h => Or.inr h
  | e' :: more, d, h => by
    rcases mem_of_mem_insertAll more (insert e'.1 e'.2 d) h with h | h
    · exact Or.inl (List.mem_cons_of_mem _ h)
    · rcases mem_of_mem_insert h with rfl | h
      · exact Or.inl List.mem_cons_self
      · exact Or.inr h

theorem mem_insert {key : String} {value : α} {e : String × α} :
    ∀ {d : Dict α}, (∀ other ∈ d, other.1 = key → other.2 = value) →
      (e ∈ insert key value d ↔ e = (key, value) ∨ e ∈ d)
  | [], _ => by simp [insert]
  | (k, v) :: rest, h => by
    unfold insert
    split
    · next hk =>
      obtain rfl : v = value := h (k, v) List.mem_cons_self hk
      simp [hk]
    · split
      · exact List.mem_cons
      · have ih := mem_insert (e := e) fun other hother => h other (List.mem_cons_of_mem _ hother)
        rw [List.mem_cons, ih, List.mem_cons]
        exact or_left_comm

/-- Where equal keys hold equal values, all entries are kept. -/
theorem mem_insertAll {e : String × α} :
    ∀ {more : List (String × α)} {d : Dict α},
      (∀ a ∈ more, ∀ b ∈ more, b.1 = a.1 → b.2 = a.2) →
      (∀ a ∈ more, ∀ b ∈ d, b.1 = a.1 → b.2 = a.2) →
      (e ∈ insertAll d more ↔ e ∈ d ∨ e ∈ more)
  | [], d, _, _ => by simp [insertAll]
  | first :: more, d, hmore, hd => by
    have hfirst : ∀ {e}, e ∈ insert first.1 first.2 d ↔ e = first ∨ e ∈ d :=
      mem_insert (hd first List.mem_cons_self)
    have ih : e ∈ insertAll (insert first.1 first.2 d) more ↔ _ := mem_insertAll
      (fun a ha b hb => hmore a (List.mem_cons_of_mem _ ha) b (List.mem_cons_of_mem _ hb))
      (fun a ha b hb => by
        rcases hfirst.mp hb with rfl | hb
        · exact hmore a (List.mem_cons_of_mem _ ha) b List.mem_cons_self
        · exact hd a (List.mem_cons_of_mem _ ha) b hb)
    calc e ∈ insertAll d (first :: more)
        ↔ e ∈ insert first.1 first.2 d ∨ e ∈ more := ih
      _ ↔ (e = first ∨ e ∈ d) ∨ e ∈ more := by rw [hfirst]
      _ ↔ e ∈ d ∨ e ∈ first :: more := by rw [List.mem_cons, or_comm (a := e = first), or_assoc]

theorem find?_append (key : String) (more : List (String × α)) :
    ∀ entries : List (String × α),
      find? key (entries ++ more) = (find? key entries).or (find? key more)
  | [] => rfl
  | (k, v) :: rest => by
    by_cases hk : k = key
    · simp [find?, hk]
    · simp [find?, hk, find?_append key more rest]

/-- A list of entries is split in one way at a key that stands once in it. -/
theorem split_unique {key : String} {v w : α} {front back front' back' : Dict α}
    (h : front ++ (key, v) :: back = front' ++ (key, w) :: back') (hfront : key ∉ keys front)
    (hback : key ∉ keys back) : front = front' ∧ v = w ∧ back = back' := by
  have hkeys : keys front ++ key :: keys back = keys front' ++ key :: keys back' := by
    simpa [keys] using congrArg keys h
  have hlength : front.length = front'.length := by
    have hsame := ((List.append_cons_inj_of_notMem hfront hback).mp hkeys).1
    simpa [keys] using congrArg List.length hsame
  obtain ⟨rfl, hrest⟩ := List.append_inj h hlength
  obtain ⟨hentry, rfl⟩ := List.cons.inj hrest
  exact ⟨rfl, (Prod.mk.inj hentry).2, rfl⟩

theorem find?_eq_none {key : String} {d : Dict α} (h : ∀ e ∈ d, e.1 ≠ key) :
    find? key d = none := by
  cases hfind : find? key d with
  | none => rfl
  | some value => exact absurd rfl (h _ (mem_of_find? hfind))

/-! ### Insertions under different keys -/

theorem insert_comm_of_lt {key other : String} (h : key < other) (v w : α) :
    ∀ d : Dict α, insert key v (insert other w d) = insert other w (insert key v d)
  | [] => by simp [insert, h, String.ne_of_lt h, (String.ne_of_lt h).symm, String.lt_asymm h]
  | (k, u) :: rest => by
    have hne := String.ne_of_lt h
    have hge := String.lt_asymm h
    rcases Std.lt_trichotomy k key with hk | rfl | hk
    · -- both keys belong behind the first entry
      have ho := String.lt_trans hk h
      simp [insert, String.ne_of_lt hk, String.lt_asymm hk, String.ne_of_lt ho, String.lt_asymm ho,
        insert_comm_of_lt h v w rest]
    · simp [insert, hne, hge]
    · have hkey := (String.ne_of_lt hk).symm
      rcases Std.lt_trichotomy k other with ho | rfl | ho
      · simp [insert, hk, hkey, String.ne_of_lt ho, String.lt_asymm ho, hne, hge]
      · simp [insert, hk, hkey, hne, hge]
      · simp [insert, hk, h, ho, hkey, (String.ne_of_lt ho).symm, hne, hne.symm, hge]

/-- Insertions under different keys may trade places. -/
theorem insert_comm {key other : String} (h : key ≠ other) (v w : α) (d : Dict α) :
    insert key v (insert other w d) = insert other w (insert key v d) := by
  rcases Std.lt_trichotomy key other with hlt | heq | hlt
  · exact insert_comm_of_lt hlt v w d
  · exact absurd heq h
  · exact (insert_comm_of_lt hlt w v d).symm

/-! ### Sorted dictionaries -/

instance decidableSorted : ∀ d : Dict α, Decidable (Sorted d)
  | [] => .isTrue trivial
  | (k, _) :: rest =>
    have := decidableSorted rest
    inferInstanceAs (Decidable ((∀ e ∈ rest, k < e.1) ∧ Sorted rest))

theorem Sorted.insert {key : String} (value : α) :
    ∀ {d : Dict α}, Sorted d → Sorted (insert key value d)
  | [], _ => by simp [Dict.insert, Sorted]
  | (k, v) :: rest, hs => by
    unfold Dict.insert
    split
    · rename_i hk
      exact ⟨fun e he => hk ▸ hs.1 e he, hs.2⟩
    · rename_i hk
      split
      · rename_i hlt
        refine ⟨fun e he => ?_, hs⟩
        rcases List.mem_cons.mp he with rfl | he
        · exact hlt
        · exact String.lt_trans hlt (hs.1 e he)
      · rename_i hge
        refine ⟨fun e he => ?_, Sorted.insert value hs.2⟩
        rcases mem_of_mem_insert he with rfl | he
        · exact (Std.lt_trichotomy k key).resolve_right fun h => h.elim hk hge
        · exact hs.1 e he

theorem Sorted.insertAll : ∀ (more : List (String × α)) {d : Dict α},
    Sorted d → Sorted (insertAll d more)
  | [], _, hs => hs
  | _ :: more, _, hs => Sorted.insertAll more (hs.insert _)

theorem sorted_ofList (entries : List (String × α)) : Sorted (ofList entries) :=
  Sorted.insertAll entries trivial

/-- In a sorted dictionary each entry is the one found under its key. -/
theorem find?_of_mem {key : String} {value : α} :
    ∀ {d : Dict α}, Sorted d → (key, value) ∈ d → find? key d = some value
  | (k, v) :: rest, hs, h => by
    rcases List.mem_cons.mp h with h | h
    · obtain ⟨rfl, rfl⟩ := Prod.mk.inj h
      simp [find?]
    · have hne : k ≠ key := fun hk => String.lt_irrefl key (hk ▸ hs.1 _ h)
      simp only [find?, hne, if_false]
      exact find?_of_mem hs.2 h

theorem Sorted.nodup_keys : ∀ {d : Dict α}, Sorted d → d.keys.Nodup
  | [], _ => List.nodup_nil
  | (k, v) :: rest, hs => by
    refine List.nodup_cons.mpr ⟨fun hk => ?_, Sorted.nodup_keys hs.2⟩
    obtain ⟨e, he, rfl⟩ := List.mem_map.mp hk
    exact String.lt_irrefl _ (hs.1 e he)

/-- Two sorted dictionaries with the same entries are the same. -/
theorem Sorted.eq_of_mem_iff :
    ∀ {a b : Dict α}, Sorted a → Sorted b → (∀ e, e ∈ a ↔ e ∈ b) → a = b
  | [], [], _, _, _ => rfl
  | [], e :: _, _, _, h => absurd ((h e).mpr List.mem_cons_self) List.not_mem_nil
  | e :: _, [], _, _, h => absurd ((h e).mp List.mem_cons_self) List.not_mem_nil
  | e :: as, f :: bs, ha, hb, h => by
    -- Each head stands at or below the other.
    have heq : e = f := by
      rcases List.mem_cons.mp ((h e).mp List.mem_cons_self) with heq | hef
      · exact heq
      · rcases List.mem_cons.mp ((h f).mpr List.mem_cons_self) with heq | hfe
        · exact heq.symm
        · exact absurd (String.lt_trans (ha.1 f hfe) (hb.1 e hef)) (String.lt_irrefl e.1)
    subst heq
    have hrest : ∀ g, g ∈ as ↔ g ∈ bs := by
      intro g
      have hg := h g
      rw [List.mem_cons, List.mem_cons] at hg
      constructor
      · intro hmem
        refine (hg.mp (.inr hmem)).resolve_left fun heq => ?_
        exact absurd (heq ▸ ha.1 g hmem) (String.lt_irrefl g.1)
      · intro hmem
        refine (hg.mpr (.inr hmem)).resolve_left fun heq => ?_
        exact absurd (heq ▸ hb.1 g hmem) (String.lt_irrefl g.1)
    rw [ha.2.eq_of_mem_iff hb.2 hrest]

theorem value_unique {entries : List (String × α)} (h : (keys entries).Nodup) :
    ∀ a ∈ entries, ∀ b ∈ entries, b.1 = a.1 → b.2 = a.2 :=
  fun _ ha _ hb heq => congrArg Prod.snd (List.inj_on_of_nodup_map h hb ha heq)

theorem mem_ofList {entries : List (String × α)} (h : (keys entries).Nodup) {e : String × α} :
    e ∈ ofList entries ↔ e ∈ entries := by
  rw [ofList, mem_insertAll (value_unique h) fun _ _ _ hb => absurd hb List.not_mem_nil]
  simp

theorem find?_ofList {entries : List (String × α)} (h : (keys entries).Nodup) (key : String) :
    find? key (ofList entries) = find? key entries := by
  cases hfind : find? key entries with
  | some value => exact find?_of_mem (sorted_ofList entries) ((mem_ofList h).mpr (mem_of_find? hfind))
  | none =>
    refine find?_eq_none fun e he heq => ?_
    have hsome := isSome_find?_of_mem ((mem_ofList h).mp he)
    rw [heq, hfind] at hsome
    exact Bool.false_ne_true hsome

/-- A sorted dictionary is the dictionary of its entries. -/
theorem ofList_of_sorted {d : Dict α} (h : Sorted d) : ofList d = d :=
  (sorted_ofList d).eq_of_mem_iff h fun _ => mem_ofList h.nodup_keys

theorem Sorted.mapValues (f : α → β) : ∀ {d : Dict α}, Sorted d → Sorted (d.mapValues f)
  | [], _ => trivial
  | (k, _) :: rest, hs => by
    refine ⟨fun e he => ?_, Sorted.mapValues f hs.2⟩
    obtain ⟨e', he', rfl⟩ := List.mem_map.mp he
    exact hs.1 e' he'

theorem Sorted.sublist : ∀ {a b : Dict α}, a.Sublist b → Sorted b → Sorted a
  | _, _, .slnil, _ => trivial
  | _, _ :: _, .cons _ h, hb => Sorted.sublist h hb.2
  | _ :: _, _ :: _, .cons_cons _ h, hb =>
    ⟨fun e he => hb.1 e (h.subset he), Sorted.sublist h hb.2⟩

theorem Sorted.of_keys_sublist : ∀ {a : Dict α} {b : Dict β}, a.keys.Sublist b.keys →
    Sorted b → Sorted a
  | [], _, _, _ => trivial
  | _ :: _, [], h, _ => nomatch h
  | (k, v) :: rest, (l, _) :: others, h, hb => by
    rw [keys, List.map_cons, keys, List.map_cons] at h
    cases h with
    | cons _ h => exact Sorted.of_keys_sublist (a := (k, v) :: rest) h hb.2
    | cons_cons _ h =>
      refine ⟨fun e he => ?_, Sorted.of_keys_sublist h hb.2⟩
      obtain ⟨e', he', heq⟩ := List.mem_map.mp (h.subset (List.mem_map_of_mem he))
      have hlt : k < e'.1 := hb.1 e' he'
      rwa [heq] at hlt

/-! ### Places of keys -/

/-- In a sorted dictionary a key has the smaller ones in front of it and the greater ones
behind it. -/
theorem Sorted.lt_of_split {key : String} {value : α} {back : Dict α} :
    ∀ {front : Dict α}, Sorted (front ++ (key, value) :: back) →
      (∀ e ∈ front, e.1 < key) ∧ ∀ e ∈ back, key < e.1
  | [], hs => ⟨fun _ he => absurd he List.not_mem_nil, hs.1⟩
  | (k, v) :: front, hs => by
    obtain ⟨hfront, hback⟩ := Sorted.lt_of_split hs.2
    have hk : k < key := hs.1 (key, value) (List.mem_append_right _ List.mem_cons_self)
    exact ⟨List.forall_mem_cons.mpr ⟨hk, hfront⟩, hback⟩

theorem Sorted.notMem_of_split {key : String} {value : α} {front back : Dict α}
    (hs : Sorted (front ++ (key, value) :: back)) : key ∉ keys front ∧ key ∉ keys back := by
  obtain ⟨hfront, hback⟩ := hs.lt_of_split
  constructor
  · intro h
    obtain ⟨e, he, rfl⟩ := List.mem_map.mp h
    exact String.lt_irrefl _ (hfront e he)
  · intro h
    obtain ⟨e, he, rfl⟩ := List.mem_map.mp h
    exact String.lt_irrefl _ (hback e he)

/-- A new key is inserted behind the smaller ones and in front of the greater ones. -/
theorem Sorted.exists_insert_split {key : String} (value : α) :
    ∀ {d : Dict α}, Sorted d → key ∉ keys d →
      ∃ front back, d = front ++ back ∧
        Dict.insert key value d = front ++ (key, value) :: back ∧
        (∀ e ∈ front, e.1 < key) ∧ ∀ e ∈ back, key < e.1
  | [], _, _ => ⟨[], [], rfl, rfl, by simp, by simp⟩
  | (k, v) :: rest, hs, hkey => by
    have hne : k ≠ key := fun h => hkey (by simp [keys, h])
    by_cases hlt : key < k
    · refine ⟨[], (k, v) :: rest, rfl, by simp [Dict.insert, hne, hlt], by simp, ?_⟩
      exact List.forall_mem_cons.mpr ⟨hlt, fun e he => String.lt_trans hlt (hs.1 e he)⟩
    · have hk : k < key := (Std.lt_trichotomy k key).resolve_right fun h => h.elim hne hlt
      have hrest : key ∉ keys rest := fun h => hkey (List.mem_cons_of_mem _ h)
      obtain ⟨front, back, rfl, hinsert, hfront, hback⟩ :=
        Sorted.exists_insert_split value hs.2 hrest
      refine ⟨(k, v) :: front, back, rfl, ?_, List.forall_mem_cons.mpr ⟨hk, hfront⟩, hback⟩
      simp [Dict.insert, hne, hlt, hinsert]

theorem erase_of_split {key : String} {value : α} {back : Dict α} :
    ∀ {front : Dict α}, key ∉ keys front →
      erase key (front ++ (key, value) :: back) = front ++ back
  | [], _ => by simp [erase]
  | (k, v) :: front, h => by
    have hne : k ≠ key := fun hk => h (by simp [keys, hk])
    have hfront : key ∉ keys front := fun hk => h (List.mem_cons_of_mem _ hk)
    simp [erase, hne, erase_of_split hfront]

/-- The dictionary with an entry under another key. -/
def rename (key other : String) (d : Dict α) : Dict α :=
  match find? key d with
  | some value => insert other value (erase key d)
  | none => d

/-- Whether a key stands between two others. -/
def Between (key other k : String) : Prop := key < k ∧ k < other ∨ other < k ∧ k < key

instance (key other k : String) : Decidable (Between key other k) :=
  inferInstanceAs (Decidable (_ ∨ _))

/-- **An entry that is renamed moves past the entries between the two keys.** -/
theorem Sorted.rename_cases {d : Dict α} (hs : Sorted d) {key other : String} {value : α}
    (hfind : find? key d = some value) (hfresh : other ∉ keys d) :
    ∃ front middle back, (∀ e ∈ middle, Between key other e.1) ∧
      (d = front ++ (key, value) :: (middle ++ back) ∧
          rename key other d = front ++ middle ++ (other, value) :: back ∨
        d = front ++ middle ++ (key, value) :: back ∧
          rename key other d = front ++ (other, value) :: (middle ++ back)) := by
  obtain ⟨before, after, rfl⟩ := List.append_of_mem (mem_of_find? hfind)
  obtain ⟨hbefore, hafter⟩ := hs.lt_of_split
  have hrest : Sorted (before ++ after) :=
    Sorted.sublist (List.Sublist.append_left (List.sublist_cons_self _ _) _) hs
  have hother : other ∉ keys (before ++ after) := by
    simp only [keys, List.map_append, List.map_cons, List.mem_append, List.mem_cons] at hfresh ⊢
    tauto
  obtain ⟨front, back, hsplit, hinsert, hfront, hback⟩ := hrest.exists_insert_split value hother
  have hrename : rename key other (before ++ (key, value) :: after) =
      front ++ (other, value) :: back := by
    rw [rename, hfind]
    dsimp only
    rw [erase_of_split hs.notMem_of_split.1, hinsert]
  -- The place of the new key is behind the old one or in front of it.
  rcases List.append_eq_append_iff.mp hsplit with ⟨middle, rfl, rfl⟩ | ⟨middle, rfl, rfl⟩
  · refine ⟨before, middle, back, fun e he => .inl ⟨?_, ?_⟩, .inl ⟨rfl, hrename⟩⟩
    · exact hafter e (List.mem_append_left _ he)
    · exact hfront e (List.mem_append_right _ he)
  · refine ⟨front, middle, after, fun e he => .inr ⟨?_, ?_⟩, .inr ⟨rfl, hrename⟩⟩
    · exact hback e (List.mem_append_left _ he)
    · exact hbefore e (List.mem_append_right _ he)

end Dict
end PageFlow
