/-
# Parts that are joined and texts that are trimmed

Parts in which the separator does not occur are what a split of their joined
text gives back, so the joined text determines them. A text that is cut once is
cut at its first separator.

To trim a text is to find what stands between the blanks at its ends. That neither
starts nor ends with a blank, and there is just one such text between blanks.

Key definitions: `Text.AreBlanks`, `Text.StartsBare`, `Text.EndsBare`.
Key theorems: `Text.splitAt_joinWith`, `Text.split_of_toList`, `Text.head?_splitAt`,
`Text.joinWith_inj`, `Text.splitOnce_eq_some_iff`, `Text.trim_eq_iff`,
`Text.isBlank_of_isAlphanum`.
-/
import Mathlib.Data.List.TakeWhile
import PageFlow.Text.Split

namespace PageFlow
namespace Text

/-! ### Parts -/

section Parts

variable {sep : Char}

theorem splitAt_of_notMem : ∀ {part : List Char}, sep ∉ part → splitAt sep part = [part]
  | [], _ => rfl
  | c :: rest, h => by
    rw [List.mem_cons, not_or] at h
    rw [splitAt, if_neg (Ne.symm h.1), splitAt_of_notMem h.2]

theorem splitAt_append : ∀ {part : List Char}, sep ∉ part → ∀ rest : List Char,
    splitAt sep (part ++ sep :: rest) = part :: splitAt sep rest
  | [], _, rest => by rw [List.nil_append, splitAt, if_pos rfl]
  | c :: part, h, rest => by
    rw [List.mem_cons, not_or] at h
    rw [List.cons_append, splitAt, if_neg (Ne.symm h.1), splitAt_append h.2 rest]

theorem notMem_of_mem_splitAt : ∀ {s part : List Char}, part ∈ splitAt sep s → sep ∉ part
  | [], part, h => by
    obtain rfl := List.mem_singleton.mp h
    exact List.not_mem_nil
  | c :: rest, part, h => by
    rw [splitAt] at h
    split at h
    · rcases List.mem_cons.mp h with rfl | h
      · exact List.not_mem_nil
      · exact notMem_of_mem_splitAt h
    · next hc =>
      have hrest : ∀ part ∈ splitAt sep rest, sep ∉ part := fun _ => notMem_of_mem_splitAt
      cases hsplit : splitAt sep rest with
      | nil => exact absurd hsplit (splitAt_ne_nil sep rest)
      | cons first parts =>
        rw [hsplit] at h hrest
        rcases List.mem_cons.mp h with rfl | h
        · exact List.not_mem_cons_of_ne_of_not_mem (Ne.symm hc) (hrest first List.mem_cons_self)
        · exact hrest part (List.mem_cons_of_mem _ h)

/-- The first part is what stands in front of the first separator. -/
theorem head?_splitAt : ∀ s : List Char, (splitAt sep s).head? = some (s.takeWhile (· ≠ sep))
  | [] => rfl
  | c :: rest => by
    rw [splitAt]
    split
    · next hc => simp [hc]
    · next hc =>
      have ih := head?_splitAt rest
      cases hsplit : splitAt sep rest with
      | nil => exact absurd hsplit (splitAt_ne_nil sep rest)
      | cons first parts =>
        rw [hsplit] at ih
        simpa [hc] using ih

theorem split_ne_nil (sep : Char) (text : String) : split sep text ≠ [] := by
  intro h
  exact splitAt_ne_nil sep text.toList (List.map_eq_nil_iff.mp h)

/-- A text behind a separator is split on its own. -/
theorem split_of_toList {text part rest : String} (hpart : sep ∉ part.toList)
    (h : text.toList = part.toList ++ sep :: rest.toList) :
    split sep text = part :: split sep rest := by
  rw [split, split, h, splitAt_append hpart, List.map_cons, String.ofList_toList]

theorem joinWith_cons (part next : List Char) (parts : List (List Char)) :
    joinWith sep (part :: next :: parts) = part ++ sep :: joinWith sep (next :: parts) := rfl

/-- A split gives back what was joined. -/
theorem splitAt_joinWith : ∀ {parts : List (List Char)}, parts ≠ [] →
    (∀ part ∈ parts, sep ∉ part) → splitAt sep (joinWith sep parts) = parts
  | [part], _, h => splitAt_of_notMem (h part List.mem_cons_self)
  | part :: next :: parts, _, h => by
    have ih := splitAt_joinWith (List.cons_ne_nil next parts)
      fun p hp => h p (List.mem_cons_of_mem _ hp)
    rw [joinWith_cons, splitAt_append (h part List.mem_cons_self), ih]

/-- Parts are determined by their joined text. -/
theorem joinWith_inj {parts parts' : List (List Char)} (hne : parts ≠ []) (hne' : parts' ≠ [])
    (h : ∀ part ∈ parts, sep ∉ part) (h' : ∀ part ∈ parts', sep ∉ part)
    (heq : joinWith sep parts = joinWith sep parts') : parts = parts' := by
  rw [← splitAt_joinWith hne h, heq, splitAt_joinWith hne' h']

theorem mem_joinWith {c : Char} : ∀ {parts : List (List Char)}, c ∈ joinWith sep parts →
    c = sep ∨ ∃ part ∈ parts, c ∈ part
  | [], h => absurd h List.not_mem_nil
  | [part], h => .inr ⟨part, List.mem_cons_self, h⟩
  | part :: next :: parts, h => by
    rw [joinWith_cons, List.mem_append, List.mem_cons] at h
    rcases h with h | h | h
    · exact .inr ⟨part, List.mem_cons_self, h⟩
    · exact .inl h
    · obtain h | ⟨p, hp, hc⟩ := mem_joinWith h
      · exact .inl h
      · exact .inr ⟨p, List.mem_cons_of_mem _ hp, hc⟩

/-- A text is cut where a separator has none in front of it. -/
theorem splitOnce_eq_some_iff {s front back : List Char} :
    splitOnce sep s = some (front, back) ↔ s = front ++ sep :: back ∧ sep ∉ front := by
  induction s generalizing front back with
  | nil => simp [splitOnce]
  | cons c rest ih =>
    rw [splitOnce]
    by_cases hc : c = sep
    · -- The first character separates, so nothing stands in front of it.
      rw [if_pos hc, Option.some.injEq, Prod.mk.injEq]
      cases front with
      | nil => simp [hc]
      | cons first front =>
        refine iff_of_false (by simp) ?_
        rintro ⟨hs, hnot⟩
        have hfirst : c = first := (List.cons.inj hs).1
        exact hnot (hfirst ▸ hc ▸ List.mem_cons_self)
    · rw [if_neg hc]
      cases front with
      | nil => simp [hc]
      | cons first front =>
        simp only [Option.map_eq_some_iff, Prod.exists, ih, Prod.mk.injEq, List.cons.injEq,
          List.cons_append, List.mem_cons, not_or]
        constructor
        · rintro ⟨_, _, ⟨hrest, hnot⟩, ⟨rfl, rfl⟩, rfl⟩
          exact ⟨⟨rfl, hrest⟩, Ne.symm hc, hnot⟩
        · rintro ⟨⟨rfl, hrest⟩, -, hnot⟩
          exact ⟨front, back, ⟨hrest, hnot⟩, ⟨rfl, rfl⟩, rfl⟩

end Parts

/-! ### Blanks -/

/-- All characters are blank; there need not be any. -/
def AreBlanks (cs : List Char) : Prop := ∀ c ∈ cs, isBlank c = true

/-- The first character, if there is one, is not blank. -/
def StartsBare (cs : List Char) : Prop := ∀ c ∈ cs.head?, isBlank c = false

/-- The last character, if there is one, is not blank. -/
def EndsBare (cs : List Char) : Prop := ∀ c ∈ cs.getLast?, isBlank c = false

theorem areBlanks_nil : AreBlanks [] := by simp [AreBlanks]

theorem startsBare_nil : StartsBare [] := by simp [StartsBare]

theorem AreBlanks.append {front back : List Char} (hfront : AreBlanks front)
    (hback : AreBlanks back) : AreBlanks (front ++ back) := by
  simpa [AreBlanks, or_imp, forall_and] using And.intro hfront hback

theorem StartsBare.append {front : List Char} (h : StartsBare front) (hne : front ≠ [])
    (back : List Char) : StartsBare (front ++ back) := by
  cases front with
  | nil => exact absurd rfl hne
  | cons c rest => exact h

theorem endsBare_concat {c : Char} (h : isBlank c = false) (front : List Char) :
    EndsBare (front ++ [c]) := by
  simpa [EndsBare] using h

variable {cs core : List Char}

theorem areBlanks_reverse : AreBlanks cs.reverse ↔ AreBlanks cs := by
  simp [AreBlanks]

theorem startsBare_reverse : StartsBare cs.reverse ↔ EndsBare cs := by
  simp [StartsBare, EndsBare]

theorem startsBare_trimLeft (cs : List Char) : StartsBare (trimLeft cs) := by
  intro c hc
  have hhead := List.head?_dropWhile_not isBlank cs
  rw [trimLeft, Option.mem_def] at hc
  rw [hc] at hhead
  simpa using hhead

theorem trimLeft_eq_iff :
    trimLeft cs = core ↔ StartsBare core ∧ ∃ lead, AreBlanks lead ∧ cs = lead ++ core := by
  constructor
  · rintro rfl
    refine ⟨startsBare_trimLeft cs, cs.takeWhile isBlank, ?_, ?_⟩
    · exact fun c hc => List.mem_takeWhile_imp hc
    · exact List.takeWhile_append_dropWhile.symm
  · rintro ⟨hbare, lead, hlead, rfl⟩
    rw [trimLeft, List.dropWhile_append_of_pos hlead]
    cases core with
    | nil => rfl
    | cons c rest => exact List.dropWhile_cons_of_neg (by simp [hbare c rfl])

theorem trimRight_eq_iff :
    trimRight cs = core ↔ EndsBare core ∧ ∃ tail, AreBlanks tail ∧ cs = core ++ tail := by
  have hreverse : trimRight cs = core ↔ trimLeft cs.reverse = core.reverse := by
    rw [trimRight, trimLeft, List.reverse_eq_iff]
  rw [hreverse, trimLeft_eq_iff, startsBare_reverse]
  refine and_congr_right fun _ => ⟨?_, ?_⟩
  · rintro ⟨lead, hlead, hcs⟩
    refine ⟨lead.reverse, areBlanks_reverse.mpr hlead, ?_⟩
    rw [List.reverse_eq_iff, List.reverse_append, List.reverse_reverse] at hcs
    exact hcs
  · rintro ⟨tail, htail, rfl⟩
    exact ⟨tail.reverse, areBlanks_reverse.mpr htail, List.reverse_append⟩

/-- **A text is trimmed to what stands between the blanks at its ends.** -/
theorem trim_eq_iff : trim cs = core ↔ (StartsBare core ∧ EndsBare core) ∧
    ∃ lead tail, AreBlanks lead ∧ AreBlanks tail ∧ cs = lead ++ core ++ tail := by
  rw [trim, trimRight_eq_iff]
  constructor
  · rintro ⟨hends, tail, htail, hmiddle⟩
    obtain ⟨hstarts, lead, hlead, hcs⟩ := trimLeft_eq_iff.mp hmiddle
    refine ⟨⟨?_, hends⟩, lead, tail, hlead, htail, by rw [hcs, List.append_assoc]⟩
    cases core with
    | nil => exact startsBare_nil
    | cons c rest => exact hstarts
  · rintro ⟨⟨hstarts, hends⟩, lead, tail, hlead, htail, rfl⟩
    refine ⟨hends, ?_⟩
    cases core with
    | nil =>
      -- The text is blank, and all of it is taken from the front.
      refine ⟨[], areBlanks_nil, trimLeft_eq_iff.mpr ⟨startsBare_nil, lead ++ tail, ?_, ?_⟩⟩
      · exact hlead.append htail
      · simp
    | cons c rest =>
      refine ⟨tail, htail, trimLeft_eq_iff.mpr ⟨hstarts, lead, hlead, ?_⟩⟩
      exact List.append_assoc lead _ tail

/-! ### Letters and digits -/

/-- Letters and digits are ASCII characters behind the blanks. -/
theorem toNat_of_isAlphanum {c : Char} (h : c.isAlphanum = true) :
    48 ≤ c.toNat ∧ c.toNat ≤ 122 := by
  have hkind : (c.isUpper || c.isLower || c.isDigit) = true := h
  rw [Bool.or_eq_true, Bool.or_eq_true] at hkind
  rcases hkind with (hupper | hlower) | hdigit
  · obtain ⟨hge, hle⟩ : 65 ≤ c.toNat ∧ c.toNat ≤ 90 := of_decide_eq_true hupper
    omega
  · obtain ⟨hge, hle⟩ := Bool.and_eq_true_iff.mp hlower
    have : 97 ≤ c.toNat := of_decide_eq_true hge
    have : c.toNat ≤ 122 := of_decide_eq_true hle
    omega
  · obtain ⟨hge, hle⟩ := Bool.and_eq_true_iff.mp hdigit
    have : 48 ≤ c.toNat := of_decide_eq_true hge
    have : c.toNat ≤ 57 := of_decide_eq_true hle
    omega

theorem isBlank_of_isAlphanum {c : Char} (h : c.isAlphanum = true) : isBlank c = false := by
  have hcode := toNat_of_isAlphanum h
  have hblank : ¬ isBlank c = true := by
    simp [isBlank, blankRanges]
    omega
  simpa using hblank

end Text
end PageFlow
