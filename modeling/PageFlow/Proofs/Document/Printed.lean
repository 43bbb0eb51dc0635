/-
# Reading a printed value

The indented text of a value is followed by the reader to its end. The tree that it
gives has the value as it is read of its text, unless arrays and objects stand in each
other deeper than the reader allows: such a document is refused at the first bracket
that stands too deep. Blanks behind the text do no harm.

Key definitions: `Document.Node.Holds`, `Document.Cursor.Reaches`.
Key theorems: `Document.Cursor.skipString_of_readString`, `Document.Cursor.readNode_pretty`,
`Document.parseJson_pretty`.
-/
import PageFlow.Document.Decoder
import PageFlow.Proofs.Json.Printer
import PageFlow.Proofs.Json.Reread
import PageFlow.Proofs.Outcome

namespace PageFlow

/-! ### Indented text -/

namespace Json

/-- What follows an item of an array that is written on several lines. -/
def prettyItemsTail (level : Nat) : List Json → List Char
  | [] => newline level ++ [']']
  | x :: rest => ',' :: prettyItems level (x :: rest)

/-- What follows a field of an object that is written on several lines. -/
def prettyFieldsTail (level : Nat) : List (String × Json) → List Char
  | [] => newline level ++ ['}']
  | f :: rest => ',' :: prettyFields level (f :: rest)

theorem prettyItems_cons (level : Nat) (x : Json) (rest : List Json) :
    prettyItems level (x :: rest) =
      newline (level + 1) ++ (x.prettyChars (level + 1) ++ prettyItemsTail level rest) := by
  cases rest with
  | nil => rw [prettyItems, prettyItemsTail, List.append_assoc, List.append_assoc]
  | cons y rest =>
    rw [prettyItems.eq_3 level x (y :: rest) (List.cons_ne_nil y rest), prettyItemsTail, List.append_assoc]

theorem prettyFields_cons (level : Nat) (k : String) (x : Json) (rest : List (String × Json)) :
    prettyFields level ((k, x) :: rest) =
      newline (level + 1) ++ (quote k ++
        ':' :: ' ' :: (x.prettyChars (level + 1) ++ prettyFieldsTail level rest)) := by
  cases rest with
  | nil => rw [prettyFields, prettyFieldsTail, List.append_assoc, List.append_assoc]
  | cons f rest =>
    rw [prettyFields.eq_3 level k x (f :: rest) nofun, prettyFieldsTail, List.append_assoc]

theorem length_newline (level : Nat) : (newline level).length = 2 * level + 1 := by
  rw [newline, List.length_cons, List.length_replicate]

/-- Twice the length of some items has room for the first one and for what follows. -/
theorem room_prettyItems (level room : Nat) (x : Json) (rest : List Json)
    (h : 2 * (prettyItems level (x :: rest)).length ≤ room) :
    2 * (x.prettyChars (level + 1)).length ≤ room ∧
      2 * (prettyItemsTail level rest).length + 1 ≤ room := by
  rw [prettyItems_cons, List.length_append, List.length_append, length_newline] at h
  omega

theorem room_prettyFields (level room : Nat) (k : String) (x : Json)
    (rest : List (String × Json)) (h : 2 * (prettyFields level ((k, x) :: rest)).length ≤ room) :
    2 * (x.prettyChars (level + 1)).length ≤ room ∧
      2 * (prettyFieldsTail level rest).length + 1 ≤ room := by
  rw [prettyFields_cons, List.length_append, List.length_append, List.length_cons,
    List.length_cons, List.length_append, length_newline] at h
  omega

theorem exists_prettyChars (level : Nat) (x : Json) :
    ∃ c cs, x.prettyChars level = c :: cs ∧ Kind.ofFirst c = some x.kind := by
  cases x with
  | array items => cases items <;> exact ⟨_, _, rfl, rfl⟩
  | object fields => cases fields <;> exact ⟨_, _, rfl, rfl⟩
  | null => exact exists_compactChars .null
  | string s => exact exists_compactChars (.string s)
  | number n => exact exists_compactChars (.number n)
  | bool b => cases b <;> exact ⟨_, _, rfl, rfl⟩

theorem Kind.first_of_ofFirst {c : Char} {k : Kind} (h : Kind.ofFirst c = some k) :
    Document.Cursor.isBlank c = false ∧ c ≠ ']' ∧ c ≠ ',' := by
  have hne : ∀ d, Kind.ofFirst d = none → c ≠ d := fun d hd heq => by
    rw [heq, hd] at h
    exact nomatch h
  refine ⟨?_, hne _ rfl, hne _ rfl⟩
  simp only [Document.Cursor.isBlank, Bool.or_eq_false_iff, beq_eq_false_iff_ne]
  exact ⟨⟨⟨hne _ rfl, hne _ rfl⟩, hne _ rfl⟩, hne _ rfl⟩

end Json

namespace Document

/-! ### What a tree holds -/

/-- The tree has the value as it is read of its text; standing in `depth` arrays and
objects it must not have too many more. -/
structure Node.Holds (node : Node) (depth : Nat) (x : Json) : Prop where
  shallow : depth + x.nesting ≤ Cursor.depthLimit → node.content = .ok x.reread
  deep : depth ≤ Cursor.depthLimit → Cursor.depthLimit < depth + x.nesting →
    ∃ place, node.content = .error (.atPlace .tooDeep place)

/-- The same for the items of an array. -/
structure Items.Holds (items : Items) (depth : Nat) (xs : List Json) : Prop where
  shallow : depth + Json.nestingItems xs ≤ Cursor.depthLimit →
    items.content = .ok (Json.rereadItems xs)
  deep : depth ≤ Cursor.depthLimit → Cursor.depthLimit < depth + Json.nestingItems xs →
    ∃ place, items.content = .error (.atPlace .tooDeep place)

/-- The same for the fields of an object. -/
structure Entries.Holds (entries : Entries) (depth : Nat) (fs : List (String × Json)) : Prop where
  shallow : depth + Json.nestingFields fs ≤ Cursor.depthLimit →
    entries.content = .ok (Json.rereadFields fs)
  deep : depth ≤ Cursor.depthLimit → Cursor.depthLimit < depth + Json.nestingFields fs →
    ∃ place, entries.content = .error (.atPlace .tooDeep place)

section
variable {depth : Nat} {node : Node} {x : Json}

theorem Node.holds_scalar {start stop : Place} {value : Scalar} (hnesting : x.nesting = 0)
    (hvalue : value.json = x.reread) : (Node.scalar start stop value).Holds depth x where
  shallow _ := congrArg Except.ok hvalue
  deep hdepth hlimit := by
    rw [hnesting] at hlimit
    omega

theorem Items.holds_closed {stop : Place} : (Items.closed stop).Holds depth [] where
  shallow _ := rfl
  deep hdepth hlimit := by
    rw [Json.nestingItems] at hlimit
    omega

theorem Entries.holds_closed {stop : Place} : (Entries.closed stop).Holds depth [] where
  shallow _ := rfl
  deep hdepth hlimit := by
    rw [Json.nestingFields] at hlimit
    omega

/-- The first part that is nested too deep ends the reading. -/
theorem Items.Holds.cons {items : Items} {xs : List Json} {after : Place}
    (hnode : node.Holds depth x) (hitems : items.Holds depth xs) :
    (Items.item node after items).Holds depth (x :: xs) where
  shallow hlimit := by
    rw [Json.nestingItems] at hlimit
    rw [Items.content, hnode.shallow (by omega), hitems.shallow (by omega), Json.rereadItems]
    rfl
  deep hdepth hlimit := by
    rw [Json.nestingItems] at hlimit
    rw [Items.content]
    by_cases hx : depth + x.nesting ≤ Cursor.depthLimit
    · obtain ⟨place, hplace⟩ := hitems.deep hdepth (by omega)
      rw [hnode.shallow hx, hplace]
      exact ⟨place, rfl⟩
    · obtain ⟨place, hplace⟩ := hnode.deep hdepth (by omega)
      rw [hplace]
      exact ⟨place, rfl⟩

theorem Entries.Holds.cons {entries : Entries} {fs : List (String × Json)} {key : String}
    {afterKey after : Place} (hnode : node.Holds depth x) (hentries : entries.Holds depth fs) :
    (Entries.entry (.ok key) afterKey node after entries).Holds depth ((key, x) :: fs) where
  shallow hlimit := by
    rw [Json.nestingFields] at hlimit
    rw [Entries.content, hnode.shallow (by omega), hentries.shallow (by omega), Json.rereadFields]
    rfl
  deep hdepth hlimit := by
    rw [Json.nestingFields] at hlimit
    rw [Entries.content]
    by_cases hx : depth + x.nesting ≤ Cursor.depthLimit
    · obtain ⟨place, hplace⟩ := hentries.deep hdepth (by omega)
      rw [hnode.shallow hx, hplace]
      exact ⟨place, rfl⟩
    · obtain ⟨place, hplace⟩ := hnode.deep hdepth (by omega)
      rw [hplace]
      exact ⟨place, rfl⟩

/-- An array is refused if it stands too deep itself, or else one of its items. -/
theorem Items.Holds.list {items : Items} {xs : List Json} (start : Nat)
    (h : items.Holds (depth + 1) xs) :
    (Node.list (some start) (decide (Cursor.depthLimit ≤ depth)) items).Holds depth
      (.array xs) where
  shallow hlimit := by
    rw [Json.nesting] at hlimit
    rw [decide_eq_false (by omega), Node.content, h.shallow (by omega), Json.reread]
    rfl
  deep hdepth hlimit := by
    rw [Json.nesting] at hlimit
    by_cases hdeep : Cursor.depthLimit ≤ depth
    · rw [decide_eq_true hdeep]
      exact ⟨start + 1, rfl⟩
    · obtain ⟨place, hplace⟩ := h.deep (by omega) (by omega)
      rw [decide_eq_false hdeep, Node.content, hplace]
      exact ⟨place, rfl⟩

theorem Entries.Holds.object {entries : Entries} {fs : List (String × Json)} (start : Nat)
    (h : entries.Holds (depth + 1) fs) :
    (Node.object (some start) (decide (Cursor.depthLimit ≤ depth)) entries).Holds depth
      (.object fs) where
  shallow hlimit := by
    rw [Json.nesting] at hlimit
    rw [decide_eq_false (by omega), Node.content, h.shallow (by omega), Json.reread]
    rfl
  deep hdepth hlimit := by
    rw [Json.nesting] at hlimit
    by_cases hdeep : Cursor.depthLimit ≤ depth
    · rw [decide_eq_true hdeep]
      exact ⟨start + 1, rfl⟩
    · obtain ⟨place, hplace⟩ := h.deep (by omega) (by omega)
      rw [decide_eq_false hdeep, Node.content, hplace]
      exact ⟨place, rfl⟩

end

namespace Cursor

/-! ### Strings that are skipped -/

theorem eq_ok_of_withChar {c : Char} {read : Decoded (List Char × Cursor)} {s : List Char}
    {cur : Cursor} (h : withChar c read = .ok (s, cur)) : ∃ t, read = .ok (t, cur) := by
  obtain ⟨⟨t, next⟩, hread, heq⟩ := eq_ok_of_map h
  obtain rfl : next = cur := congrArg Prod.snd heq
  exact ⟨t, hread⟩

/-- A string that can be read is skipped up to the same place. -/
theorem skipString_of_readString {cs : List Char} {place : Nat} {s : List Char} {cur : Cursor}
    (h : readString cs place = .ok (s, cur)) : skipString cs place = .ok cur := by
  fun_induction readString cs place generalizing s with
  | case5 a b c d rest place n hn _ _ ih =>
    obtain ⟨t, ht⟩ := eq_ok_of_withChar h
    rw [skipString, hn]
    exact ih ht
  | case10 a b c d place n hn _ _ a' b' c' d' rest m hm _ ih =>
    -- the two halves of a pair are skipped one after the other
    obtain ⟨t, ht⟩ := eq_ok_of_withChar h
    rw [skipString, hn]
    dsimp only
    rw [skipString, hm]
    exact ih ht
  | case15 c rest place hlong hshort e he ih =>
    obtain ⟨t, ht⟩ := eq_ok_of_withChar h
    rw [skipString, he]
    · exact ih ht
    · exact hlong
    · exact hshort
  | case17 rest place =>
    obtain ⟨-, rfl⟩ := Prod.mk.inj (Except.ok.inj h)
    rfl
  | case19 c rest place _ _ _ _ _ hc ih =>
    obtain ⟨t, ht⟩ := eq_ok_of_withChar h
    rw [skipString, if_neg hc]
    · exact ih ht
    all_goals assumption
  | _ => exact nomatch h

/-! ### Blanks -/

theorem skipBlanks_append {blanks : List Char} (rest : List Char)
    (hblanks : ∀ c ∈ blanks, isBlank c = true) (hrest : ∀ c ∈ rest.head?, isBlank c = false) (place : Nat) :
    skipBlanks ⟨blanks ++ rest, place⟩ = ⟨rest, place + blanks.length⟩ := by
  have hnone : rest.takeWhile isBlank = [] ∧ rest.dropWhile isBlank = rest := by
    cases rest with
    | nil => exact ⟨rfl, rfl⟩
    | cons c rest =>
      have hc := hrest c rfl
      exact ⟨List.takeWhile_cons_of_neg (by simp [hc]), List.dropWhile_cons_of_neg (by simp [hc])⟩
  unfold skipBlanks
  dsimp only
  rw [List.dropWhile_append_of_pos hblanks, List.takeWhile_append_of_pos hblanks, hnone.1,
    hnone.2, List.append_nil]

theorem skipBlanks_of_not_blank {c : Char} (hc : isBlank c = false) (rest : List Char)
    (place : Nat) : skipBlanks ⟨c :: rest, place⟩ = ⟨c :: rest, place⟩ :=
  skipBlanks_append (c :: rest) (List.forall_mem_nil _) (by rintro _ ⟨⟩; exact hc) place

theorem isBlank_of_mem_newline {level : Nat} : ∀ c ∈ Json.newline level, isBlank c = true := by
  intro c hc
  rcases List.mem_cons.mp hc with rfl | hc
  · rfl
  · rw [List.eq_of_mem_replicate hc]
    rfl

/-! ### Values without parts -/

theorem readNode_null (depth fuel place : Nat) (rest : List Char) :
    readNode depth (fuel + 1) ⟨'n' :: 'u' :: 'l' :: 'l' :: rest, place⟩ =
      (.scalar (some place) (some (place + 4)) .null, some ⟨rest, place + 4⟩) := rfl

theorem readNode_true (depth fuel place : Nat) (rest : List Char) :
    readNode depth (fuel + 1) ⟨'t' :: 'r' :: 'u' :: 'e' :: rest, place⟩ =
      (.scalar (some place) (some (place + 4)) (.bool true), some ⟨rest, place + 4⟩) := rfl

theorem readNode_false (depth fuel place : Nat) (rest : List Char) :
    readNode depth (fuel + 1) ⟨'f' :: 'a' :: 'l' :: 's' :: 'e' :: rest, place⟩ =
      (.scalar (some place) (some (place + 5)) (.bool false), some ⟨rest, place + 5⟩) := rfl

theorem readNode_quote (depth fuel place : Nat) (s : String) (rest : List Char) :
    ∃ stop, readNode depth (fuel + 1) ⟨Json.quote s ++ rest, place⟩ =
      (.scalar (some place) (some stop) (.string s), some ⟨rest, stop⟩) := by
  have hread := readString_quoted s.toList rest (place + 1)
  have hquote : Json.quote s ++ rest = '"' :: (s.toList.flatMap Json.escape ++ '"' :: rest) := by
    simp [Json.quote]
  refine ⟨place + 1 + byteCount (s.toList.flatMap Json.escape) + 1, ?_⟩
  rw [hquote]
  show readText place ⟨s.toList.flatMap Json.escape ++ '"' :: rest, place + 1⟩ = _
  rw [readText]
  dsimp only
  rw [hread]
  dsimp only
  rw [String.ofList_toList]

theorem readNode_digit {c : Char} (hc : c.isDigit = true) (depth fuel place : Nat)
    (rest : List Char) :
    readNode depth (fuel + 1) ⟨c :: rest, place⟩ = readNumber place false ⟨c :: rest, place⟩ := by
  have hne : ∀ d : Char, d.isDigit = false → c ≠ d := fun d hd heq => by
    rw [heq, hd] at hc
    exact nomatch hc
  rw [readNode]
  dsimp only
  rw [if_neg (hne _ rfl), if_neg (hne _ rfl), if_neg (hne _ rfl), if_neg (hne _ rfl),
    if_neg (hne _ rfl), if_pos hc]

/-- A numeral is read up to the first character that it does not go on with. -/
theorem readNode_numeral {n : Numeral} (hn : n.WellFormed) {a : Number} (ha : n.value = some a)
    {rest : List Char} (hrest : Stops rest) (depth fuel place : Nat) :
    ∃ stop, readNode depth (fuel + 1) ⟨n.chars ++ rest, place⟩ =
      (.scalar (some place) (some stop) (.number a), some ⟨rest, stop⟩) := by
  have hbody : ∀ start, ∃ stop, readNumber place n.negative ⟨n.body ++ rest, start⟩ =
      (.scalar (some place) (some stop) (.number a), some ⟨rest, stop⟩) := by
    intro start
    refine ⟨start + n.body.length, ?_⟩
    rw [readNumber, readNumeral_body hn hrest]
    dsimp only
    rw [ha]
  obtain ⟨c, cs, hchars, hfirst⟩ := hn.exists_chars
  cases hneg : n.negative with
  | true =>
    obtain ⟨stop, hstop⟩ := hbody (place + 1)
    rw [hneg] at hstop
    refine ⟨stop, ?_⟩
    rw [Numeral.chars, hneg]
    exact hstop
  | false =>
    obtain ⟨stop, hstop⟩ := hbody place
    have hsame : n.chars = n.body := by
      rw [Numeral.chars, hneg]
      rfl
    rw [hneg, ← hsame, hchars, List.cons_append] at hstop
    rw [hneg] at hfirst
    exact ⟨stop, by rw [hchars, List.cons_append, readNode_digit hfirst, hstop]⟩

/-! ### Items and fields -/

/-- The reading ends at these characters, with a tree that has the property. -/
def Reaches {α : Type} (reading : Reading α) (rest : List Char) (p : α → Prop) : Prop :=
  ∃ tree place, reading = (tree, some ⟨rest, place⟩) ∧ p tree

section
variable {depth fuel place : Nat} {c : Char} {cs blanks rest left : List Char} {x : Json}
  {xs : List Json} {fs : List (String × Json)}

theorem readItems_closed (first : Bool) (hblanks : ∀ c ∈ blanks, isBlank c = true) :
    readItems depth (fuel + 1) first ⟨blanks ++ ']' :: rest, place⟩ =
      (.closed (some (place + blanks.length + 1)), some ⟨rest, place + blanks.length + 1⟩) := by
  rw [readItems, skipBlanks_append _ hblanks (by rintro _ ⟨⟩; rfl)]
  rfl

theorem readEntries_closed (first : Bool) (hblanks : ∀ c ∈ blanks, isBlank c = true) :
    readEntries depth (fuel + 1) first ⟨blanks ++ '}' :: rest, place⟩ =
      (.closed (some (place + blanks.length + 1)), some ⟨rest, place + blanks.length + 1⟩) := by
  rw [readEntries, skipBlanks_append _ hblanks (by rintro _ ⟨⟩; rfl)]
  rfl

theorem reaches_first_item (hblanks : ∀ c ∈ blanks, isBlank c = true) (hc : isBlank c = false)
    (hopen : c ≠ ']')
    (hnode : ∀ place, Reaches (readNode depth fuel ⟨c :: cs, place⟩) rest (·.Holds depth x))
    (hitems : ∀ place,
      Reaches (readItems depth fuel false ⟨rest, place⟩) left (·.Holds depth xs)) :
    Reaches (readItems depth (fuel + 1) true ⟨blanks ++ c :: cs, place⟩) left
      (·.Holds depth (x :: xs)) := by
  obtain ⟨node, stop, hnode, hx⟩ := hnode (place + blanks.length)
  obtain ⟨items, stop', hitems, hxs⟩ := hitems stop
  rw [readItems, skipBlanks_append _ hblanks (by rintro _ ⟨⟩; exact hc)]
  split
  · next h => exact nomatch h
  · next h => exact absurd (List.cons.inj h).1 hopen
  · dsimp only
    rw [if_pos rfl, hnode]
    dsimp only
    rw [hitems]
    exact ⟨_, _, rfl, Items.Holds.cons hx hxs⟩

/-- Behind a comma an array goes on as it began. -/
theorem readItems_comma (hblanks : ∀ c ∈ blanks, isBlank c = true) (hc : isBlank c = false)
    (hopen : c ≠ ']') :
    readItems depth (fuel + 1) false ⟨',' :: (blanks ++ c :: cs), place⟩ =
      readItems depth (fuel + 1) true ⟨blanks ++ c :: cs, place + 1⟩ := by
  have hitem := skipBlanks_append (c :: cs) hblanks (by rintro _ ⟨⟩; exact hc) (place + 1)
  rw [readItems, readItems, skipBlanks_of_not_blank rfl, hitem]
  split
  · next h => exact nomatch h
  · next h => exact absurd (List.cons.inj h).1 (by decide)
  · next h =>
    obtain ⟨rfl, rfl⟩ := List.cons.inj h
    dsimp only
    rw [if_neg Bool.false_ne_true, if_pos rfl, hitem]
    split
    · next h => exact nomatch h
    · next h => exact absurd (List.cons.inj h).1 hopen
    · next h =>
      obtain ⟨rfl, rfl⟩ := List.cons.inj h
      rw [if_pos rfl]

theorem reaches_first_entry (k : String) (hblanks : ∀ c ∈ blanks, isBlank c = true)
    (hc : isBlank c = false)
    (hnode : ∀ place, Reaches (readNode depth fuel ⟨c :: cs, place⟩) rest (·.Holds depth x))
    (hentries : ∀ place,
      Reaches (readEntries depth fuel false ⟨rest, place⟩) left (·.Holds depth fs)) :
    Reaches (readEntries depth (fuel + 1) true
      ⟨blanks ++ (Json.quote k ++ ':' :: ' ' :: c :: cs), place⟩) left
      (·.Holds depth ((k, x) :: fs)) := by
  have hquote : Json.quote k ++ ':' :: ' ' :: c :: cs =
      '"' :: (k.toList.flatMap Json.escape ++ '"' :: ':' :: ' ' :: c :: cs) := by
    simp [Json.quote]
  have hread := readString_quoted k.toList (':' :: ' ' :: c :: cs) (place + blanks.length + 1)
  have hskip := skipString_of_readString hread
  generalize place + blanks.length + 1 + byteCount (k.toList.flatMap Json.escape) + 1 = behind
    at hread hskip
  have hspace : ∀ c ∈ [' '], isBlank c = true := by simp [isBlank]
  have hvalue := skipBlanks_append (c :: cs) hspace (by rintro _ ⟨⟩; exact hc) (behind + 1)
  obtain ⟨node, stop, hnode, hx⟩ := hnode (behind + 1 + 1)
  obtain ⟨entries, stop', hentries, hfs⟩ := hentries stop
  rw [hquote, readEntries, skipBlanks_append _ hblanks (by rintro _ ⟨⟩; rfl)]
  split
  · next h => cases h
  · next h => exact absurd (List.cons.inj h).1 (by decide)
  · dsimp only
    rw [if_pos rfl]
    split
    · next h =>
      obtain ⟨-, rfl⟩ := List.cons.inj h
      rw [hskip, hread]
      dsimp only
      rw [skipBlanks_of_not_blank rfl]
      have hread : readNode depth fuel (skipBlanks ⟨' ' :: c :: cs, behind + 1⟩) =
          (node, some ⟨rest, stop⟩) := hvalue ▸ hnode
      split
      · next h => cases hread.symm.trans h
      · next h =>
        obtain ⟨hsame, hnext⟩ := Prod.mk.inj (hread.symm.trans h)
        obtain rfl := hsame
        obtain rfl := Option.some.inj hnext
        rw [hentries]
        refine ⟨_, _, rfl, ?_⟩
        rw [Except.map, String.ofList_toList]
        exact Entries.Holds.cons hx hfs
    · next h => exact absurd rfl (h _)

theorem readEntries_comma (hblanks : ∀ c ∈ blanks, isBlank c = true) (hc : isBlank c = false)
    (hopen : c ≠ '}') :
    readEntries depth (fuel + 1) false ⟨',' :: (blanks ++ c :: cs), place⟩ =
      readEntries depth (fuel + 1) true ⟨blanks ++ c :: cs, place + 1⟩ := by
  have hfield := skipBlanks_append (c :: cs) hblanks (by rintro _ ⟨⟩; exact hc) (place + 1)
  rw [readEntries, readEntries, skipBlanks_of_not_blank rfl, hfield]
  split
  · next h => exact nomatch h
  · next h => exact absurd (List.cons.inj h).1 (by decide)
  · next h =>
    obtain ⟨rfl, rfl⟩ := List.cons.inj h
    dsimp only
    rw [if_neg Bool.false_ne_true, if_pos rfl, hfield]
    split
    · next h => exact nomatch h
    · next h => exact absurd (List.cons.inj h).1 hopen
    · next h =>
      obtain ⟨rfl, rfl⟩ := List.cons.inj h
      rw [if_pos rfl]

end

/-! ### Printed values -/

open Json in
theorem stops_prettyItemsTail (level : Nat) (items : List Json) (rest : List Char) :
    Stops (prettyItemsTail level items ++ rest) := by
  cases items <;> rintro c ⟨⟩ <;> decide

open Json in
theorem stops_prettyFieldsTail (level : Nat) (fields : List (String × Json)) (rest : List Char) :
    Stops (prettyFieldsTail level fields ++ rest) := by
  cases fields <;> rintro c ⟨⟩ <;> decide

theorem Reaches.list {depth fuel place : Nat} {cs rest : List Char} {xs : List Json}
    (h : Reaches (readItems (depth + 1) fuel true ⟨cs, place + 1⟩) rest (·.Holds (depth + 1) xs)) :
    Reaches (readNode depth (fuel + 1) ⟨'[' :: cs, place⟩) rest (·.Holds depth (.array xs)) := by
  obtain ⟨items, stop, hitems, hxs⟩ := h
  refine ⟨_, stop, ?_, hxs.list place⟩
  show ((Node.list (some place) (decide (depthLimit ≤ depth))
    (readItems (depth + 1) fuel true ⟨cs, place + 1⟩).1,
    (readItems (depth + 1) fuel true ⟨cs, place + 1⟩).2) : Reading Node) = _
  rw [hitems]

theorem Reaches.object {depth fuel place : Nat} {cs rest : List Char} {fs : List (String × Json)}
    (h : Reaches (readEntries (depth + 1) fuel true ⟨cs, place + 1⟩) rest
      (·.Holds (depth + 1) fs)) :
    Reaches (readNode depth (fuel + 1) ⟨'{' :: cs, place⟩) rest (·.Holds depth (.object fs)) := by
  obtain ⟨entries, stop, hentries, hfs⟩ := h
  refine ⟨_, stop, ?_, hfs.object place⟩
  show ((Node.object (some place) (decide (depthLimit ≤ depth))
    (readEntries (depth + 1) fuel true ⟨cs, place + 1⟩).1,
    (readEntries (depth + 1) fuel true ⟨cs, place + 1⟩).2) : Reading Node) = _
  rw [hentries]

section
variable {level fuel : Nat} (depth : Nat) {x : Json} {rest : List Char}

theorem reaches_prettyItems {items : List Json}
    (hnode : ∀ place, Reaches (readNode depth fuel
      ⟨x.prettyChars (level + 1) ++ (Json.prettyItemsTail level items ++ rest), place⟩)
      (Json.prettyItemsTail level items ++ rest) (·.Holds depth x))
    (hitems : ∀ place, Reaches
      (readItems depth fuel false ⟨Json.prettyItemsTail level items ++ rest, place⟩) rest
      (·.Holds depth items)) (place : Nat) :
    Reaches (readItems depth (fuel + 1) true ⟨Json.prettyItems level (x :: items) ++ rest, place⟩)
        rest (·.Holds depth (x :: items)) ∧
      readItems depth (fuel + 1) false ⟨',' :: (Json.prettyItems level (x :: items) ++ rest), place⟩ =
        readItems depth (fuel + 1) true
          ⟨Json.prettyItems level (x :: items) ++ rest, place + 1⟩ := by
  obtain ⟨c, cs, hcs, hfirst⟩ := x.exists_prettyChars (level + 1)
  obtain ⟨hblank, hopen, -⟩ := Json.Kind.first_of_ofFirst hfirst
  rw [Json.prettyItems_cons, List.append_assoc, List.append_assoc]
  rw [hcs, List.cons_append] at hnode ⊢
  exact ⟨reaches_first_item isBlank_of_mem_newline hblank hopen hnode hitems,
    readItems_comma isBlank_of_mem_newline hblank hopen⟩

theorem reaches_prettyFields (k : String) {fields : List (String × Json)}
    (hnode : ∀ place, Reaches (readNode depth fuel
      ⟨x.prettyChars (level + 1) ++ (Json.prettyFieldsTail level fields ++ rest), place⟩)
      (Json.prettyFieldsTail level fields ++ rest) (·.Holds depth x))
    (hentries : ∀ place, Reaches
      (readEntries depth fuel false ⟨Json.prettyFieldsTail level fields ++ rest, place⟩) rest
      (·.Holds depth fields)) (place : Nat) :
    Reaches (readEntries depth (fuel + 1) true
        ⟨Json.prettyFields level ((k, x) :: fields) ++ rest, place⟩) rest
        (·.Holds depth ((k, x) :: fields)) ∧
      readEntries depth (fuel + 1) false
          ⟨',' :: (Json.prettyFields level ((k, x) :: fields) ++ rest), place⟩ =
        readEntries depth (fuel + 1) true
          ⟨Json.prettyFields level ((k, x) :: fields) ++ rest, place + 1⟩ := by
  obtain ⟨c, cs, hcs, hfirst⟩ := x.exists_prettyChars (level + 1)
  obtain ⟨hblank, -⟩ := Json.Kind.first_of_ofFirst hfirst
  rw [Json.prettyFields_cons, List.append_assoc, List.append_assoc, List.cons_append,
    List.cons_append, List.append_assoc]
  rw [hcs, List.cons_append] at hnode ⊢
  exact ⟨reaches_first_entry k isBlank_of_mem_newline hblank hnode hentries,
    readEntries_comma isBlank_of_mem_newline rfl (by decide)⟩

end

/-- The text of a value is not empty, so there is fuel for a step. -/
theorem exists_fuel {x : Json} {level fuel : Nat}
    (h : 2 * (x.prettyChars level).length ≤ fuel) : ∃ f, fuel = f + 1 := by
  obtain ⟨c, cs, hcs, -⟩ := x.exists_prettyChars level
  rw [hcs, List.length_cons] at h
  exact ⟨fuel - 1, by omega⟩

mutual

/-- **The reader follows the indented text of a value to its end**, and the tree that it
gives has the value as it is read of its text. Each bracket, item and field takes the
reader at most two steps. -/
theorem readNode_pretty : ∀ (x : Json) {level depth fuel : Nat} {rest : List Char} (place : Nat),
    Stops rest → 2 * (x.prettyChars level).length ≤ fuel →
      Reaches (readNode depth fuel ⟨x.prettyChars level ++ rest, place⟩) rest (·.Holds depth x)
  | .null, level, depth, fuel, rest, place, _, hfuel => by
    obtain ⟨fuel, rfl⟩ := exists_fuel hfuel
    exact ⟨_, _, readNode_null depth fuel place rest, Node.holds_scalar rfl rfl⟩
  | .bool true, level, depth, fuel, rest, place, _, hfuel => by
    obtain ⟨fuel, rfl⟩ := exists_fuel hfuel
    exact ⟨_, _, readNode_true depth fuel place rest, Node.holds_scalar rfl rfl⟩
  | .bool false, level, depth, fuel, rest, place, _, hfuel => by
    obtain ⟨fuel, rfl⟩ := exists_fuel hfuel
    exact ⟨_, _, readNode_false depth fuel place rest, Node.holds_scalar rfl rfl⟩
  | .number n, level, depth, fuel, rest, place, hrest, hfuel => by
    obtain ⟨fuel, rfl⟩ := exists_fuel hfuel
    obtain ⟨stop, hstop⟩ :=
      readNode_numeral n.wellFormed_numeral n.value_numeral hrest depth fuel place
    rw [← n.toList_text] at hstop
    exact ⟨_, stop, hstop, Node.holds_scalar rfl rfl⟩
  | .string s, level, depth, fuel, rest, place, _, hfuel => by
    obtain ⟨fuel, rfl⟩ := exists_fuel hfuel
    obtain ⟨stop, hstop⟩ := readNode_quote depth fuel place s rest
    exact ⟨_, stop, hstop, Node.holds_scalar rfl rfl⟩
  | .array [], level, depth, fuel, rest, place, _, hfuel => by
    obtain ⟨fuel, rfl⟩ : ∃ f, fuel = f + 1 + 1 := ⟨fuel - 2, by
      simp only [Json.prettyChars, List.length_cons, List.length_nil] at hfuel
      omega⟩
    exact Reaches.list ⟨_, _, readItems_closed true (List.forall_mem_nil _), Items.holds_closed⟩
  | .array (x :: items), level, depth, fuel, rest, place, _, hfuel => by
    rw [Json.prettyChars, List.length_cons] at hfuel
    obtain ⟨fuel, rfl⟩ : ∃ f, fuel = f + 1 + 1 := ⟨fuel - 2, by omega⟩
    obtain ⟨hx, hitems⟩ := Json.room_prettyItems level fuel x items (by omega)
    exact Reaches.list (reaches_prettyItems _
      (fun place => readNode_pretty x place (stops_prettyItemsTail level items rest) hx)
      (fun place => readItems_pretty items place hitems) (place + 1)).1
  | .object [], level, depth, fuel, rest, place, _, hfuel => by
    obtain ⟨fuel, rfl⟩ : ∃ f, fuel = f + 1 + 1 := ⟨fuel - 2, by
      simp only [Json.prettyChars, List.length_cons, List.length_nil] at hfuel
      omega⟩
    exact Reaches.object
      ⟨_, _, readEntries_closed true (List.forall_mem_nil _), Entries.holds_closed⟩
  | .object ((k, x) :: fields), level, depth, fuel, rest, place, _, hfuel => by
    rw [Json.prettyChars, List.length_cons] at hfuel
    obtain ⟨fuel, rfl⟩ : ∃ f, fuel = f + 1 + 1 := ⟨fuel - 2, by omega⟩
    obtain ⟨hx, hfields⟩ := Json.room_prettyFields level fuel k x fields (by omega)
    exact Reaches.object (reaches_prettyFields _ k
      (fun place => readNode_pretty x place (stops_prettyFieldsTail level fields rest) hx)
      (fun place => readEntries_pretty fields place hfields) (place + 1)).1

theorem readItems_pretty : ∀ (items : List Json) {level depth fuel : Nat} {rest : List Char}
    (place : Nat), 2 * (Json.prettyItemsTail level items).length + 1 ≤ fuel →
      Reaches (readItems depth fuel false ⟨Json.prettyItemsTail level items ++ rest, place⟩) rest
        (·.Holds depth items)
  | [], level, depth, fuel, rest, place, hfuel => by
    obtain ⟨fuel, rfl⟩ : ∃ f, fuel = f + 1 := ⟨fuel - 1, by omega⟩
    rw [Json.prettyItemsTail, List.append_assoc]
    exact ⟨_, _, readItems_closed false isBlank_of_mem_newline, Items.holds_closed⟩
  | x :: items, level, depth, fuel, rest, place, hfuel => by
    rw [Json.prettyItemsTail, List.length_cons] at hfuel
    obtain ⟨fuel, rfl⟩ : ∃ f, fuel = f + 1 := ⟨fuel - 1, by omega⟩
    obtain ⟨hx, hitems⟩ := Json.room_prettyItems level fuel x items (by omega)
    have hreach := reaches_prettyItems depth
      (fun place => readNode_pretty x place (stops_prettyItemsTail level items rest) hx)
      (fun place => readItems_pretty items place hitems)
    rw [Json.prettyItemsTail, List.cons_append, (hreach place).2]
    exact (hreach (place + 1)).1

theorem readEntries_pretty : ∀ (fields : List (String × Json)) {level depth fuel : Nat}
    {rest : List Char} (place : Nat),
    2 * (Json.prettyFieldsTail level fields).length + 1 ≤ fuel →
      Reaches (readEntries depth fuel false ⟨Json.prettyFieldsTail level fields ++ rest, place⟩)
        rest (·.Holds depth fields)
  | [], level, depth, fuel, rest, place, hfuel => by
    obtain ⟨fuel, rfl⟩ : ∃ f, fuel = f + 1 := ⟨fuel - 1, by omega⟩
    rw [Json.prettyFieldsTail, List.append_assoc]
    exact ⟨_, _, readEntries_closed false isBlank_of_mem_newline, Entries.holds_closed⟩
  | (k, x) :: fields, level, depth, fuel, rest, place, hfuel => by
    rw [Json.prettyFieldsTail, List.length_cons] at hfuel
    obtain ⟨fuel, rfl⟩ : ∃ f, fuel = f + 1 := ⟨fuel - 1, by omega⟩
    obtain ⟨hx, hfields⟩ := Json.room_prettyFields level fuel k x fields (by omega)
    have hreach := reaches_prettyFields depth k
      (fun place => readNode_pretty x place (stops_prettyFieldsTail level fields rest) hx)
      (fun place => readEntries_pretty fields place hfields)
    rw [Json.prettyFieldsTail, List.cons_append, (hreach place).2]
    exact (hreach (place + 1)).1

end

end Cursor

/-! ### Printed documents -/

theorem stops_of_blanks {blanks : List Char} (hblanks : ∀ c ∈ blanks, Cursor.isBlank c = true) :
    Cursor.Stops blanks := by
  cases blanks with
  | nil => rintro c ⟨⟩
  | cons b blanks =>
    rintro c ⟨⟩
    have hb := hblanks b (List.mem_cons_self ..)
    simp only [Cursor.isBlank, Bool.or_eq_true, beq_iff_eq] at hb
    rcases hb with ((rfl | rfl) | rfl) | rfl <;> decide

/-- The tree of a printed value, with nothing but blanks behind it. -/
theorem ofText_pretty (x : Json) {blanks : List Char}
    (hblanks : ∀ c ∈ blanks, Cursor.isBlank c = true) :
    (Source.ofText (x.pretty.toList ++ blanks)).node.Holds 0 x ∧
      (Source.ofText (x.pretty.toList ++ blanks)).trailing = none := by
  obtain ⟨c, cs, hcs, hfirst⟩ := x.exists_prettyChars 0
  obtain ⟨hblank, -⟩ := Json.Kind.first_of_ofFirst hfirst
  have hfuel : 2 * (x.prettyChars 0).length ≤ 2 * (x.prettyChars 0 ++ blanks).length + 2 := by
    rw [List.length_append]
    omega
  obtain ⟨node, stop, hnode, hx⟩ : Cursor.Reaches (Cursor.readNode 0 _ _) blanks (·.Holds 0 x) :=
    Cursor.readNode_pretty x 0 (stops_of_blanks hblanks) hfuel
  have hbehind : Cursor.skipBlanks ⟨blanks, stop⟩ = ⟨[], stop + blanks.length⟩ := by
    have h := Cursor.skipBlanks_append [] hblanks (by rintro _ ⟨⟩) stop
    rwa [List.append_nil] at h
  rw [Json.pretty, String.toList_ofList, Source.ofText]
  rw [hcs, List.cons_append] at hnode ⊢
  rw [Cursor.skipBlanks_of_not_blank hblank, hnode]
  refine ⟨hx, ?_⟩
  dsimp only [Option.bind_some]
  rw [hbehind]
  rfl

/-- **A printed value is read**, with blanks behind it or not, as it is read of its text,
unless it is nested too deep. -/
theorem parseJson_pretty (x : Json) {blanks : List Char}
    (hblanks : ∀ c ∈ blanks, Cursor.isBlank c = true) :
    (x.nesting ≤ Cursor.depthLimit →
      parseJson (x.pretty.toList ++ blanks) = .ok x.reread.canonical) ∧
    (Cursor.depthLimit < x.nesting →
      ∃ place, parseJson (x.pretty.toList ++ blanks) = .error (.atPlace .tooDeep place)) := by
  obtain ⟨hnode, htrailing⟩ := ofText_pretty x hblanks
  rw [parseJson, parse, htrailing, decodeJson, Node.json]
  constructor
  · intro hlimit
    rw [hnode.shallow (by omega)]
    rfl
  · intro hlimit
    obtain ⟨place, hplace⟩ := hnode.deep (Nat.zero_le _) (by omega)
    rw [hplace]
    exact ⟨place, rfl⟩

end Document
end PageFlow
