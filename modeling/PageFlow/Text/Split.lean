/-
# Splitting, searching and trimming text

A text is cut at every occurrence of a separator; the parts, joined with the
separator, give the text back. There is always at least one part. The characters
that count as white space are removed from the ends of a text.

Key definitions: `Text.splitAt`, `Text.joinWith`, `Text.hasPart`, `Text.isBlank`,
`Text.trim`.
Key theorems: `Text.joinWith_splitAt`.
-/
namespace PageFlow
namespace Text

/-- The parts of a text between the occurrences of `sep`. -/
def splitAt (sep : Char) : List Char → List (List Char)
  | [] => [[]]
  | c :: rest =>
    if c = sep then [] :: splitAt sep rest
    else
      match splitAt sep rest with
      | [] => [[c]]
      | part :: parts => (c :: part) :: parts

/-- The parts in one text, with `sep` between them. -/
def joinWith (sep : Char) : List (List Char) → List Char
  | [] => []
  | [part] => part
  | part :: parts => part ++ sep :: joinWith sep parts

/-- The parts of a string between the occurrences of `sep`. -/
def split (sep : Char) (s : String) : List String := (splitAt sep s.toList).map String.ofList

/-- The text before the first occurrence of `sep` and the text behind it, if
there is one. -/
def splitOnce (sep : Char) : List Char → Option (List Char × List Char)
  | [] => none
  | c :: rest =>
    if c = sep then some ([], rest)
    else (splitOnce sep rest).map fun r => (c :: r.1, r.2)

/-- Whether `part` stands somewhere in a text. -/
def hasPart (part : List Char) : List Char → Bool
  | [] => part.isEmpty
  | c :: rest => part.isPrefixOf (c :: rest) || hasPart part rest

theorem splitAt_ne_nil (sep : Char) : ∀ s : List Char, splitAt sep s ≠ []
  | [] => by simp [splitAt]
  | c :: rest => by
    unfold splitAt
    split
    · simp
    · split <;> simp

/-- Nothing is lost in a split. -/
theorem joinWith_splitAt (sep : Char) : ∀ s : List Char, joinWith sep (splitAt sep s) = s
  | [] => rfl
  | c :: rest => by
    have ih := joinWith_splitAt sep rest
    unfold splitAt
    split
    · rename_i h
      subst h
      cases hs : splitAt c rest with
      | nil => exact absurd hs (splitAt_ne_nil c rest)
      | cons p ps => simp [joinWith, ← hs, ih]
    · cases hs : splitAt sep rest with
      | nil => exact absurd hs (splitAt_ne_nil sep rest)
      | cons p ps =>
        rw [hs] at ih
        cases ps with
        | nil => simpa [joinWith] using ih
        | cons q qs => simpa [joinWith] using ih

/-! ### Blank characters -/

/-- The ranges of blank characters, ends included. -/
def blankRanges : List (Nat × Nat) :=
  [(0x09, 0x0D), (0x20, 0x20), (0x85, 0x85), (0xA0, 0xA0), (0x1680, 0x1680), (0x2000, 0x200A),
    (0x2028, 0x2029), (0x202F, 0x202F), (0x205F, 0x205F), (0x3000, 0x3000)]

/-- Whether a character is blank. -/
def isBlank (c : Char) : Bool :=
  blankRanges.any fun r => decide (r.1 ≤ c.toNat) && decide (c.toNat ≤ r.2)

/-- The text without the blanks in front. -/
def trimLeft (cs : List Char) : List Char := cs.dropWhile isBlank

/-- The text without the blanks at its end. -/
def trimRight (cs : List Char) : List Char := (cs.reverse.dropWhile isBlank).reverse

/-- The text without the blanks at its ends. -/
def trim (cs : List Char) : List Char := trimRight (trimLeft cs)

end Text
end PageFlow
