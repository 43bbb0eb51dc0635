/-
# Letter case

Upper and lower case of a text. The lower case of a capital sigma depends on
its neighbours: at the end of a word it is the final sigma.

Key definitions: `Text.upper`, `Text.lower`.
-/
import PageFlow.Text.CaseTable

namespace PageFlow
namespace Text

/-- The other case of a character, by the runs of a table. -/
def CaseRun.find? (runs : List CaseRun) (n : Nat) : Option Nat :=
  (runs.find? fun r => decide (r.first ≤ n) && decide (n ≤ r.last) && (n - r.first) % r.step == 0).map
    fun r => ((n : Int) + r.distance).toNat

/-- A character in another case, by a table of runs and one of special cases. -/
def convert (runs : List CaseRun) (special : List (Nat × List Nat)) (c : Char) : List Char :=
  match CaseRun.find? runs c.toNat with
  | some n => [Char.ofNat n]
  | none =>
    match special.find? fun s => s.1 == c.toNat with
    | some s => s.2.map Char.ofNat
    | none => [c]

/-- A character in upper case. -/
def upperChar (c : Char) : List Char := convert upperRuns upperSpecial c

/-- A character in lower case, whatever its neighbours. -/
def lowerChar (c : Char) : List Char := convert lowerRuns lowerSpecial c

/-- Whether a character is in one of the ranges. -/
def inRanges (ranges : List (Nat × Nat)) (c : Char) : Bool :=
  ranges.any fun r => decide (r.1 ≤ c.toNat) && decide (c.toNat ≤ r.2)

/-- Whether the first character that is not skipped has case. -/
def startsCased (cs : List Char) : Bool :=
  match cs.dropWhile (inRanges ignorableRanges) with
  | [] => false
  | c :: _ => inRanges casedRanges c

/-- The lower case of a capital sigma between two texts, the first reversed. -/
def lowerSigma (before after : List Char) : Char :=
  if startsCased before && !startsCased after then 'ς' else 'σ'

/-- The lower case of a text behind another one, which is given reversed. -/
def lowerAfter (before : List Char) : List Char → List Char
  | [] => []
  | c :: rest =>
    (if c = 'Σ' then [lowerSigma before rest] else lowerChar c) ++ lowerAfter (c :: before) rest

/-- The text in upper case. -/
def upper (cs : List Char) : List Char := cs.flatMap upperChar

/-- The text in lower case. -/
def lower (cs : List Char) : List Char := lowerAfter [] cs

end Text
end PageFlow
