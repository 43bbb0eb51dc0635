/-
# Reading what was printed

The reader of numerals gives back the numeral whose characters it meets, up to
the first character that no numeral goes on with. The reader of strings undoes the
escapes of the printer, up to the closing quote.

Key definitions: `Cursor.Stops`.
Key theorems: `Cursor.readNumeral_body`, `Cursor.readString_quoted`.
-/
import PageFlow.Document.Reader
import PageFlow.Json.Printer
import PageFlow.Proofs.Number.Numeral

namespace PageFlow
namespace Document
namespace Cursor

/-! ### Numerals -/

/-- No numeral goes on with the first of these characters. -/
def Stops (rest : List Char) : Prop :=
  ∀ c ∈ rest.head?, c.isDigit = false ∧ c ≠ '.' ∧ c ≠ 'e' ∧ c ≠ 'E'

theorem readDigits_append {ds rest : List Char} (hds : ∀ c ∈ ds, c.isDigit = true)
    (hrest : ∀ c ∈ rest.head?, c.isDigit = false) (place : Nat) :
    readDigits ⟨ds ++ rest, place⟩ = (ds, ⟨rest, place + ds.length⟩) := by
  have hnone : rest.takeWhile Char.isDigit = [] := by
    cases rest with
    | nil => rfl
    | cons c rest => exact List.takeWhile_cons_of_neg (by simp [hrest c rfl])
  have htake : (ds ++ rest).takeWhile Char.isDigit = ds := by
    rw [List.takeWhile_append_of_pos hds, hnone, List.append_nil]
  unfold readDigits advance
  simp only [htake, List.drop_left]

theorem readWhole_append {whole rest : List Char} (hwhole : AreDigits whole)
    (hfirst : whole.head? = some '0' → whole = ['0'])
    (hrest : ∀ c ∈ rest.head?, c.isDigit = false) (place : Nat) :
    readWhole ⟨whole ++ rest, place⟩ = .ok (whole, ⟨rest, place + whole.length⟩) := by
  obtain ⟨c, ds, rfl⟩ := List.exists_cons_of_ne_nil hwhole.1
  have hc : c.isDigit = true := hwhole.2 c List.mem_cons_self
  by_cases hzero : c = '0'
  · subst hzero
    obtain rfl : ds = [] := (List.cons.inj (hfirst rfl)).2
    cases rest with
    | nil => rfl
    | cons c rest => simp [readWhole, hrest c rfl]
  · have hread := readDigits_append hwhole.2 hrest place
    unfold readWhole
    split
    · next h => exact nomatch h
    · next h => exact absurd (List.cons.inj h).1 hzero
    · next h =>
      obtain rfl := (List.cons.inj h).1
      rw [if_pos hc, hread]

theorem readFraction_append {fraction : Option (List Char)} {rest : List Char}
    (hfraction : ∀ ds ∈ fraction, AreDigits ds)
    (hrest : ∀ c ∈ rest.head?, c.isDigit = false ∧ c ≠ '.') (place : Nat) :
    readFraction ⟨Numeral.fractionChars fraction ++ rest, place⟩ =
      .ok (fraction, ⟨rest, place + (Numeral.fractionChars fraction).length⟩) := by
  cases fraction with
  | none =>
    unfold readFraction
    split
    · next tail h => exact absurd rfl (hrest '.' (congrArg List.head? h)).2
    · rfl
  | some ds =>
    have hds := hfraction ds rfl
    have hread := readDigits_append hds.2 (fun c hc => (hrest c hc).1) (place + 1)
    have hne : ds.isEmpty = false := List.isEmpty_eq_false_iff.mpr hds.1
    simp only [Numeral.fractionChars, List.cons_append, readFraction, hread, hne,
      Bool.false_eq_true, if_false, List.length_cons, Nat.add_assoc, Nat.add_comm 1]

theorem readExponent_append {exponent : Option (Bool × List Char)} {rest : List Char}
    (hexponent : ∀ e ∈ exponent, AreDigits e.2) (hrest : Stops rest) (place : Nat) :
    readExponent ⟨Numeral.exponentChars exponent ++ rest, place⟩ =
      .ok (exponent, ⟨rest, place + (Numeral.exponentChars exponent).length⟩) := by
  cases exponent with
  | none =>
    cases rest with
    | nil => rfl
    | cons c rest =>
      obtain ⟨-, -, he, hE⟩ := hrest c rfl
      simp [readExponent, Numeral.exponentChars, he, hE]
  | some e =>
    obtain ⟨below, ds⟩ := e
    have hds := hexponent _ rfl
    have hread := readDigits_append hds.2 (fun c hc => (hrest c hc).1) (place + 2)
    have hne : ds.isEmpty = false := List.isEmpty_eq_false_iff.mpr hds.1
    cases below <;>
      simp [readExponent, Numeral.exponentChars, hread, hne, Nat.add_assoc, Nat.add_comm 2]

/-- **The reader gives a numeral back** from its characters. -/
theorem readNumeral_body {n : Numeral} (hn : n.WellFormed) {rest : List Char} (hrest : Stops rest)
    (place : Nat) :
    readNumeral n.negative ⟨n.body ++ rest, place⟩ =
      .ok (n, ⟨rest, place + n.body.length⟩) := by
  have hexponent : ∀ c ∈ (Numeral.exponentChars n.exponent ++ rest).head?,
      c.isDigit = false ∧ c ≠ '.' := by
    cases n.exponent with
    | none => exact fun c hc => ⟨(hrest c hc).1, (hrest c hc).2.1⟩
    | some e =>
      rintro c ⟨⟩
      decide
  have hfraction : ∀ c ∈ (Numeral.fractionChars n.fraction ++
      (Numeral.exponentChars n.exponent ++ rest)).head?, c.isDigit = false := by
    cases n.fraction with
    | none => exact fun c hc => (hexponent c hc).1
    | some ds =>
      rintro c ⟨⟩
      decide
  unfold readNumeral Numeral.body
  rw [List.append_assoc, List.append_assoc, readWhole_append hn.whole hn.first hfraction]
  show (readFraction _ >>= _) = _
  rw [readFraction_append hn.fraction hexponent]
  show (readExponent _ >>= _) = _
  rw [readExponent_append hn.exponent hrest]
  simp only [List.length_append, Nat.add_assoc]
  rfl

/-! ### Strings -/

theorem byteCount_append (cs ds : List Char) :
    byteCount (cs ++ ds) = byteCount cs + byteCount ds := by
  have hstart : ∀ (es : List Char) (n : Nat),
      es.foldl (fun n c => n + c.utf8Size) n = n + byteCount es := by
    intro es
    induction es with
    | nil => exact fun n => rfl
    | cons e es ih =>
      intro n
      have hcons : byteCount (e :: es) = e.utf8Size + byteCount es := by
        rw [byteCount, List.foldl_cons, ih, Nat.zero_add]
      rw [List.foldl_cons, ih, hcons, Nat.add_assoc]
  rw [byteCount, List.foldl_append, hstart ds]
  rfl

theorem readString_other {c : Char} (hquote : c ≠ '"') (hslash : c ≠ '\\') (rest : List Char)
    (place : Nat) :
    readString (c :: rest) place =
      if c.toNat < 32 then .error (.atPlace .controlCharacter (place + 1))
      else withChar c (readString rest (place + c.utf8Size)) := by
  rw [readString.eq_def]
  split <;> simp_all

theorem readString_letter {letter e : Char} (hu : letter ≠ 'u')
    (hplain : plainEscape letter = some e) (rest : List Char) (place : Nat) :
    readString ('\\' :: letter :: rest) place = withChar e (readString rest (place + 2)) := by
  rw [readString]
  · rw [hplain]
  all_goals
    intros
    simp_all

theorem hexValue_control :
    ∀ n < 32, Text.hexValue ['0', '0', Nat.digitChar (n / 16), Nat.digitChar (n % 16)] = some n := by
  decide

theorem readString_control {c : Char} (hc : c.toNat < 32) (rest : List Char) (place : Nat) :
    readString ('\\' :: 'u' :: '0' :: '0' :: (Json.hexDigits c ++ rest)) place =
      withChar c (readString rest (place + 6)) := by
  show readString ('\\' :: 'u' :: '0' :: '0' :: Nat.digitChar (c.toNat / 16) ::
    Nat.digitChar (c.toNat % 16) :: rest) place = _
  rw [readString]
  simp only [hexValue_control c.toNat hc]
  rw [if_neg (by omega), if_pos (by omega), Char.ofNat_toNat]

theorem utf8Size_digitChar : ∀ n < 16, (Nat.digitChar n).utf8Size = 1 := by decide

/-- **One character is read back from its spelling.** -/
theorem readString_escape (c : Char) (rest : List Char) (place : Nat) :
    readString (Json.escape c ++ rest) place =
      withChar c (readString rest (place + byteCount (Json.escape c))) := by
  unfold Json.escape
  split
  · next h =>
    subst h
    exact readString_letter (by decide) rfl rest place
  split
  · next h =>
    subst h
    exact readString_letter (by decide) rfl rest place
  split
  · next h =>
    subst h
    exact readString_letter (by decide) rfl rest place
  split
  · next h =>
    subst h
    exact readString_letter (by decide) rfl rest place
  split
  · next h =>
    subst h
    exact readString_letter (by decide) rfl rest place
  split
  · next h =>
    have hletter : plainEscape 'b' = some c := by rw [← Char.ofNat_toNat c, h]; rfl
    exact readString_letter (by decide) hletter rest place
  split
  · next h =>
    have hletter : plainEscape 'f' = some c := by rw [← Char.ofNat_toNat c, h]; rfl
    exact readString_letter (by decide) hletter rest place
  split
  · next h =>
    have hsize : byteCount ('\\' :: 'u' :: '0' :: '0' :: Json.hexDigits c) = 6 := by
      simp [byteCount, Json.hexDigits, utf8Size_digitChar _ (show c.toNat / 16 < 16 by omega),
        utf8Size_digitChar _ (show c.toNat % 16 < 16 by omega)]
      decide
    rw [hsize]
    exact readString_control h rest place
  · next hquote hslash _ _ _ _ _ hcontrol =>
    rw [List.singleton_append, readString_other hquote hslash, if_neg hcontrol]
    simp [byteCount]

/-- A printed string is read back, up to its closing quote. -/
theorem readString_quoted (cs rest : List Char) (place : Nat) :
    readString (cs.flatMap Json.escape ++ '"' :: rest) place =
      .ok (cs, ⟨rest, place + byteCount (cs.flatMap Json.escape) + 1⟩) := by
  induction cs generalizing place with
  | nil => rfl
  | cons c cs ih =>
    rw [List.flatMap_cons, List.append_assoc, readString_escape, ih, byteCount_append,
      Nat.add_assoc place]
    rfl

end Cursor
end Document
end PageFlow
