/-
# Texts and their bytes

Texts are ordered by their characters, and their bytes have the same order: of two
characters the lesser one is spelled with fewer bytes, and then its first byte is less, or
with as many, and then the bytes are digits of the two codes, the highest first.

A percent encoded text is read back byte by byte: a percent sign and two hexadecimal
digits are one byte, and every other character is its own. The bytes of a text are those
of its spelling, so the text comes back; and as only unreserved characters and percent
signs are written, whatever parts the parameters of a query can be told from it.

Key definitions: `Text.percentBytes`, `Text.percentDecode?`.
Key theorems: `Text.utf8EncodeChar_append_lt`, `Text.utf8Bytes_lt_iff`,
`Text.percentBytes_percentEncode`, `Text.percentDecode?_percentEncode`,
`Text.notMem_percentEncode`.
-/
import PageFlow.Proofs.Text.Split
import PageFlow.Text.Bytes

namespace PageFlow
namespace Text

/-! ### The order of bytes -/

/-- The bytes of a character: the digits of its code to base 64, each behind a mark. -/
theorem utf8EncodeChar_eq (c : Char) : String.utf8EncodeChar c =
    if c.val.toNat ≤ 0x7f then [.ofNat c.val.toNat]
    else if c.val.toNat ≤ 0x7ff then
      [.ofNat (c.val.toNat / 64 % 32 + 192), .ofNat (c.val.toNat % 64 + 128)]
    else if c.val.toNat ≤ 0xffff then
      [.ofNat (c.val.toNat / 4096 % 16 + 224), .ofNat (c.val.toNat / 64 % 64 + 128),
        .ofNat (c.val.toNat % 64 + 128)]
    else
      [.ofNat (c.val.toNat / 262144 % 8 + 240), .ofNat (c.val.toNat / 4096 % 64 + 128),
        .ofNat (c.val.toNat / 64 % 64 + 128), .ofNat (c.val.toNat % 64 + 128)] := rfl

theorem toNat_val_lt (c : Char) : c.val.toNat < 0x110000 := by
  rcases c.valid with h | h
  · exact Nat.lt_trans h (by decide)
  · exact h.2

theorem ofNat_cons_lt_iff {a b : Nat} (ha : a < 256) (hb : b < 256) {as bs : List UInt8} :
    UInt8.ofNat a :: as < UInt8.ofNat b :: bs ↔ a < b ∨ a = b ∧ as < bs := by
  rw [List.cons_lt_cons_iff, UInt8.lt_iff_toNat_lt, ← UInt8.toNat_inj, UInt8.toNat_ofNat',
    UInt8.toNat_ofNat', Nat.mod_eq_of_lt ha, Nat.mod_eq_of_lt hb]

/-- The bytes of a lesser character come first, whatever stands behind them. -/
theorem utf8EncodeChar_append_lt {c d : Char} (h : c < d) (as bs : List UInt8) :
    String.utf8EncodeChar c ++ as < String.utf8EncodeChar d ++ bs := by
  have hcode : c.val.toNat < d.val.toNat := h
  have hbound : d.val.toNat < 0x110000 := toNat_val_lt d
  rw [utf8EncodeChar_eq, utf8EncodeChar_eq]
  generalize c.val.toNat = m at *
  generalize d.val.toNat = n at *
  have hdigits (k : Nat) (hk : k < 0x110000) :
      k / 64 / 64 = k / 4096 ∧ k / 4096 / 64 = k / 262144 ∧ k / 262144 % 8 = k / 262144 :=
    ⟨Nat.div_div_eq_div_mul .., Nat.div_div_eq_div_mul .., Nat.mod_eq_of_lt (by omega)⟩
  have hm := hdigits m (by omega)
  have hn := hdigits n hbound
  -- One case for each pair of lengths.
  repeat' split
  all_goals simp (disch := omega) only [List.cons_append, List.nil_append, ofNat_cons_lt_iff]
  all_goals omega

theorem utf8Bytes_lt_of_lt {cs ds : List Char} (h : cs < ds) : utf8Bytes cs < utf8Bytes ds := by
  induction h with
  | nil =>
    obtain ⟨b, bs, hbytes⟩ := List.exists_cons_of_ne_nil String.utf8EncodeChar_ne_nil
    rw [utf8Bytes, utf8Bytes, List.flatMap_cons, hbytes]
    exact List.nil_lt_cons b _
  | cons _ ih => exact List.append_left_lt ih
  | rel h => exact utf8EncodeChar_append_lt h _ _

/-- **Texts are in the order of their bytes.** -/
theorem utf8Bytes_lt_iff {cs ds : List Char} : utf8Bytes cs < utf8Bytes ds ↔ cs < ds := by
  refine ⟨fun h => ?_, utf8Bytes_lt_of_lt⟩
  rcases Std.lt_trichotomy cs ds with hlt | rfl | hlt
  · exact hlt
  · exact absurd h (List.lt_irrefl _)
  · exact absurd (List.lt_trans h (utf8Bytes_lt_of_lt hlt)) (List.lt_irrefl _)

/-! ### Percent encoding -/

/-- The bytes that a percent encoded text spells. A percent sign without two hexadecimal
digits behind it stands for itself. -/
def percentBytes : List Char → List UInt8
  | '%' :: high :: low :: rest =>
    match hexDigitValue high, hexDigitValue low with
    | some h, some l => UInt8.ofNat (16 * h + l) :: percentBytes rest
    | _, _ => String.utf8EncodeChar '%' ++ percentBytes (high :: low :: rest)
  | c :: rest => String.utf8EncodeChar c ++ percentBytes rest
  | [] => []

/-- The text that is percent encoded, if its bytes are those of one. -/
def percentDecode? (cs : List Char) : Option (List Char) :=
  (percentBytes cs).toByteArray.utf8Decode?.map Array.toList

/-- The characters of an encoded text. -/
def isPartChar (c : Char) : Bool :=
  c.isAlphanum || c == '-' || c == '.' || c == '_' || c == '~' || c == '%'

theorem percentBytes_cons {c : Char} (h : c ≠ '%') (rest : List Char) :
    percentBytes (c :: rest) = String.utf8EncodeChar c ++ percentBytes rest := by
  rw [percentBytes]
  intro _ _ _ hc
  exact absurd hc h

variable {b : UInt8}

theorem toNat_ofNat_byte (b : UInt8) : (Char.ofNat b.toNat).toNat = b.toNat := by
  have hlt : b.toNat < 256 := b.toNat_lt
  have hvalid : b.toNat.isValidChar := Or.inl (by omega)
  rw [Char.ofNat, dif_pos hvalid]
  rfl

theorem isPartChar_of_isUnreserved (h : isUnreserved b = true) :
    isPartChar (Char.ofNat b.toNat) = true := by
  simp only [isUnreserved, Bool.or_eq_true, beq_iff_eq] at h
  rcases h with (((h | h) | h) | h) | h
  · simp [isPartChar, h]
  all_goals
    rw [h]
    decide

theorem isPartChar_of_mem_percentByte {c : Char} (h : c ∈ percentByte b) :
    isPartChar c = true := by
  unfold percentByte at h
  split at h
  · next hself =>
    obtain rfl := List.mem_singleton.mp h
    exact isPartChar_of_isUnreserved hself
  · have hlt : b.toNat < 256 := b.toNat_lt
    have hdigit : ∀ n < 16, isPartChar (hexDigit n) = true := by decide
    simp only [List.mem_cons, List.not_mem_nil, or_false] at h
    rcases h with rfl | rfl | rfl
    · decide
    · exact hdigit _ (by omega)
    · exact hdigit _ (by omega)

theorem toNat_of_isPartChar {c : Char} (h : isPartChar c = true) : c.toNat ≤ 127 := by
  simp only [isPartChar, Bool.or_eq_true, beq_iff_eq] at h
  rcases h with ((((h | rfl) | rfl) | rfl) | rfl) | rfl
  · exact Nat.le_trans (toNat_of_isAlphanum h).2 (by decide)
  all_goals decide

theorem utf8EncodeChar_of_isUnreserved (h : isUnreserved b = true) :
    String.utf8EncodeChar (Char.ofNat b.toNat) = [b] := by
  have hascii : (Char.ofNat b.toNat).val.toNat ≤ 127 :=
    toNat_of_isPartChar (isPartChar_of_isUnreserved h)
  have hbyte : (Char.ofNat b.toNat).val.toNat = b.toNat := toNat_ofNat_byte b
  rw [String.utf8EncodeChar, if_pos hascii, hbyte, UInt8.ofNat_toNat]

theorem percentBytes_percentByte (b : UInt8) (rest : List Char) :
    percentBytes (percentByte b ++ rest) = b :: percentBytes rest := by
  unfold percentByte
  split
  · next h =>
    have hne : Char.ofNat b.toNat ≠ '%' := by
      intro hpercent
      rw [isUnreserved, hpercent] at h
      exact absurd h (by decide)
    rw [List.singleton_append, percentBytes_cons hne, utf8EncodeChar_of_isUnreserved h,
      List.singleton_append]
  · have hlt : b.toNat < 256 := b.toNat_lt
    have hhigh := hexDigitValue_hexDigit (b.toNat / 16) (by omega)
    have hlow := hexDigitValue_hexDigit (b.toNat % 16) (by omega)
    have hbyte : 16 * (b.toNat / 16) + b.toNat % 16 = b.toNat := Nat.div_add_mod _ _
    simp only [List.cons_append, List.nil_append, percentBytes, hhigh, hlow, hbyte,
      UInt8.ofNat_toNat]

theorem percentBytes_flatMap (rest : List Char) : ∀ bytes : List UInt8,
    percentBytes (bytes.flatMap percentByte ++ rest) = bytes ++ percentBytes rest
  | [] => rfl
  | b :: bytes => by
    rw [List.flatMap_cons, List.append_assoc, percentBytes_percentByte,
      percentBytes_flatMap rest bytes, List.cons_append]

/-- The bytes of an encoded text are those of the text. -/
theorem percentBytes_percentEncode (cs : List Char) :
    percentBytes (percentEncode cs) = utf8Bytes cs := by
  have h := percentBytes_flatMap [] (utf8Bytes cs)
  rwa [List.append_nil, percentBytes, List.append_nil] at h

/-- **A text that is encoded is read back.** -/
theorem percentDecode?_percentEncode (cs : List Char) :
    percentDecode? (percentEncode cs) = some cs := by
  have hdecode : (utf8Bytes cs).toByteArray.utf8Decode? = some cs.toArray :=
    List.utf8Decode?_utf8Encode
  rw [percentDecode?, percentBytes_percentEncode, hdecode]
  rfl

/-- A blank and a percent sign are one byte each, and an accented letter is two. -/
example : percentDecode? "5%25%20%C3%A9".toList = some "5% é".toList := by decide

/-- What is not a character of encoded texts stands in none of them. -/
theorem notMem_percentEncode {c : Char} (h : isPartChar c = false) (cs : List Char) :
    c ∉ percentEncode cs := by
  intro hmem
  obtain ⟨b, -, hb⟩ := List.mem_flatMap.mp hmem
  rw [isPartChar_of_mem_percentByte hb] at h
  cases h

end Text
end PageFlow
