/-
# Values of the wrong type

A value has no faults of text, so a decoder of texts, booleans, lists and
dictionaries refuses it, or a part of it, only for its type; and so does a
record whose fields are all read by such decoders and may all be missing.

Key definitions: `Document.Complaint.IsWrongType`, `Document.Decoder.FailsByType`,
`Document.Attempt.FailsByType`.
Key theorems: `Document.failsByType_decodeList`, `Document.failsByType_decodeDict`,
`Document.failsByType_defaulted`, `Document.failsByType_optional`.
-/
import PageFlow.Proofs.Document.Record
import PageFlow.Proofs.Outcome

namespace PageFlow
namespace Document

/-- Whether a value is refused for its type. -/
def Complaint.IsWrongType : Complaint → Prop
  | .wrongType _ _ => True
  | _ => False

/-- The decoder refuses values for their type only. -/
def Decoder.FailsByType {α : Type} (decode : Decoder α) : Prop :=
  ∀ origin value e, decode origin (Node.ofJson value) = .error e → e.complaint.IsWrongType

/-- The attempt fails, if it does, for a type. -/
def Attempt.FailsByType {α : Type} (attempt : Attempt α) : Prop :=
  ∀ position e, attempt = .failed position e → e.complaint.IsWrongType

variable {α β : Type}

/-! ### Values -/

theorem isWrongType_ofJson (expected : String) (value : Json) :
    ((Node.ofJson value).wrongType expected).complaint.IsWrongType := by
  cases value <;> trivial

theorem isWrongType_of_settling {place : Place} {outcome : Decoded α} {e : DecodeError}
    (houtcome : ∀ e, outcome = .error e → e.complaint.IsWrongType)
    (h : settling place outcome = .error e) : e.complaint.IsWrongType := by
  obtain ⟨e', he', rfl⟩ := eq_error_of_mapError h
  exact houtcome e' he'

theorem failsByType_decodeText : decodeText.FailsByType := by
  intro origin value e h
  unfold decodeText at h
  split at h
  · exact nomatch h
  · obtain rfl := Except.error.inj h
    exact isWrongType_ofJson _ value

theorem failsByType_decodeBool : decodeBool.FailsByType := by
  intro origin value e h
  unfold decodeBool at h
  split at h
  · exact nomatch h
  · obtain rfl := Except.error.inj h
    exact isWrongType_ofJson _ value

theorem Items.isWrongType_of_decode {decode : Node → Decoded α}
    (hdecode : ∀ value e, decode (Node.ofJson value) = .error e → e.complaint.IsWrongType)
    {e : DecodeError} : ∀ {items : List Json}, (Items.ofJson items).decode decode = .error e →
      e.complaint.IsWrongType
  | x :: rest, h => by
    rw [Items.ofJson, Items.decode] at h
    cases hx : settling none (decode (Node.ofJson x)) with
    | error e' =>
      rw [hx] at h
      obtain rfl := Except.error.inj h
      exact isWrongType_of_settling (hdecode x) hx
    | ok y =>
      rw [hx] at h
      exact Items.isWrongType_of_decode hdecode (eq_error_of_map h)

theorem Entries.isWrongType_of_decode {decode : Node → Decoded α}
    (hdecode : ∀ value e, decode (Node.ofJson value) = .error e → e.complaint.IsWrongType)
    {e : DecodeError} : ∀ {fields : Dict Json}, (Entries.ofJson fields).decode decode = .error e →
      e.complaint.IsWrongType
  | (k, x) :: rest, h => by
    rw [Entries.ofJson, Entries.decode] at h
    cases hx : settling none (decode (Node.ofJson x)) with
    | error e' =>
      rw [hx] at h
      obtain rfl := Except.error.inj h
      exact isWrongType_of_settling (hdecode x) hx
    | ok y =>
      rw [hx] at h
      exact Entries.isWrongType_of_decode hdecode (eq_error_of_map h)

theorem failsByType_decodeList {decode : Decoder α} (hdecode : decode.FailsByType) :
    (decodeList decode).FailsByType := by
  intro origin value e h
  cases value with
  | array items =>
    rw [Node.ofJson] at h
    exact Items.isWrongType_of_decode (hdecode origin) h
  | _ => exact Except.error.inj h ▸ isWrongType_ofJson "a sequence" _

theorem failsByType_decodeDict {decode : Decoder α} (hdecode : decode.FailsByType) :
    (decodeDict decode).FailsByType := by
  intro origin value e h
  cases value with
  | object fields =>
    rw [Node.ofJson] at h
    exact Entries.isWrongType_of_decode (hdecode origin) (eq_error_of_map h)
  | _ => exact Except.error.inj h ▸ isWrongType_ofJson "a map" _

/-! ### Records -/

namespace Attempt

theorem FailsByType.seq {f : Attempt (α → β)} {attempt : Attempt α} (hf : f.FailsByType)
    (h : attempt.FailsByType) : (f <*> attempt).FailsByType := by
  intro position e he
  cases f with
  | done g =>
    cases attempt with
    | done x => exact nomatch he
    | failed p e' =>
      obtain ⟨rfl, rfl⟩ := failed.inj he
      exact h p e' rfl
  | failed p e' =>
    cases attempt with
    | done x =>
      obtain ⟨rfl, rfl⟩ := failed.inj he
      exact hf p e' rfl
    | failed q e'' =>
      have he : (if q < p then failed q e'' else failed p e' : Attempt β) = failed position e := he
      split at he
      · obtain ⟨rfl, rfl⟩ := failed.inj he
        exact h q e'' rfl
      · obtain ⟨rfl, rfl⟩ := failed.inj he
        exact hf p e' rfl

theorem failsByType_done (x : α) : (done x).FailsByType := fun _ _ h => nomatch h

theorem FailsByType.map {f : α → β} {attempt : Attempt α} (h : attempt.FailsByType) :
    (f <$> attempt).FailsByType :=
  FailsByType.seq (failsByType_done f) h

theorem FailsByType.decoded {attempt : Attempt α} (h : attempt.FailsByType) {e : DecodeError}
    (he : attempt.decoded = .error e) : e.complaint.IsWrongType := by
  cases attempt with
  | done x => exact nomatch he
  | failed p e' => exact Except.error.inj he ▸ h p e' rfl

end Attempt

section
variable {names : List String} {fields : Dict Json} {name : String} {decode : Node → Decoded α}
  (hkeys : fields.keys.Nodup) (hname : name ∈ names)
  (hdecode : ∀ value e, decode (Node.ofJson value) = .error e → e.complaint.IsWrongType)

include hkeys hname hdecode

/-- A field that may be missing fails for its type. -/
theorem failsByType_defaulted (default : α) :
    (((Entries.ofJson fields).fields names 0 []).defaulted name default decode).FailsByType := by
  have hslot := slot?_fields_ofJson hname 0 [] hkeys (by simp)
  rw [Fields.defaulted]
  cases hfound : ((Entries.ofJson fields).fields names 0 []).slot? name with
  | none => exact Attempt.failsByType_done default
  | some slot =>
    rw [hfound, Option.map_some] at hslot
    obtain ⟨value, -, hvalue⟩ := Option.map_eq_some_iff.mp hslot.symm
    obtain ⟨hnode, -⟩ := Prod.mk.inj hvalue
    dsimp only
    intro position e he
    rw [Fields.read, ← hnode] at he
    cases hread : settling slot.after (decode (Node.ofJson value)) with
    | ok x =>
      rw [hread] at he
      cases he
    | error e' =>
      rw [hread] at he
      obtain ⟨-, rfl⟩ := Attempt.failed.inj he
      exact isWrongType_of_settling (hdecode value) hread

/-- A field that may be missing or `null` fails for its type. -/
theorem failsByType_optional :
    (((Entries.ofJson fields).fields names 0 []).optional name decode).FailsByType := by
  refine failsByType_defaulted hkeys hname (fun value e h => ?_) none
  by_cases hnull : value = .null
  · rw [hnull] at h
    exact nomatch h
  · rw [decodeOption_of_not_null hnull] at h
    exact hdecode value e (eq_error_of_map h)

end

end Document
end PageFlow
