/-
# Outcomes that succeed and fail

An outcome that was mapped, chained or given another error succeeds only if the
one before it did, and fails only if that one or what follows it did.

Key definitions: `error?`.
Key theorems: `eq_ok_of_map`, `eq_ok_of_bind`, `eq_ok_of_mapError`,
`map_eq_error_iff`, `eq_error_of_bind`, `eq_error_of_mapError`.
-/
namespace PageFlow

variable {ε ε' α β : Type}

/-- The error of an outcome, if it failed. -/
def error? : Except ε α → Option ε
  | .error e => some e
  | .ok _ => none

theorem mapError_ok (x : α) (f : ε → ε') : (Except.ok x).mapError f = .ok x := rfl

theorem mapError_error (e : ε) (f : ε → ε') :
    (Except.error e : Except ε α).mapError f = .error (f e) := rfl

theorem eq_ok_of_map {outcome : Except ε α} {f : α → β} {y : β} (h : outcome.map f = .ok y) :
    ∃ x, outcome = .ok x ∧ f x = y := by
  cases outcome with
  | error e => exact nomatch h
  | ok x => exact ⟨x, rfl, Except.ok.inj h⟩

theorem eq_ok_of_bind {outcome : Except ε α} {f : α → Except ε β} {y : β}
    (h : outcome.bind f = .ok y) : ∃ x, outcome = .ok x ∧ f x = .ok y := by
  cases outcome with
  | error e => exact nomatch h
  | ok x => exact ⟨x, rfl, h⟩

theorem eq_ok_of_mapError {outcome : Except ε α} {f : ε → ε'} {x : α}
    (h : outcome.mapError f = .ok x) : outcome = .ok x := by
  cases outcome with
  | error e => exact nomatch h
  | ok y => exact congrArg Except.ok (Except.ok.inj h)

theorem eq_error_of_map {outcome : Except ε α} {f : α → β} {e : ε} (h : outcome.map f = .error e) :
    outcome = .error e := by
  cases outcome with
  | error e' => exact congrArg Except.error (Except.error.inj h)
  | ok x => exact nomatch h

theorem map_eq_error_iff {outcome : Except ε α} {f : α → β} {e : ε} :
    outcome.map f = .error e ↔ outcome = .error e :=
  ⟨eq_error_of_map, fun h => congrArg (Except.map f) h⟩

theorem eq_error_of_bind {outcome : Except ε α} {f : α → Except ε β} {e : ε}
    (h : outcome.bind f = .error e) :
    outcome = .error e ∨ ∃ x, outcome = .ok x ∧ f x = .error e := by
  cases outcome with
  | error e' => exact .inl (congrArg Except.error (Except.error.inj h))
  | ok x => exact .inr ⟨x, rfl, h⟩

theorem eq_error_of_mapError {outcome : Except ε α} {f : ε → ε'} {e : ε'}
    (h : outcome.mapError f = .error e) : ∃ e', outcome = .error e' ∧ f e' = e := by
  cases outcome with
  | error e' => exact ⟨e', rfl, Except.error.inj h⟩
  | ok x => exact nomatch h

end PageFlow
