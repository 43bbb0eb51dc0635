import PageFlow.Loading
import PageFlow.Main
import PageFlow.Proofs.Rule.Spelling
import PageFlow.Proofs.Session
import PageFlow.Proofs.Step.Isolation
import PageFlow.Proofs.Rule.Atomicity
import PageFlow.Proofs.Path.Overlap
import PageFlow.Proofs.Step.Frame
import PageFlow.Proofs.Text.Split
import PageFlow.Proofs.Condition.Clauses
import PageFlow.Proofs.Rule.Clauses
import PageFlow.Proofs.Context
import PageFlow.Proofs.Call.Areas
import PageFlow.Proofs.Call.Isolation
import PageFlow.Proofs.Document.WrongType
import PageFlow.Proofs.Call.Checked
import PageFlow.Proofs.Document.RoundTrip
import PageFlow.Proofs.Session.Context
import PageFlow.Proofs.Condition.Document
import PageFlow.Proofs.Bundle
import PageFlow.Proofs.Trace.Document
import PageFlow.Proofs.Mapping.Ordered
import PageFlow.Proofs.Call.Trace
import PageFlow.Proofs.Rule.Trace
import PageFlow.Proofs.Step.Outcome
import PageFlow.Proofs.Number.Numeral
import PageFlow.Proofs.Document.Reader
import PageFlow.Proofs.Json.Printer
import PageFlow.Proofs.Step.Fingerprint
import PageFlow.Proofs.Rule.Order
import PageFlow.Proofs.Session.State
import PageFlow.Proofs.Step.Page
import PageFlow.Proofs.Command.Explain
import PageFlow.Proofs.Path.Refusal
import PageFlow.Proofs.Path.Laws
import PageFlow.Proofs.Path.Independence
import PageFlow.Proofs.Condition.Order
import PageFlow.Proofs.Condition.Membership
import PageFlow.Proofs.Number.Exactness
import PageFlow.Proofs.Transform.Number
import PageFlow.Proofs.Rule.Precedence
import PageFlow.Proofs.Call.Sequence
import PageFlow.Proofs.Call.Entries
import PageFlow.Proofs.Call.Assignment
import PageFlow.Proofs.Call.Renaming
import PageFlow.Proofs.Call.Body
import PageFlow.Proofs.Path.Grammar
import PageFlow.Proofs.Condition.ShortCircuit
import PageFlow.Proofs.Condition.Errors
import PageFlow.Proofs.Call.Summary
import PageFlow.Proofs.Path.Items
import PageFlow.Proofs.Transform.Grammar
import PageFlow.Proofs.Transform.Rounding
import PageFlow.Proofs.Text.Bytes
import PageFlow.Proofs.Call.Query
import PageFlow.Proofs.Transport.Headers
