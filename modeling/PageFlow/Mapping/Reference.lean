/-
# Mapped values

A reference is a path or, behind `literal:`, a value: the one that the text is
the JSON of, or else the text itself. The entries of a section are resolved one
by one; an entry that fails is left out and reported.

Key definitions: `MappingError`, `Reference`, `Reference.parse`,
`MappingEntry.resolve`, `mappedValues`, `mappingErrors`.
-/
import PageFlow.Document.Decoder
import PageFlow.Mapping
import PageFlow.Path.Scope
import PageFlow.Transform

namespace PageFlow

/-- Why a value cannot be mapped. -/
inductive MappingError where
  | invalidReference (raw : String)
  | path (error : PathError)
  | transform (error : TransformError)
  deriving DecidableEq

/-- The wording of a mapping error. -/
def MappingError.message : MappingError → String
  | .invalidReference raw =>
    "invalid value reference '" ++ raw ++
      "': expected literal:, data., context. or response."
  | .path e => e.message
  | .transform e => e.message

/-- Where a mapped value comes from. -/
inductive Reference where
  | path (path : Path)
  | literal (value : Json)

namespace Reference

/-- What stands in front of a literal. -/
def literalMark : List Char := "literal:".toList

/-- The value of the text of a literal. -/
def literalValue (text : List Char) : Json :=
  match Document.parseJson text with
  | .ok value => value
  | .error _ => .string (String.ofList text)

/-- Reads a reference. -/
def parse (raw : String) : Except MappingError Reference :=
  let cs := raw.toList
  if literalMark.isPrefixOf cs then .ok (.literal (literalValue (cs.drop literalMark.length)))
  else
    match Path.parse raw with
    | .ok p => .ok (.path p)
    | .error .empty => .error (.invalidReference raw)
    | .error (.unknownRoot _) => .error (.invalidReference raw)
    | .error e => .error (.path e)

/-- The value of a reference; a path that leads nowhere gives `null`. -/
def resolve (scope : Scope) : Reference → Except MappingError Json
  | .literal v => .ok v
  | .path p => (scope.resolve p).mapError .path

end Reference

/-- The value of an entry. -/
def MappingEntry.resolve (scope : Scope) (entry : MappingEntry) : Except MappingError Json :=
  match (Reference.parse entry.source).bind (Reference.resolve scope) with
  | .error e => .error e
  | .ok value =>
    match entry.transform with
    | none => .ok value
    | some expression => (Transform.apply expression value).mapError .transform

/-- The values of the entries of a section by key. -/
def mappedValues (scope : Scope) : Dict MappingEntry → Dict Json
  | [] => []
  | (key, entry) :: rest =>
    match entry.resolve scope with
    | .ok value => (key, value) :: mappedValues scope rest
    | .error _ => mappedValues scope rest

/-- The errors of the entries of a section by key. -/
def mappingErrors (scope : Scope) : Dict MappingEntry → List (String × MappingError)
  | [] => []
  | (key, entry) :: rest =>
    match entry.resolve scope with
    | .ok _ => mappingErrors scope rest
    | .error e => (key, e) :: mappingErrors scope rest

end PageFlow
