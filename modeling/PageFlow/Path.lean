/-
# Dotted paths

A path names a place in the data, in the context or in a response:
`data.customer.0.city` is the root `data` and the segments behind it. Paths
that are read name their root. The target of a write may leave its root out,
and then may not start with the name of another root.

Key definitions: `Root`, `Path`, `PathError`, `Path.parse`, `Path.parseTarget`.
-/
import PageFlow.Text.Split

namespace PageFlow

/-- What a path starts from. -/
inductive Root where
  | data
  | context
  | response
  deriving DecidableEq

/-- The name of a root, as written in a path. -/
def Root.name : Root → String
  | .data => "data"
  | .context => "context"
  | .response => "response"

/-- The root of a name. -/
def Root.ofName? (name : String) : Option Root :=
  [Root.data, .context, .response].find? fun r => r.name == name

/-- A path: its text, its root and its segments. -/
structure Path where
  raw : String
  root : Root
  segments : List String
  deriving DecidableEq

/-- Why a path cannot be used. -/
inductive PathError where
  | empty
  | emptySegment (path : String)
  | unknownRoot (path : String)
  | rootUnavailable (path : String) (root : Root)
  | readOnly (path : String)
  | noTarget (path : String)
  | notAContainer (path segment : String)
  | indexOutOfBounds (path segment : String)
  deriving DecidableEq

/-- The wording of a path error. -/
def PathError.message : PathError → String
  | .empty => "malformed path: empty path"
  | .emptySegment path => "malformed path '" ++ path ++ "': empty segment"
  | .unknownRoot path =>
    "malformed path '" ++ path ++ "': must start with data., context. or response."
  | .rootUnavailable path root =>
    "path '" ++ path ++ "' refers to " ++ root.name ++ ", which is not available here"
  | .readOnly path => "path '" ++ path ++ "' is read-only"
  | .noTarget path => "path '" ++ path ++ "' does not name a field to write"
  | .notAContainer path segment =>
    "cannot write '" ++ path ++ "': '" ++ segment ++ "' holds a scalar value"
  | .indexOutOfBounds path segment =>
    "cannot write '" ++ path ++ "': index " ++ segment ++ " is out of bounds"

namespace Path

/-- The path of a root and segments, if none of them is empty. -/
def ofSegments (raw : String) (root : Root) (segments : List String) : Except PathError Path :=
  if segments.all (fun s => s != "") then .ok ⟨raw, root, segments⟩
  else .error (.emptySegment raw)

/-- Reads a path that names its root. A bare root stands for the whole value. -/
def parse (raw : String) : Except PathError Path :=
  if raw = "" then .error .empty
  else
    match Text.split '.' raw with
    | [] => .error (.unknownRoot raw)
    | first :: segments =>
      match Root.ofName? first with
      | some root => ofSegments raw root segments
      | none => .error (.unknownRoot raw)

/-- Reads the target of a write below `root`, with or without its name in front. -/
def parseTarget (root : Root) (raw : String) : Except PathError Path :=
  if raw = "" then .error .empty
  else
    match Text.split '.' raw with
    | [] => .error (.noTarget raw)
    | first :: segments =>
      match Root.ofName? first with
      | none => ofSegments raw root (first :: segments)
      | some named =>
        if named ≠ root then .error (.readOnly raw)
        else if segments.isEmpty then .error (.noTarget raw)
        else ofSegments raw root segments

/-- Reads the target of a write into the data. -/
def parseDataTarget : String → Except PathError Path := parseTarget .data

/-- Reads the target of a write into the context. -/
def parseContextTarget : String → Except PathError Path := parseTarget .context

end Path
end PageFlow
