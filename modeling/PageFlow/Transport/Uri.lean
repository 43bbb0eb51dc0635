/-
# Addresses of requests

An address is a path, or a scheme, an authority and a path, or an authority by
itself. Characters are checked part by part; what stands behind `#` is dropped.
A request can be sent only to an address with a known scheme.

Key definitions: `UriFault`, `Uri`, `Uri.parse`, `Uri.refusal`.
-/
namespace PageFlow

/-- Why a text is no address. -/
inductive UriFault where
  | empty
  | tooLong
  | invalidCharacter
  | invalidAuthority
  | invalidFormat
  | schemeTooLong
  deriving DecidableEq

/-- The wording of an address fault. -/
def UriFault.message : UriFault → String
  | .empty => "empty string"
  | .tooLong => "uri too long"
  | .invalidCharacter => "invalid uri character"
  | .invalidAuthority => "invalid authority"
  | .invalidFormat => "invalid format"
  | .schemeTooLong => "scheme too long"

/-- An address: its scheme, if it has one, and the text behind it. -/
structure Uri where
  scheme : Option (List Char)
  rest : List Char

namespace Uri

/-- Whether a character may stand in a path. -/
def isPathChar (c : Char) : Bool :=
  decide (0x21 ≤ c.toNat) && decide (c.toNat ≤ 0x7E) && !"#<>?\x60".toList.contains c

/-- Whether a character may stand in a query. -/
def isQueryChar (c : Char) : Bool :=
  decide (0x21 ≤ c.toNat) && decide (c.toNat ≤ 0x7E) && !"\x22#<>".toList.contains c

/-- Reads a query up to its end or to `#`. -/
def readQuery : List Char → Except UriFault (List Char)
  | [] => .ok []
  | c :: rest =>
    if c = '#' then .ok []
    else if isQueryChar c then (readQuery rest).map (c :: ·)
    else .error .invalidCharacter

/-- Reads a path and the query behind it. -/
def readPath : List Char → Except UriFault (List Char)
  | [] => .ok []
  | c :: rest =>
    if c = '?' then (readQuery rest).map (c :: ·)
    else if c = '#' then .ok []
    else if isPathChar c then (readPath rest).map (c :: ·)
    else .error .invalidCharacter

/-- Whether a character may stand in a scheme. -/
def isSchemeChar (c : Char) : Bool := c.isAlphanum || "+-.~".toList.contains c

/-- Reads a scheme in front of `://` and gives it with the text behind. -/
def readScheme (cs : List Char) : Except UriFault (Option (List Char × List Char)) :=
  let scheme := cs.takeWhile isSchemeChar
  match cs.dropWhile isSchemeChar with
  | ':' :: '/' :: '/' :: rest =>
    if 64 < scheme.length then .error .schemeTooLong
    else if cs.length ≤ 3 then .ok none
    else .ok (some (scheme, rest))
  | _ => .ok none

/-- What was met in an authority. -/
structure Seen where
  colons : Nat
  opened : Bool
  closed : Bool
  percent : Bool
  atLast : Bool

/-- Whether a character may stand in an authority. -/
def isAuthorityChar (c : Char) : Bool := c.isAlphanum || "!$&'()*+,-.;=_~".toList.contains c

/-- Checks an authority, which ends at `/`, `?` or `#`, and gives it. -/
def readAuthority (seen : Seen) : List Char → Except UriFault (List Char)
  | [] => finish seen
  | c :: rest =>
    if c = '/' ∨ c = '?' ∨ c = '#' then finish seen
    else
      let next : Except UriFault Seen :=
        if c = ':' then
          if 8 ≤ seen.colons then .error .invalidAuthority
          else .ok { seen with colons := seen.colons + 1, atLast := false }
        else if c = '[' then
          if seen.percent || seen.opened then .error .invalidAuthority
          else .ok { seen with opened := true, atLast := false }
        else if c = ']' then
          if !seen.opened || seen.closed then .error .invalidAuthority
          else .ok { seen with closed := true, colons := 0, percent := false, atLast := false }
        else if c = '@' then .ok { seen with colons := 0, percent := false, atLast := true }
        else if c = '%' then .ok { seen with percent := true, atLast := false }
        else if isAuthorityChar c then .ok { seen with atLast := false }
        else .error .invalidCharacter
      match next with
      | .error e => .error e
      | .ok seen => (readAuthority seen rest).map (c :: ·)
where
  /-- The checks at the end of an authority. -/
  finish (seen : Seen) : Except UriFault (List Char) :=
    if seen.opened != seen.closed || decide (1 < seen.colons) || seen.atLast || seen.percent then
      .error .invalidAuthority
    else .ok []

/-- The authority at the start of a text. -/
def authority (cs : List Char) : Except UriFault (List Char) :=
  readAuthority ⟨0, false, false, false, false⟩ cs

/-- Reads an address that does not start with a slash. -/
def parseFull (cs : List Char) : Except UriFault Uri :=
  match readScheme cs with
  | .error e => .error e
  | .ok none =>
    match authority cs with
    | .error e => .error e
    | .ok host => if host.length = cs.length then .ok ⟨none, host⟩ else .error .invalidFormat
  | .ok (some (scheme, rest)) =>
    match authority rest with
    | .error e => .error e
    | .ok [] => .error .invalidFormat
    | .ok host =>
      (readPath (rest.drop host.length)).map fun path => ⟨some scheme, host ++ path⟩

/-- Reads an address. -/
def parse (cs : List Char) : Except UriFault Uri :=
  let bytes := cs.foldl (fun n c => n + c.utf8Size) 0
  if 65534 < bytes then .error .tooLong
  else
    match cs with
    | [] => .error .empty
    | '/' :: _ => (readPath cs).map fun path => ⟨none, path⟩
    | ['*'] => .ok ⟨none, cs⟩
    | [c] =>
      match authority [c] with
      | .error e => .error e
      | .ok host => if host.isEmpty then .error .invalidCharacter else .ok ⟨none, host⟩
    | _ => parseFull cs

/-- Why no request can be sent to an address, if none can. -/
def refusal (uri : Uri) : Option String :=
  match uri.scheme with
  | none => some (String.ofList uri.rest ++ " is missing scheme")
  | some scheme =>
    let known := ["http".toList, "https".toList].contains (scheme.map Char.toLower)
    if known then none else some ("unknown scheme: " ++ String.ofList scheme)

end Uri
end PageFlow
