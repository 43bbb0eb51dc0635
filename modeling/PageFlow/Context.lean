/-
# The context of a session

The context says who is using the pages and where: tenant, user, roles, place,
device, permissions and feature flags. Fields that have no meaning of their own
are kept as they are. Rules, conditions and mappings read the context as a JSON
object.

Key definitions: `Context`, `Context.json`, `Context.value`,
`Context.hasAnyRole`, `decodeContext`.
-/
import PageFlow.Document.Record

namespace PageFlow
open Document

/-- Who is using the pages, and where. -/
structure Context where
  tenantId : String
  userId : String
  role : Option String
  roles : List String
  locale : Option String
  timezone : Option String
  country : Option String
  device : Option String
  permissions : List String
  featureFlags : Dict Bool
  extra : Dict Json

namespace Context

/-- The context about which nothing is known. -/
def empty : Context := ⟨"", "", none, [], none, none, none, none, [], [], []⟩

/-- Whether the role or one of the roles is among those allowed. -/
def hasAnyRole (context : Context) (allowed : List String) : Bool :=
  (context.role.toList ++ context.roles).any fun role => allowed.contains role

/-- The fields with a meaning, in the order of a document. -/
def knownFields (context : Context) : List (Option (String × Json)) :=
  [Json.field "tenantId" (.string context.tenantId),
    Json.field "userId" (.string context.userId),
    Json.fieldIfSome "role" (context.role.map .string),
    Json.field "roles" (Json.ofTexts context.roles),
    Json.fieldIfSome "locale" (context.locale.map .string),
    Json.fieldIfSome "timezone" (context.timezone.map .string),
    Json.fieldIfSome "country" (context.country.map .string),
    Json.fieldIfSome "device" (context.device.map .string),
    Json.field "permissions" (Json.ofTexts context.permissions),
    Json.field "featureFlags" (.object (context.featureFlags.mapValues .bool))]

/-- The context in a document. -/
def json (context : Context) : Json :=
  .object (context.knownFields.filterMap id ++ context.extra)

/-- The context as paths read it. -/
def value (context : Context) : Json := context.json.canonical

/-- The names of the fields with a meaning. -/
def fieldNames : List String :=
  ["tenantId", "userId", "role", "roles", "locale", "timezone", "country", "device",
    "permissions", "featureFlags"]

end Context

/-- The fields of an object under other names than `names`, all of them read, up
to the first error. The error comes with its position. -/
def Document.Entries.others (names : List String) (position : Nat) :
    Entries → Attempt (List (String × Json))
  | .entry (.ok key) _ value _ rest =>
    if names.contains key then Entries.others names (position + 1) rest
    else
      match value.json with
      | .error e => .failed position e
      | .ok x => (fun more => (key, x) :: more) <$> Entries.others names (position + 1) rest
  | _ => .done []

/-- Reads the fields with a meaning, which may all be missing. -/
def Context.ofFields (origin : Origin) (fields : Fields) : Attempt (Dict Json → Context) :=
  let text := decodeText origin
  let texts := decodeList decodeText origin
  let flags := decodeDict decodeBool origin
  Context.mk <$> fields.defaulted "tenantId" "" text
    <*> fields.defaulted "userId" "" text
    <*> fields.optional "role" text
    <*> fields.defaulted "roles" [] texts
    <*> fields.optional "locale" text
    <*> fields.optional "timezone" text
    <*> fields.optional "country" text
    <*> fields.optional "device" text
    <*> fields.defaulted "permissions" [] texts
    <*> fields.defaulted "featureFlags" [] flags

/-- Reads a context, which has to be an object. A field without a meaning is
read and not skipped; one that stands in front of the field with a meaning at a
position has that position, too, and its error counts. -/
def decodeContext : Decoder Context
  | _, .object start true _ => .error (tooDeep start)
  | origin, .object _ false entries =>
    let fields := entries.fields Context.fieldNames 0 []
    ((fun others _ context => context (Dict.ofList others)) <$>
      entries.others Context.fieldNames 0 <*> fields.intact <*>
        Context.ofFields origin fields).decoded
  | _, node => .error (node.wrongType "struct ExecutionContext")

end PageFlow
