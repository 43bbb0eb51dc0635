/-
# Loading documents and settings

A text is loaded as a document of a kind; the error of one that cannot be read
names the kind. A bundle is loaded only if the checks find no problem in it.

The settings of the program say how requests are sent and what is logged. They
are the tables `transport` and `log` of a settings file; each may be missing.

Key definitions: `LoadError`, `loadDocument`, `loadBundle`, `Settings`, `Settings.parse`.
-/
import PageFlow.Toml.Reader
import PageFlow.Transport.Http
import PageFlow.Validation

namespace PageFlow
open Document

/-- Why a document cannot be used. -/
inductive LoadError where
  | unreadable (kind : String) (error : DecodeError) (text : String)
  | inconsistent (problems : List Problem)

/-- The wording of a load error. -/
def LoadError.message : LoadError → String
  | .unreadable kind e text => "invalid " ++ kind ++ " document: " ++ e.message text.toList
  | .inconsistent problems => reportProblems problems

/-- Reads a text as a document of a kind. -/
def loadDocument {α : Type} (kind : String) (decode : Decoder α) (text : String) :
    Except LoadError α :=
  (parse decode text.toList).mapError fun e => .unreadable kind e text

/-- Accepts what has no problems. -/
def acceptIf {α : Type} (problems : List Problem) (x : α) : Except LoadError α :=
  if problems.isEmpty then .ok x else .error (.inconsistent problems)

/-- Reads a bundle and checks it. -/
def loadBundle (text : String) : Except LoadError Bundle :=
  (loadDocument "bundle" decodeBundle text).bind fun bundle => acceptIf bundle.problems bundle

/-! ### Settings -/

/-- The settings of the program. -/
structure Settings where
  transport : HttpSettings
  logLevel : Option String

namespace Settings

/-- The settings of an empty file. -/
def default : Settings := ⟨.empty, none⟩

/-- Reads what is logged. -/
def decodeLog : Decoder (Option String) :=
  decodeRecord "log settings" ["level"] fun origin fields =>
    fields.nullable "level" (decodeText origin)

/-- Reads settings. -/
def decode : Decoder Settings :=
  decodeRecord "settings" ["transport", "log"] fun origin fields =>
    Settings.mk <$> fields.defaulted "transport" .empty (decodeHttpSettings origin)
      <*> fields.defaulted "log" none (decodeLog origin)

/-- Reads the text of a settings file. -/
def parse (text : List Char) : Option Settings := do
  let table ← Toml.parse text
  (decode .settings (Node.ofJson table)).toOption

end Settings

end PageFlow
