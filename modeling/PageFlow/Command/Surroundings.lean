/-
# The surroundings of a command

A command reads and writes text files, looks at the clock and sends requests.
It does so in some monad, so that it runs on real files as well as on a
directory that is a value.

Key definitions: `FileError`, `Surroundings`, `Directory`, `Directory.surroundings`.
-/
import PageFlow.Transport.Http

namespace PageFlow

/-- Why a file cannot be read or written. -/
inductive FileError where
  | notFound
  | notDirectory
  | isDirectory
  | other (message : String)

/-- The wording of a file error. -/
def FileError.message : FileError → String
  | .notFound => "No such file or directory (os error 2)"
  | .notDirectory => "Not a directory (os error 20)"
  | .isDirectory => "Is a directory (os error 21)"
  | .other message => message

/-- What a command finds around it. -/
structure Surroundings (m : Type → Type) where
  readFile : String → m (Except FileError String)
  writeFile : String → String → m (Except FileError Unit)
  isFile : String → m Bool
  /-- Nanoseconds since the start of 1970. -/
  now : m Nat
  /-- Sends a request that can be written. -/
  exchange : PreparedRequest → TransportAnswer
  /-- The token of requests when the settings have none. -/
  token : Option String

/-- The text files below a directory under the parts of their paths. -/
abbrev Directory := List (List String × String)

namespace Directory

/-- The parts of a path: those that are not empty and not `.`. -/
def parts (path : String) : List String :=
  (Text.split '/' path).filter fun part => part ≠ "" && part ≠ "."

/-- Whether a path can name a directory only. -/
def namesDirectory (path : String) : Bool :=
  ((Text.split '/' path).getLast?).any fun part => part = "" || part = "."

/-- The file at some parts. -/
def file? (d : Directory) (at? : List String) : Option String :=
  (d.find? fun f => f.1 == at?).map (·.2)

/-- Whether there is a directory at some parts. -/
def hasDirectory (d : Directory) (at? : List String) : Bool :=
  at?.isEmpty || d.any fun f => at?.isPrefixOf f.1 && f.1 != at?

/-- Whether a file stands on the way to some parts. -/
def blocked (d : Directory) (at? : List String) : Bool :=
  d.any fun f => f.1.isPrefixOf at? && f.1 != at?

/-- Why there is no file at a path. -/
def fault (d : Directory) (path : String) : FileError :=
  let here := parts path
  if path.startsWith "/" then .notFound
  else if d.blocked here || (d.file? here).isSome then .notDirectory
  else if d.hasDirectory here then .isDirectory
  else .notFound

/-- Reads a file. -/
def read (d : Directory) (path : String) : Except FileError String :=
  if path.startsWith "/" || namesDirectory path then .error (d.fault path)
  else
    match d.file? (parts path) with
    | some text => .ok text
    | none => .error (d.fault path)

/-- Puts a text in the place of a file or behind all files. -/
def put (here : List String) (text : String) : Directory → Directory
  | [] => [(here, text)]
  | (path, old) :: rest =>
    if path = here then (here, text) :: rest else (path, old) :: put here text rest

/-- Writes a file into a directory that is there. -/
def write (d : Directory) (path text : String) : Except FileError Directory :=
  let here := parts path
  if path.startsWith "/" || d.blocked here || d.hasDirectory here then .error (d.fault path)
  else if !d.hasDirectory here.dropLast then .error .notFound
  else if (d.file? here).isSome && namesDirectory path then .error .notDirectory
  else if namesDirectory path then .error .isDirectory
  else .ok (put here text d)

/-- The surroundings made of a directory, in which the clock stands still and
requests are not answered. -/
def surroundings : Surroundings (StateM Directory) where
  readFile path := do return (← get).read path
  writeFile path text := do
    match (← get).write path text with
    | .ok d => set d; return .ok ()
    | .error e => return .error e
  isFile path := do return ((← get).read path).toBool
  now := return 0
  exchange request := .error (.requestFailed request.url "no answer")
  token := none

end Directory
end PageFlow
