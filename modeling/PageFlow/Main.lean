/-
# The program

The command on real files: the arguments, the clock and the token of requests
come from the system. Requests are not sent anywhere.
-/
import PageFlow.Command
import Std.Time.DateTime.Timestamp

namespace PageFlow

/-- The cause of a failure to use a file. -/
def fileError : IO.Error → FileError
  | .noFileOrDirectory _ _ _ => .notFound
  | .inappropriateType _ code details => ofCode code details
  | .userError _ => .other "stream did not contain valid UTF-8"
  | e => .other (toString e)
where
  /-- The cause with a code of the system, which may come with a minus sign. -/
  ofCode (code : UInt32) (details : String) : FileError :=
    if code = 20 ∨ -code = 20 then .notDirectory
    else if code = 21 ∨ -code = 21 then .isDirectory
    else .other details

/-- The outcome of an action on a file. -/
def attempt {α : Type} (action : IO α) : IO (Except FileError α) := do
  return (← action.toBaseIO).mapError fileError

/-- The surroundings that the system gives. -/
def systemSurroundings (token : Option String) : Surroundings IO where
  readFile path := attempt (IO.FS.readFile path)
  writeFile path text := attempt (IO.FS.writeFile path text)
  isFile path := do
    match ← attempt (IO.FS.readFile path) with
    | .error .notFound => return false
    | .error .notDirectory => return false
    | .error .isDirectory => return false
    | _ => return true
  now := do return (← Std.Time.Timestamp.now).toNanosecondsSinceUnixEpoch.val.toNat
  exchange request := .error (.requestFailed request.url "no network")
  token := token

end PageFlow

/-- Runs the command with the arguments of the program. -/
def main (arguments : List String) : IO UInt32 := do
  let token ← IO.getEnv "UIFLOW_API_TOKEN"
  let outcome ← PageFlow.Command.run (PageFlow.systemSurroundings token) arguments
  (← IO.getStdout).putStr outcome.stdout
  (← IO.getStderr).putStr outcome.stderr
  return outcome.code.toUInt32
