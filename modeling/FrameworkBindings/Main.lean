import FrameworkBindings.CommandLine

/-!
# The program

Runs a request against the files of the machine: code and reports go to the standard output, events
and complaints to the standard error.

This is all there is outside of pure functions.  The program proper takes the files as an argument
(`Files`), so that the same definitions run on a machine and on trees of files in memory; here the
machine is put in.  What the machine says of a failure is turned into the reasons the program knows
(`fileErrorOf`), by number where there is one, since the words differ from system to system.
-/

namespace FrameworkBindings

/-- The reason for an error of the system, by its number; other numbers are told in the words of the
system. -/
def FileError.ofSystem (code : UInt32) (details : String) : FileError :=
  if code = 2 then .notFound
  else if code = 20 then .notDirectory
  else if code = 21 then .isDirectory
  else if code = 36 then .nameTooLong
  else .other (details ++ " (os error " ++ toString code.toNat ++ ")")

/-- The reason for an error of the machine, whatever kind core takes it for. -/
def fileErrorOf : IO.Error → FileError
  | .noFileOrDirectory _ code details => .ofSystem code details
  | .inappropriateType _ code details => .ofSystem code details
  | .permissionDenied _ code details => .ofSystem code details
  | .invalidArgument _ code details => .ofSystem code details
  | e => .other (toString e)

/-- The files of the machine.  A file is read as a whole and has to be text. -/
def machineFiles : Files IO where
  read path := do
    match ← (IO.FS.readBinFile path).toBaseIO with
    | .error e => return .error (fileErrorOf e)
    | .ok bytes =>
      match String.fromUTF8? bytes with
      | some text => return .ok text
      | none => return .error .notText
  write path text := do
    match ← (IO.FS.writeFile path text).toBaseIO with
    | .error e => return .error (fileErrorOf e)
    | .ok () => return .ok ()

end FrameworkBindings

open FrameworkBindings in
/-- Carries out the request made by the arguments, then shows the events down to the level that was
asked for. -/
def main (arguments : List String) : IO UInt32 := do
  let finished ← CommandLine.runArguments machineFiles arguments
  let limit :=
    match CommandLine.parse arguments with
    | .ok request => request.level
    | .error _ => .info
  for event in finished.journal do
    if limit.shows event.level then
      IO.eprintln event.line
  IO.print finished.stdout
  IO.eprint finished.stderr
  return UInt32.ofNat finished.status
