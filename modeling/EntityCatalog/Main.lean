import EntityCatalog.CommandLine.Run

/-!
The command line: arguments and files of the machine in, texts and an exit code out.
-/

namespace EntityCatalog

/-- The reason of a failure of the system in its own words. -/
def FileError.ofIO (e : IO.Error) : FileError :=
  match e with
  | .noFileOrDirectory _ _ _ => .notFound
  | .inappropriateType _ code details => ofCode code details
  | .permissionDenied _ code details => ofCode code details
  | .invalidArgument _ code details => ofCode code details
  | e => .other e.toString
where
  /-- A reason that is told by its number. -/
  ofCode (code : UInt32) (details : String) : FileError :=
    if code = 20 then .notDirectory
    else if code = 21 then .isDirectory
    else if code = 36 then .nameTooLong
    else .other (details ++ " (os error " ++ toString code ++ ")")

/-- Access to the files of the machine. -/
def machineFiles : Files IO where
  read path := do
    if let some e := Path.flaw? path then return .error e
    try
      let bytes ← IO.FS.readBinFile path
      match String.fromUTF8? bytes with
      | some text => return .ok text
      | none => return .error (.other "stream did not contain valid UTF-8")
    catch e => return .error (FileError.ofIO e)
  list path := do
    try
      let entries ← (← IO.FS.realPath path).readDir
      let names := (entries.map (·.fileName)).toList
      return some (names.mergeSort fun a b => decide (a ≤ b))
    catch _ => return none

end EntityCatalog

/-- Runs a call. -/
def main (arguments : List String) : IO UInt32 := do
  let outcome ← EntityCatalog.CommandLine.run EntityCatalog.machineFiles arguments
  (← IO.getStderr).putStr outcome.stderr
  (← IO.getStdout).putStr outcome.stdout
  return outcome.exitCode
