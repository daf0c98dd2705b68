import SecureWorld.ServiceList.Command

/-!
# The program

The command `service-table-gen` on the files of the machine it runs on.
-/

namespace SecureWorld.ServiceList

/-- The number of an error of the operating system, which some of its calls give with the sign changed. -/
def osNumber (code : UInt32) : UInt32 :=
  if code < 0x80000000 then code else 0 - code

/-- The cause of a failed access to a file. -/
def fileError : IO.Error → Files.Error
  | .noFileOrDirectory .. => .missing
  | .permissionDenied .. => .denied
  | .inappropriateType _ code _ => if osNumber code = 20 then .notDirectory else .directory
  | .invalidArgument _ code details =>
    if osNumber code = 36 then .nameTooLong
    else .other (details ++ " (os error " ++ toString (osNumber code) ++ ")")
  | e => .other e.toString

/-- Read the bytes of a file. -/
def readBytes (file : String) : IO (Except Files.Error ByteArray) := do
  try return .ok (← IO.FS.readBinFile file)
  catch e => return .error (fileError e)

/-- Write a file, and tell why that failed, if it did. -/
def writeText (file text : String) : IO (Option Files.Error) := do
  try
    IO.FS.writeFile file text
    return none
  catch e => return some (fileError e)

/-- Carry out what an invocation asks for. -/
def carryOut : Invocation → IO Outcome
  | .help => return .printed helpText
  | .version => return .printed versionText
  | .misuse => return .misused
  | .generate o => do
    match o.deedOfBytes (← readBytes o.list) with
    | .finish outcome => return outcome
    | .save file text count => return saved file count (← writeText file text)

end SecureWorld.ServiceList

open SecureWorld.ServiceList in
/-- Carry out a command, and print what it has to say. -/
def main (args : List String) : IO UInt32 := do
  let outcome ← carryOut (.ofArgs args)
  IO.print outcome.stdout
  IO.eprint outcome.stderr
  return outcome.code
