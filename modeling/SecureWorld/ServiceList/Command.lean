import SecureWorld.Files.Tree
import SecureWorld.ServiceList.IdModule
import SecureWorld.ServiceList.Invocation
import SecureWorld.ServiceList.Parser

/-!
# The command

The command `service-table-gen` reads a service list from a file and prints the module of service numbers,
writes it to a file, or prints the linker arguments. What it does is decided here, from its invocation and from
the files that it finds.
-/

namespace SecureWorld.ServiceList

/-- What the command leaves behind when it ends. -/
structure Outcome where
  code : UInt32
  stdout : String
  stderr : String
deriving DecidableEq, Repr

/-- The end of a command that prints a text. -/
def Outcome.printed (text : String) : Outcome := ⟨0, text, ""⟩

/-- The end of a command that fails. -/
def Outcome.failed (reason : String) : Outcome := ⟨1, "", "ERROR: " ++ reason ++ "\n"⟩

/-- The end of a command that was called in a wrong way. -/
def Outcome.misused : Outcome := ⟨2, "", ""⟩

/-- The end of a command that halts on a fault. -/
def Outcome.halted : Outcome := ⟨134, "", ""⟩

/-- What is left to do once the list is read: nothing more than to end, or to write a file first. -/
inductive Deed where
  | finish (outcome : Outcome)
  | save (file text : String) (count : Nat)
deriving DecidableEq, Repr

/-- What a command does with the entries of its list. -/
def Options.deed (o : Options) (es : List Entry) : Deed :=
  if o.wrap then .finish (.printed (wrapFlags es))
  else
    match render es, o.out with
    | .ok text, some file => .save file text es.length
    | .ok text, none => .finish (.printed text)
    | .error (.refused e), _ => .finish (.failed e.message)
    | .error (.fault _), _ => .finish .halted

/-- What a command does with the bytes of its list. -/
def Options.deedOfBytes (o : Options) : Except Files.Error ByteArray → Deed
  | .error e => .finish (.failed e.message)
  | .ok bytes =>
    match String.fromUTF8? bytes with
    | none => .finish (.failed Files.Error.notText.message)
    | some text =>
      match parse text with
      | .ok es => o.deed es
      | .error e => .finish (.failed e.message)

/-- The end of a command after its attempt to write a file. -/
def saved (file : String) (count : Nat) : Option Files.Error → Outcome
  | none => ⟨0, "", "wrote " ++ toString count ++ " secure services to " ++ file ++ "\n"⟩
  | some e => .failed e.message

/-- The text of the help. -/
def helpText : String :=
  String.join (["Generates the secure service id module and the REE wrap list from secure_service.tbl",
    "",
    "Usage: service-table-gen [OPTIONS] <TBL>",
    "",
    "Arguments:",
    "  <TBL>  Path to the secure service table",
    "",
    "Options:",
    "  -o, --out <FILE>  Write the `ServiceId` module here instead of stdout",
    "      --wrap        Print the REE `-Wl,--wrap=` linker arguments instead of the module",
    "  -h, --help        Print help",
    "  -V, --version     Print version"].map (· ++ "\n"))

/-- The name and version of the command. -/
def versionText : String := "service-table-gen 0.0.0\n"

/-- The end of a command, and the files as it leaves them. -/
def run (t : Files.Tree) (args : List String) : Outcome × Files.Tree :=
  match Invocation.ofArgs args with
  | .help => (.printed helpText, t)
  | .version => (.printed versionText, t)
  | .misuse => (.misused, t)
  | .generate o =>
    match o.deedOfBytes (t.read o.list) with
    | .finish outcome => (outcome, t)
    | .save file text count =>
      match t.write file text.toUTF8 with
      | .ok t => (saved file count none, t)
      | .error e => (saved file count (some e), t)

end SecureWorld.ServiceList
