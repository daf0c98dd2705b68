/-!
# Invocations

The arguments of the command `service-table-gen`: the file of the service list, and options that say where
the module goes or that the linker arguments are wanted.
-/

namespace SecureWorld.ServiceList

/-- What the command was told to do. -/
structure Options where
  /-- The file with the service list. -/
  list : String
  /-- The file for the module. -/
  out : Option String
  /-- Whether to print the linker arguments and not the module. -/
  wrap : Bool
deriving DecidableEq, Repr

/-- What the arguments ask for. -/
inductive Invocation where
  | generate (options : Options)
  | help
  | version
  | misuse
deriving DecidableEq, Repr

namespace Invocation

/-- The arguments read so far. -/
structure Given where
  list : Option String
  out : Option String
  wrap : Bool

/-- The invocation after the last argument. A list is needed, and the linker arguments go to no file. -/
def finish : Given → Invocation
  | ⟨some list, out, wrap⟩ => if wrap && out.isSome then .misuse else .generate ⟨list, out, wrap⟩
  | ⟨none, _, _⟩ => .misuse

/-- Take an argument as the list, of which there is one. -/
def takeList (g : Given) (arg : String) : Option Given :=
  if g.list.isSome || arg.isEmpty then none else some { g with list := some arg }

/-- Take a value as the file for the module, which is given once. -/
def takeOut (g : Given) (arg : String) : Option Given :=
  if g.out.isSome || arg.isEmpty then none else some { g with out := some arg }

/-- The arguments after `--`, none of which is an option. -/
def operands (g : Given) : List String → Invocation
  | [] => finish g
  | arg :: rest =>
    match takeList g arg with
    | some g => operands g rest
    | none => .misuse

/-- Whether an argument is an option and no value; a single dash is a value. -/
def isOption (arg : String) : Bool :=
  match arg.toList with
  | '-' :: _ :: _ => true
  | _ => false

/-- What an argument is. -/
inductive Argument where
  /-- The end of the options. -/
  | stop
  | help
  | version
  | wrap
  /-- The file for the module in the argument itself. -/
  | out (file : String)
  /-- The file for the module is the next argument. -/
  | outNext
  | operand (text : String)
  | unknown

/-- The value behind a short option, which an equals sign may introduce. -/
def attached : List Char → String
  | '=' :: cs => String.ofList cs
  | cs => String.ofList cs

/-- Tell what an argument is. Options of one letter may be followed at once by others or by their value. -/
def classify (arg : String) : Argument :=
  match arg.toList with
  | ['-', '-'] => .stop
  | '-' :: '-' :: cs =>
    if cs = "help".toList then .help
    else if cs = "version".toList then .version
    else if cs = "wrap".toList then .wrap
    else if cs = "out".toList then .outNext
    else if "out=".toList.isPrefixOf cs then .out (String.ofList (cs.drop 4))
    else .unknown
  | '-' :: 'h' :: _ => .help
  | '-' :: 'V' :: _ => .version
  | ['-', 'o'] => .outNext
  | '-' :: 'o' :: cs => .out (attached cs)
  | '-' :: _ :: _ => .unknown
  | _ => .operand arg

/-- Read arguments from left to right; help and version count as soon as they are met. -/
def read (g : Given) : List String → Invocation
  | [] => finish g
  | arg :: rest =>
    match classify arg with
    | .stop => operands g rest
    | .help => .help
    | .version => .version
    | .wrap => if g.wrap then .misuse else read { g with wrap := true } rest
    | .out file =>
      match takeOut g file with
      | some g => read g rest
      | none => .misuse
    | .outNext =>
      match rest with
      | [] => .misuse
      | file :: rest =>
        if isOption file then .misuse
        else
          match takeOut g file with
          | some g => read g rest
          | none => .misuse
    | .operand text =>
      match takeList g text with
      | some g => read g rest
      | none => .misuse
    | .unknown => .misuse

/-- The invocation that arguments ask for. -/
def ofArgs (args : List String) : Invocation :=
  read ⟨none, none, false⟩ args

end Invocation

end SecureWorld.ServiceList
