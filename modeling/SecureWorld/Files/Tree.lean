import SecureWorld.Files.Error
import SecureWorld.Files.Path

/-!
# File trees

Directories and files as a program finds them: a path is followed name by name from the root or from the working
directory, and what stands at its end is read or written.
-/

namespace SecureWorld.Files

/-- A place in a tree: the names that lead to it from the root, the innermost first. -/
abbrev Place := List String

/-- What stands at a place. -/
inductive Node where
  | directory
  | file (bytes : ByteArray)

/-- A tree of directories and files. -/
structure Tree where
  /-- What stands at the places below the root. -/
  below : Place → Option Node
  /-- The working directory. -/
  here : Place

namespace Tree

/-- What stands at a place. The root is a directory. -/
def node (t : Tree) : Place → Option Node
  | [] => some .directory
  | p => t.below p

/-- Go from a place to the one that a name tells. Only in a directory are there names, of which `.` is the
directory itself and `..` the one around it. -/
def enter (t : Tree) (p : Place) (name : String) : Except Error Place :=
  match t.node p with
  | none => .error .missing
  | some (.file _) => .error .notDirectory
  | some .directory =>
    if name = "." then .ok p
    else if name = ".." then .ok p.tail
    else if nameLimit < name.utf8ByteSize then .error .nameTooLong
    else .ok (name :: p)

/-- Follow names from a place. -/
def follow (t : Tree) (p : Place) (names : List String) : Except Error Place :=
  names.foldlM t.enter p

/-- The place where a path starts. -/
def start (t : Tree) (path : Path) : Place :=
  if path.absolute then [] else t.here

/-- What is read at a place. After a slash, a file is not what was asked for. -/
def bytesAt (t : Tree) (slashed : Bool) (p : Place) : Except Error ByteArray :=
  match t.node p with
  | none => .error .missing
  | some .directory => .error .directory
  | some (.file bytes) => if slashed then .error .notDirectory else .ok bytes

/-- The bytes of the file at the end of a path. -/
def read (t : Tree) (text : String) : Except Error ByteArray :=
  if pathLimit < text.utf8ByteSize then .error .nameTooLong
  else
    let path := Path.ofString text
    t.follow (t.start path) path.names >>= t.bytesAt path.slashed

/-- The tree with a file at a place. -/
def put (t : Tree) (p : Place) (bytes : ByteArray) : Tree :=
  { t with below := fun q => if q = p then some (.file bytes) else t.below q }

/-- The place where a name can be written in a place: a name before a slash, a directory, and what leads back to
one, are no files. -/
def vacancy (t : Tree) (slashed : Bool) (p : Place) (name : String) : Except Error Place :=
  match t.node p with
  | some .directory =>
    if slashed then .error .directory
    else
      match t.enter p name with
      | .error e => .error e
      | .ok q =>
        match t.node q with
        | some .directory => .error .directory
        | _ => .ok q
  | some (.file _) => .error .notDirectory
  | none => .error .missing

/-- Write the file at the end of a path. Its directory must be there; the file is made or replaced. -/
def write (t : Tree) (text : String) (bytes : ByteArray) : Except Error Tree :=
  if pathLimit < text.utf8ByteSize then .error .nameTooLong
  else
    let path := Path.ofString text
    match path.names.getLast? with
    | none => .error .directory
    | some name => do
      let p ← t.follow (t.start path) path.names.dropLast
      return t.put (← t.vacancy path.slashed p name) bytes

end Tree

end SecureWorld.Files
