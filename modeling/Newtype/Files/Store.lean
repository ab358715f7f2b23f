import Newtype.Files.Bytes

/-!
# A store of files

Directories and files below one directory, from which all paths start.

* `Content` — what a file holds: text, or bytes that are no text.
* `FileStore` — files and directories by the names that lead to them.
* `FileFault` — why an operation fails.
* `readText`, `makeDir`, `write`, `put`, `children` — the operations.
* `joinPath` — the written form of a path into a directory.
-/

namespace Newtype

/-- What a file holds. -/
inductive Content where
  | text (s : String)
  /-- bytes that are no text -/
  | bytes (bs : List Nat)
  deriving DecidableEq

/-- Bytes as the content of a file. -/
def Content.ofBytes (bs : List Nat) : Content :=
  match Files.decode? bs with
  | some s => .text s
  | none => .bytes bs

/-- The content as text, with replacement characters where it is none. -/
def Content.shown : Content → String
  | .text s => s
  | .bytes bs => Files.decodeLossy bs

/-- A file or a directory. -/
inductive Node where
  | dir
  | file (c : Content)
  deriving DecidableEq

/-- Why an operation on files fails. -/
inductive FileFault where
  | notFound
  | isDirectory
  | notDirectory
  | alreadyExists
  | notText
  deriving DecidableEq

/-- Files and directories by the names that lead to them. -/
structure FileStore where
  nodes : List (List String × Node)

/-! ### Paths -/

/-- The path ends in a slash, so it can only be a directory. -/
def endsInSlash (path : String) : Bool := path.toList.getLast? == some '/'

/-- The steps of a path: names, `.` to stay and `..` to go back. -/
def pathSteps (path : String) : List String :=
  ((path.toList.splitOn '/').map String.ofList).filter (· != "")

/-- The steps of a path without those that stay, unless the path starts with one. -/
def pathNames (path : String) : List String :=
  match pathSteps path with
  | [] => []
  | w :: ws => w :: ws.filter (· != ".")

/-- The written form of the path to a name in a directory. -/
def joinPath (dir name : String) : String :=
  if dir.isEmpty || endsInSlash dir then dir ++ name else dir ++ "/" ++ name

namespace FileStore

/-- Nothing but the directory from which all paths start. -/
def empty : FileStore := ⟨[]⟩

/-- What stands at a place. -/
def node? (s : FileStore) (place : List String) : Option Node :=
  if place.isEmpty then some .dir else s.nodes.lookup place

/-- Puts something at a place. -/
def set (s : FileStore) (place : List String) (n : Node) : FileStore :=
  ⟨(place, n) :: s.nodes.filter (·.1 != place)⟩

/-- The place some steps lead to from a directory. All places but the last must be
directories. -/
def follow (s : FileStore) : List String → List String → Except FileFault (List String)
  | place, [] => .ok place
  | place, w :: ws =>
    match s.node? place with
    | none => .error .notFound
    | some (.file _) => .error .notDirectory
    | some .dir =>
      if w == "." then s.follow place ws
      else if w == ".." then s.follow place.dropLast ws
      else s.follow (place ++ [w]) ws

/-- The place of a path. A slash at its end stays at a directory. -/
def locate (s : FileStore) (path : String) : Except FileFault (List String) :=
  if path.isEmpty then .error .notFound
  else s.follow [] (if endsInSlash path then pathSteps path ++ ["."] else pathSteps path)

/-- The steps lead to a directory. -/
def isDir (s : FileStore) (steps : List String) : Bool :=
  match s.follow [] steps with
  | .ok place => s.node? place == some .dir
  | .error _ => false

/-! ### Operations -/

/-- The text of a file. -/
def readText (s : FileStore) (path : String) : Except FileFault String := do
  let place ← s.locate path
  match s.node? place with
  | none => .error .notFound
  | some .dir => .error .isDirectory
  | some (.file (.text t)) => .ok t
  | some (.file (.bytes _)) => .error .notText

/-- Makes one directory in a directory that is there. The last step has to name it. -/
def makeOne (s : FileStore) (steps : List String) : Except FileFault FileStore := do
  let place ← s.follow [] steps.dropLast
  match s.node? place with
  | none => .error .notFound
  | some (.file _) => .error .notDirectory
  | some .dir =>
    match steps.getLast? with
    | none => .error .alreadyExists
    | some w =>
      if w == "." || w == ".." || (s.node? (place ++ [w])).isSome then .error .alreadyExists
      else .ok (s.set (place ++ [w]) .dir)

/-- Makes the directory some steps lead to; if a directory on the way is missing, that
one first, by the names of the path, the last of them in front. What has been made stays
also if the last directory cannot be made. -/
def makeAll (s : FileStore) (steps : List String) : List String → FileStore × Option FileFault
  | [] => (s, none)
  | _ :: up =>
    match s.makeOne steps with
    | .ok s' => (s', none)
    | .error .notFound =>
      match s.makeAll up.reverse up with
      | (s', some e) => (s', some e)
      | (s', none) =>
        match s'.makeOne steps with
        | .ok s'' => (s'', none)
        | .error e => (s', if s'.isDir steps then none else some e)
    | .error e => (s, if s.isDir steps then none else some e)

/-- Makes a directory and all that lead to it. -/
def makeDir (s : FileStore) (path : String) : FileStore × Option FileFault :=
  s.makeAll (pathSteps path) (pathNames path).reverse

/-- Writes a file into a directory that is there. -/
def write (s : FileStore) (path : String) (c : Content) : Except FileFault FileStore := do
  let place ← s.locate path
  match s.node? place.dropLast, s.node? place with
  | none, _ => .error .notFound
  | some (.file _), _ => .error .notDirectory
  | some .dir, some .dir => .error .isDirectory
  | some .dir, _ => .ok (s.set place (.file c))

/-- Puts a file with all directories that lead to it. -/
def put (s : FileStore) (path : String) (c : Content) : FileStore :=
  let up := (pathNames path).dropLast
  let (s', _) := s.makeAll up up.reverse
  (s'.write path c).toOption.getD s'

/-- What stands directly in a directory, by name. -/
def children (s : FileStore) (place : List String) : List (String × Node) :=
  let inside := s.nodes.filterMap fun (p, n) =>
    match p.getLast? with
    | some w => if p.dropLast == place then some (w, n) else none
    | none => none
  inside.mergeSort fun a b => a.1 ≤ b.1

/-- The files directly in a directory with their written paths. -/
def filesIn (s : FileStore) (dir : String) : List (String × Content) :=
  match s.locate dir with
  | .error _ => []
  | .ok place =>
    (s.children place).filterMap fun (w, n) =>
      match n with
      | .file c => some (joinPath dir w, c)
      | .dir => none

end FileStore
end Newtype
