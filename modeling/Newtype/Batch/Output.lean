import Newtype.Batch.Run
import Newtype.Files.Walk

/-!
# Sources and output in files

Taking sources from files, and writing a batch into a directory. A file is written
only if its text changes. A declaration that is refused gets a file that stops the
compiler with its message, unless the name has a wrapper.

* `GenerateFault` — why an operation fails.
* `Generator.addFile`, `Generator.addDir` — sources from files.
* `Generator.outputs` — the files of a batch.
* `Generator.writeTo` — writing them.
-/

namespace Newtype

/-- Why an operation of a generator fails. -/
inductive GenerateFault where
  | access (path : String) (cause : FileFault)
  | parse (path : String)
  | cancelled
  deriving DecidableEq

/-- The wording of a fault. -/
def GenerateFault.message : GenerateFault → String
  | .access path _ => "failed to access `" ++ path ++ "`"
  | .parse path => "failed to parse `" ++ path ++ "`"
  | .cancelled => "generation was cancelled"

namespace Generator

/-! ### Sources -/

/-- Takes up a source text that stands in no file. -/
def addText (g : Generator) (text : String) : Except GenerateFault Generator :=
  match g.addSource? text none with
  | some g' => .ok g'
  | none => .error (.parse "<string>")

/-- Takes up a file. -/
def addFile (g : Generator) (s : FileStore) (path : String) : Except GenerateFault Generator :=
  match s.readText path with
  | .error e => .error (.access path e)
  | .ok text =>
    match g.addSource? text (some path) with
    | some g' => .ok g'
    | none => .error (.parse path)

/-- Takes up files one after the other, up to the first that fails. -/
def addFiles (s : FileStore) : Generator → List String → Generator × Option GenerateFault
  | g, [] => (g, none)
  | g, path :: paths =>
    match g.addFile s path with
    | .ok g' => g'.addFiles s paths
    | .error e => (g, some e)

/-- Takes up all source files below a directory. What comes before a file that fails
stays. -/
def addDir (g : Generator) (s : FileStore) (path : String) : Generator × Option GenerateFault :=
  match s.sourceFiles path with
  | .error e => (g, some (.access path e))
  | .ok paths => g.addFiles s paths

/-! ### Output -/

/-- Files in place of refused declarations, for names that have none yet. -/
def rejectionArtifacts (g : Generator) : List String → List Rejected → List Artifact
  | _, [] => []
  | owned, (t, r) :: rs =>
    let file := artifactName t.name
    if owned.contains file then g.rejectionArtifacts owned rs
    else
      ⟨file, g.withHeader (rejectionText (r.diagnostic t))⟩ ::
        g.rejectionArtifacts (file :: owned) rs

/-- All files a batch writes. -/
def outputs (g : Generator) : List Artifact :=
  let own := g.artifacts g.events
  own ++ g.rejectionArtifacts (own.map (·.file)) (rejections g.events)

/-- What writing has done: the store, the paths, and those whose file has changed. -/
structure Written where
  store : FileStore
  paths : List String
  changed : List String

/-- Writes a file if its text changes. -/
def writeArtifact (dir : String) (w : Written) (a : Artifact) : Except GenerateFault Written :=
  let path := joinPath dir a.file
  if (w.store.readText path).toOption = some a.text then
    .ok { w with paths := w.paths ++ [path] }
  else
    match w.store.write path (.text a.text) with
    | .ok s => .ok ⟨s, w.paths ++ [path], w.changed ++ [path]⟩
    | .error e => .error (.access path e)

/-- Writes files one after the other, up to the first that fails. -/
def writeArtifacts (dir : String) : Written → List Artifact → Written × Option GenerateFault
  | w, [] => (w, none)
  | w, a :: as =>
    match writeArtifact dir w a with
    | .ok w' => writeArtifacts dir w' as
    | .error e => (w, some e)

/-- Writes all files of a batch into a directory. -/
def writeTo (g : Generator) (s : FileStore) (dir : String) : Written × Option GenerateFault :=
  match s.makeDir dir with
  | (s', some e) => (⟨s', [], []⟩, some (.access dir e))
  | (s', none) => writeArtifacts dir ⟨s', [], []⟩ g.outputs

end Generator
end Newtype
