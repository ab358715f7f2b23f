import Newtype.Files.Store

/-!
# Walking a directory

All files below a directory: what stands in a directory is visited by name, and what
stands in a directory inside it comes before its next neighbour.

* `FileStore.filesBelow` — the files, with their written paths.
* `isSourceFile` — which of them are source files.
-/

namespace Newtype

/-- The name of a source file: `.rs` behind something. -/
def isSourceName (name : String) : Bool :=
  ".rs".toList.isSuffixOf name.toList && 3 < name.length

/-- The written path is that of a source file. -/
def isSourceFile (path : String) : Bool :=
  match (pathNames path).getLast? with
  | some w => isSourceName w
  | none => false

namespace FileStore

/-- The files at or below a place, with their written paths. Directories nest at most
`depth` deep. -/
def filesBelow (s : FileStore) : Nat → List String → String → List String
  | 0, _, _ => []
  | depth + 1, place, path =>
    match s.node? place with
    | some (.file _) => [path]
    | some .dir =>
      (s.children place).flatMap fun e => s.filesBelow depth (place ++ [e.1]) (joinPath path e.1)
    | none => []

/-- The source files at or below a path. -/
def sourceFiles (s : FileStore) (path : String) : Except FileFault (List String) := do
  let place ← s.locate path
  match s.node? place with
  | none => .error .notFound
  | some (.file _) => .ok ([path].filter isSourceFile)
  | some .dir =>
    .ok ((s.filesBelow (s.nodes.length + 1) place path).filter isSourceFile)

end FileStore
end Newtype
