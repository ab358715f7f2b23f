import Newtype.Kind.Basic
import Newtype.Syntax.TypeExpr

/-!
# The registry of known types

Full paths of types with what is known about them, in the order of the paths. A
leading `::` does not matter. A path that is not registered is looked up by its
last segment.

* `Registry.register`, `unregister`, `remove`, `get?`, `getByName?` — the entries.
* `Registry.builtin` — the entries every generator starts with.
* `Registry.resolvePath?` — a path: primitive, then entry, then last segment.
* `Registry.resolve` — a type as written.
-/

namespace Newtype

/-- A path without the `::` at its start, however often it is repeated. -/
def stripColons : List Char → List Char
  | ':' :: ':' :: cs => stripColons cs
  | cs => cs

/-- A reversed text up to the first `::`. -/
def beforeColons : List Char → List Char
  | [] => []
  | ':' :: ':' :: _ => []
  | c :: cs => c :: beforeColons cs

/-- The part of a path behind its last `::`. -/
def lastSegment (path : String) : String :=
  String.ofList (beforeColons path.toList.reverse).reverse

/-- Known types by full path, in the order of the paths. -/
structure Registry where
  entries : List (String × Kind)

namespace Registry

/-- The path under which a type is kept. -/
def key (path : String) : String := String.ofList (stripColons path.toList)

/-- No known types. -/
def empty : Registry := ⟨[]⟩

/-- Puts an entry in its place; it replaces one of the same path. -/
def insertEntry (p : String) (k : Kind) : List (String × Kind) → List (String × Kind)
  | [] => [(p, k)]
  | (q, l) :: es =>
    if p < q then (p, k) :: (q, l) :: es
    else if p = q then (p, k) :: es
    else (q, l) :: insertEntry p k es

/-- Makes a type known. -/
def register (r : Registry) (path : String) (k : Kind) : Registry :=
  ⟨insertEntry (key path) k r.entries⟩

/-- What is known about a path. -/
def get? (r : Registry) (path : String) : Option Kind :=
  (r.entries.find? (·.1 == key path)).map (·.2)

/-- A path is known. -/
def contains (r : Registry) (path : String) : Bool := (r.get? path).isSome

/-- Forgets a path. -/
def unregister (r : Registry) (path : String) : Registry :=
  ⟨r.entries.filter (·.1 != key path)⟩

/-- Forgets a path, and tells what was known about it. -/
def remove (r : Registry) (path : String) : Option Kind × Registry :=
  (r.get? path, r.unregister path)

/-- What is known about the first path that ends in a name. -/
def getByName? (r : Registry) (name : String) : Option Kind :=
  (r.entries.find? fun e => lastSegment e.1 == name).map (·.2)

/-- The entries every generator starts with. A span of time has no text form. -/
def builtins : List (String × Kind) :=
  let duration := Kind.named { TraitSet.value with display := false }
  [("uuid::Uuid", .uuid), ("rust_decimal::Decimal", .decimal),
    ("std::string::String", .string), ("alloc::string::String", .string),
    ("std::time::Duration", duration), ("core::time::Duration", duration)]

/-- Adds the entries every generator starts with. -/
def registerBuiltins (r : Registry) : Registry :=
  builtins.foldl (fun r e => r.register e.1 e.2) r

/-- The registry every generator starts with. -/
def builtin : Registry := empty.registerBuiltins

/-- What a path stands for: a primitive, an entry, or the first entry that ends in
the last segment. -/
def resolvePath? (r : Registry) (path : String) : Option Kind :=
  match Primitive.ofName? path with
  | some p => some (.primitive p)
  | none => (r.get? path).or (r.getByName? (lastSegment path))

/-- The kind of a type as it is written. -/
def resolve (r : Registry) (t : TypeExpr) : Kind :=
  (t.path?.bind r.resolvePath?).getD (.named .assumed)

end Registry
end Newtype
