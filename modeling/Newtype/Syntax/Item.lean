import Newtype.Syntax.TypeExpr

/-!
# Items

The parts of a source file the generator looks at: structs, implementation blocks,
functions, inline modules, imports and type aliases. All other items count as
`other`.

* `Attribute` — an outer attribute.
* `StructItem` — a struct.
* `UseTree` — what an import brings into scope.
* `MethodHead`, `ImplHead` — the signature of a method and the head of an
  implementation block.
* `Item` — an item. A function is the list of items that stand directly in its
  body.
-/

namespace Newtype

/-- What follows the path of an attribute. -/
inductive AttributeForm where
  /-- nothing: `#[path]` -/
  | bare
  /-- tokens in brackets: `#[path(…)]` -/
  | list (tokens : List Tree)
  /-- a value: `#[path = …]` -/
  | value (pos : Position)

/-- An outer attribute. -/
structure Attribute where
  path : Path
  form : AttributeForm
  spelling : List Tree

/-- How a struct lists its fields. -/
inductive FieldsForm where
  | unit
  | braced
  | tuple
  deriving DecidableEq

/-- A struct. -/
structure StructItem where
  attributes : List Attribute
  visibility : List Tree
  name : String
  pos : Position
  /-- the place of the `<` of its generic parameters, if it has any parameter -/
  generics : Option Position
  form : FieldsForm
  /-- the place of the bracket around its fields, if it has any field -/
  fields : Option Position

/-- What an import brings into scope. -/
inductive UseTree where
  | path (name : String) (tree : UseTree)
  | name (name : String)
  | rename (name bound : String)
  | glob
  | group (trees : List UseTree)

/-- The signature of a method: whether its first parameter is a receiver, and its
result type if one is written. -/
structure MethodHead where
  name : String
  receiver : Bool
  result : Option TypeExpr

/-- The head of an implementation block: the segment names of the trait, if it
implements one, and the self type. -/
structure ImplHead where
  trait : Option (List String)
  self : TypeExpr

/-- An item of a source file. -/
inductive Item where
  | struct (s : StructItem)
  | impl (head : ImplHead) (methods : List (MethodHead × List Item))
  | function (body : List Item)
  | module (name : String) (items : List Item)
  | imports (tree : UseTree)
  | typeAlias (name : String) (target : TypeExpr)
  | other

end Newtype
