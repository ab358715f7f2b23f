import Newtype.Syntax.Item

/-!
# Scopes

What the names in a module stand for. A module binds names by its imports and by
aliases of types with a longer path; a glob binds nothing. A later binding of a name
replaces an earlier one.

* `UseTree.bindings`, `Item.bindings` — the names that an item binds.
* `Scope` — a module: its path in the file and its bindings.
* `Scope.expand` — a path with its first segment replaced.
-/

namespace Newtype

/-- A name and the segments of the path it stands for. -/
abbrev Binding := String × List String

mutual

/-- The names an import binds, behind the segments that lead to it. -/
def UseTree.bindings (lead : List String) : UseTree → List Binding
  | .path w tree => tree.bindings (lead ++ [w])
  | .name w => [(w, lead ++ [w])]
  | .rename w bound => [(bound, lead ++ [w])]
  | .glob => []
  | .group trees => UseTree.bindingsAll lead trees

/-- The names a list of imports binds. -/
def UseTree.bindingsAll (lead : List String) : List UseTree → List Binding
  | [] => []
  | t :: ts => t.bindings lead ++ UseTree.bindingsAll lead ts

end

/-- The segment names of a path type, with or without arguments. -/
def TypeExpr.names? : TypeExpr → Option (List String)
  | .named p => some p.segments
  | .applied _ _ names _ _ => some names
  | _ => none

/-- The names an item binds. -/
def Item.bindings : Item → List Binding
  | .imports tree => tree.bindings []
  | .typeAlias w target =>
    match target.names? with
    | some names => if 1 < names.length then [(w, names)] else []
    | none => []
  | _ => []

/-- A module: the names of the inline modules that lead to it, and its bindings in
order. -/
structure Scope where
  module : List String
  bindings : List Binding

namespace Scope

/-- The scope of a declaration that stands in no file. -/
def empty : Scope := ⟨[], []⟩

/-- The scope of a module with some items. -/
def ofItems (module : List String) (items : List Item) : Scope :=
  ⟨module, items.flatMap Item.bindings⟩

/-- What a name stands for; the last binding counts. -/
def lookup? (s : Scope) (name : String) : Option (List String) :=
  (s.bindings.reverse.find? (·.1 == name)).map (·.2)

/-- A path whose first segment is replaced by what it stands for. -/
def expand (s : Scope) (segments : List String) : List String :=
  match segments with
  | [] => []
  | first :: rest =>
    match s.lookup? first with
    | some full => full ++ rest
    | none => first :: rest

end Scope
end Newtype
