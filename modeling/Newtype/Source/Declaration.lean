import Newtype.Source.Scope
import Newtype.Spec.Basic
import Newtype.Target.Basic

/-!
# Declarations in a source file

The structs with the marker attribute, and the members their author has written for
them. Modules, bodies of functions and bodies of methods are searched; what stands
in a body counts as nested.

* `Scope.isMarker` — the attribute that asks for a wrapper.
* `Declaration` — a struct with the marker.
* `OwnMember` — a member written for a type of the same module.
* `Item.found` — everything an item holds.
* `extract` — everything a file holds.
-/

namespace Newtype

/-! ### The marker -/

/-- The name of the attribute that asks for a wrapper. -/
def marker : String := "wrapper_value_object"

/-- The attribute asks for a wrapper: it has the name of the marker, is bound to it
in its module, or is a longer path that ends in it. -/
def Scope.isMarker (s : Scope) (a : Attribute) : Bool :=
  match a.path.segments with
  | [w] =>
    match s.lookup? w with
    | some full => full.getLast? == some marker
    | none => w == marker
  | segments => segments.getLast? == some marker

/-- The arguments in a marker. -/
def markerArguments (a : Attribute) : Except Malformed (List Argument) :=
  match a.form with
  | .bare => .ok []
  | .list tokens =>
    match readArguments tokens with
    | .ok args => .ok args
    | .error f => .error (.ofFault f)
  | .value pos => .error (.ofFault ⟨.markerForm, false, pos⟩)

/-! ### What is found -/

/-- A struct that asks for a wrapper. -/
structure Declaration where
  target : Target
  arguments : Except Malformed (List Argument)
  scope : Scope

/-- A member its author has written for a type of the module. -/
structure OwnMember where
  module : List String
  type : String
  member : UserMember
  deriving DecidableEq

/-- Something found in a file. -/
inductive Found where
  | declaration (d : Declaration)
  | member (m : OwnMember)

/-- The declaration a struct is, if it has the marker. -/
def StructItem.declaration? (s : StructItem) (file : Option String) (scope : Scope)
    (nested : Bool) : Option Declaration :=
  (s.attributes.find? scope.isMarker).map fun a =>
    ⟨.ofStruct s nested file, markerArguments a, scope⟩

/-- The type an implementation block is for: a bare name. -/
def ImplHead.selfName? (h : ImplHead) : Option String :=
  match h.self with
  | .named ⟨_, [w]⟩ => some w
  | .applied false _ [w] _ _ => some w
  | _ => none

/-- The hook a function with this result is. Without a result it panics; with
`Result<(), E>` it returns an error. -/
def hookOfResult? : Option TypeExpr → Option Hook
  | none => some ⟨none⟩
  | some (.tuple [] _) => some ⟨none⟩
  | some (.applied false _ names arguments _) =>
    match names.getLast?, arguments with
    | some "Result", ok :: error :: _ => if ok.isUnit then some ⟨some error.text⟩ else none
    | _, _ => none
  | some _ => none

/-- The hook a method is: a function `validate` without a receiver. -/
def MethodHead.hook? (m : MethodHead) : Option Hook :=
  if m.name == "validate" && !m.receiver then hookOfResult? m.result else none

/-- The members an implementation block gives its type. -/
def ImplHead.members (h : ImplHead) (methods : List MethodHead) : List UserMember :=
  match h.trait with
  | some names =>
    match names.getLast? with
    | some "Display" => [.display]
    | some "Debug" => [.debug]
    | _ => []
  | none => methods.filterMap fun m => m.hook?.map .validate

/-- The members an implementation block gives a type of its module. -/
def ImplHead.own (h : ImplHead) (module : List String) (methods : List MethodHead) :
    List Found :=
  match h.selfName? with
  | some w => (h.members methods).map fun m => .member ⟨module, w, m⟩
  | none => []

/-! ### The search -/

mutual

/-- What an item holds, in order. -/
def Item.found (file : Option String) (scope : Scope) (nested : Bool) : Item → List Found
  | .struct s => ((s.declaration? file scope nested).map Found.declaration).toList
  | .impl head methods =>
    head.own scope.module (methods.map (·.1)) ++ Item.foundInMethods file scope methods
  | .function body => Item.foundAll file scope true body
  | .module w items =>
    Item.foundAll file (.ofItems (scope.module ++ [w]) items) nested items
  | .imports _ => []
  | .typeAlias _ _ => []
  | .other => []

/-- What a list of items holds, in order. -/
def Item.foundAll (file : Option String) (scope : Scope) (nested : Bool) :
    List Item → List Found
  | [] => []
  | i :: is => i.found file scope nested ++ Item.foundAll file scope nested is

/-- What the bodies of methods hold, in order. -/
def Item.foundInMethods (file : Option String) (scope : Scope) :
    List (MethodHead × List Item) → List Found
  | [] => []
  | m :: ms => Item.foundInMethod file scope m ++ Item.foundInMethods file scope ms

/-- What the body of a method holds, in order. -/
def Item.foundInMethod (file : Option String) (scope : Scope) :
    MethodHead × List Item → List Found
  | (_, body) => Item.foundAll file scope true body

end

/-- The declarations and members of a file. -/
structure Extract where
  declarations : List Declaration
  members : List OwnMember

/-- What a file holds. -/
def extract (items : List Item) (file : Option String) : Extract :=
  let found := Item.foundAll file (.ofItems [] items) false items
  { declarations := found.filterMap fun
      | .declaration d => some d
      | .member _ => none
    members := found.filterMap fun
      | .member m => some m
      | .declaration _ => none }

end Newtype
