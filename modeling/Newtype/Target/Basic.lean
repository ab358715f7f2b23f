import Newtype.Syntax.Source

/-!
# Targets

The struct a wrapper is generated for, as far as the generator looks at it.

* `Location` — a place in a file.
* `Hook`, `UserMember` — members its author has written.
* `Target` — the struct.
* `Target.ofStruct` — the target that a struct in a source file is.
-/

namespace Newtype

/-- A place in a file, or in a text without a file. Lines count from one, columns
from zero. -/
structure Location where
  file : Option String := none
  line : Nat := 0
  column : Nat := 0
  deriving DecidableEq, Inhabited

namespace Location

/-- A position in a file. -/
def ofPosition (file : Option String) (p : Position) : Location := ⟨file, p.line, p.column⟩

/-- The text of a location; columns are shown from one. -/
def text (l : Location) : String :=
  l.file.getD "<source>" ++ ":" ++ toString l.line ++ ":" ++ toString (l.column + 1)

end Location

/-- A function that checks the values of a wrapper. With an error type it returns an
error, without one it panics. -/
structure Hook where
  error : Option String
  deriving DecidableEq

/-- A member the author of a struct has written. -/
inductive UserMember where
  | display
  | debug
  | validate (hook : Hook)
  deriving DecidableEq

/-- The struct a wrapper is generated for. -/
structure Target where
  name : String
  form : FieldsForm := .unit
  /-- it is copied bit by bit -/
  readOnly : Bool := false
  userDisplay : Bool := false
  userDebug : Bool := false
  hook : Option Hook := none
  /-- it declares no field, so the storage can be generated -/
  fieldless : Bool := true
  /-- it stands in the body of a function -/
  nested : Bool := false
  generic : Bool := false
  location : Location := {}
  deriving DecidableEq

namespace Target

/-- Takes up a member the author has written. -/
def addMember (t : Target) : UserMember → Target
  | .display => { t with userDisplay := true }
  | .debug => { t with userDebug := true }
  | .validate h => { t with hook := some h }

/-- Takes up all members the author has written; the last hook counts. -/
def addMembers (t : Target) (ms : List UserMember) : Target := ms.foldl addMember t

/-- The names an attribute derives. An attribute that cannot be read derives
nothing. -/
def derivedBy (a : Attribute) : List String :=
  if a.path = ⟨false, ["derive"]⟩ then
    match a.form with
    | .list tokens => (readPaths tokens).toOption.getD []
    | _ => []
  else []

/-- The target that a struct is. -/
def ofStruct (s : StructItem) (nested : Bool) (file : Option String) : Target :=
  let derived := s.attributes.flatMap derivedBy
  { name := s.name
    form := s.form
    readOnly := derived.contains "Copy"
    userDebug := derived.contains "Debug"
    fieldless := s.fields.isNone
    nested := nested
    generic := s.generics.isSome
    location := .ofPosition file s.pos }

end Target
end Newtype
