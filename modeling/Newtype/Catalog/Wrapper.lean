import Newtype.Catalog.Fault

/-!
# Wrappers at work

What the members of a wrapper do. A wrapper is made only by `make`, which asks the hook about
the value first if its constructor does; operators that give a wrapper again go through it too.

* `Wrapper` — a type of wrappers: its name, its constructor's check and its hook.
* `Wrapped` — a wrapper.
* `Wrapper.make`, `Wrapper.ofStorage` — making one.
* `Wrapped.copy`, `Wrapped.combine` — wrappers from wrappers.
-/

namespace Newtype

/-- A type of wrappers around a type of values. -/
structure Wrapper (α : Type) where
  name : String
  /-- whether the constructor asks the hook, and how it tells what the hook finds -/
  check : Check := .none
  /-- the hook, which finds what is wrong with a value -/
  validate : α → Option Fault := fun _ => none

/-- A wrapper of some type. -/
structure Wrapped {α : Type} (w : Wrapper α) where
  value : α

variable {α : Type} {w : Wrapper α}

/-- Makes a wrapper, if the value passes the check. -/
def Wrapper.make (w : Wrapper α) (a : α) : Except Fault (Wrapped w) :=
  match w.check with
  | .none => .ok ⟨a⟩
  | .fallible _ | .panicking =>
    match w.validate a with
    | some f => .error f
    | none => .ok ⟨a⟩

/-- Makes a wrapper from a plain value. -/
def Wrapper.ofStorage (w : Wrapper α) (a : α) : Except Fault (Wrapped w) := w.make a

namespace Wrapped

/-- Makes a wrapper from a reference to one. -/
def copy (x : Wrapped w) : Wrapped w := ⟨x.value⟩

/-- The plain value. -/
def intoInner (x : Wrapped w) : α := x.value

/-- An operator that gives a wrapper again. -/
def combine (op : α → α → Except Fault α) (x y : Wrapped w) : Except Fault (Wrapped w) := do
  w.make (← op x.value y.value)

end Wrapped
end Newtype
