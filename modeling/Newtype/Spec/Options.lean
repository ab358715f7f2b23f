/-!
# Options of a wrapper

* `Choice` — an option that may be left open.
* `Options` — the options of one wrapper.
-/

namespace Newtype

/-- Yes, no, or left open. -/
inductive Choice where
  | unset
  | yes
  | no
  deriving DecidableEq, Inhabited

namespace Choice

/-- The decision, given what holds when it is left open. -/
def resolve (c : Choice) (default : Bool) : Bool :=
  match c with
  | .unset => default
  | .yes => true
  | .no => false

/-- A decision that is made. -/
def ofBool (b : Bool) : Choice := if b then .yes else .no

end Choice

/-- The options of a wrapper: whether it converts into its storage by itself, and
whether it has comparison and arithmetic operators. -/
structure Options where
  implicit : Bool := false
  comparison : Choice := .unset
  math : Choice := .unset
  deriving DecidableEq, Inhabited

end Newtype
