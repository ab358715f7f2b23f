import Newtype.Spec.Basic
import Newtype.Target.Basic

/-!
# Policies

Which groups of members a wrapper gets. Only a wrapper around a single number can
have operators. Where the options leave it open, a type gets them unless its name
ends like that of an identifier.

* `Policy` — the decisions.
* `Policy.of` — the decisions for a specification and its target.
-/

namespace Newtype

/-- The groups of members a wrapper gets. -/
structure Policy where
  single : Bool
  category : Category
  comparison : Bool
  math : Bool
  implicit : Bool
  validation : Bool
  deriving DecidableEq

/-- The end of the names of identifiers. -/
def idSuffix : String := "Id"

/-- The name ends like that of an identifier. -/
def looksLikeId (name : String) : Bool := idSuffix.toList.isSuffixOf name.toList

namespace Policy

/-- The category of a list of fields: that of a single field. -/
def categoryOf : List Field → Category
  | [f] => .ofKind f.kind
  | _ => .other

/-- The decisions for some fields, options and a target. -/
def of (fields : List Field) (o : Options) (t : Target) : Policy :=
  let single := fields.length == 1
  let category := categoryOf fields
  let allowed := single && category.isNumeric
  let default := !looksLikeId t.name
  { single := single
    category := category
    comparison := allowed && o.comparison.resolve default
    math := allowed && o.math.resolve default
    implicit := single && o.implicit
    validation := true }

end Policy
end Newtype
