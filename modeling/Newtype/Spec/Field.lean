import Newtype.Kind.Registry
import Newtype.Text.Words

/-!
# Fields of a wrapper

* `Field` — a named value with its type.
* `Field.accessor` — the name of the function that reads it.
* `Field.defaultId` — the field of a wrapper that names no type.
-/

namespace Newtype

/-- A value a wrapper holds: its name, its type as written, and what is known about
the type. -/
structure Field where
  name : String
  type : TypeExpr
  kind : Kind

namespace Field

/-- The name of a field that is not named. -/
def defaultName : String := "Value"

/-- The most fields a wrapper may have. -/
def maximum : Nat := 4

/-- The name of the function that reads the field. -/
def accessor (f : Field) : String := Text.snakeCase f.name

/-- The type of an identifier, as a wrapper without types has it. -/
def idType : TypeExpr := .named ⟨true, ["uuid", "Uuid"]⟩

/-- The field of a wrapper that names no type. -/
def defaultId : Field := ⟨defaultName, idType, .uuid⟩

end Field
end Newtype
