import Newtype.Syntax.ExprReader

/-!
# Reading data definitions

Structs, enums and unions with their fields.

* `visibility` — who may see an item.
* `namedFields`, `tupleFields` — fields.
* `structItem`, `enumItem`, `unionItem` — definitions behind their visibility.
-/

namespace Newtype
namespace DataReader

open Reader AttributeReader BoundReader

/-- The restriction of a visibility lies ahead. -/
def restrictionAhead : List Tree → Bool
  | .group .paren [t] _ _ :: _ =>
    wordAhead "crate" [t] || wordAhead "self" [t] || wordAhead "super" [t] || wordAhead "in" [t]
  | .group .paren (t :: _) _ _ :: _ => wordAhead "in" [t]
  | _ => false

/-- A visibility; gives whether one is written. -/
def visibility : Reader Bool := do
  if ← optKeyword "pub" then
    if ← peek restrictionAhead then
      grouped .paren do
        if ← optKeyword "in" then let _ ← modulePath
        else let _ ← anyWord
    return true
  else return false

/-! ### Fields -/

/-- The fields of a nameless field stand where its type would. -/
def nestedFieldsAhead (ts : List Tree) : Bool :=
  wordAhead "struct" ts || (wordAhead "union" ts && groupAhead .brace (skipTree ts))

/-- A named field. A nameless one may have fields of its own, which are kept as they are
written. -/
def namedField (g : Grammar) : Reader Unit := do
  let _ ← outerAttributes g
  let _ ← visibility
  let nameless ← peek (wordAhead "_")
  let _ ← if nameless then anyWord else name
  punct ":"
  if ← peek fun ts => nameless && nestedFieldsAhead ts then
    let (_, written) ← asWritten do
      let _ ← anyWord
      let _ ← g.fields
    emit written
  else g.spelledType true

/-- Fields in braces; gives their number. -/
def namedFields (g : Grammar) : Reader Nat := do
  return (← grouped .brace (commaList (namedField g))).length

/-- Fields in parentheses; gives their number. -/
def tupleFields (g : Grammar) : Reader Nat := do
  let fields ← grouped .paren <| commaList do
    let _ ← outerAttributes g
    let _ ← visibility
    g.spelledType true
  return fields.length

/-! ### Structs -/

/-- What may end a struct with fields in parentheses: a where clause and a semicolon. -/
def tupleEnd (g : Grammar) : Reader Unit := do
  let constrained ← whereClause g
  if ← optPunct ";" then return ()
  else missing (if constrained then [.token ";"] else [.token "where", .token ";"])

/-- The fields of a struct with its where clause: their form, and the place of
their bracket when there is at least one. -/
def structBody (g : Grammar) : Reader (FieldsForm × Option Position) := do
  let constrained ← whereClause g
  let pos ← here
  let placed (n : Nat) : Option Position := if n = 0 then none else some pos
  if ← (do if constrained then return false else peek (groupAhead .paren)) then
    let n ← tupleFields g
    tupleEnd g
    return (.tuple, placed n)
  else if ← peek (groupAhead .brace) then
    let n ← namedFields g
    return (.braced, placed n)
  else if ← optPunct ";" then return (.unit, none)
  else
    missing (if constrained then [.group .brace, .token ";"]
      else [.token "where", .group .paren, .group .brace, .token ";"])

/-- A struct behind its attributes and visibility. -/
def structItem (g : Grammar) (attributes : List Attribute) (visible : List Tree) :
    Reader StructItem := do
  keyword "struct"
  let pos ← here
  let w ← name
  let parameters ← generics g
  let (form, fields) ← structBody g
  return ⟨attributes, visible, w, pos, parameters.place?, form, fields⟩

/-! ### Enums and unions -/

/-- A variant of an enum. Its visibility is left out. -/
def variant (g : Grammar) : Reader Unit := do
  let _ ← outerAttributes g
  let _ ← taken visibility
  let _ ← name
  if ← peek (groupAhead .brace) then let _ ← namedFields g
  else if ← peek (groupAhead .paren) then let _ ← tupleFields g
  if ← optPunct "=" then g.spelledExpr

/-- An enum behind its visibility. -/
def enumItem (g : Grammar) : Reader Unit := do
  keyword "enum"
  let _ ← name
  let _ ← generics g
  let _ ← whereClause g
  let _ ← grouped .brace (commaList (variant g))

/-- A union behind its visibility. -/
def unionItem (g : Grammar) : Reader Unit := do
  keyword "union"
  let _ ← name
  let _ ← generics g
  let _ ← whereClause g
  let _ ← namedFields g

end DataReader
end Newtype
