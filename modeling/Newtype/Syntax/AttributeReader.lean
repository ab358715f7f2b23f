import Newtype.Syntax.Grammar

/-!
# Reading attributes

* `modulePath` — a path without generic arguments.
* `groupTokens` — the content of a group as it stands.
* `outerAttributes`, `innerAttributes` — the attributes that lie ahead.
-/

namespace Newtype
namespace AttributeReader

open Reader

/-- A path without generic arguments, as attributes, macros and visibilities have. -/
def modulePath : Reader Path := do
  let global ← optPunct "::"
  let segments ← repeatUntil [] fun done => do
    if ← peek pathWordAhead then
      let w ← anyWord
      if ← optPunct "::" then return .inl (w :: done)
      else return .inr (w :: done).reverse
    else if done.isEmpty then
      let w ← name
      return .inr [w]
    else fault .segmentAfterColons
  return ⟨global, segments⟩

/-- The path of an attribute; `unsafe` may stand in front of its content. -/
def attributePath : Reader Path := do
  if ← peek (wordAhead "unsafe") then
    let w ← anyWord
    return ⟨false, [w]⟩
  else modulePath

/-- The content of the next group, as it stands. -/
def groupTokens : Reader (List Tree) := do
  match ← ahead with
  | .group _ inner _ _ :: _ =>
    verbatim
    return inner
  | _ => fault .delimiter

/-- Whether a group of any kind lies ahead. -/
def anyGroupAhead (ts : List Tree) : Bool :=
  groupAhead .paren ts || groupAhead .bracket ts || groupAhead .brace ts

/-- The value of an attribute: a lone literal, or an expression. -/
def attributeValue (g : Grammar) : Reader Unit := do
  let lone ← attempt do
    literal
    if ← atEnd then return () else fault .expression
  match lone with
  | some _ => return ()
  | none =>
    if ← peek fun ts => punctAhead "#" ts && groupAhead .bracket (skipTree ts) then
      fault .attributeInAttribute
    else g.spelledExpr

/-- What stands inside the brackets of an attribute. -/
def attributeContent (g : Grammar) : Reader (Path × AttributeForm) := do
  let path ← attributePath
  if ← peek anyGroupAhead then
    let inner ← groupTokens
    return (path, .list inner)
  else if ← peek fun ts => punctAhead "=" ts && !punctAhead "==" ts && !punctAhead "=>" ts then
    punct "="
    let pos ← here
    attributeValue g
    return (path, .value pos)
  else return (path, .bare)

/-- An outer attribute. -/
def outerAttribute (g : Grammar) : Reader Attribute := do
  let ((path, form), spelling) ← captured do
    punct "#"
    grouped .bracket (attributeContent g)
  return ⟨path, form, spelling⟩

/-- All outer attributes that lie ahead. -/
def outerAttributes (g : Grammar) : Reader (List Attribute) :=
  repeatUntil [] fun done => do
    if ← peek (punctAhead "#") then
      let a ← outerAttribute g
      return .inl (a :: done)
    else return .inr done.reverse

/-- All inner attributes that lie ahead; gives whether there are any. -/
def innerAttributes (g : Grammar) : Reader Bool :=
  repeatUntil false fun any => do
    if ← peek fun ts => punctAhead "#" ts && punctAhead "!" (skipTree ts) then
      punct "#"
      punct "!"
      let _ ← grouped .bracket (attributeContent g)
      return .inl true
    else return .inr any

end AttributeReader
end Newtype
