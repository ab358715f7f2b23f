import Newtype.Syntax.FieldReader

/-!
# Reading patterns

Patterns of `let`, `match`, closures and parameters. Little is kept of a pattern but its
spelling.

* `rangeLimits` — the dots of a range.
* `patternReader` — one pattern.
* `alternatives` — patterns with `|` between them.
-/

namespace Newtype
namespace PatternReader

open Reader AttributeReader PathReader TypeReader FieldReader

/-- A `|` between alternatives. -/
def barAhead (ts : List Tree) : Bool :=
  punctAhead "|" ts && !punctAhead "||" ts && !punctAhead "|=" ts

/-- Patterns with `|` between them; one may stand in front. A single pattern without `|`
is just itself. -/
def alternatives (g : Grammar) : Reader PatternForm := do
  let barred ← optPunct "|"
  let first ← g.pattern
  if barred || (← peek barAhead) then
    whileAhead barAhead do
      punct "|"
      let _ ← g.pattern
    return .other
  else return first

/-- Patterns in a list, each with alternatives. -/
def patternList (g : Grammar) : Reader (List PatternForm) := commaList (alternatives g)

/-! ### Ranges -/

/-- The dots of a range; gives whether it is closed. -/
def rangeLimits : Reader Bool := do
  if ← optPunct "..=" then return true
  else if ← peek fun ts => punctAhead ".." ts && !punctAhead "..." ts then
    punct ".."
    return false
  else missing [.token "..", .token "..="]

/-- The dots of a range pattern, which may be the older `...`; gives whether it is
closed. -/
def patternLimits : Reader Bool := do
  if ← peek (punctAhead "...") then
    let _ ← taken (punct "...")
    emit (glue .start "..=".toList)
    return true
  else rangeLimits

/-- An end of a range pattern may be missing here. -/
def rangeBoundMissing (ts : List Tree) : Bool :=
  ts.isEmpty || punctAhead "|" ts || punctAhead "=" ts || colonAhead ts || punctAhead "," ts ||
    punctAhead ";" ts || wordAhead "if" ts

/-- An end of a range pattern, if there is one. -/
def rangeBound (g : Grammar) : Reader Bool := do
  if ← peek rangeBoundMissing then return false
  else
    if ← peek literalAhead then literal
    else if ← peek fun ts => pathWordAhead ts || punctAhead "::" ts || punctAhead "<" ts then
      let _ ← qualifiedPath g true
    else if ← optKeyword "const" then
      let _ ← g.block true
    else
      missing [.literal, .identifier, .token "::", .token "<", .token "self", .token "Self",
        .token "super", .token "crate", .token "const"]
    return true

/-- The dots and the end of a range pattern behind its start. -/
def rangeTail (g : Grammar) : Reader PatternForm := do
  let dots ← here
  let closed ← patternLimits
  let bounded ← rangeBound g
  if bounded then return .range
  else if closed then fault .rangeEnd
  else return .openRange dots

/-- A range pattern without a start, or the rest of a list. -/
def openPattern (g : Grammar) : Reader PatternForm := do
  let dots ← here
  let closed ← rangeLimits
  let bounded ← rangeBound g
  if bounded then return .openRange dots
  else if closed then fault .rangeEnd
  else return .other

/-! ### Structs -/

/-- A field of a struct pattern. One with `box` is kept as it is written. -/
def fieldPattern (g : Grammar) : Reader Unit := do
  let _ ← orAsWritten id do
    let boxed ← optKeyword "box"
    let byRef ← optKeyword "ref"
    let mutable ← optKeyword "mut"
    if boxed || byRef || mutable then
      let _ ← name
    else
      let named ← fieldMember
      if !named || (← peek (punctAhead ":")) then
        punct ":"
        let _ ← alternatives g
    return boxed

/-- The fields of a struct pattern; `..` may end them. -/
def fieldPatterns (g : Grammar) : Reader Unit :=
  repeatUntil () fun _ => do
    if ← atEnd then return .inr ()
    else
      let _ ← outerAttributes g
      if ← optPunct ".." then return .inr ()
      else
        fieldPattern g
        if ← atEnd then return .inr ()
        else
          punct ","
          return .inl ()

/-! ### Patterns -/

/-- A pattern that starts with a path: a constant, a struct, a macro call or a
range. -/
def pathPattern (g : Grammar) : Reader PatternForm := do
  let path ← qualifiedPath g true
  if ← (do if path.isMacroName then peek bangAhead else return false) then
    macroCall
    return .other
  else if ← peek (groupAhead .brace) then
    grouped .brace (fieldPatterns g)
    return .other
  else if ← peek (groupAhead .paren) then
    let _ ← grouped .paren (patternList g)
    return .other
  else if ← peek (punctAhead "..") then rangeTail g
  else return .other

/-- A literal or a constant, or the range it starts. -/
def literalPattern (g : Grammar) : Reader PatternForm := do
  let _ ← rangeBound g
  if ← peek (punctAhead "..") then rangeTail g else return .other

/-- A name with the modes that may stand before it and the pattern behind `@`. -/
def bindingPattern (g : Grammar) : Reader PatternForm := do
  let _ ← optKeyword "ref"
  let _ ← optKeyword "mut"
  let _ ← if ← peek (wordAhead "self") then anyWord else name
  if ← optPunct "@" then let _ ← g.pattern
  return .other

/-- A slice pattern. A range with one end needs parentheses in it. -/
def slicePattern (g : Grammar) : Reader PatternForm := do
  let _ ← grouped .bracket <| commaList do
    match ← alternatives g with
    | .openRange dots => throw ⟨.openRangeInSlice, false, dots⟩
    | _ => return ()
  return .other

/-- A path starts here rather than a name to bind. -/
def pathPatternAhead (ts : List Tree) : Bool :=
  let next := skipTree ts
  (nameAhead ts && (punctAhead "::" next || punctAhead "!" next || groupAhead .brace next ||
      groupAhead .paren next || punctAhead ".." next)) ||
    (wordAhead "self" ts && punctAhead "::" next) || punctAhead "::" ts || punctAhead "<" ts ||
    wordAhead "Self" ts || wordAhead "super" ts || wordAhead "crate" ts

/-- One pattern. -/
def patternForm (g : Grammar) : Reader PatternForm := do
  let ts ← ahead
  if pathPatternAhead ts then pathPattern g
  else if wordAhead "_" ts then
    let _ ← anyWord
    return .other
  else if wordAhead "box" ts then
    keyword "box"
    let _ ← g.pattern
    return .verbatim
  else if punctAhead "-" ts || literalAhead ts || wordAhead "const" ts then literalPattern g
  else if wordAhead "ref" ts || wordAhead "mut" ts || wordAhead "self" ts || nameAhead ts then
    bindingPattern g
  else if punctAhead "&" ts then
    punct "&"
    let _ ← optKeyword "mut"
    let _ ← g.pattern
    return .other
  else if groupAhead .paren ts then
    let _ ← grouped .paren (patternList g)
    return .other
  else if groupAhead .bracket ts then slicePattern g
  else if punctAhead ".." ts && !punctAhead "..." ts then openPattern g
  else
    missing [.identifier, .token "::", .token "<", .token "_", .literal, .token "const",
      .token "ref", .token "mut", .token "&", .group .paren, .group .bracket, .token "..",
      .token "const"]

/-- One pattern. One with `box` in front is kept as it is written. -/
def patternReader (g : Grammar) : Reader PatternForm := orAsWritten (· == .verbatim) (patternForm g)

end PatternReader
end Newtype
