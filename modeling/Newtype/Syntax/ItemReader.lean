import Newtype.Syntax.MemberReader

/-!
# Reading items

Items of every kind are read; those the generator looks at give an `Item` of their
own, all others `Item.other`.

* `traitItem`, `implItem` — traits and implementation blocks.
* `useTreeReader`, `useItem` — imports.
* `moduleItem`, `foreignItems`, `macroItem` — the rest.
* `itemBody`, `itemReader` — an item.
-/

namespace Newtype
namespace ItemReader

open Reader AttributeReader PathReader BoundReader TypeReader
open DataReader FunctionReader MemberReader

/-! ### Statics and macros -/

/-- A static behind its visibility; gives whether it has both a type and a value. -/
def staticItem (g : Grammar) : Reader Bool := do
  keyword "static"
  let _ ← optKeyword "mut"
  let _ ← name
  if ← optPunct "=" then
    g.spelledExpr
    punct ";"
    return false
  else
    punct ":"
    g.spelledType true
    if ← optPunct ";" then return false
    else
      punct "="
      g.spelledExpr
      punct ";"
      return true

/-- A macro call as an item; it may name what it defines. -/
def macroItem : Reader Unit := do
  let _ ← modulePath
  punct "!"
  if ← peek fun ts => nameAhead ts || wordAhead "try" ts then let _ ← anyWord
  let braces ← peek (groupAhead .brace)
  let _ ← groupTokens
  if !braces then punct ";"

/-- A macro by declaration behind its visibility. -/
def macroDefinition : Reader Unit := do
  keyword "macro"
  let _ ← name
  let parameterized ← peek (groupAhead .paren)
  if parameterized then let _ ← groupTokens
  if ← peek (groupAhead .brace) then let _ ← groupTokens
  else missing ((if parameterized then [] else [.group .paren]) ++ [.group .brace])

/-! ### Traits -/

/-- A trait behind its generic parameters. -/
def traitRest (g : Grammar) : Reader Unit := do
  let _ ← colonBounds <| plainBounds g true fun ts => wordAhead "where" ts || groupAhead .brace ts
  let _ ← whereClause g
  grouped .brace do
    let _ ← innerAttributes g
    whileAhead (!·.isEmpty) (traitMember g)

/-- A trait that is `unsafe` or `auto`, behind its visibility. -/
def markedTrait (g : Grammar) : Reader Unit := do
  let _ ← optKeyword "unsafe"
  let _ ← optKeyword "auto"
  keyword "trait"
  let _ ← name
  let _ ← generics g
  traitRest g

/-- A trait or an alias of one, behind its visibility. -/
def traitItem (g : Grammar) : Reader Unit := do
  keyword "trait"
  let _ ← name
  let _ ← generics g
  let ts ← ahead
  if groupAhead .brace ts || punctAhead ":" ts || wordAhead "where" ts then traitRest g
  else if ← optPunct "=" then
    plainBounds g false fun ts => wordAhead "where" ts || punctAhead ";" ts
    let _ ← whereClause g
    punct ";"
  else missing [.group .brace, .token ":", .token "where", .token "="]

/-! ### Implementation blocks -/

/-- The names of the segments of a path type without a qualified self type. -/
def traitNames : TypeExpr → Option (List String)
  | .named p => some p.segments
  | .applied false _ names _ _ => some names
  | _ => none

/-- What an implementation block is for: the trait, if it implements one, and the self
type; nothing for a trait that is none. -/
def implHead (g : Grammar) : Reader (Option ImplHead) := do
  let pos ← here
  let negative ← peek fun ts => punctAhead "!" ts && !groupAhead .brace (skipTree ts)
  if negative then punct "!"
  let first ← g.type true
  if ← optKeyword "for" then
    let self ← g.type true
    return (traitNames first).map fun names => ⟨some names, self⟩
  else if negative then throw ⟨.negativeInherent, false, pos⟩
  else return some ⟨none, first⟩

/-- The members of an implementation block; the methods among them. -/
def implMembers (g : Grammar) : Reader (List (MethodHead × List Item)) :=
  grouped .brace do
    let _ ← innerAttributes g
    repeatUntil [] fun done => do
      if ← atEnd then return .inr done.reverse
      else
        match ← implMember g with
        | .method head items => return .inl ((head, items) :: done)
        | _ => return .inl done

/-- An implementation block behind its visibility. One that is visible, constant, or
for something that is no trait is read, but is no implementation. -/
def implItem (g : Grammar) (visible : Bool) : Reader (Option Item) := do
  let _ ← optKeyword "default"
  let _ ← optKeyword "unsafe"
  keyword "impl"
  if ← peek parametersAhead then let _ ← generics g
  let constant ← peek fun ts =>
    wordAhead "const" ts || (punctAhead "?" ts && wordAhead "const" (skipTree ts))
  if constant then
    let _ ← optPunct "?"
    keyword "const"
  let head ← implHead g
  let _ ← whereClause g
  let methods ← implMembers g
  return if visible || constant then none else head.map (Item.impl · methods)

/-! ### Imports -/

/-- A tree of imports. With `root`, a group may hold paths from the root; such a tree
is read, but gives no imports. -/
def useTreeReader (g : Grammar) (root : Bool) : Reader (Option UseTree) := do
  let ts ← ahead
  if nameAhead ts || wordAhead "self" ts || wordAhead "super" ts || wordAhead "crate" ts ||
      wordAhead "try" ts then
    let w ← anyWord
    if ← optPunct "::" then
      return (← g.useTree false).map (UseTree.path w)
    else if ← optKeyword "as" then
      if ← peek fun ts => nameAhead ts || wordAhead "_" ts then
        let bound ← anyWord
        return some (.rename w bound)
      else fault .renaming
    else return some (.name w)
  else if ← optPunct "*" then return some .glob
  else if groupAhead .brace ts then
    let trees ← grouped .brace <| commaList do
      let fromRoot ← if root then optPunct "::" else pure false
      let tree ← g.useTree (root && !fromRoot)
      return if fromRoot then none else tree
    return (trees.mapM id).map UseTree.group
  else
    missing [.identifier, .token "self", .token "super", .token "crate", .token "try",
      .token "*", .group .brace]

/-- An import behind its visibility. -/
def useItem (g : Grammar) : Reader (Option Item) := do
  keyword "use"
  let global ← optPunct "::"
  let tree ← g.useTree (!global)
  punct ";"
  return tree.map Item.imports

/-! ### Modules and foreign items -/

/-- A module behind its visibility. -/
def moduleItem (g : Grammar) : Reader Item := do
  let _ ← optKeyword "unsafe"
  keyword "mod"
  let w ← if ← peek (wordAhead "try") then anyWord else name
  if ← optPunct ";" then return .other
  else if ← peek (groupAhead .brace) then
    let items ← grouped .brace do
      let _ ← innerAttributes g
      repeatUntil [] fun done => do
        if ← atEnd then return .inr done.reverse
        else return .inl ((← g.item) :: done)
    return .module w items
  else missing [.token ";", .group .brace]

/-- An external crate behind its visibility. -/
def externCrate : Reader Unit := do
  keyword "extern"
  keyword "crate"
  let _ ← if ← peek (wordAhead "self") then anyWord else name
  if ← optKeyword "as" then
    let _ ← if ← peek (wordAhead "_") then anyWord else name
  punct ";"

/-- A block of foreign items, which has no visibility. `start` is the place of one. -/
def foreignItems (g : Grammar) (visible : Bool) (start : Position) : Reader Unit := do
  if visible then throw ⟨.oneOf [.token "extern"], false, start⟩
  else
    let _ ← optKeyword "unsafe"
    abi
    grouped .brace do
      let _ ← innerAttributes g
      whileAhead (!·.isEmpty) (foreignMember g)

/-- An external crate or a block of foreign items. -/
def externItem (g : Grammar) (visible : Bool) (start : Position) : Reader Unit := do
  let next := skipTree (← ahead)
  if wordAhead "crate" next then externCrate
  else if groupAhead .brace next then foreignItems g visible start
  else if textAhead next then
    if groupAhead .brace (skipTree next) then foreignItems g visible start
    else
      abi
      missing [.group .brace]
  else
    keyword "extern"
    missing [.token "crate", .group .brace, .textLiteral]

/-! ### Items -/

/-- An item that is not looked at. -/
def unkept (r : Reader Unit) : Reader (Option Item) := do
  r
  return some .other

/-- An item that is not looked at, and kept as it is written if the reader says so. -/
def unkeptIf (r : Reader Bool) : Reader (Option Item) := do
  return if ← r then some .other else none

/-- An item that starts with `unsafe`, behind its visibility. -/
def unsafeItem (g : Grammar) (visible : Bool) (start : Position) : Reader (Option Item) := do
  let next := skipTree (← ahead)
  if wordAhead "trait" next || (wordAhead "auto" next && wordAhead "trait" (skipTree next)) then
    unkept (markedTrait g)
  else if wordAhead "impl" next then implItem g visible
  else if wordAhead "extern" next then unkept (foreignItems g visible start)
  else if wordAhead "mod" next then return some (← moduleItem g)
  else
    keyword "unsafe"
    missing [.token "trait", .token "auto", .token "impl", .token "extern", .token "mod"]

/-- Everything an item may start with behind its visibility, in the order it is tried. -/
def itemStarts (visible : Bool) : List Expected :=
  [.token "fn", .token "extern", .token "use", .token "static", .token "const", .token "unsafe",
    .token "mod", .token "type", .token "struct", .token "enum", .token "union", .token "trait",
    .token "auto", .token "impl", .token "default", .token "macro"] ++
    if visible then [] else callStarts

/-- An item behind its attributes; nothing for one that is kept as it is written. -/
def itemBody (g : Grammar) (attributes : List Attribute) : Reader (Option Item) := do
  let start ← here
  let (visible, spelling) ← captured visibility
  let ts ← ahead
  let next := skipTree ts
  if wordAhead "fn" ts || signatureAhead false ts then
    return (← functionItem g).map fun f => .function f.2
  else if wordAhead "extern" ts then unkept (externItem g visible start)
  else if wordAhead "use" ts then useItem g
  else if wordAhead "static" ts then unkeptIf (staticItem g)
  else if wordAhead "const" ts then
    unkeptIf do
      let c ← constDefinition g
      return c.plain && c.valued
  else if wordAhead "unsafe" ts then unsafeItem g visible start
  else if wordAhead "mod" ts then return some (← moduleItem g)
  else if wordAhead "type" ts then
    let a ← aliasDefinition g .beforeTarget
    return a.plainTarget?.map (Item.typeAlias a.name)
  else if wordAhead "struct" ts then return some (.struct (← structItem g attributes spelling))
  else if wordAhead "enum" ts then unkept (enumItem g)
  else if wordAhead "union" ts && nameAhead next then unkept (unionItem g)
  else if wordAhead "trait" ts then unkept (traitItem g)
  else if wordAhead "auto" ts && wordAhead "trait" next then unkept (markedTrait g)
  else if wordAhead "impl" ts || (wordAhead "default" ts && !punctAhead "!" next) then
    implItem g visible
  else if wordAhead "macro" ts then
    macroDefinition
    return none
  else if !visible && callWordAhead ts then unkept macroItem
  else missing (itemStarts visible)

/-- An item. -/
def itemReader (g : Grammar) : Reader Item := do
  let item ← orAsWritten Option.isNone do
    itemBody g (← outerAttributes g)
  return item.getD .other

end ItemReader
end Newtype
