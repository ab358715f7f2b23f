import Newtype.Syntax.FunctionReader

/-!
# Reading members of traits and implementations

Constants, type aliases and macro calls, and the members of traits, implementation
blocks and blocks of foreign items. Many forms are read although they mean nothing; they
are kept as they are written.

* `ConstForm`, `constTail` — a constant.
* `AliasForm`, `aliasDefinition` — a type alias.
* `macroMember` — a macro call.
* `traitMember`, `implMember`, `foreignMember` — members.
-/

namespace Newtype
namespace MemberReader

open Reader AttributeReader PathReader BoundReader DataReader FunctionReader

/-! ### Constants and aliases -/

/-- What is kept of a constant: whether it is without generic parameters and conditions,
and whether it has a value. -/
structure ConstForm where
  plain : Bool
  valued : Bool

/-- A constant behind its name. -/
def constTail (g : Grammar) : Reader ConstForm := do
  let parameters ← generics g
  punct ":"
  g.spelledType true
  let valued ← optPunct "="
  if valued then g.spelledExpr
  let constrained ← whereClause g
  punct ";"
  return ⟨parameters = .absent && !constrained, valued⟩

/-- The name of a constant lies ahead. -/
def constNameAhead (ts : List Tree) : Bool := nameAhead ts || wordAhead "_" ts

/-- A constant behind its visibility. -/
def constDefinition (g : Grammar) : Reader ConstForm := do
  keyword "const"
  if ← peek constNameAhead then
    let _ ← anyWord
    constTail g
  else missing [.identifier, .token "_"]

/-- Where a type alias may have its conditions. -/
inductive WherePlace where
  | beforeTarget
  | behindTarget
  | anywhere
  deriving DecidableEq

/-- What is kept of a type alias: its name, whether it has a colon, and its target. -/
structure AliasForm where
  name : String
  bounded : Bool
  target : Option TypeExpr

/-- The target of an alias that is a plain definition. -/
def AliasForm.plainTarget? (a : AliasForm) : Option TypeExpr := if a.bounded then none else a.target

/-- A type alias behind its visibility. -/
def aliasDefinition (g : Grammar) (place : WherePlace) : Reader AliasForm := do
  keyword "type"
  let w ← name
  let _ ← generics g
  let bounded ← colonBounds <| plainBounds g true fun ts =>
    wordAhead "where" ts || punctAhead "=" ts || punctAhead ";" ts
  let constrained ← if place = .behindTarget then pure false else whereClause g
  let target ← if ← optPunct "=" then pure (some (← g.type true)) else pure none
  if place ≠ .beforeTarget && !constrained then let _ ← whereClause g
  punct ";"
  return ⟨w, bounded, target⟩

/-! ### Members -/

/-- A macro call as a member. -/
def macroMember : Reader Unit := do
  let _ ← modulePath
  punct "!"
  let braces ← peek (groupAhead .brace)
  let _ ← groupTokens
  if !braces then punct ";"

/-- What a macro call may start with. -/
def callStarts : List Expected :=
  [.identifier, .token "self", .token "super", .token "crate", .token "::"]

/-- A function of a trait, with or without a body. -/
def traitFunction (g : Grammar) : Reader Unit := do
  let _ ← signature g
  if ← peek (groupAhead .brace) then let _ ← g.block true
  else if ← optPunct ";" then return ()
  else missing [.group .brace, .token ";"]

/-- A constant of a trait; gives whether it is kept as it is written. A function that
starts with `const` is one of its own. -/
def traitConst (g : Grammar) : Reader Bool := do
  let next := skipTree (← ahead)
  if constNameAhead next then
    keyword "const"
    let _ ← anyWord
    return !(← constTail g).plain
  else if wordAhead "async" next || wordAhead "unsafe" next || wordAhead "extern" next then
    traitFunction g
    return false
  else
    keyword "const"
    missing [.identifier, .token "_", .token "async", .token "unsafe", .token "extern",
      .token "fn"]

/-- A member of a trait. One with a visibility or `default` is kept as it is written. -/
def traitMember (g : Grammar) : Reader Unit := do
  let _ ← orAsWritten id do
    let _ ← outerAttributes g
    let visible ← visibility
    let defaulted ← optKeyword "default"
    let free := !visible && !defaulted
    let ts ← ahead
    if wordAhead "fn" ts || signatureAhead false ts then
      traitFunction g
      return !free
    else if wordAhead "const" ts then return (← traitConst g) || !free
    else if wordAhead "type" ts then
      let _ ← aliasDefinition g .behindTarget
      return !free
    else if free && callWordAhead ts then
      macroMember
      return false
    else
      missing ([.token "fn", .token "const", .token "type"] ++ if free then callStarts else [])

/-- What is kept of a member of an implementation block. -/
inductive ImplMember where
  | method (head : MethodHead) (items : List Item)
  | other
  | verbatim

/-- The member is kept as it is written. -/
def ImplMember.isVerbatim : ImplMember → Bool
  | .verbatim => true
  | _ => false

/-- A member of an implementation block. -/
def implMember (g : Grammar) : Reader ImplMember := orAsWritten ImplMember.isVerbatim do
  let _ ← outerAttributes g
  let visible ← visibility
  let defaulted ← peek fun ts => wordAhead "default" ts && !punctAhead "!" (skipTree ts)
  if defaulted then keyword "default"
  let free := !visible && !defaulted
  let kept (plain : Bool) : ImplMember := if plain then .other else .verbatim
  let ts ← ahead
  if wordAhead "fn" ts || signatureAhead false ts then
    return match ← functionItem g with
      | some (head, items) => .method head items
      | none => .verbatim
  else if wordAhead "const" ts then
    let c ← constDefinition g
    return kept (c.plain && c.valued)
  else if wordAhead "type" ts then
    let a ← aliasDefinition g .behindTarget
    return kept a.plainTarget?.isSome
  else if free && callWordAhead ts then
    macroMember
    return .other
  else
    missing ((if defaulted then [] else [.token "default"]) ++
      [.token "fn", .token "const", .token "type"] ++ if free then callStarts else [])

/-- A foreign function; gives whether it is kept as it is written. -/
def foreignFunction (g : Grammar) : Reader Bool := do
  let safe ← foreignSignature g
  if ← peek (groupAhead .brace) then
    let _ ← g.block true
    return true
  else
    punct ";"
    return safe

/-- A foreign static; gives whether it is kept as it is written. -/
def foreignStatic (g : Grammar) : Reader Bool := do
  let qualified ← if ← optKeyword "unsafe" then pure true else optKeyword "safe"
  keyword "static"
  let _ ← optKeyword "mut"
  let _ ← name
  punct ":"
  g.spelledType true
  let valued ← optPunct "="
  if valued then g.spelledExpr
  punct ";"
  return qualified || valued

/-- A member of a block of foreign items. -/
def foreignMember (g : Grammar) : Reader Unit := do
  let _ ← orAsWritten id do
    let _ ← outerAttributes g
    let visible ← visibility
    let ts ← ahead
    if wordAhead "fn" ts || signatureAhead true ts then foreignFunction g
    else if wordAhead "static" ts ||
        ((wordAhead "unsafe" ts || wordAhead "safe" ts) && wordAhead "static" (skipTree ts)) then
      foreignStatic g
    else if wordAhead "type" ts then
      let a ← aliasDefinition g .anywhere
      return a.bounded || a.target.isSome
    else if !visible && callWordAhead ts then
      macroMember
      return false
    else
      missing ([.token "fn", .token "static", .token "type"] ++
        if visible then [] else callStarts)

end MemberReader
end Newtype
