import Newtype.Syntax.Fault
import Newtype.Token.Literal

/-!
# Looking at tokens

Tests on the tokens that lie ahead. A token of several punctuation characters is
there when all but its last character are joint; the last one may be glued to
what follows, so `=` also lies ahead of `==`.

* `keywords`, `isName` — words that are no names.
* `dropPunct`, `punctAhead` — punctuation.
* `wordAhead`, `nameAhead`, `groupAhead`, `lifetimeAhead`, `literalAhead` — the
  other kinds.
* `Expected.liesAhead` — whether something that could stand at a place does.
* `skipTree` — what lies behind the next token.
-/

namespace Newtype

/-- Words that cannot be used as names. -/
def keywords : List String :=
  ["_", "abstract", "as", "async", "await", "become", "box", "break", "const", "continue",
    "crate", "do", "dyn", "else", "enum", "extern", "false", "final", "fn", "for", "if", "impl",
    "in", "let", "loop", "macro", "match", "mod", "move", "mut", "override", "priv", "pub", "ref",
    "return", "Self", "self", "static", "struct", "super", "trait", "true", "try", "type",
    "typeof", "unsafe", "unsized", "use", "virtual", "where", "while", "yield"]

/-- A word that can be used as a name. -/
def isName (w : String) : Bool := !keywords.contains w

/-- Removes a punctuation token from the front. -/
def dropPunct : List Char → List Tree → Option (List Tree)
  | [], ts => some ts
  | [c], .punct d _ _ :: ts => if c = d then some ts else none
  | c :: cs, .punct d true _ :: ts => if c = d then dropPunct cs ts else none
  | _ :: _, _ => none

/-- The next token is this punctuation. -/
def punctAhead (s : String) (ts : List Tree) : Bool := (dropPunct s.toList ts).isSome

/-- The next token is this word. -/
def wordAhead (w : String) : List Tree → Bool
  | .word v _ :: _ => v == w
  | _ => false

/-- The next token is any word. -/
def anyWordAhead : List Tree → Bool
  | .word _ _ :: _ => true
  | _ => false

/-- The next token is a name. -/
def nameAhead : List Tree → Bool
  | .word v _ :: _ => isName v
  | _ => false

/-- The next token is a group in these brackets. -/
def groupAhead (d : Delimiter) : List Tree → Bool
  | .group e _ _ _ :: _ => d == e
  | _ => false

/-- The next token is a lifetime. -/
def lifetimeAhead : List Tree → Bool
  | .punct c true _ :: .word _ _ :: _ => c == '\x27'
  | _ => false

/-- The next token is a literal of some form; truth values are literals, and so is
a negative number. -/
def literalAhead : List Tree → Bool
  | .literal _ _ :: _ => true
  | .word w _ :: _ => w == "true" || w == "false"
  | .punct '-' _ _ :: .literal s _ :: _ =>
    let f := LiteralForm.ofSpelling s
    f == .integer || f == .float
  | _ => false

/-- A whole number lies ahead, with or without a sign. -/
def integerAhead : List Tree → Bool
  | .literal s _ :: _ => LiteralForm.ofSpelling s == .integer
  | .punct '-' _ _ :: .literal s _ :: _ => LiteralForm.ofSpelling s == .integer
  | _ => false

/-- The next token is a text literal. -/
def textAhead : List Tree → Bool
  | .literal s _ :: _ => LiteralForm.ofSpelling s == .text
  | _ => false

/-- What lies behind the next token; a lifetime is one token. -/
def skipTree : List Tree → List Tree
  | .punct c true _ :: .word w q :: ts => if c = '\x27' then ts else .word w q :: ts
  | _ :: ts => ts
  | [] => []

/-- One of the words a path may start with besides a name. -/
def pathWordAhead (ts : List Tree) : Bool :=
  nameAhead ts || wordAhead "super" ts || wordAhead "self" ts || wordAhead "Self" ts ||
    wordAhead "crate" ts

/-- One of the words besides a name, or the mark, that a macro call may start with. -/
def callWordAhead (ts : List Tree) : Bool :=
  nameAhead ts || wordAhead "self" ts || wordAhead "super" ts || wordAhead "crate" ts ||
    punctAhead "::" ts

/-- A single colon, not a pair. -/
def colonAhead (ts : List Tree) : Bool := punctAhead ":" ts && !punctAhead "::" ts

/-- A single point, not a range. -/
def pointAhead (ts : List Tree) : Bool := punctAhead "." ts && !punctAhead ".." ts

/-- A call of a macro, not a comparison. -/
def bangAhead (ts : List Tree) : Bool := punctAhead "!" ts && !punctAhead "!=" ts

/-- Generic parameters, rather than a qualified path, lie ahead. -/
def parametersAhead (ts : List Tree) : Bool :=
  let second := skipTree ts
  let third := skipTree second
  punctAhead "<" ts &&
    (punctAhead ">" second || punctAhead "#" second ||
      ((lifetimeAhead second || nameAhead second) &&
        (punctAhead ">" third || punctAhead "," third || colonAhead third ||
          punctAhead "=" third)) ||
      wordAhead "const" second)

/-- Something that could stand at a place does. -/
def Expected.liesAhead (ts : List Tree) : Expected → Bool
  | .token s =>
    if (s.toList.head?.map fun c => c.isAlpha || c == '_').getD false then wordAhead s ts
    else punctAhead s ts
  | .identifier => nameAhead ts
  | .lifetime => lifetimeAhead ts
  | .literal => literalAhead ts
  | .textLiteral => textAhead ts
  | .group d => groupAhead d ts

end Newtype
