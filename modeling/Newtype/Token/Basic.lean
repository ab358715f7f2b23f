/-!
# Token trees

Source text as the compiler's tokenizer sees it: words, literals and punctuation
characters, with bracketed groups nested inside each other.

* `Position` — a place in the text: line from one, column from zero.
* `Delimiter` — the three kinds of brackets.
* `Tree` — a token or a bracketed group, with its place.
-/

namespace Newtype

/-- A place in a text. Lines count from one and columns, in characters, from zero. -/
structure Position where
  line : Nat
  column : Nat
  deriving DecidableEq, Inhabited

namespace Position

/-- The first character of a text. -/
def start : Position := ⟨1, 0⟩

/-- The place after one character. -/
def step (p : Position) (c : Char) : Position :=
  if c = '\n' then ⟨p.line + 1, 0⟩ else ⟨p.line, p.column + 1⟩

/-- The place after some characters. -/
def advance (p : Position) (cs : List Char) : Position := cs.foldl step p

@[simp] theorem advance_nil (p : Position) : p.advance [] = p := rfl

@[simp] theorem advance_cons (p : Position) (c : Char) (cs : List Char) :
    p.advance (c :: cs) = (p.step c).advance cs := rfl

theorem advance_append (p : Position) (cs ds : List Char) :
    p.advance (cs ++ ds) = (p.advance cs).advance ds := by
  simp [advance, List.foldl_append]

end Position

/-- Brackets that nest. -/
inductive Delimiter where
  | paren
  | bracket
  | brace
  deriving DecidableEq

namespace Delimiter

/-- The opening bracket. -/
def opening : Delimiter → Char
  | .paren => '('
  | .bracket => '['
  | .brace => '\x7b'

/-- The closing bracket. -/
def closing : Delimiter → Char
  | .paren => ')'
  | .bracket => ']'
  | .brace => '\x7d'

end Delimiter

/-- A token or a group of tokens in brackets.

A word keeps its raw mark (`r#type`), a literal its spelling and suffix. A
punctuation character is `joint` when it is glued to the next token, as the first
character of `::` is. -/
inductive Tree where
  | word (text : String) (pos : Position)
  | literal (text : String) (pos : Position)
  | punct (char : Char) (joint : Bool) (pos : Position)
  | group (delimiter : Delimiter) (inner : List Tree) (left right : Position)

namespace Tree

/-- Where a tree starts. -/
def position : Tree → Position
  | .word _ p => p
  | .literal _ p => p
  | .punct _ _ p => p
  | .group _ _ p _ => p

mutual

/-- The number of tokens in a tree, a group counting its two brackets. -/
def size : Tree → Nat
  | .word .. => 1
  | .literal .. => 1
  | .punct .. => 1
  | .group _ inner _ _ => 2 + sizeAll inner

/-- The number of tokens in some trees. -/
def sizeAll : List Tree → Nat
  | [] => 0
  | t :: ts => size t + sizeAll ts

end

end Tree
end Newtype
