/-!
# Layout of generated text

Generated text is a list of lines and blocks. A block has a head, and its body
between braces one step to the right.

* `Layout` — a line, a blank line, a block, or lines set one step to the right.
* `Layout.render`, `Layout.renderAll` — the text.
-/

namespace Newtype

/-- A piece of generated text. -/
inductive Layout where
  | line (text : String)
  | blank
  | block (head : String) (body : List Layout)
  | indented (body : List Layout)

namespace Layout

/-- The blanks at the start of a line. -/
def margin : Nat → String
  | 0 => ""
  | n + 1 => "    " ++ margin n

/-- A line of text at a depth; an empty line has no margin. -/
def renderLine (depth : Nat) (text : String) : String :=
  if text.isEmpty then "\n" else margin depth ++ text ++ "\n"

mutual

/-- The text of a piece at a depth. -/
def render (depth : Nat) : Layout → String
  | .line t => renderLine depth t
  | .blank => "\n"
  | .block head body =>
    renderLine depth (head ++ " \x7b") ++ renderAll (depth + 1) body ++ renderLine depth "\x7d"
  | .indented body => renderAll (depth + 1) body

/-- The text of pieces at a depth. -/
def renderAll (depth : Nat) : List Layout → String
  | [] => ""
  | l :: ls => render depth l ++ renderAll depth ls

end

/-- The text of a whole document. -/
def text (ls : List Layout) : String := renderAll 0 ls

end Layout
end Newtype
