import Newtype.Token.Basic

/-!
# The text of token trees

Tokens are separated by one blank, except that nothing follows a joint
punctuation character. Round and square brackets hug their content; braces keep a
blank on each side, and an empty pair of braces is `{ }`.
-/

namespace Newtype
namespace Tree

mutual

/-- The text of one tree. -/
def render : Tree → String
  | .word text _ => text
  | .literal text _ => text
  | .punct c _ _ => String.singleton c
  | .group .paren inner _ _ => "(" ++ renderAll inner ++ ")"
  | .group .bracket inner _ _ => "[" ++ renderAll inner ++ "]"
  | .group .brace [] _ _ => "\x7b \x7d"
  | .group .brace (t :: ts) _ _ => "\x7b " ++ renderAll (t :: ts) ++ " \x7d"

/-- The text of a list of trees. -/
def renderAll : List Tree → String
  | [] => ""
  | [t] => t.render
  | .punct c true p :: t :: ts => (Tree.punct c true p).render ++ renderAll (t :: ts)
  | t :: u :: ts => t.render ++ " " ++ renderAll (u :: ts)

end

end Tree
end Newtype
