/-!
# Text for debugging

The text of nested values, on one line or with a line for each part.

* `DebugForm` — a value, or a named value with parts.
* `DebugForm.inline`, `DebugForm.spread` — its text.
-/

namespace Newtype

/-- A value as it is shown for debugging: a text, a name with a part in parentheses, or
a name with named parts in braces. -/
inductive DebugForm where
  | atom (text : String)
  | tuple (name : String) (part : DebugForm)
  | struct (name : String) (parts : List (String × DebugForm))

namespace DebugForm

mutual

/-- The text on one line. -/
def inline : DebugForm → String
  | .atom t => t
  | .tuple n p => n ++ "(" ++ p.inline ++ ")"
  | .struct n ps => n ++ " \x7b " ++ ", ".intercalate (inlineParts ps) ++ " \x7d"

/-- Named parts on one line. -/
def inlineParts : List (String × DebugForm) → List String
  | [] => []
  | p :: ps => inlinePart p :: inlineParts ps

/-- A named part on one line. -/
def inlinePart : String × DebugForm → String
  | (label, p) => label ++ ": " ++ p.inline

end

/-- The start of a line. -/
def margin (depth : Nat) : String := String.join (List.replicate depth "    ")

mutual

/-- The text with a line for each part. -/
def spread (depth : Nat) : DebugForm → String
  | .atom t => t
  | .tuple n p =>
    n ++ "(\n" ++ margin (depth + 1) ++ p.spread (depth + 1) ++ ",\n" ++ margin depth ++ ")"
  | .struct n ps => n ++ " \x7b\n" ++ spreadParts (depth + 1) ps ++ margin depth ++ "\x7d"

/-- Named parts, each on a line. -/
def spreadParts (depth : Nat) : List (String × DebugForm) → String
  | [] => ""
  | p :: ps => spreadPart depth p ++ spreadParts depth ps

/-- A named part on a line. -/
def spreadPart (depth : Nat) : String × DebugForm → String
  | (label, p) => margin depth ++ label ++ ": " ++ p.spread depth ++ ",\n"

end

end DebugForm
end Newtype
