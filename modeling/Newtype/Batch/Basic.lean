import Newtype.Member.Text
import Newtype.Source.Declaration

/-!
# Generators

A generator collects declarations, from source texts or ready made, and what it
needs to know about types.

* `Pending` — a declaration that waits for generation.
* `Generator` — the collected state.
* `Generator.addSource?` — takes up a source text.
* `Generator.withHeader` — the head of every generated file.
-/

namespace Newtype

/-- A declaration that waits for generation: from a source text, with the number of
the text, or with fields and options that are already known. -/
inductive Pending where
  | source (index : Nat) (d : Declaration)
  | resolved (target : Target) (spec : Specification)

/-- The struct of a declaration. -/
def Pending.target : Pending → Target
  | .source _ d => d.target
  | .resolved t _ => t

/-- The scope of a declaration. -/
def Pending.scope : Pending → Scope
  | .source _ d => d.scope
  | .resolved _ _ => .empty

/-- The state of a generator. Members are kept with the number of their source
text. -/
structure Generator where
  pending : List Pending := []
  members : List (Nat × OwnMember) := []
  sources : Nat := 0
  header : Option String := none
  registry : Registry := .builtin

/-- A generated file. -/
structure Artifact where
  file : String
  text : String
  deriving DecidableEq

/-! ### Lines -/

/-- The characters up to the first line feed, and what follows it if there is
one. -/
def cutLine : List Char → List Char × Option (List Char)
  | [] => ([], none)
  | '\n' :: cs => ([], some cs)
  | c :: cs => let r := cutLine cs; (c :: r.1, r.2)

/-- A line without the carriage return that belongs to its end. -/
def dropReturn (cs : List Char) : List Char :=
  match cs.reverse with
  | '\r' :: rest => rest.reverse
  | _ => cs

/-- The lines of a text. The last one need not be ended. A carriage return before a
line feed belongs to the end of the line. -/
def linesAtMost : Nat → List Char → List (List Char)
  | 0, _ => []
  | _, [] => []
  | n + 1, cs =>
    match cutLine cs with
    | (line, some rest) => dropReturn line :: linesAtMost n rest
    | (line, none) => [line]

/-- The lines of a text. -/
def textLines (s : String) : List String :=
  (linesAtMost (s.toList.length + 1) s.toList).map String.ofList

namespace Generator

/-- A text below the head of the generator, each line of which is a comment. -/
def withHeader (g : Generator) (body : String) : String :=
  let lines := match g.header with
    | some h => textLines h
    | none => ["Auto-generated by wrapper-value-object-codegen", "DO NOT EDIT MANUALLY"]
  String.join (lines.map fun l => "// " ++ l ++ "\n") ++ "\n" ++ body

/-- Takes up the items of a source. -/
def addItems (g : Generator) (items : List Item) (file : Option String) : Generator :=
  let e := extract items file
  { g with
    pending := g.pending ++ e.declarations.map (.source g.sources)
    members := g.members ++ e.members.map fun m => (g.sources, m)
    sources := g.sources + 1 }

/-- Takes up a source text; nothing if it cannot be read. -/
def addSource? (g : Generator) (text : String) (file : Option String) : Option Generator :=
  (readFile text).map fun items => g.addItems items file

/-- Takes up a declaration with its fields and options. -/
def addResolved (g : Generator) (t : Target) (s : Specification) : Generator :=
  { g with pending := g.pending ++ [.resolved t s] }

/-- The members written for the struct of a declaration: those of its source text and
module. -/
def membersOf (g : Generator) (p : Pending) : List UserMember :=
  match p with
  | .source index d =>
    (g.members.filter fun m =>
      m.1 == index && m.2.module == d.scope.module && m.2.type == d.target.name).map (·.2.member)
  | .resolved _ _ => []

end Generator
end Newtype
