import Newtype.Batch.Basic
import Newtype.Batch.Order

/-!
# Running a batch

All declarations of a generator together. First each struct is checked, and of two
structs with the same name the second is refused. The others are worked off in
dependency order, so that a wrapper in a field of another is known by its own
traits. What happens is a list of events; generation reads off the files and the
reports, and a generation that can be cancelled stops at the first look at its flag
that finds it set.

* `screen` — which declarations are accepted.
* `batchWrapper?`, `batchKind` — types that are wrappers of the batch.
* `Generator.deps` — which declarations another one needs.
* `Event`, `Generator.events` — what happens in a run.
* `Generator.generate`, `Generator.generateCancellable` — its results.
-/

namespace Newtype

/-! ### Screening -/

/-- A struct that gets no wrapper, and why. -/
abbrev Rejected := Target × Rejection

/-- Parts the declarations into those refused and those accepted. `seen` holds the
names of the structs accepted before. -/
def screenFrom (seen : List String) : List Pending → List Rejected × List Pending
  | [] => ([], [])
  | p :: ps =>
    match p.target.check with
    | some r => let s := screenFrom seen ps; ((p.target, r) :: s.1, s.2)
    | none =>
      if seen.contains p.target.name then
        let s := screenFrom seen ps
        ((p.target, .duplicate) :: s.1, s.2)
      else
        let s := screenFrom (p.target.name :: seen) ps
        (s.1, p :: s.2)

/-- Parts the declarations into those refused and those accepted. -/
def screen (ps : List Pending) : List Rejected × List Pending := screenFrom [] ps

/-! ### Wrappers as types -/

/-- A path that may lead to a type of the batch: a bare name, or one that starts in
the same crate. -/
def isLocal (segments : List String) : Bool :=
  match segments with
  | [_] => true
  | first :: _ :: _ => ["crate", "self", "super"].contains first
  | [] => false

/-- The wrapper of the batch that a type is. -/
def batchWrapper? (scope : Scope) (names : List String) (t : TypeExpr) : Option String :=
  t.segments?.bind fun segments =>
    let full := scope.expand segments
    full.getLast?.bind fun last => if isLocal full && names.contains last then some last else none

/-- The kind of a type in a batch: a primitive, a wrapper of the batch, or what the
registry knows. `known` holds the traits of the wrappers worked off so far. -/
def batchKind (registry : Registry) (scope : Scope) (names : List String)
    (known : List (String × TraitSet)) (t : TypeExpr) : Kind :=
  match t.segments? with
  | none => .named .assumed
  | some segments =>
    match Primitive.ofName? (Path.join segments) with
    | some p => .primitive p
    | none =>
      match batchWrapper? scope names t with
      | some w => .named ((known.lookup w).getD .assumed)
      | none =>
        (registry.resolvePath? (Path.join (scope.expand segments))).getD (.named .assumed)

/-! ### Dependencies -/

/-- The wrappers of the batch among the types in some arguments. -/
def argumentWrappers (scope : Scope) (names : List String) (args : List Argument) :
    List String :=
  args.filterMap fun a =>
    match a.form with
    | .type t => batchWrapper? scope names t
    | _ => none

/-- The other wrappers that a declaration needs. -/
def Pending.needs (names : List String) : Pending → List String
  | .source _ d =>
    match d.arguments with
    | .ok args => (argumentWrappers d.scope names args).filter (· != d.target.name)
    | .error _ => []
  | .resolved _ _ => []

/-- The names of the structs of some declarations. -/
def namesOf (ps : List Pending) : List String := ps.map (·.target.name)

/-- The places of the wrappers that a declaration needs. -/
def dependencies (ps : List Pending) (i : Nat) : List Nat :=
  match ps[i]? with
  | some p => (p.needs (namesOf ps)).filterMap fun w => (namesOf ps).idxOf? w
  | none => []

/-! ### The run -/

/-- One thing that can happen in a run. -/
inductive Event where
  /-- the flag is looked at -/
  | poll
  | reject (r : Rejected)
  | produce (plan : Plan)

namespace Generator

/-- The specification of a declaration. -/
def specification (g : Generator) (names : List String) (known : List (String × TraitSet))
    (p : Pending) : Except Malformed Specification :=
  match p with
  | .source _ d => do
    Specification.ofArguments (batchKind g.registry d.scope names known) (← d.arguments)
  | .resolved _ s => .ok s

/-- The struct of a declaration with the members written for it. -/
def fullTarget (g : Generator) (p : Pending) : Target := p.target.addMembers (g.membersOf p)

/-- What happens when declarations are worked off one after the other. -/
def work (g : Generator) (names : List String) :
    List (String × TraitSet) → List Pending → List Event
  | _, [] => []
  | known, p :: ps =>
    let t := g.fullTarget p
    match g.specification names known p with
    | .error m => .poll :: .reject (t, .malformed m) :: g.work names known ps
    | .ok s =>
      let plan := Plan.of s t
      .poll :: .poll :: .produce plan :: g.work names ((t.name, plan.traits t) :: known) ps

/-- The accepted declarations in the order in which they are worked off. -/
def ordered (ps : List Pending) : List Pending :=
  (Order.dependencyOrder (dependencies ps) ps.length).filterMap fun i => ps[i]?

/-- All that happens in a run, in order. -/
def events (g : Generator) : List Event :=
  let (rejected, accepted) := screen g.pending
  rejected.map .reject ++ g.work (namesOf accepted) [] (ordered accepted)

/-! ### Results -/

/-- The rejections among some events. -/
def rejections (es : List Event) : List Rejected :=
  es.filterMap fun
    | .reject r => some r
    | _ => none

/-- The reports among some events. -/
def reports (es : List Event) : List Diagnostic := (rejections es).map fun r => r.2.diagnostic r.1

/-- The file with the members of a wrapper. -/
def artifact (g : Generator) (p : Plan) : Artifact := ⟨artifactName p.typeName, g.withHeader p.text⟩

/-- The file all wrappers share. -/
def sharedArtifact (g : Generator) : Artifact := ⟨sharedName, g.withHeader sharedText⟩

/-- The files among some events, by name, and the one all wrappers share. -/
def artifacts (g : Generator) (es : List Event) : List Artifact :=
  let own := es.filterMap fun
    | .produce p => some (g.artifact p)
    | _ => none
  own.mergeSort (fun a b => a.file ≤ b.file) ++ [g.sharedArtifact]

/-- The files and reports of a run. -/
def generate (g : Generator) : List Artifact × List Diagnostic :=
  (g.artifacts g.events, reports g.events)

/-- The events up to the first look at a flag that finds it set, and whether there is
one. The flag may depend on the number of looks before and on what has been
reported. -/
def untilSet (flag : Nat → List Diagnostic → Bool) :
    Nat → List Diagnostic → List Event → List Event × Bool
  | _, _, [] => ([], false)
  | polls, reported, .poll :: es =>
    if flag polls reported then ([], true)
    else
      let r := untilSet flag (polls + 1) reported es
      (.poll :: r.1, r.2)
  | polls, reported, .reject x :: es =>
    let r := untilSet flag polls (reported ++ [x.2.diagnostic x.1]) es
    (.reject x :: r.1, r.2)
  | polls, reported, .produce p :: es =>
    let r := untilSet flag polls reported es
    (.produce p :: r.1, r.2)

/-- The files of a run that can be cancelled, none if it is, and its reports. -/
def generateCancellable (g : Generator) (flag : Nat → List Diagnostic → Bool) :
    Option (List Artifact) × List Diagnostic :=
  let (es, cancelled) := untilSet flag 0 [] g.events
  (if cancelled then none else some (g.artifacts es), reports es)

end Generator
end Newtype
