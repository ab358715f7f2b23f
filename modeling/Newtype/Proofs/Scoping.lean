import Newtype.Proofs.Moved

/-!
# Members belong to their source and module

The author of a struct may write some members by hand, and those are not generated.  A
member counts for a struct if it stands in an implementation block of the same source
text and the same inline module that names the struct by its bare name.  The search for
blocks goes through modules and bodies of functions and methods, and the members of all
sources wait in one list; here both are undone.

A file may be edited in its bodies of functions and its implementation blocks, which moves the
structs behind them.  Two batches whose sources differ so go on in lockstep, but for the wrappers
whose members have changed.

* `Item.implBlocks`, `userMembers` — the blocks of a file and the members for a struct.
* `membersOf_addItems_addAll` — **a struct gets the members of the blocks for it.**
* `addMembers_eq` — what the members do to a struct.
* `Edited`, `EditedElsewhere` — a file with other blocks and bodies.
* `Generator.Revised` — sources that have been revised.
* `Revised.lockstep` — **revised sources go in lockstep.**
-/

namespace Newtype

/-! ### The blocks of a file -/

/-- An implementation block: the names of the inline modules around it, its head and the
signatures of its methods. -/
structure ImplBlock where
  module : List String
  head : ImplHead
  methods : List MethodHead

namespace ImplBlock

/-- The block is for a type of a module: it stands there and has the bare name of the
type. -/
def isFor (b : ImplBlock) (module : List String) (type : String) : Bool :=
  b.module == module && b.head.selfName? == some type

/-- The members a block gives its type. -/
def members (b : ImplBlock) : List UserMember := b.head.members b.methods

/-- The members of a block with its module and type. -/
def own (b : ImplBlock) : List OwnMember :=
  match b.head.selfName? with
  | some w => b.members.map fun m => ⟨b.module, w, m⟩
  | none => []

theorem filter_own (b : ImplBlock) (module : List String) (type : String) :
    (b.own.filter fun m => m.module == module && m.type == type).map (·.member) =
      if b.isFor module type then b.members else [] := by
  rw [own, isFor]
  cases b.head.selfName? with
  | none => simp
  | some w =>
    rw [List.filter_map, List.map_map]
    cases h : b.module == module && w == type with
    | false => simp [Function.comp_def, h]
    | true => simp [Function.comp_def, h]

end ImplBlock

mutual

/-- The implementation blocks in an item, in order. -/
def Item.implBlocks (module : List String) : Item → List ImplBlock
  | .struct _ => []
  | .impl head methods =>
    ⟨module, head, methods.map (·.1)⟩ :: Item.implBlocksInMethods module methods
  | .function body => Item.implBlocksAll module body
  | .module w items => Item.implBlocksAll (module ++ [w]) items
  | .imports _ => []
  | .typeAlias _ _ => []
  | .other => []

/-- The implementation blocks in a list of items, in order. -/
def Item.implBlocksAll (module : List String) : List Item → List ImplBlock
  | [] => []
  | i :: is => i.implBlocks module ++ Item.implBlocksAll module is

/-- The implementation blocks in the bodies of methods, in order. -/
def Item.implBlocksInMethods (module : List String) :
    List (MethodHead × List Item) → List ImplBlock
  | [] => []
  | m :: ms => Item.implBlocksInMethod module m ++ Item.implBlocksInMethods module ms

/-- The implementation blocks in the body of a method, in order. -/
def Item.implBlocksInMethod (module : List String) : MethodHead × List Item → List ImplBlock
  | (_, body) => Item.implBlocksAll module body

end

/-- The members written in a file for a type of a module. -/
def userMembers (items : List Item) (module : List String) (type : String) : List UserMember :=
  ((Item.implBlocksAll [] items).filter (·.isFor module type)).flatMap ImplBlock.members

/-! ### What is found -/

/-- The member that something found is. -/
def Found.member? : Found → Option OwnMember
  | .declaration _ => none
  | .member m => some m

/-- The declaration that something found is. -/
def Found.declaration? : Found → Option Declaration
  | .declaration d => some d
  | .member _ => none

theorem extract_members (items : List Item) (file : Option String) :
    (extract items file).members =
      (Item.foundAll file (.ofItems [] items) false items).filterMap Found.member? := by
  refine congrArg (List.filterMap · _) (funext fun x => ?_)
  cases x <;> rfl

theorem extract_declarations (items : List Item) (file : Option String) :
    (extract items file).declarations =
      (Item.foundAll file (.ofItems [] items) false items).filterMap Found.declaration? := by
  refine congrArg (List.filterMap · _) (funext fun x => ?_)
  cases x <;> rfl

theorem member?_own (head : ImplHead) (module : List String) (methods : List MethodHead) :
    (head.own module methods).filterMap Found.member? = ImplBlock.own ⟨module, head, methods⟩ := by
  rw [ImplHead.own, ImplBlock.own]
  cases head.selfName? with
  | none => rfl
  | some w =>
    rw [List.filterMap_map]
    exact congrFun List.filterMap_eq_map _

-- The search hands the module down and forgets the rest of the scope for members, so the
-- four statements follow its recursion with scope and file as parameters.
mutual

theorem members_found (file : Option String) (scope : Scope) (nested : Bool) : ∀ item : Item,
    (item.found file scope nested).filterMap Found.member? =
      (item.implBlocks scope.module).flatMap ImplBlock.own
  | .struct s => by
    rw [Item.found, Item.implBlocks]
    cases s.declaration? file scope nested <;> rfl
  | .impl head methods => by
    rw [Item.found, Item.implBlocks, List.filterMap_append, member?_own, List.flatMap_cons,
      members_foundInMethods file scope methods]
  | .function body => by
    rw [Item.found, Item.implBlocks]
    exact members_foundAll file scope true body
  | .module w items => by
    rw [Item.found, Item.implBlocks]
    exact members_foundAll file (.ofItems (scope.module ++ [w]) items) nested items
  | .imports _ => rfl
  | .typeAlias _ _ => rfl
  | .other => rfl

theorem members_foundAll (file : Option String) (scope : Scope) (nested : Bool) :
    ∀ items : List Item, (Item.foundAll file scope nested items).filterMap Found.member? =
      (Item.implBlocksAll scope.module items).flatMap ImplBlock.own
  | [] => rfl
  | i :: is => by
    rw [Item.foundAll, Item.implBlocksAll, List.filterMap_append, List.flatMap_append,
      members_found file scope nested i, members_foundAll file scope nested is]

theorem members_foundInMethods (file : Option String) (scope : Scope) :
    ∀ methods : List (MethodHead × List Item),
      (Item.foundInMethods file scope methods).filterMap Found.member? =
        (Item.implBlocksInMethods scope.module methods).flatMap ImplBlock.own
  | [] => rfl
  | m :: ms => by
    rw [Item.foundInMethods, Item.implBlocksInMethods, List.filterMap_append,
      List.flatMap_append, members_foundInMethod file scope m,
      members_foundInMethods file scope ms]

theorem members_foundInMethod (file : Option String) (scope : Scope) :
    ∀ method : MethodHead × List Item,
      (Item.foundInMethod file scope method).filterMap Found.member? =
        (Item.implBlocksInMethod scope.module method).flatMap ImplBlock.own
  | (_, body) => by
    rw [Item.foundInMethod, Item.implBlocksInMethod]
    exact members_foundAll file scope true body

end

/-- A block gives members, not declarations. -/
theorem declaration_notMem_own (head : ImplHead) (module : List String)
    (methods : List MethodHead) (d : Declaration) : .declaration d ∉ head.own module methods := by
  rw [ImplHead.own]
  cases head.selfName? <;> simp

/-- A declaration is made from a struct, which is nested if the search was. -/
def MadeFrom (file : Option String) (nested : Bool) (d : Declaration) : Prop :=
  ∃ s n, d.target = .ofStruct s n file ∧ (nested = true → n = true)

mutual

theorem madeFrom_found (file : Option String) (scope : Scope) (nested : Bool) : ∀ item : Item,
    ∀ d, .declaration d ∈ item.found file scope nested → MadeFrom file nested d
  | .struct s, d, h => by
    rw [Item.found, Option.mem_toList, Option.map_eq_some_iff] at h
    obtain ⟨d', hd, heq⟩ := h
    cases heq
    obtain ⟨a, -, rfl⟩ := Option.map_eq_some_iff.mp hd
    exact ⟨s, nested, rfl, id⟩
  | .impl head methods, d, h => by
    rw [Item.found, List.mem_append] at h
    rcases h with h | h
    · exact absurd h (declaration_notMem_own _ _ _ d)
    · obtain ⟨s, n, heq, hn⟩ := madeFrom_foundInMethods file scope methods d h
      exact ⟨s, n, heq, fun _ => hn rfl⟩
  | .function body, d, h => by
    rw [Item.found] at h
    obtain ⟨s, n, heq, hn⟩ := madeFrom_foundAll file scope true body d h
    exact ⟨s, n, heq, fun _ => hn rfl⟩
  | .module w items, d, h => by
    rw [Item.found] at h
    exact madeFrom_foundAll file (.ofItems (scope.module ++ [w]) items) nested items d h
  | .imports _, _, h => (nomatch h)
  | .typeAlias _ _, _, h => (nomatch h)
  | .other, _, h => (nomatch h)

theorem madeFrom_foundAll (file : Option String) (scope : Scope) (nested : Bool) :
    ∀ items : List Item, ∀ d, .declaration d ∈ Item.foundAll file scope nested items →
      MadeFrom file nested d
  | [], _, h => (nomatch h)
  | i :: is, d, h => by
    rw [Item.foundAll, List.mem_append] at h
    rcases h with h | h
    · exact madeFrom_found file scope nested i d h
    · exact madeFrom_foundAll file scope nested is d h

theorem madeFrom_foundInMethods (file : Option String) (scope : Scope) :
    ∀ methods : List (MethodHead × List Item), ∀ d,
      .declaration d ∈ Item.foundInMethods file scope methods → MadeFrom file true d
  | [], _, h => (nomatch h)
  | m :: ms, d, h => by
    rw [Item.foundInMethods, List.mem_append] at h
    rcases h with h | h
    · exact madeFrom_foundInMethod file scope m d h
    · exact madeFrom_foundInMethods file scope ms d h

theorem madeFrom_foundInMethod (file : Option String) (scope : Scope) :
    ∀ method : MethodHead × List Item, ∀ d,
      .declaration d ∈ Item.foundInMethod file scope method → MadeFrom file true d
  | (_, body), d, h => by
    rw [Item.foundInMethod] at h
    exact madeFrom_foundAll file scope true body d h

end

theorem madeFrom_of_mem_extract {items : List Item} {file : Option String} {d : Declaration}
    (h : d ∈ (extract items file).declarations) : MadeFrom file false d := by
  rw [extract_declarations, List.mem_filterMap] at h
  obtain ⟨x, hx, hd⟩ := h
  cases x with
  | member m => cases hd
  | declaration d' =>
    cases hd
    exact madeFrom_foundAll file _ false items d hx

/-! ### The members of a struct -/

namespace Generator

/-- In a generator with a single source, a struct has the members of the blocks for
it. -/
theorem membersOf_single (items : List Item) (file : Option String) (d : Declaration) :
    (({} : Generator).addItems items file).membersOf (.source 0 d) =
      userMembers items d.scope.module d.target.name := by
  have hblocks : ∀ bs : List ImplBlock,
      ((bs.flatMap ImplBlock.own).filter fun m => m.module == d.scope.module &&
        m.type == d.target.name).map (·.member) =
      (bs.filter (·.isFor d.scope.module d.target.name)).flatMap ImplBlock.members := by
    intro bs
    induction bs with
    | nil => rfl
    | cons b bs ih =>
      rw [List.flatMap_cons, List.filter_append, List.map_append, ImplBlock.filter_own, ih,
        List.filter_cons]
      cases b.isFor d.scope.module d.target.name <;> rfl
  have hmembers : (({} : Generator).addItems items file).membersOf (.source 0 d) =
      ((extract items file).members.filter fun m => m.module == d.scope.module &&
        m.type == d.target.name).map (·.member) := by
    simp [membersOf, addItems, List.filter_map, Function.comp_def]
  rw [hmembers, extract_members, members_foundAll, hblocks]
  rfl

/-- What waits in a generator stays, with its members, when more is added. -/
theorem mem_pending_addAll (as : List Addition) : ∀ {g : Generator}, g.Numbered →
    ∀ {p : Pending}, p ∈ g.pending →
      p ∈ (g.addAll as).pending ∧ (g.addAll as).membersOf p = g.membersOf p := by
  induction as with
  | nil => exact fun _ _ hp => ⟨hp, rfl⟩
  | cons a as ih =>
    intro g hg p hp
    have hone : p ∈ (g.add a).pending ∧ (g.add a).membersOf p = g.membersOf p := by
      cases a with
      | resolved t s => exact ⟨List.mem_append_left _ hp, by cases p <;> rfl⟩
      | source text file =>
        rw [add, addSource?]
        cases readFile text with
        | none => exact ⟨hp, rfl⟩
        | some items =>
          exact ⟨List.mem_append_left _ hp, membersOf_addItems_of_mem hg items file hp⟩
    obtain ⟨hmem, hmembers⟩ := ih (hg.add a) hone.1
    exact ⟨hmem, hmembers.trans hone.2⟩

theorem numbered_addAll (as : List Addition) : ∀ {g : Generator}, g.Numbered →
    (g.addAll as).Numbered := by
  induction as with
  | nil => exact fun hg => hg
  | cons a as ih => exact fun hg => ih (hg.add a)

theorem numbered_filled (registry : Registry) (header : Option String) (as : List Addition) :
    (filled registry header as).Numbered :=
  numbered_addAll as
    ⟨fun _ _ hd => absurd hd List.not_mem_nil, fun _ hm => absurd hm List.not_mem_nil⟩

/-- **A struct gets the members of the blocks for it**, those of its own source and
module with its bare name, whatever else the generator is given before and after. -/
theorem membersOf_addItems_addAll {g : Generator} (hg : g.Numbered) {items : List Item}
    {file : Option String} (r : List Addition) {d : Declaration}
    (hd : d ∈ (extract items file).declarations) :
    .source g.sources d ∈ ((g.addItems items file).addAll r).pending ∧
      ((g.addItems items file).addAll r).membersOf (.source g.sources d) =
        userMembers items d.scope.module d.target.name := by
  have hnew : .source g.sources d ∈ (g.addItems items file).pending :=
    List.mem_append_right _ (List.mem_map_of_mem hd)
  obtain ⟨hmem, hmembers⟩ := mem_pending_addAll r (hg.addItems items file) hnew
  refine ⟨hmem, ?_⟩
  rw [hmembers, membersOf_addItems_new hg, membersOf_single]

theorem filled_append_source (registry : Registry) (header : Option String)
    (l r : List Addition) {text : String} (file : Option String) {items : List Item}
    (hread : readFile text = some items) :
    filled registry header (l ++ .source text file :: r) =
      ((filled registry header l).addItems items file).addAll r := by
  rw [filled, addAll, List.foldl_append, List.foldl_cons, ← addAll, ← addAll, ← filled, add,
    addSource?, hread]
  rfl

end Generator

/-- The hook that a member is. -/
def UserMember.hook? : UserMember → Option Hook
  | .validate h => some h
  | _ => none

/-- The last hook among some members. -/
def lastHook (ms : List UserMember) : Option Hook := (ms.filterMap UserMember.hook?).getLast?

/-- **What the members do to a struct.**  It says who writes the text forms, and of the
hooks the last one counts. -/
theorem addMembers_eq (t : Target) (ms : List UserMember) : t.addMembers ms =
    { t with
      userDisplay := t.userDisplay || ms.contains .display
      userDebug := t.userDebug || ms.contains .debug
      hook := (lastHook ms).or t.hook } := by
  unfold Target.addMembers
  induction ms generalizing t with
  | nil => simp [lastHook]
  | cons m ms ih =>
    rw [List.foldl_cons, ih]
    cases m with
    | display => simp [Target.addMember, lastHook, UserMember.hook?]
    | debug => simp [Target.addMember, lastHook, UserMember.hook?]
    | validate h =>
      have hlast : (lastHook (.validate h :: ms)).or t.hook = (lastHook ms).or (some h) := by
        rw [lastHook, List.filterMap_cons_some (rfl : UserMember.hook? (.validate h) = some h),
          List.getLast?_cons, lastHook]
        cases (ms.filterMap UserMember.hook?).getLast? <;> rfl
      rw [hlast]
      simp [Target.addMember]

/-- The struct of a declaration in a source, with some members. -/
def Declaration.withMembers (d : Declaration) (ms : List UserMember) : Target :=
  { d.target with
    userDisplay := ms.contains .display
    userDebug := d.target.userDebug || ms.contains .debug
    hook := lastHook ms }

theorem addMembers_of_mem_extract {items : List Item} {file : Option String} {d : Declaration}
    (hd : d ∈ (extract items file).declarations) (ms : List UserMember) :
    d.target.addMembers ms = d.withMembers ms := by
  obtain ⟨s, n, htarget, -⟩ := madeFrom_of_mem_extract hd
  rw [addMembers_eq, Declaration.withMembers, htarget]
  simp [Target.ofStruct]

/-! ### Edited files -/

/-- Two attributes that differ in places only. -/
structure Attribute.Moved (a a' : Attribute) : Prop where
  path : a.path = a'.path
  derived : Target.derivedBy a = Target.derivedBy a'
  arguments : ArgumentsAlike (markerArguments a) (markerArguments a')

/-- Two structs that differ in places only. -/
structure StructItem.Moved (s s' : StructItem) : Prop where
  attributes : List.Forall₂ Attribute.Moved s.attributes s'.attributes
  name : s.name = s'.name
  form : s.form = s'.form
  generics : s.generics.isSome = s'.generics.isSome
  fields : s.fields.isNone = s'.fields.isNone

instance (a a' : Attribute) : Decidable (a.Moved a') :=
  decidable_of_iff (a.path = a'.path ∧ Target.derivedBy a = Target.derivedBy a' ∧
      ArgumentsAlike (markerArguments a) (markerArguments a'))
    ⟨fun h => ⟨h.1, h.2.1, h.2.2⟩, fun h => ⟨h.path, h.derived, h.arguments⟩⟩

instance (s s' : StructItem) : Decidable (s.Moved s') :=
  decidable_of_iff (List.Forall₂ Attribute.Moved s.attributes s'.attributes ∧ s.name = s'.name ∧
      s.form = s'.form ∧ s.generics.isSome = s'.generics.isSome ∧
      s.fields.isNone = s'.fields.isNone)
    ⟨fun h => ⟨h.1, h.2.1, h.2.2.1, h.2.2.2.1, h.2.2.2.2⟩,
      fun h => ⟨h.attributes, h.name, h.form, h.generics, h.fields⟩⟩

theorem isMarker_of_moved {a a' : Attribute} (h : a.Moved a') (scope : Scope) :
    scope.isMarker a = scope.isMarker a' := by
  rw [Scope.isMarker, Scope.isMarker, h.path]

/-- Attributes that have moved have the same marker among them, or none. -/
theorem find?_of_moved (scope : Scope) {as as' : List Attribute}
    (h : List.Forall₂ Attribute.Moved as as') :
    Option.Rel Attribute.Moved (as.find? scope.isMarker) (as'.find? scope.isMarker) := by
  induction h with
  | nil => exact .none
  | @cons a a' as as' ha _ ih =>
    rw [List.find?_cons, List.find?_cons, isMarker_of_moved ha]
    cases scope.isMarker a' with
    | false => exact ih
    | true => exact .some ha

theorem StructItem.Moved.derived {s s' : StructItem} (h : s.Moved s') :
    s.attributes.flatMap Target.derivedBy = s'.attributes.flatMap Target.derivedBy := by
  have hattributes := h.attributes
  generalize s.attributes = as at hattributes ⊢
  generalize s'.attributes = as' at hattributes ⊢
  induction hattributes with
  | nil => rfl
  | cons ha _ ih => rw [List.flatMap_cons, List.flatMap_cons, ha.derived, ih]

/-- A struct that has moved makes the same declaration, but for places. -/
theorem StructItem.Moved.declaration? {s s' : StructItem} (h : s.Moved s')
    (file : Option String) (scope : Scope) (nested : Bool) :
    Option.Rel Declaration.Alike (s.declaration? file scope nested)
      (s'.declaration? file scope nested) := by
  have hmarker := find?_of_moved scope h.attributes
  rw [StructItem.declaration?, StructItem.declaration?]
  generalize s.attributes.find? scope.isMarker = x at hmarker ⊢
  generalize s'.attributes.find? scope.isMarker = x' at hmarker ⊢
  cases hmarker with
  | none => exact .none
  | some ha =>
    refine .some ⟨?_, ha.arguments, rfl⟩
    simp only [Target.Alike, Target.ofStruct, h.derived, h.name, h.form, h.generics, h.fields]

/-- An item that holds nothing but names it may bind. -/
def Item.isPlain : Item → Bool
  | .imports _ => true
  | .typeAlias _ _ => true
  | .other => true
  | _ => false

/-- The second file differs from the first in implementation blocks and in the bodies of
functions.  Everything else may have moved. -/
inductive Edited : List Item → List Item → Prop
  | nil : Edited [] []
  | struct {s s' : StructItem} {is is' : List Item} :
    s.Moved s' → Edited is is' → Edited (.struct s :: is) (.struct s' :: is')
  | function (body body' : List Item) {is is' : List Item} :
    Edited is is' → Edited (.function body :: is) (.function body' :: is')
  | module (w : String) {inner inner' is is' : List Item} :
    Edited inner inner' → Edited is is' → Edited (.module w inner :: is) (.module w inner' :: is')
  | plain {i i' : Item} {is is' : List Item} :
    i.isPlain = true → i'.isPlain = true → i.bindings = i'.bindings →
      Edited is is' → Edited (i :: is) (i' :: is')
  | added (head : ImplHead) (methods : List (MethodHead × List Item)) {is is' : List Item} :
    Edited is is' → Edited is (.impl head methods :: is')
  | removed (head : ImplHead) (methods : List (MethodHead × List Item)) {is is' : List Item} :
    Edited is is' → Edited (.impl head methods :: is) is'

theorem Edited.bindings {is is' : List Item} (h : Edited is is') :
    is.flatMap Item.bindings = is'.flatMap Item.bindings := by
  induction h with
  | nil => rfl
  | struct _ _ ih => exact ih
  | function _ _ _ ih => exact ih
  | module _ _ _ _ ih => exact ih
  | plain _ _ hb _ ih => rw [List.flatMap_cons, List.flatMap_cons, hb, ih]
  | added _ _ _ ih => exact ih
  | removed _ _ _ ih => exact ih

/-- The declarations in order among what has been found. -/
def passing (xs : List Found) : List Declaration :=
  (xs.filterMap Found.declaration?).filter (·.target.check.isNone)

theorem passing_append (xs ys : List Found) : passing (xs ++ ys) = passing xs ++ passing ys := by
  rw [passing, List.filterMap_append, List.filter_append, passing, passing]

/-- What is found in a body is not in order. -/
theorem passing_of_nested {xs : List Found} {file : Option String}
    (h : ∀ d, .declaration d ∈ xs → MadeFrom file true d) : passing xs = [] := by
  rw [passing, List.filter_eq_nil_iff]
  intro d hd
  obtain ⟨x, hx, heq⟩ := List.mem_filterMap.mp hd
  cases x with
  | member m => cases heq
  | declaration d' =>
    cases heq
    obtain ⟨s, n, htarget, hn⟩ := h d hx
    rw [htarget, hn rfl]
    simp [Target.check, Target.ofStruct]

theorem passing_impl (file : Option String) (scope : Scope) (nested : Bool) (head : ImplHead)
    (methods : List (MethodHead × List Item)) :
    passing ((Item.impl head methods).found file scope nested) = [] := by
  have hnested : ∀ d, .declaration d ∈ (Item.impl head methods).found file scope nested →
      MadeFrom file true d := by
    intro d hd
    rw [Item.found, List.mem_append] at hd
    rcases hd with hd | hd
    · exact absurd hd (declaration_notMem_own _ _ _ d)
    · exact madeFrom_foundInMethods file scope methods d hd
  exact passing_of_nested hnested

theorem passing_function (file : Option String) (scope : Scope) (nested : Bool)
    (body : List Item) : passing ((Item.function body).found file scope nested) = [] := by
  rw [Item.found]
  exact passing_of_nested (madeFrom_foundAll file scope true body)

theorem passing_plain {i : Item} (h : i.isPlain = true) (file : Option String) (scope : Scope)
    (nested : Bool) : passing (i.found file scope nested) = [] := by
  cases i <;> first | rfl | cases h

/-- A struct that has moved is in order where it was. -/
theorem StructItem.Moved.passing {s s' : StructItem} (h : s.Moved s') (file : Option String)
    (scope : Scope) (nested : Bool) :
    List.Forall₂ Declaration.Alike (passing ((Item.struct s).found file scope nested))
      (Newtype.passing ((Item.struct s').found file scope nested)) := by
  have hd := h.declaration? file scope nested
  rw [Item.found, Item.found]
  generalize s.declaration? file scope nested = x at hd ⊢
  generalize s'.declaration? file scope nested = x' at hd ⊢
  cases hd with
  | none => exact .nil
  | @some d d' hdd =>
    have hcheck : d.target.check.isNone = d'.target.check.isNone :=
      (Pending.Alike.source 0 0 hdd).passes
    simp only [Newtype.passing, Option.map_some, Option.toList_some, List.filterMap_cons,
      Found.declaration?, List.filterMap_nil, List.filter_cons, List.filter_nil, hcheck]
    cases d'.target.check.isNone with
    | false => exact .nil
    | true => exact .cons hdd .nil

/-- **An edited file has the same declarations in order**, but for places. -/
theorem Edited.passing {is is' : List Item} (h : Edited is is') (file : Option String) :
    ∀ scope : Scope, List.Forall₂ Declaration.Alike
      (passing (Item.foundAll file scope false is))
      (Newtype.passing (Item.foundAll file scope false is')) := by
  induction h with
  | nil => exact fun _ => .nil
  | struct hs _ ih =>
    intro scope
    rw [Item.foundAll, Item.foundAll, passing_append, passing_append]
    exact List.rel_append (hs.passing file scope false) (ih scope)
  | function body body' _ ih =>
    intro scope
    rw [Item.foundAll, Item.foundAll, passing_append, passing_append, passing_function,
      passing_function]
    exact ih scope
  | @module w inner inner' is is' hinner _ ihinner ih =>
    intro scope
    rw [Item.foundAll, Item.foundAll, passing_append, passing_append, Item.found, Item.found]
    refine List.rel_append ?_ (ih scope)
    -- the inner module binds the same names, so its scope is the same
    have hscope : Scope.ofItems (scope.module ++ [w]) inner =
        Scope.ofItems (scope.module ++ [w]) inner' := by
      rw [Scope.ofItems, Scope.ofItems, hinner.bindings]
    rw [← hscope]
    exact ihinner _
  | plain hi hi' _ _ ih =>
    intro scope
    rw [Item.foundAll, Item.foundAll, passing_append, passing_append, passing_plain hi,
      passing_plain hi']
    exact ih scope
  | added head methods _ ih =>
    intro scope
    rw [Item.foundAll, passing_append, passing_impl]
    exact ih scope
  | removed head methods _ ih =>
    intro scope
    rw [Item.foundAll, passing_append, passing_impl]
    exact ih scope

/-- A file edited such that every annotated struct in order keeps the members that the
blocks for it give. -/
structure EditedElsewhere (file : Option String) (items items' : List Item) : Prop where
  edited : Edited items items'
  members : ∀ d ∈ (extract items file).declarations, d.target.check = none →
    userMembers items d.scope.module d.target.name =
      userMembers items' d.scope.module d.target.name

namespace Generator

/-! ### Revised sources -/

/-- The second list of additions is the first with edited files, with sources added and
with sources left out.  The files are edited in some way, and the other sources have no
annotated struct or cannot be read. -/
inductive Revised (edit : Option String → List Item → List Item → Prop) :
    List Addition → List Addition → Prop
  | nil : Revised edit [] []
  | same (a : Addition) {as bs : List Addition} :
    Revised edit as bs → Revised edit (a :: as) (a :: bs)
  | edited {text text' : String} {file : Option String} {items items' : List Item}
      {as bs : List Addition} :
    readFile text = some items → readFile text' = some items' →
      edit file items items' → Revised edit as bs →
        Revised edit (.source text file :: as) (.source text' file :: bs)
  | added {text : String} {file : Option String} {as bs : List Addition} :
    (∀ items, readFile text = some items → (extract items file).declarations = []) →
      Revised edit as bs → Revised edit as (.source text file :: bs)
  | removed {text : String} {file : Option String} {as bs : List Addition} :
    (∀ items, readFile text = some items → (extract items file).declarations = []) →
      Revised edit as bs → Revised edit (.source text file :: as) bs

/-- The entries of additions that are in order. -/
def passingEntries (as : List Addition) : List Entry :=
  (as.flatMap Addition.entries).filter (·.declaration.passes)

theorem passingEntries_cons (a : Addition) (as : List Addition) :
    passingEntries (a :: as) = a.entries.filter (·.declaration.passes) ++ passingEntries as := by
  rw [passingEntries, List.flatMap_cons, List.filter_append, passingEntries]

/-- The entries of a file: its declarations, each with the members for it. -/
theorem entries_single (items : List Item) (file : Option String) :
    (({} : Generator).addItems items file).entries =
      (extract items file).declarations.map fun d =>
        ⟨.source 0 d, userMembers items d.scope.module d.target.name⟩ := by
  change ((extract items file).declarations.map (.source 0)).map
    (({} : Generator).addItems items file).entryOf = _
  rw [List.map_map]
  refine List.map_congr_left fun d _ => ?_
  exact congrArg (Entry.mk (.source 0 d)) (membersOf_single items file d)

theorem filter_entries_single (items : List Item) (file : Option String) :
    (({} : Generator).addItems items file).entries.filter (·.declaration.passes) =
      (passing (Item.foundAll file (.ofItems [] items) false items)).map fun d =>
        ⟨.source 0 d, userMembers items d.scope.module d.target.name⟩ := by
  rw [entries_single, List.filter_map, passing, extract_declarations]
  rfl

theorem entries_source {text : String} {items : List Item} (h : readFile text = some items)
    (file : Option String) : (Addition.source text file).entries =
      (({} : Generator).addItems items file).entries := by
  rw [Addition.entries, add, addSource?, h]
  rfl

theorem entries_of_bare {text : String} {file : Option String}
    (h : ∀ items, readFile text = some items → (extract items file).declarations = []) :
    (Addition.source text file).entries = [] := by
  cases hread : readFile text with
  | none =>
    rw [Addition.entries, add, addSource?, hread]
    rfl
  | some items => rw [entries_source hread, entries_single, h items hread, List.map_nil]

/-- Files that are edited in some way keep the members of some structs in order. -/
structure Keeps (keep : String → Prop) (edit : Option String → List Item → List Item → Prop) :
    Prop where
  edited : ∀ {file items items'}, edit file items items' → Edited items items'
  members : ∀ {file items items'}, edit file items items' →
    ∀ d ∈ (extract items file).declarations, d.target.check = none → keep d.target.name →
      userMembers items d.scope.module d.target.name =
        userMembers items' d.scope.module d.target.name

theorem keeps_elsewhere : Keeps (fun _ => True) EditedElsewhere where
  edited he := he.edited
  members he d hd hcheck _ := he.members d hd hcheck

theorem keeps_edited : Keeps (fun _ => False) fun _ => Edited where
  edited he := he
  members _ _ _ _ hkeep := hkeep.elim

section Edits

variable {keep : String → Prop} {edit : Option String → List Item → List Item → Prop}
  (hkeeps : Keeps keep edit)

include hkeeps

/-- An edited file gives entries that are alike. -/
theorem filter_entries_edited {text text' : String} {file : Option String}
    {items items' : List Item} (h : readFile text = some items) (h' : readFile text' = some items')
    (he : edit file items items') :
    List.Forall₂ (Entry.Alike keep)
      ((Addition.source text file).entries.filter (·.declaration.passes))
      ((Addition.source text' file).entries.filter (·.declaration.passes)) := by
  have hedited := hkeeps.edited he
  have hscope : Scope.ofItems [] items' = Scope.ofItems [] items := by
    rw [Scope.ofItems, Scope.ofItems, hedited.bindings]
  rw [entries_source h, entries_source h', filter_entries_single, filter_entries_single,
    List.forall₂_map_left_iff, List.forall₂_map_right_iff, hscope]
  have hkept : ∀ d ∈ passing (Item.foundAll file (.ofItems [] items) false items),
      keep d.target.name → userMembers items d.scope.module d.target.name =
        userMembers items' d.scope.module d.target.name := by
    intro d hd
    obtain ⟨hmem, hcheck⟩ := List.mem_filter.mp hd
    rw [← extract_declarations] at hmem
    exact hkeeps.members he d hmem (Option.isNone_iff_eq_none.mp hcheck)
  refine ((List.forall₂_and_left _ _).mpr ⟨hkept, hedited.passing file _⟩).imp ?_
  rintro d d' ⟨hmembers, hdd⟩
  refine ⟨.source 0 0 hdd, fun hkeep => ?_⟩
  have hname : d.target.name = d'.target.name := (Pending.Alike.source 0 0 hdd).name
  rw [← hname, ← hdd.scope]
  exact hmembers hkeep

theorem Revised.passingEntries {as bs : List Addition} (h : Revised edit as bs) :
    List.Forall₂ (Entry.Alike keep) (passingEntries as) (Generator.passingEntries bs) := by
  induction h with
  | nil => exact .nil
  | same a _ ih =>
    rw [passingEntries_cons, passingEntries_cons]
    refine List.rel_append (List.forall₂_same.mpr fun e _ => ?_) ih
    exact ⟨.refl e.declaration, fun _ => rfl⟩
  | edited h h' he _ ih =>
    rw [passingEntries_cons, passingEntries_cons]
    exact List.rel_append (filter_entries_edited hkeeps h h' he) ih
  | added h _ ih =>
    rw [passingEntries_cons, entries_of_bare h]
    exact ih
  | removed h _ ih =>
    rw [passingEntries_cons, entries_of_bare h]
    exact ih

/-- A generator with revised sources goes in lockstep with the one before. -/
theorem Revised.lockstep {as bs : List Addition} (h : Revised edit as bs) (registry : Registry)
    (header : Option String) :
    Lockstep keep (filled registry header as) (filled registry header bs) where
  registry := (addAll_registry_header as _).1.trans (addAll_registry_header bs _).1.symm
  header := (addAll_registry_header as _).2.trans (addAll_registry_header bs _).2.symm
  entries := by
    have hstart : Numbered { registry := registry, header := header } :=
      numbered_filled registry header []
    rw [filled, filled, entries_addAll as hstart, entries_addAll bs hstart]
    exact h.passingEntries hkeeps

end Edits

end Generator
end Newtype
