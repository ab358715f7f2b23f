import Newtype.Proofs.Difference
import Newtype.Proofs.Scoping

/-!
# Types of the same name in a body

A function may declare a type in its body that has the name of a struct of the module.
Implementation blocks in the body are then for the local type.  The search does not see
this: it knows modules but no bodies, and counts the blocks in a body for the struct of
the module.  So a block for a local type can take a member away from the wrapper of
another type, or make it call a hook it does not have.  Here is said exactly when.

* `BodyAt` — a body in a module, and the file around it.
* `withoutImpls`, `localMembers` — the blocks in a body for a type.
* `mem_userMembers_iff`, `userMembers_of_ne` — what such blocks add, and for whom.
* `fileOf_eq_iff_text` — two batches in lockstep but for one wrapper.
* `fileOf_withoutImpls_iff` — **when the blocks in a body show in a file.**
* `not_localImplsIgnored` — they do.
-/

namespace Newtype

/-! ### Bodies -/

/-- A file as a function of the body of one of its functions or methods.  The path is that
of the inline modules around the function. -/
inductive BodyAt : List String → (List Item → List Item) → Prop
  | function (l r : List Item) : BodyAt [] fun body => l ++ .function body :: r
  | method (l r : List Item) (head : ImplHead) (ms ms' : List (MethodHead × List Item))
      (m : MethodHead) : BodyAt [] fun body => l ++ .impl head (ms ++ (m, body) :: ms') :: r
  | module (l r : List Item) (w : String) {path : List String} {around : List Item → List Item} :
    BodyAt path around → BodyAt (w :: path) fun body => l ++ .module w (around body) :: r

theorem implBlocksAll_append (module : List String) (is js : List Item) :
    Item.implBlocksAll module (is ++ js) =
      Item.implBlocksAll module is ++ Item.implBlocksAll module js := by
  induction is with
  | nil => rfl
  | cons i is ih =>
    rw [List.cons_append, Item.implBlocksAll, ih, Item.implBlocksAll, List.append_assoc]

theorem implBlocksInMethods_append (module : List String) (ms ns : List (MethodHead × List Item)) :
    Item.implBlocksInMethods module (ms ++ ns) =
      Item.implBlocksInMethods module ms ++ Item.implBlocksInMethods module ns := by
  induction ms with
  | nil => rfl
  | cons m ms ih =>
    rw [List.cons_append, Item.implBlocksInMethods, ih, Item.implBlocksInMethods,
      List.append_assoc]

theorem foundAll_append (file : Option String) (scope : Scope) (nested : Bool)
    (is js : List Item) : Item.foundAll file scope nested (is ++ js) =
      Item.foundAll file scope nested is ++ Item.foundAll file scope nested js := by
  induction is with
  | nil => rfl
  | cons i is ih => rw [List.cons_append, Item.foundAll, ih, Item.foundAll, List.append_assoc]

namespace BodyAt

variable {path : List String} {around : List Item → List Item}

/-- The blocks of a file are those of the body and others that do not depend on it. -/
theorem implBlocks (h : BodyAt path around) : ∀ module : List String, ∃ front back, ∀ body,
    Item.implBlocksAll module (around body) =
      front ++ (Item.implBlocksAll (module ++ path) body ++ back) := by
  induction h with
  | function l r =>
    intro module
    refine ⟨Item.implBlocksAll module l, Item.implBlocksAll module r, fun body => ?_⟩
    rw [implBlocksAll_append, Item.implBlocksAll, Item.implBlocks, List.append_nil]
  | method l r head ms ms' m =>
    intro module
    refine ⟨Item.implBlocksAll module l ++
      ⟨module, head, (ms ++ (m, []) :: ms').map (·.1)⟩ :: Item.implBlocksInMethods module ms,
      Item.implBlocksInMethods module ms' ++ Item.implBlocksAll module r, fun body => ?_⟩
    rw [implBlocksAll_append, Item.implBlocksAll, Item.implBlocks, implBlocksInMethods_append,
      Item.implBlocksInMethods, Item.implBlocksInMethod, List.append_nil]
    simp only [List.map_append, List.map_cons, List.append_assoc, List.cons_append]
  | module l r w _ ih =>
    intro module
    obtain ⟨front, back, hblocks⟩ := ih (module ++ [w])
    refine ⟨Item.implBlocksAll module l ++ front, back ++ Item.implBlocksAll module r,
      fun body => ?_⟩
    rw [implBlocksAll_append, Item.implBlocksAll, Item.implBlocks, hblocks]
    simp only [List.append_assoc, List.singleton_append]

/-- Bodies bind no names of the module. -/
theorem bindings (h : BodyAt path around) (body body' : List Item) :
    (around body).flatMap Item.bindings = (around body').flatMap Item.bindings := by
  cases h with
  | function l r => simp only [List.flatMap_append, List.flatMap_cons, Item.bindings]
  | method l r head ms ms' m => simp only [List.flatMap_append, List.flatMap_cons, Item.bindings]
  | module l r w _ => simp only [List.flatMap_append, List.flatMap_cons, Item.bindings]

/-- What stands in a body is not in order, so another body changes nothing there. -/
theorem passing (h : BodyAt path around) (file : Option String) (body body' : List Item) :
    ∀ scope : Scope, passing (Item.foundAll file scope false (around body)) =
      Newtype.passing (Item.foundAll file scope false (around body')) := by
  induction h with
  | function l r =>
    intro scope
    simp only [foundAll_append, Item.foundAll, passing_append, passing_function]
  | method l r head ms ms' m =>
    intro scope
    simp only [foundAll_append, Item.foundAll, passing_append, passing_impl]
  | @module l r w path around hinner ih =>
    intro scope
    have hscope : Scope.ofItems (scope.module ++ [w]) (around body) =
        Scope.ofItems (scope.module ++ [w]) (around body') := by
      rw [Scope.ofItems, Scope.ofItems, hinner.bindings body body']
    simp only [foundAll_append, Item.foundAll, passing_append, Item.found]
    rw [hscope, ih]

end BodyAt

/-! ### Blocks for a type -/

/-- The item is an implementation block with the bare name of a type. -/
def Item.isImplFor (w : String) : Item → Bool
  | .impl head _ => head.selfName? == some w
  | _ => false

/-- A body without the blocks for a type. -/
def withoutImpls (w : String) (body : List Item) : List Item := body.filter (!·.isImplFor w)

/-- The members that the blocks in a body give a type of the module around it. -/
def localMembers (path : List String) (w : String) (body : List Item) : List UserMember :=
  ((Item.implBlocksAll path (body.filter (·.isImplFor w))).filter (·.isFor path w)).flatMap
    ImplBlock.members

/-- The methods of the blocks for a type hold no blocks themselves. -/
def PlainImpls (w : String) (body : List Item) : Prop :=
  ∀ head methods, Item.impl head methods ∈ body → head.selfName? = some w →
    ∀ module, Item.implBlocksInMethods module methods = []

/-- Without the blocks for a type, the blocks for any other are all there. -/
theorem filter_withoutImpls {w : String} {body : List Item} (hplain : PlainImpls w body)
    (path module : List String) {type : String} (htype : type ≠ w) :
    (Item.implBlocksAll path (withoutImpls w body)).filter (·.isFor module type) =
      (Item.implBlocksAll path body).filter (·.isFor module type) := by
  induction body with
  | nil => rfl
  | cons i is ih =>
    have hrest := ih fun head methods hmem => hplain head methods (List.mem_cons_of_mem _ hmem)
    rw [withoutImpls, List.filter_cons, ← withoutImpls]
    by_cases hi : i.isImplFor w = true
    · rw [if_neg (by simp [hi]), Item.implBlocksAll, List.filter_append, hrest]
      cases i with
      | impl head methods =>
        have hself : head.selfName? = some w := by simpa [Item.isImplFor] using hi
        rw [Item.implBlocks, hplain head methods List.mem_cons_self hself path,
          List.filter_cons_of_neg, List.filter_nil, List.nil_append]
        simp [ImplBlock.isFor, hself, htype.symm]
      | _ => cases hi
    · rw [if_pos (by simpa using hi), Item.implBlocksAll, Item.implBlocksAll,
        List.filter_append, List.filter_append, hrest]

/-- The blocks of a body are those for a type and the others. -/
theorem mem_implBlocksAll_iff (path : List String) (w : String) (body : List Item)
    (b : ImplBlock) : b ∈ Item.implBlocksAll path body ↔
      b ∈ Item.implBlocksAll path (withoutImpls w body) ∨
        b ∈ Item.implBlocksAll path (body.filter (·.isImplFor w)) := by
  induction body with
  | nil => simp [withoutImpls, Item.implBlocksAll]
  | cons i is ih =>
    rw [withoutImpls, List.filter_cons, ← withoutImpls, List.filter_cons, Item.implBlocksAll,
      List.mem_append, ih]
    by_cases hi : i.isImplFor w = true
    · rw [if_neg (by simp [hi]), if_pos hi, Item.implBlocksAll, List.mem_append]
      exact or_left_comm
    · rw [if_pos (by simpa using hi), if_neg hi, Item.implBlocksAll, List.mem_append]
      exact or_assoc.symm

theorem mem_userMembers {items : List Item} {module : List String} {type : String}
    {x : UserMember} : x ∈ userMembers items module type ↔
      ∃ b ∈ Item.implBlocksAll [] items, b.isFor module type = true ∧ x ∈ b.members := by
  simp only [userMembers, List.mem_flatMap, List.mem_filter, and_assoc]

namespace BodyAt

variable {path : List String} {around : List Item → List Item} {w : String} {body : List Item}

/-- The blocks in a body for one type are nothing to the others. -/
theorem userMembers_of_ne (h : BodyAt path around) (hplain : PlainImpls w body)
    (module : List String) {type : String} (htype : type ≠ w) :
    userMembers (around body) module type =
      userMembers (around (withoutImpls w body)) module type := by
  obtain ⟨front, back, hblocks⟩ := h.implBlocks []
  rw [userMembers, userMembers, hblocks, hblocks]
  simp only [List.filter_append, filter_withoutImpls hplain _ _ htype]

/-- **The blocks in a body for a type count for the struct of the module with its name.** -/
theorem mem_userMembers_iff (h : BodyAt path around) (x : UserMember) :
    x ∈ userMembers (around body) path w ↔
      x ∈ userMembers (around (withoutImpls w body)) path w ∨ x ∈ localMembers path w body := by
  obtain ⟨front, back, hblocks⟩ := h.implBlocks []
  have hlocal : x ∈ localMembers path w body ↔
      ∃ b ∈ Item.implBlocksAll path (body.filter (·.isImplFor w)),
        b.isFor path w = true ∧ x ∈ b.members := by
    simp only [localMembers, List.mem_flatMap, List.mem_filter, and_assoc]
  rw [Newtype.mem_userMembers, Newtype.mem_userMembers, hlocal, ← exists_or]
  refine exists_congr fun b => ?_
  rw [hblocks, hblocks, List.nil_append, ← or_and_right]
  refine and_congr_left fun _ => ?_
  simp only [List.mem_append, mem_implBlocksAll_iff path w body b]
  tauto

end BodyAt

namespace Generator

/-! ### Two batches but for one wrapper -/

theorem withHeader_injective (g : Generator) {x y : String}
    (h : g.withHeader x = g.withHeader y) : x = y := by
  rw [withHeader, withHeader] at h
  exact Plan.append_left_cancel h

/-- **Two batches in lockstep but for one wrapper.**  Its files are the same exactly if
the texts are that the same specification gives the two structs. -/
theorem fileOf_eq_iff_text {g g' : Generator} {p : Pending} {w : String}
    (hw : p.target.name = w) (h : Lockstep (· ≠ w) g g') (hp : p ∈ g.accepted)
    (hp' : p ∈ g'.accepted) : g.fileOf w = g'.fileOf w ↔
      ∀ s, g.reading p = .ok s →
        (Plan.of s (g.fullTarget p)).text = (Plan.of s (g'.fullTarget p)).text := by
  subst hw
  have hmatched : Matched (· ≠ p.target.name) g g' p p := by
    refine ⟨.refl _, fun hne => ?_⟩
    rw [entryOf_name] at hne
    exact absurd rfl hne
  have hread : shownOf (g.reading p) = shownOf (g'.reading p) := by
    refine h.shown_reading hmatched fun q hq => ?_
    rw [← bne_iff_ne]
    exact List.all_eq_true.mp List.all_takeWhile q hq
  rw [fileOf_eq_turn hp, fileOf_eq_turn hp', file?_turn, file?_turn]
  rcases shownOf_cases hread with ⟨m, m', hs, hs'⟩ | ⟨s, s', hs, hs', hshown⟩
  · rw [hs, hs']
    exact ⟨fun _ s hs => (nomatch hs), fun _ => rfl⟩
  · have hplan : g'.planOf p s' = Plan.of s (g'.fullTarget p) :=
      (plan_of_shown hshown (.refl _)).symm
    have hname : (Plan.of s (g.fullTarget p)).typeName =
        (Plan.of s (g'.fullTarget p)).typeName := by
      rw [← planOf, ← planOf, planOf_typeName, planOf_typeName]
    rw [hs, hs']
    constructor
    · intro hfiles s₁ hs₁
      cases hs₁
      have htexts : g.withHeader (g.planOf p s).text = g'.withHeader (g'.planOf p s').text :=
        congrArg Artifact.text (Option.some.inj hfiles)
      rw [hplan, ← withHeader_congr h.header] at htexts
      exact withHeader_injective g htexts
    · intro htexts
      have hfiles : g.artifact (Plan.of s (g.fullTarget p)) = g'.artifact (g'.planOf p s') := by
        rw [hplan, artifact, artifact, hname, htexts s rfl, withHeader_congr h.header]
      exact congrArg some hfiles

/-! ### A file with another body -/

/-- A batch with some additions, a file, and more additions. -/
def batchWith (registry : Registry) (header : Option String) (l : List Addition)
    (items : List Item) (file : Option String) (r : List Addition) : Generator :=
  ((filled registry header l).addItems items file).addAll r

/-- Two generators with the same declarations in order and the same number of sources. -/
structure SamePassing (g g' : Generator) : Prop where
  sources : g.sources = g'.sources
  passing : g.pending.filter Pending.passes = g'.pending.filter Pending.passes

theorem SamePassing.addItems {g g' : Generator} (h : SamePassing g g') {items items' : List Item}
    {file : Option String}
    (hpass : Newtype.passing (Item.foundAll file (.ofItems [] items) false items) =
      Newtype.passing (Item.foundAll file (.ofItems [] items') false items')) :
    SamePassing (g.addItems items file) (g'.addItems items' file) where
  sources := congrArg (· + 1) h.sources
  passing := by
    have hnew : ∀ (n : Nat) (is : List Item),
        ((extract is file).declarations.map (Pending.source n)).filter Pending.passes =
          (Newtype.passing (Item.foundAll file (.ofItems [] is) false is)).map (.source n) := by
      intro n is
      rw [List.filter_map, Newtype.passing, extract_declarations]
      rfl
    simp only [Generator.addItems, List.filter_append, hnew, h.passing, h.sources, hpass]

theorem SamePassing.addAll {r : List Addition} : ∀ {g g' : Generator}, SamePassing g g' →
    SamePassing (g.addAll r) (g'.addAll r) := by
  induction r with
  | nil => exact fun h => h
  | cons a r ih =>
    intro g g' h
    have hone : SamePassing (g.add a) (g'.add a) := by
      cases a with
      | resolved t s =>
        refine ⟨h.sources, ?_⟩
        simp only [add, addResolved, List.filter_append, h.passing]
      | source text file =>
        rw [add, add, addSource?, addSource?]
        cases readFile text with
        | none => exact h
        | some items => exact h.addItems rfl
    exact ih hone

theorem SamePassing.accepted {g g' : Generator} (h : SamePassing g g') :
    g.accepted = g'.accepted := by
  rw [Generator.accepted, Generator.accepted, screen, screen, screenFrom_filter, h.passing,
    ← screenFrom_filter]

theorem entries_batchWith (registry : Registry) (header : Option String) (l r : List Addition)
    (items : List Item) (file : Option String) :
    (batchWith registry header l items file r).entries =
      (filled registry header l).entries ++ (({} : Generator).addItems items file).entries ++
        r.flatMap Addition.entries := by
  have hl := numbered_filled registry header l
  rw [batchWith, entries_addAll r (hl.addItems items file), entries_addItems hl]

theorem batchWith_registry_header (registry : Registry) (header : Option String)
    (l r : List Addition) (items : List Item) (file : Option String) :
    (batchWith registry header l items file r).registry = (filled registry header l).registry ∧
      (batchWith registry header l items file r).header = (filled registry header l).header :=
  addAll_registry_header r ((filled registry header l).addItems items file)

section Body

variable {path : List String} {around : List Item → List Item} {w : String} {body : List Item}

/-- Without the blocks in a body for a type, a batch goes on in lockstep but for the wrapper
with the name of the type. -/
theorem lockstep_withoutImpls (h : BodyAt path around) (hplain : PlainImpls w body)
    (registry : Registry) (header : Option String) (l r : List Addition) (file : Option String) :
    Lockstep (· ≠ w) (batchWith registry header l (around body) file r)
      (batchWith registry header l (around (withoutImpls w body)) file r) where
  registry := by rw [(batchWith_registry_header ..).1, (batchWith_registry_header ..).1]
  header := by rw [(batchWith_registry_header ..).2, (batchWith_registry_header ..).2]
  entries := by
    have hsame : ∀ es : List Entry, List.Forall₂ (Entry.Alike (· ≠ w)) es es :=
      fun es => List.forall₂_same.mpr fun e _ => ⟨.refl e.declaration, fun _ => rfl⟩
    have hscope : Scope.ofItems [] (around (withoutImpls w body)) = .ofItems [] (around body) := by
      rw [Scope.ofItems, Scope.ofItems, h.bindings]
    rw [entries_batchWith, entries_batchWith]
    simp only [List.filter_append]
    refine List.rel_append (List.rel_append (hsame _) ?_) (hsame _)
    rw [filter_entries_single, filter_entries_single, hscope,
      h.passing file (withoutImpls w body) body, List.forall₂_map_left_iff,
      List.forall₂_map_right_iff]
    refine List.forall₂_same.mpr fun d _ => ⟨.refl _, fun hne => ?_⟩
    exact h.userMembers_of_ne hplain _ hne

theorem samePassing_body (h : BodyAt path around) (body' : List Item) (registry : Registry)
    (header : Option String) (l r : List Addition) (file : Option String) :
    SamePassing (batchWith registry header l (around body) file r)
      (batchWith registry header l (around body') file r) := by
  refine SamePassing.addAll (SamePassing.addItems ⟨rfl, rfl⟩ ?_)
  rw [Scope.ofItems, Scope.ofItems, h.bindings body body']
  exact h.passing file body body' _

/-- A struct in order is declared whatever stands in the body. -/
theorem mem_extract_body (h : BodyAt path around) (body' : List Item) {file : Option String}
    {d : Declaration} (hd : d ∈ (extract (around body) file).declarations)
    (hcheck : d.target.check.isNone = true) :
    d ∈ (extract (around body') file).declarations := by
  have hpass : d ∈ passing (Item.foundAll file (.ofItems [] (around body)) false (around body)) := by
    rw [passing, ← extract_declarations]
    exact List.mem_filter.mpr ⟨hd, hcheck⟩
  rw [Scope.ofItems, h.bindings body body', h.passing file body body', ← Scope.ofItems,
    passing, ← extract_declarations] at hpass
  exact (List.mem_filter.mp hpass).1

/-- The error types of all hooks stand in one line each. -/
def HooksInLine (ms : List UserMember) : Prop :=
  ∀ e, UserMember.validate ⟨some e⟩ ∈ ms → '\n' ∉ e.toList

theorem HooksInLine.oneLine {ms : List UserMember} (h : HooksInLine ms) :
    (Check.of (lastHook ms)).OneLine := by
  intro e he
  refine h e ?_
  cases hlast : lastHook ms with
  | none => rw [hlast] at he; cases he
  | some hook =>
    obtain ⟨m, hm, hhook⟩ := List.mem_filterMap.mp (List.mem_of_getLast? hlast)
    cases m with
    | display => cases hhook
    | debug => cases hhook
    | validate hook' =>
      cases hhook
      obtain ⟨- | e'⟩ := hook
      · rw [hlast] at he
        cases he
      · rw [hlast] at he
        cases he
        exact hm

theorem fullTarget_batchWith (registry : Registry) (header : Option String)
    (l r : List Addition) {items : List Item} {file : Option String} {d : Declaration}
    (hd : d ∈ (extract items file).declarations) :
    (batchWith registry header l items file r).fullTarget
        (.source (filled registry header l).sources d) =
      d.withMembers (userMembers items d.scope.module d.target.name) := by
  have hl := numbered_filled registry header l
  rw [fullTarget, batchWith, (membersOf_addItems_addAll hl r hd).2]
  exact addMembers_of_mem_extract hd _

/-- More members change the text of a wrapper exactly if they take a text form away or
bring another hook. -/
theorem text_withMembers_iff {s : Specification} (d : Declaration)
    {all others more : List UserMember} (hall : ∀ x, x ∈ all ↔ x ∈ others ∨ x ∈ more)
    (hlines : HooksInLine all) :
    (Plan.of s (d.withMembers all)).text = (Plan.of s (d.withMembers others)).text ↔
      ((Storage.ofFields s.fields).traits.display = true → .display ∈ more →
        .display ∈ others) ∧
      (d.target.userDebug = false → .debug ∈ more → .debug ∈ others) ∧
      lastHook all = lastHook others := by
  have hsub : ∀ x, others.contains x = true → all.contains x = true := by
    intro x hx
    rw [List.contains_iff_mem] at hx ⊢
    exact (hall x).mpr (Or.inl hx)
  have hcontains : ∀ x, all.contains x = others.contains x ↔ (x ∈ more → x ∈ others) := by
    intro x
    rw [Bool.eq_iff_iff, List.contains_iff_mem, List.contains_iff_mem, hall]
    tauto
  have hdebug : (d.withMembers others).userDebug = true → (d.withMembers all).userDebug = true := by
    simp only [Declaration.withMembers, Bool.or_eq_true]
    exact Or.imp_right (hsub _)
  have hlines' : HooksInLine others := fun e he => hlines e ((hall _).mpr (Or.inl he))
  have hsame : (d.withMembers all).SameButMembers (d.withMembers others) := rfl
  rw [Plan.text_eq_iff hsame (hsub _) hdebug hlines.oneLine hlines'.oneLine]
  refine and_congr (imp_congr_right fun _ => hcontains _) (and_congr_left fun _ => ?_)
  rw [← hcontains]
  simp only [Declaration.withMembers]
  cases d.target.userDebug <;> simp

/-- Whether the blocks in a body for a type show in the file of the struct with its name
can be seen from the two texts. -/
theorem fileOf_withoutImpls_iff_text (h : BodyAt path around) (hplain : PlainImpls w body)
    (registry : Registry) (header : Option String) (l r : List Addition) {file : Option String}
    {d : Declaration} (hd : d ∈ (extract (around body) file).declarations)
    (hname : d.target.name = w)
    (hacc : .source (filled registry header l).sources d ∈
      (batchWith registry header l (around body) file r).accepted) :
    (batchWith registry header l (around body) file r).fileOf w =
        (batchWith registry header l (around (withoutImpls w body)) file r).fileOf w ↔
      ∀ s, (batchWith registry header l (around body) file r).reading
          (.source (filled registry header l).sources d) = .ok s →
        (Plan.of s (d.withMembers (userMembers (around body) d.scope.module w))).text =
          (Plan.of s (d.withMembers
            (userMembers (around (withoutImpls w body)) d.scope.module w))).text := by
  subst hname
  have hsame : SamePassing (batchWith registry header l (around body) file r)
      (batchWith registry header l (around (withoutImpls d.target.name body)) file r) :=
    samePassing_body h _ registry header l r file
  have hacc' : .source (filled registry header l).sources d ∈
      (batchWith registry header l (around (withoutImpls d.target.name body)) file r).accepted :=
    hsame.accepted ▸ hacc
  -- the struct is declared in both files, and each gives it its own members
  have hd' := mem_extract_body h (withoutImpls d.target.name body) hd (of_mem_screenFrom hacc).2.1
  have hlockstep := lockstep_withoutImpls h hplain registry header l r file
  have hname : (Pending.source (filled registry header l).sources d).target.name =
      d.target.name := rfl
  rw [fileOf_eq_iff_text hname hlockstep hacc hacc', fullTarget_batchWith registry header l r hd,
    fullTarget_batchWith registry header l r hd']

/-- **When the blocks in a body show in a file.**  Take a batch with a file, a body of a
function or method in a module of it, and a struct of this module that is accepted.  With
and without the blocks in the body that have the name of the struct, its wrapper has the
same file exactly if its arguments cannot be read, or

* a block for the ordinary text form goes with another one outside, or with a storage that
  has no such form,
* a block for debugging goes with another one outside, or with a struct that derives it, and
* the last hook is the same with and without the blocks.

It does not count whether the body declares a type with this name. -/
theorem fileOf_withoutImpls_iff (h : BodyAt path around) (hplain : PlainImpls w body)
    (registry : Registry) (header : Option String) (l r : List Addition) (file : Option String)
    {d : Declaration} (hd : d ∈ (extract (around body) file).declarations)
    (hpath : d.scope.module = path) (hname : d.target.name = w)
    (hacc : .source (filled registry header l).sources d ∈
      (batchWith registry header l (around body) file r).accepted)
    (hlines : HooksInLine (userMembers (around body) path w)) :
    (batchWith registry header l (around body) file r).fileOf w =
        (batchWith registry header l (around (withoutImpls w body)) file r).fileOf w ↔
      ∀ s, (batchWith registry header l (around body) file r).reading
          (.source (filled registry header l).sources d) = .ok s →
        ((Storage.ofFields s.fields).traits.display = true → .display ∈ localMembers path w body →
          .display ∈ userMembers (around (withoutImpls w body)) path w) ∧
        (d.target.userDebug = false → .debug ∈ localMembers path w body →
          .debug ∈ userMembers (around (withoutImpls w body)) path w) ∧
        lastHook (userMembers (around body) path w) =
          lastHook (userMembers (around (withoutImpls w body)) path w) := by
  subst hpath
  rw [fileOf_withoutImpls_iff_text h hplain registry header l r hd hname hacc]
  exact forall₂_congr fun s _ => text_withMembers_iff d h.mem_userMembers_iff hlines

end Body

/-! ### Blocks for local types count -/

/-- A file changes by no block that a body has for a type of its own. -/
def LocalImplsIgnored : Prop :=
  ∀ (path : List String) (around : List Item → List Item) (body : List Item) (u : StructItem),
    BodyAt path around → .struct u ∈ body → PlainImpls u.name body →
      ∀ (registry : Registry) (header : Option String) (l r : List Addition)
        (file : Option String), ∀ d ∈ (extract (around body) file).declarations,
          d.scope.module = path → d.target.name = u.name →
            .source (filled registry header l).sources d ∈
                (batchWith registry header l (around body) file r).accepted →
              (batchWith registry header l (around body) file r).fileOf u.name =
                (batchWith registry header l (around (withoutImpls u.name body)) file r).fileOf
                  u.name

/-- A struct without fields. -/
def scoreStruct (attributes : List Attribute) : StructItem where
  attributes := attributes
  visibility := []
  name := "Score"
  pos := .start
  generics := none
  form := .unit
  fields := none

/-- An annotated struct. -/
def annotatedScore (further : List Attribute) : StructItem :=
  scoreStruct (⟨⟨false, [marker]⟩, .bare, []⟩ :: further)

/-- A file with an annotated struct and a function. -/
def scoreFile (further : List Attribute) (body : List Item) : List Item :=
  [.struct (annotatedScore further)] ++ .function body :: []

/-- A body with a struct of its own and a block for a trait. -/
def scoreBody (trait : String) : List Item :=
  [.struct (scoreStruct []), .impl ⟨some [trait], .named ⟨false, ["Score"]⟩⟩ []]

/-- The declaration of the annotated struct. -/
def scoreDeclaration (further : List Attribute) : Declaration :=
  ⟨.ofStruct (annotatedScore further) false none, .ok [], ⟨[], []⟩⟩

theorem bodyAt_scoreFile (further : List Attribute) : BodyAt [] (scoreFile further) :=
  .function _ _

theorem plainImpls_scoreBody (trait : String) : PlainImpls "Score" (scoreBody trait) := by
  intro head methods hmem _ module
  simp only [scoreBody, List.mem_cons, reduceCtorEq, Item.impl.injEq, List.not_mem_nil, or_false,
    false_or] at hmem
  obtain ⟨-, rfl⟩ := hmem
  rfl

/-- A text form that a struct derives. -/
def deriveDebug : Attribute := ⟨⟨false, ["derive"]⟩, .list [.word "Debug" .start], []⟩

/-- A struct that derives its text form for debugging keeps its file when a type in a body
has one of its own. -/
theorem fileOf_withoutImpls_derived :
    .debug ∈ localMembers [] "Score" (scoreBody "Debug") ∧
      (batchWith .builtin none [] (scoreFile [deriveDebug] (scoreBody "Debug")) none []).fileOf
          "Score" =
        (batchWith .builtin none []
          (scoreFile [deriveDebug] (withoutImpls "Score" (scoreBody "Debug"))) none []).fileOf
            "Score" := by
  have hd : scoreDeclaration [deriveDebug] ∈
      (extract (scoreFile [deriveDebug] (scoreBody "Debug")) none).declarations :=
    List.mem_singleton_self _
  have hacc : .source 0 (scoreDeclaration [deriveDebug]) ∈
      (batchWith .builtin none [] (scoreFile [deriveDebug] (scoreBody "Debug")) none []).accepted :=
    List.mem_singleton_self _
  have hlines : HooksInLine
      (userMembers (scoreFile [deriveDebug] (scoreBody "Debug")) [] "Score") :=
    fun e he => absurd (List.mem_singleton.mp he) UserMember.noConfusion
  refine ⟨by decide, (fileOf_withoutImpls_iff (bodyAt_scoreFile _) (plainImpls_scoreBody _) .builtin
    none [] [] none hd rfl rfl hacc hlines).mpr fun s _ => ?_⟩
  exact ⟨fun _ h => absurd h (by decide), fun h => absurd h (by decide), rfl⟩

/-- A struct without fields that wraps an identifier has a text form in its file, unless a
type in a body has one of its own: **blocks for local types are not ignored.** -/
theorem not_localImplsIgnored : ¬LocalImplsIgnored := by
  intro h
  have hd : scoreDeclaration [] ∈ (extract (scoreFile [] (scoreBody "Display")) none).declarations :=
    List.mem_singleton_self _
  have hacc : .source 0 (scoreDeclaration []) ∈
      (batchWith .builtin none [] (scoreFile [] (scoreBody "Display")) none []).accepted :=
    List.mem_singleton_self _
  have hread : (batchWith .builtin none [] (scoreFile [] (scoreBody "Display")) none []).reading
      (.source 0 (scoreDeclaration [])) = .ok ⟨[Field.defaultId], {}⟩ := rfl
  have hfile := h [] (scoreFile []) (scoreBody "Display") (scoreStruct []) (bodyAt_scoreFile [])
    List.mem_cons_self (plainImpls_scoreBody _) .builtin none [] [] none _ hd rfl rfl hacc
  have htext := (fileOf_withoutImpls_iff_text (bodyAt_scoreFile []) (plainImpls_scoreBody _)
    .builtin none [] [] hd rfl hacc).mp hfile _ hread
  have hlines : HooksInLine (userMembers (scoreFile [] (scoreBody "Display")) [] "Score") :=
    fun e he => absurd (List.mem_singleton.mp he) UserMember.noConfusion
  have hforms := (text_withMembers_iff _ (bodyAt_scoreFile []).mem_userMembers_iff hlines).mp htext
  -- the only block for the trait is the one in the body
  exact absurd (hforms.1 rfl (by decide)) (by decide)

end Generator
end Newtype
