import Mathlib.Data.List.Basic
import Newtype.Source.Scope

/-!
# What imports bind

An import is a tree, and each of its leaves binds a name to a path.  The path is spelled
out along the tree, and the name is the last one of the path or the one given with `as`.
A leaf `self` is special: it leads to the path before it.

A scope takes the leaves as they are written.  So it finds the right names and paths at any
depth, but it does not know that `self` is special.  An import `p::{self}` binds the word
`self` in place of the last name of `p`, and `p::{self as w}` binds `w` to a path that ends
in `self`.  Here is said exactly when this shows, in modules without raw names and without `as _`,
which a scope does not know either.

* `ImportLeaf`, `UseTree.leaves` — the leaves of an import.
* `ImportLeaf.written`, `ImportLeaf.meaning` — what a leaf binds as it is written, and what
  it means.
* `bindings_eq_leaves` — **a scope binds the leaves as they are written.**
* `bareWord`, `Binder.bound?`, `Scope.meant` — the bindings that the items of a module mean.
* `Binder.isPlain` — a binder with neither a raw name nor `as _`.
* `SelfReplaced` — every `self` is renamed, to a name that is bound again.
* `ofItems_agrees_iff` — **when a scope has the bindings that are meant.**
* `not_ofItems_agrees` — it does not always have them.
-/

namespace Newtype

/-! ### Leaves -/

/-- A leaf of an import: the segments before it, its own segment, and the name given to it
with `as`. -/
structure ImportLeaf where
  lead : List String
  segment : String
  renamed : Option String

namespace ImportLeaf

/-- The leaf behind one more segment. -/
def behind (w : String) (l : ImportLeaf) : ImportLeaf := { l with lead := w :: l.lead }

/-- The leaf is a `self` behind a path. -/
def isSelf (l : ImportLeaf) : Bool := l.segment == "self" && !l.lead.isEmpty

/-- The path a leaf leads to. -/
def target (l : ImportLeaf) : List String := if l.isSelf then l.lead else l.lead ++ [l.segment]

/-- What a leaf means, with its words as names. -/
def meaning (l : ImportLeaf) : Binding := (l.renamed.getD (l.target.getLastD ""), l.target)

/-- What a leaf binds if its segments are taken as they are written. -/
def written (l : ImportLeaf) : Binding := (l.renamed.getD l.segment, l.lead ++ [l.segment])

theorem written_eq_meaning {l : ImportLeaf} (h : l.isSelf = false) : l.written = l.meaning := by
  simp [written, meaning, target, h]

theorem segment_eq_self {l : ImportLeaf} (h : l.isSelf = true) : l.segment = "self" := by
  simp only [isSelf, Bool.and_eq_true, beq_iff_eq] at h
  exact h.1

theorem written_ne_meaning {l : ImportLeaf} (h : l.isSelf = true) :
    l.written.2 ≠ l.meaning.2 := by
  simp [written, meaning, target, h]

theorem written_of_renamed {l : ImportLeaf} {w : String} (h : l.renamed = some w) :
    l.written.1 = w := by
  rw [written, h]
  rfl

theorem meaning_of_renamed {l : ImportLeaf} {w : String} (h : l.renamed = some w) :
    l.meaning.1 = w := by
  rw [meaning, h]
  rfl

end ImportLeaf

mutual

/-- The leaves of an import, in order. -/
def UseTree.leaves : UseTree → List ImportLeaf
  | .path w tree => tree.leaves.map (ImportLeaf.behind w)
  | .name w => [⟨[], w, none⟩]
  | .rename w bound => [⟨[], w, some bound⟩]
  | .glob => []
  | .group trees => UseTree.leavesAll trees

/-- The leaves of a list of imports, in order. -/
def UseTree.leavesAll : List UseTree → List ImportLeaf
  | [] => []
  | t :: ts => t.leaves ++ UseTree.leavesAll ts

end

-- A scope hands the segments down to the leaves, while a leaf gets them on the way up; so
-- those from above stand in front of the leaf's own.
mutual

theorem bindings_behind : ∀ (tree : UseTree) (lead : List String),
    tree.bindings lead = tree.leaves.map fun l => (l.written.1, lead ++ l.written.2)
  | .path w tree, lead => by
    rw [UseTree.bindings, UseTree.leaves, bindings_behind tree (lead ++ [w]), List.map_map]
    refine List.map_congr_left fun l _ => ?_
    simp [ImportLeaf.behind, ImportLeaf.written]
  | .name w, lead => rfl
  | .rename w bound, lead => rfl
  | .glob, lead => rfl
  | .group trees, lead => by
    rw [UseTree.bindings, UseTree.leaves, bindingsAll_behind trees lead]

theorem bindingsAll_behind : ∀ (trees : List UseTree) (lead : List String),
    UseTree.bindingsAll lead trees =
      (UseTree.leavesAll trees).map fun l => (l.written.1, lead ++ l.written.2)
  | [], lead => rfl
  | t :: ts, lead => by
    rw [UseTree.bindingsAll, UseTree.leavesAll, List.map_append, bindings_behind t lead,
      bindingsAll_behind ts lead]

end

/-- **A scope binds the leaves of an import as they are written**, however deep the tree
is. -/
theorem bindings_eq_leaves (tree : UseTree) :
    tree.bindings [] = tree.leaves.map ImportLeaf.written :=
  bindings_behind tree []

/-! ### What a module means -/

/-- The name that a word stands for, which may be written as a raw one. -/
def bareWord (w : String) : String :=
  match w.toList with
  | 'r' :: '#' :: cs => String.ofList cs
  | _ => w

/-- Something that binds a name in a module: a leaf of an import, or a type alias. -/
inductive Binder where
  | leaf (l : ImportLeaf)
  | typeAlias (name : String) (path : List String)

namespace Binder

/-- What is bound, as it is written. -/
def written : Binder → Binding
  | leaf l => l.written
  | typeAlias w path => (w, path)

/-- What is meant to be bound, with the words as names. -/
def meaning : Binder → Binding
  | leaf l => l.meaning
  | typeAlias w path => (w, path)

/-- A leaf that is renamed to `_` binds no name. -/
def isUnnamed : Binder → Bool
  | leaf l => l.renamed == some "_"
  | typeAlias _ _ => false

/-- What is meant to be bound, if anything.  Raw words stand for their names. -/
def bound? (b : Binder) : Option Binding :=
  if b.isUnnamed then none else some (bareWord b.meaning.1, b.meaning.2.map bareWord)

/-- The words of a binder. -/
def words : Binder → List String
  | leaf l => l.renamed.toList ++ (l.lead ++ [l.segment])
  | typeAlias w path => w :: path

/-- No word is raw, and a name is bound. -/
def isPlain (b : Binder) : Bool := !b.isUnnamed && b.words.all fun w => bareWord w == w

/-- What is meant is made of the words. -/
theorem meaning_subset (b : Binder) : (b.meaning.1 = "" ∨ b.meaning.1 ∈ b.words) ∧
    ∀ w ∈ b.meaning.2, w ∈ b.words := by
  cases b with
  | typeAlias w path => exact ⟨.inr List.mem_cons_self, fun x hx => List.mem_cons_of_mem w hx⟩
  | leaf l =>
    have htarget : ∀ w ∈ l.target, w ∈ l.lead ++ [l.segment] := by
      intro w hw
      unfold ImportLeaf.target at hw
      split at hw
      · exact List.mem_append_left _ hw
      · exact hw
    refine ⟨?_, fun w hw => List.mem_append_right _ (htarget w hw)⟩
    rw [meaning, ImportLeaf.meaning, words]
    cases l.renamed with
    | some w => exact .inr List.mem_cons_self
    | none =>
      rw [Option.getD_none, List.getLastD_eq_getLast?]
      cases hlast : l.target.getLast? with
      | none => exact .inl rfl
      | some w => exact .inr (htarget w (List.mem_of_getLast? hlast))

theorem bound?_of_isPlain {b : Binder} (h : b.isPlain = true) : b.bound? = some b.meaning := by
  obtain ⟨hnamed, hwords⟩ := Bool.and_eq_true_iff.mp h
  have hbare : ∀ w ∈ b.words, bareWord w = w :=
    fun w hw => beq_iff_eq.mp (List.all_eq_true.mp hwords w hw)
  -- the name and the path are made of words, unless there is no word at all
  obtain ⟨hname, hpath⟩ := b.meaning_subset
  have hfirst : bareWord b.meaning.1 = b.meaning.1 := by
    rcases hname with hempty | hmem
    · rw [hempty]
      rfl
    · exact hbare _ hmem
  have hsecond : b.meaning.2.map bareWord = b.meaning.2 :=
    (List.map_congr_left fun w hw => hbare w (hpath w hw)).trans (List.map_id' _)
  rw [Bool.not_eq_true'] at hnamed
  rw [bound?, hnamed, if_neg Bool.false_ne_true, hfirst, hsecond]

end Binder

/-- The binders of an item. -/
def Item.binders : Item → List Binder
  | .imports tree => tree.leaves.map .leaf
  | item => item.bindings.map fun b => .typeAlias b.1 b.2

/-- The binders of a module, in order. -/
def bindersOf (items : List Item) : List Binder := items.flatMap Item.binders

/-- The scope that the items of a module mean. -/
def Scope.meant (module : List String) (items : List Item) : Scope :=
  ⟨module, (bindersOf items).filterMap Binder.bound?⟩

theorem Scope.meant_of_isPlain (module : List String) {items : List Item}
    (h : ∀ b ∈ bindersOf items, b.isPlain = true) :
    Scope.meant module items = ⟨module, (bindersOf items).map Binder.meaning⟩ := by
  rw [Scope.meant, ← List.filterMap_eq_map]
  exact congrArg (Scope.mk module)
    (List.filterMap_congr fun b hb => Binder.bound?_of_isPlain (h b hb))

theorem Item.bindings_eq_binders (item : Item) :
    item.bindings = item.binders.map Binder.written := by
  cases item with
  | imports tree =>
    rw [Item.bindings, Item.binders, List.map_map, bindings_eq_leaves]
    rfl
  | _ => simp [Item.binders, Binder.written, Function.comp_def]

theorem ofItems_eq (module : List String) (items : List Item) :
    Scope.ofItems module items = ⟨module, (bindersOf items).map Binder.written⟩ := by
  rw [Scope.ofItems, bindersOf, List.map_flatMap]
  exact congrArg (Scope.mk module) (List.flatMap_congr fun item _ => item.bindings_eq_binders)

/-! ### Looking up a name -/

theorem lookup?_append (module : List String) (as bs : List Binding) (n : String) :
    (Scope.mk module (as ++ bs)).lookup? n =
      ((Scope.mk module bs).lookup? n).or ((Scope.mk module as).lookup? n) := by
  simp only [Scope.lookup?, List.reverse_append, List.find?_append, Option.map_or]

theorem lookup?_cons (module : List String) (b : Binding) (bs : List Binding) (n : String) :
    (Scope.mk module (b :: bs)).lookup? n =
      ((Scope.mk module bs).lookup? n).or (if b.1 = n then some b.2 else none) := by
  rw [← List.singleton_append, lookup?_append]
  by_cases h : b.1 = n <;> simp [Scope.lookup?, h]

theorem lookup?_eq_none_iff {module : List String} {bs : List Binding} {n : String} :
    (Scope.mk module bs).lookup? n = none ↔ ∀ b ∈ bs, b.1 ≠ n := by
  simp [Scope.lookup?]

theorem lookup?_split {module : List String} {as bs : List Binding} {b : Binding} {n : String}
    (hb : b.1 = n) (h : ∀ x ∈ bs, x.1 ≠ n) :
    (Scope.mk module (as ++ b :: bs)).lookup? n = some b.2 := by
  rw [lookup?_append, lookup?_cons, lookup?_eq_none_iff.mpr h, if_pos hb, Option.none_or,
    Option.some_or]

/-! ### When `self` shows -/

/-- Every `self` of an import is renamed, to a name that is bound again later. -/
def SelfReplaced : List Binder → Prop
  | [] => True
  | .leaf l :: bs => (l.isSelf = true → ∃ b ∈ bs, l.renamed = some b.written.1) ∧ SelfReplaced bs
  | .typeAlias _ _ :: bs => SelfReplaced bs

/-- Written and meant bindings give every name the same path. -/
def Agrees (bs : List Binder) : Prop :=
  ∀ module n, (Scope.mk module (bs.map Binder.written)).lookup? n =
    (Scope.mk module (bs.map Binder.meaning)).lookup? n

theorem SelfReplaced.agrees {bs : List Binder} (h : SelfReplaced bs) : Agrees bs := by
  intro module n
  induction bs with
  | nil => rfl
  | cons b bs ih =>
    rw [List.map_cons, List.map_cons, lookup?_cons, lookup?_cons]
    cases b with
    | typeAlias w path => rw [ih h]; rfl
    | leaf l =>
      rw [← ih h.2]
      cases hl : l.isSelf with
      | false => rw [Binder.written, Binder.meaning, l.written_eq_meaning hl]
      | true =>
        obtain ⟨b, hb, hw⟩ := h.1 hl
        generalize hbw : b.written.1 = w at hw
        -- The name is bound again, so it is not this leaf that counts.
        by_cases hn : w = n
        · have hsome : (Scope.mk module (bs.map Binder.written)).lookup? n ≠ none := by
            rw [Ne, lookup?_eq_none_iff]
            exact fun hnone => hnone _ (List.mem_map_of_mem hb) (hbw.trans hn)
          obtain ⟨path, hpath⟩ := Option.ne_none_iff_exists'.mp hsome
          rw [hpath, Option.some_or, Option.some_or]
        · rw [Binder.written, Binder.meaning, l.written_of_renamed hw, l.meaning_of_renamed hw,
            if_neg hn, if_neg hn]

/-- A `self` that is not renamed binds the word itself, which nothing means. -/
theorem Agrees.renamed {bs : List Binder} (h : Agrees bs)
    (hself : ∀ b ∈ bs, b.meaning.1 ≠ "self") {l : ImportLeaf} (hl : .leaf l ∈ bs)
    (hs : l.isSelf = true) : ∃ w, l.renamed = some w := by
  cases hr : l.renamed with
  | some w => exact ⟨w, rfl⟩
  | none =>
    exfalso
    have hmeant : (Scope.mk [] (bs.map Binder.meaning)).lookup? "self" = none :=
      lookup?_eq_none_iff.mpr (List.forall_mem_map.mpr hself)
    rw [← h [] "self", lookup?_eq_none_iff] at hmeant
    refine hmeant l.written (List.mem_map.mpr ⟨_, hl, rfl⟩) ?_
    rw [ImportLeaf.written, hr]
    exact l.segment_eq_self hs

/-- If every `self` is renamed, then the right names are bound. -/
theorem written_name_eq {b : Binder}
    (h : ∀ l, b = .leaf l → l.isSelf = true → ∃ w, l.renamed = some w) :
    b.written.1 = b.meaning.1 := by
  cases b with
  | typeAlias w path => rfl
  | leaf l =>
    cases hl : l.isSelf with
    | false => rw [Binder.written, Binder.meaning, l.written_eq_meaning hl]
    | true =>
      obtain ⟨w, hw⟩ := h l rfl hl
      exact (l.written_of_renamed hw).trans (l.meaning_of_renamed hw).symm

/-- The last binder of a name counts, and a `self` counts with the wrong path. -/
theorem Agrees.replaced {as bs : List Binder} {l : ImportLeaf} (h : Agrees (as ++ .leaf l :: bs))
    (hself : ∀ b ∈ as ++ .leaf l :: bs, b.meaning.1 ≠ "self") (hs : l.isSelf = true) :
    ∃ b ∈ bs, l.renamed = some b.written.1 := by
  obtain ⟨w, hw⟩ := h.renamed hself (List.mem_append_right _ List.mem_cons_self) hs
  by_contra hnot
  have hlast : ∀ b ∈ bs, b.written.1 ≠ w := fun b hb hbw => hnot ⟨b, hb, hbw ▸ hw⟩
  have hmeant : ∀ b ∈ bs, b.meaning.1 ≠ w := by
    intro b hb
    have hmem : b ∈ as ++ .leaf l :: bs :=
      List.mem_append_right _ (List.mem_cons_of_mem _ hb)
    rw [← written_name_eq fun l hl hs => h.renamed hself (hl ▸ hmem) hs]
    exact hlast b hb
  have hwritten : (Binder.leaf l).written.1 = w := l.written_of_renamed hw
  have hmeaning : (Binder.leaf l).meaning.1 = w := l.meaning_of_renamed hw
  have hagree := h [] w
  rw [List.map_append, List.map_append, List.map_cons, List.map_cons,
    lookup?_split hwritten (List.forall_mem_map.mpr hlast),
    lookup?_split hmeaning (List.forall_mem_map.mpr hmeant)] at hagree
  exact l.written_ne_meaning hs (Option.some.inj hagree)

-- The induction goes through the binders from the front; those passed are kept, since the
-- agreement is about all of them.
theorem Agrees.selfReplaced (as bs : List Binder) (h : Agrees (as ++ bs))
    (hself : ∀ b ∈ as ++ bs, b.meaning.1 ≠ "self") : SelfReplaced bs := by
  induction bs generalizing as with
  | nil => trivial
  | cons b bs ih =>
    have htail : SelfReplaced bs := by
      apply ih (as ++ [b])
      · rwa [List.append_assoc]
      · rwa [List.append_assoc]
    cases b with
    | typeAlias w path => exact htail
    | leaf l => exact ⟨h.replaced hself, htail⟩

/-- Two scopes that give every name the same path expand every path alike. -/
theorem expand_congr {s t : Scope} (h : ∀ n, s.lookup? n = t.lookup? n) (segments : List String) :
    s.expand segments = t.expand segments := by
  cases segments with
  | nil => rfl
  | cons first rest => rw [Scope.expand, Scope.expand, h first]

/-- **When a scope has the bindings that its items mean**, with `self` as no name that can
be bound, and without raw names and `as _`: if and only if every `self` of an import is renamed,
to a name that is bound again later.  Then it also expands every path as it is meant.  In any case
it binds what is written along the trees, in order. -/
theorem ofItems_agrees_iff (module : List String) (items : List Item) :
    (Scope.ofItems module items).bindings = (bindersOf items).map Binder.written ∧
    ((∀ b ∈ bindersOf items, b.isPlain = true) →
      (∀ b ∈ (Scope.meant module items).bindings, b.1 ≠ "self") →
      ((∀ n, (Scope.ofItems module items).lookup? n = (Scope.meant module items).lookup? n) ↔
        SelfReplaced (bindersOf items)) ∧
      (SelfReplaced (bindersOf items) → ∀ segments,
        (Scope.ofItems module items).expand segments =
          (Scope.meant module items).expand segments)) := by
  rw [ofItems_eq]
  refine ⟨rfl, fun hplain hself => ?_⟩
  rw [Scope.meant_of_isPlain module hplain] at hself ⊢
  have hnames : ∀ b ∈ bindersOf items, b.meaning.1 ≠ "self" := fun b hb =>
    hself _ (List.mem_map_of_mem hb)
  exact ⟨⟨fun h => Agrees.selfReplaced [] _ (fun _ => h) hnames, fun h => h.agrees module⟩,
    fun h => expand_congr (h.agrees module)⟩

/-- `use std::time::{self as t, Duration}; use core::time as t;` -/
def rebound : List Item :=
  [.imports (.path "std" (.path "time" (.group [.rename "self" "t", .name "Duration"]))),
    .imports (.path "core" (.rename "time" "t"))]

/-- The names of `rebound` all have the paths that are meant. -/
theorem ofItems_agrees_rebound :
    SelfReplaced (bindersOf rebound) ∧
    ∀ n, (Scope.ofItems [] rebound).lookup? n = (Scope.meant [] rebound).lookup? n := by
  have hrebound : SelfReplaced (bindersOf rebound) :=
    ⟨fun _ => ⟨_, List.mem_cons_of_mem _ List.mem_cons_self, rfl⟩, by decide, by decide, trivial⟩
  exact ⟨hrebound, ((ofItems_agrees_iff [] rebound).2 (by decide) (by decide)).1.mpr hrebound⟩

/-- **A scope does not always have the bindings that its items mean.**  `use crate::ids` and
`use crate::ids::{self}` mean the same, but only after the first is `ids::Key` expanded. -/
theorem not_ofItems_agrees :
    ¬(∀ (items : List Item), (∀ b ∈ bindersOf items, b.isPlain = true) →
      (∀ b ∈ (Scope.meant [] items).bindings, b.1 ≠ "self") →
        ∀ n, (Scope.ofItems [] items).lookup? n = (Scope.meant [] items).lookup? n) ∧
    Scope.meant [] [.imports (.path "crate" (.path "ids" (.group [.name "self"])))] =
      Scope.meant [] [.imports (.path "crate" (.name "ids"))] ∧
    (Scope.ofItems [] [.imports (.path "crate" (.path "ids" (.group [.name "self"])))]).expand
      ["ids", "Key"] = ["ids", "Key"] ∧
    (Scope.ofItems [] [.imports (.path "crate" (.name "ids"))]).expand ["ids", "Key"] =
      ["crate", "ids", "Key"] := by
  refine ⟨fun h => ?_, rfl, by decide, by decide⟩
  have hids := h [.imports (.path "crate" (.path "ids" (.group [.name "self"])))] (by decide)
    (by decide) "ids"
  revert hids
  decide

end Newtype
