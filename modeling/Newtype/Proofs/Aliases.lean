import Newtype.Batch.Run
import Newtype.Proofs.Imports
import Newtype.Proofs.Registry

/-!
# Type aliases

A type alias with a longer path binds its name to that path, and a type that is written with
the name stands for the path.  It does not stand for what the path stands for: only the
first segment of what is written is replaced, and that is the name.  So the path of an alias
is read as if the module had no imports, while the same path, written directly, is read with
them.  The two are alike, for every registry and every batch, exactly if the path stands for
itself.

* `IsAlias` — an alias whose name is bound nowhere else.
* `IsAlias.expand_eq` — its name stands for its path.
* `batchWrapper?_of_expand`, `batchKind_of_expand` — only the full path of a type counts.
* `getLast?_expand` — the imports leave the last segment.
* `alias_transparent_iff` — **when an alias and its path are alike.**
* `not_alias_transparent` — they are not always.
-/

namespace Newtype

/-- `type w = path` is one of the items, for a path of two segments or more.  No other item
binds the name, and it is no primitive. -/
structure IsAlias (items : List Item) (w : String) (path : List String) : Prop where
  only : ∃ before after, items = before ++ .typeAlias w (.named ⟨false, path⟩) :: after ∧
    ∀ b ∈ (before ++ after).flatMap Item.bindings, b.1 ≠ w
  long : 1 < path.length
  notPrimitive : Primitive.ofName? w = none

theorem IsAlias.lookup?_eq {items : List Item} {w : String} {path : List String}
    (h : IsAlias items w path) (module : List String) :
    (Scope.ofItems module items).lookup? w = some path := by
  obtain ⟨before, after, rfl, hothers⟩ := h.only
  have hbinds : (Item.typeAlias w (.named ⟨false, path⟩)).bindings = [(w, path)] :=
    if_pos h.long
  rw [Scope.ofItems, List.flatMap_append, List.flatMap_cons, hbinds, List.singleton_append]
  refine lookup?_split (b := (w, path)) rfl fun b hb => hothers b ?_
  rw [List.flatMap_append]
  exact List.mem_append_right _ hb

/-- The name of an alias stands for its path, as it is written. -/
theorem IsAlias.expand_eq {items : List Item} {w : String} {path : List String}
    (h : IsAlias items w path) (module : List String) :
    (Scope.ofItems module items).expand [w] = path := by
  rw [Scope.expand, h.lookup?_eq module]
  exact List.append_nil path

/-! ### Full paths -/

theorem batchWrapper?_of_expand {s t : Scope} {ws vs : List String} (h : s.expand ws = t.expand vs)
    (names : List String) :
    batchWrapper? s names (.named ⟨false, ws⟩) = batchWrapper? t names (.named ⟨false, vs⟩) := by
  simp only [batchWrapper?, TypeExpr.segments?, Option.bind_some, h]

theorem batchKind_of_expand {s t : Scope} {ws vs : List String} (h : s.expand ws = t.expand vs)
    (hws : Primitive.ofName? (Path.join ws) = none)
    (hvs : Primitive.ofName? (Path.join vs) = none) (registry : Registry) (names : List String)
    (known : List (String × TraitSet)) :
    batchKind registry s names known (.named ⟨false, ws⟩) =
      batchKind registry t names known (.named ⟨false, vs⟩) := by
  simp only [batchKind, TypeExpr.segments?, hws, hvs, h, batchWrapper?_of_expand h]

/-- Only the first segment of a path is replaced. -/
theorem getLast?_expand (s : Scope) {path : List String} (h : 1 < path.length) :
    (s.expand path).getLast? = path.getLast? := by
  match path, h with
  | w :: v :: vs, _ =>
    rw [Scope.expand]
    cases s.lookup? w with
    | none => rfl
    | some full =>
      rw [List.getLast?_cons_cons]
      exact List.getLast?_append_of_ne_nil full (List.cons_ne_nil v vs)

theorem expand_ne_nil (s : Scope) {path : List String} (h : 1 < path.length) :
    s.expand path ≠ [] := by
  intro hnil
  have hlast := getLast?_expand s h
  rw [hnil, List.getLast?_nil, eq_comm, List.getLast?_eq_none_iff] at hlast
  simp [hlast] at h

/-- A batch without wrappers leaves a type to the registry. -/
theorem batchKind_no_names (registry : Registry) (s : Scope) (known : List (String × TraitSet))
    {ws : List String} (h : Primitive.ofName? (Path.join ws) = none) :
    batchKind registry s [] known (.named ⟨false, ws⟩) =
      (registry.resolvePath? (Path.join (s.expand ws))).getD (.named .assumed) := by
  have hw : batchWrapper? s [] (.named ⟨false, ws⟩) = none := by
    simp [batchWrapper?, TypeExpr.segments?]
  simp only [batchKind, TypeExpr.segments?, h, hw]

/-! ### When an alias shows -/

/-- A registry that tells two paths apart. -/
def telling (p q : List String) : Registry :=
  (Registry.empty.register (Path.join p) .decimal).register (Path.join q) .uuid

theorem telling_resolvePath? {p q : List String} (hp : ∀ w ∈ p, IsWord w) (hq : ∀ w ∈ q, IsWord w)
    (hlong : 1 < p.length) (hne : q ≠ []) (h : q ≠ p) :
    (telling p q).resolvePath? (Path.join p) = some .decimal ∧
    ((telling p q).resolvePath? (Path.join q)).getD (.named .assumed) ≠ .decimal := by
  have hp' : p ≠ [] := List.ne_nil_of_length_pos (Nat.zero_lt_of_lt hlong)
  have hkeys : Registry.key (Path.join q) ≠ Registry.key (Path.join p) := by
    rw [Registry.key_join hp hp', Registry.key_join hq hne]
    exact fun hjoin => h (join_injective hq hp hne hp' hjoin)
  constructor
  · have hget : (telling p q).get? (Path.join p) = some .decimal := by
      rw [telling, Registry.get?_register, if_neg hkeys, Registry.get?_register, if_pos rfl]
    rw [Registry.resolvePath?, Primitive.ofName?_join hlong, hget]
    rfl
  · have hget : (telling p q).get? (Path.join q) = some .uuid := by
      rw [telling, Registry.get?_register, if_pos rfl]
    rw [Registry.resolvePath?, hget]
    cases Primitive.ofName? (Path.join q) <;> simp

/-- Two paths with the same last segment give the same wrapper in every batch, if and only
if both may lead there or none does. -/
theorem batchWrapper?_eq_iff_isLocal {s : Scope} {ws vs : List String} {last : String}
    (hws : (s.expand ws).getLast? = some last) (hvs : (s.expand vs).getLast? = some last) :
    (∀ names, batchWrapper? s names (.named ⟨false, ws⟩) =
      batchWrapper? s names (.named ⟨false, vs⟩)) ↔
    isLocal (s.expand ws) = isLocal (s.expand vs) := by
  simp only [batchWrapper?, TypeExpr.segments?, Option.bind_some, hws, hvs]
  constructor
  · intro h
    have hlast := h [last]
    revert hlast
    cases isLocal (s.expand ws) <;> cases isLocal (s.expand vs) <;> simp
  · intro h names
    rw [h]

/-- **When an alias and its path are alike.**  The name of an alias means what its path means
in a module without imports.  So in every batch it has the kind of the path and needs the
same wrapper, if and only if the path, in its own module, stands for itself.  It always
needs the same wrapper if and only if the path may lead into the batch both with its first
segment replaced and without, or neither way. -/
theorem alias_transparent_iff (module : List String) {items : List Item} {w : String}
    {path : List String} (h : IsAlias items w path)
    (hwords : ∀ s ∈ path ++ (Scope.ofItems module items).expand path, IsWord s) :
    (∀ registry names known,
      batchKind registry (Scope.ofItems module items) names known (.named ⟨false, [w]⟩) =
        batchKind registry ⟨module, []⟩ names known (.named ⟨false, path⟩) ∧
      batchWrapper? (Scope.ofItems module items) names (.named ⟨false, [w]⟩) =
        batchWrapper? ⟨module, []⟩ names (.named ⟨false, path⟩)) ∧
    ((∀ registry names known,
      batchKind registry (Scope.ofItems module items) names known (.named ⟨false, [w]⟩) =
        batchKind registry (Scope.ofItems module items) names known (.named ⟨false, path⟩) ∧
      batchWrapper? (Scope.ofItems module items) names (.named ⟨false, [w]⟩) =
        batchWrapper? (Scope.ofItems module items) names (.named ⟨false, path⟩)) ↔
      (Scope.ofItems module items).expand path = path) ∧
    ((∀ names, batchWrapper? (Scope.ofItems module items) names (.named ⟨false, [w]⟩) =
        batchWrapper? (Scope.ofItems module items) names (.named ⟨false, path⟩)) ↔
      isLocal path = isLocal ((Scope.ofItems module items).expand path)) := by
  set scope := Scope.ofItems module items
  have hname : scope.expand [w] = path := h.expand_eq module
  have hprimitive : Primitive.ofName? (Path.join [w]) = none := by
    rw [Path.join, String.intercalate_singleton]
    exact h.notPrimitive
  have hpath := Primitive.ofName?_join h.long
  refine ⟨fun registry names known => ?_, ⟨fun hall => ?_, fun hself registry names known => ?_⟩, ?_⟩
  · -- without imports a path stands for itself
    have hbare : scope.expand [w] = (Scope.mk module []).expand path := by
      rw [hname]
      cases path <;> rfl
    exact ⟨batchKind_of_expand hbare hprimitive hpath .., batchWrapper?_of_expand hbare names⟩
  · -- a registry with the path before and after its expansion tells the two types apart
    by_contra hne
    obtain ⟨htold, htold'⟩ := telling_resolvePath?
      (fun s hs => hwords s (List.mem_append_left _ hs))
      (fun s hs => hwords s (List.mem_append_right _ hs)) h.long (expand_ne_nil scope h.long) hne
    have hkind := (hall (telling path (scope.expand path)) [] []).1
    rw [batchKind_no_names _ _ _ hprimitive, batchKind_no_names _ _ _ hpath, hname, htold] at hkind
    exact htold' hkind.symm
  · have hsame : scope.expand [w] = scope.expand path := hname.trans hself.symm
    exact ⟨batchKind_of_expand hsame hprimitive hpath .., batchWrapper?_of_expand hsame names⟩
  · obtain ⟨last, hlast⟩ := Option.ne_none_iff_exists'.mp
      (mt List.getLast?_eq_none_iff.mp (expand_ne_nil scope h.long))
    have hlast' : (scope.expand [w]).getLast? = some last := by
      rw [hname, ← getLast?_expand scope h.long, hlast]
    rw [batchWrapper?_eq_iff_isLocal hlast' hlast, hname]

/-- `use crate::ids; type K = crate::ids::Key;` -/
def plainAlias : List Item :=
  [.imports (.path "crate" (.name "ids")), .typeAlias "K" (.named ⟨false, ["crate", "ids", "Key"]⟩)]

/-- The path of `plainAlias` starts at the crate, and the alias is transparent. -/
theorem alias_transparent_plain :
    IsAlias plainAlias "K" ["crate", "ids", "Key"] ∧
    ∀ registry names known,
      batchKind registry (Scope.ofItems [] plainAlias) names known (.named ⟨false, ["K"]⟩) =
        batchKind registry (Scope.ofItems [] plainAlias) names known
          (.named ⟨false, ["crate", "ids", "Key"]⟩) ∧
      batchWrapper? (Scope.ofItems [] plainAlias) names (.named ⟨false, ["K"]⟩) =
        batchWrapper? (Scope.ofItems [] plainAlias) names
          (.named ⟨false, ["crate", "ids", "Key"]⟩) := by
  have halias : IsAlias plainAlias "K" ["crate", "ids", "Key"] :=
    ⟨⟨[.imports (.path "crate" (.name "ids"))], [], rfl, by decide⟩, by decide, by decide⟩
  exact ⟨halias, (alias_transparent_iff [] halias (by decide)).2.1.mpr (by decide)⟩

/-- `use crate::ids; type K = ids::Key;` -/
def importedAlias : List Item :=
  [.imports (.path "crate" (.name "ids")), .typeAlias "K" (.named ⟨false, ["ids", "Key"]⟩)]

/-- **An alias is not always transparent.**  In a batch with a wrapper `Key`, the path
`ids::Key` is that wrapper, and `K` is unknown. -/
theorem not_alias_transparent :
    IsAlias importedAlias "K" ["ids", "Key"] ∧
    batchWrapper? (Scope.ofItems [] importedAlias) ["Key"] (.named ⟨false, ["ids", "Key"]⟩) =
      some "Key" ∧
    batchWrapper? (Scope.ofItems [] importedAlias) ["Key"] (.named ⟨false, ["K"]⟩) = none ∧
    batchKind .builtin (Scope.ofItems [] importedAlias) ["Key"] [("Key", .value)]
      (.named ⟨false, ["ids", "Key"]⟩) = .named .value ∧
    batchKind .builtin (Scope.ofItems [] importedAlias) ["Key"] [("Key", .value)]
      (.named ⟨false, ["K"]⟩) = .named .assumed ∧
    TraitSet.value ≠ TraitSet.assumed := by
  refine ⟨⟨⟨[.imports (.path "crate" (.name "ids"))], [], rfl, by decide⟩, by decide, by decide⟩, ?_⟩
  decide

end Newtype
