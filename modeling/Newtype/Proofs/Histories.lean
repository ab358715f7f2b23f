import Mathlib.Data.List.Find
import Newtype.Proofs.Encoding
import Newtype.Proofs.Registry

/-!
# Histories of a registry

A registry comes from an empty one by a history of changes: paths are registered, forgotten,
and the entries every generator starts with are added.  What it tells in the end follows from
the history without the entries in between.  A path has the kind of its last registration, if
it was not forgotten later; a name stands for the least path that ends in it and is known; and
a path is resolved by what it is itself, then by its last segment.

* `lastSegment_cases`, `lastSegment_eq_of_key_eq` — the last segment of a path and of its key.
* `Registry.kindAt?_write`, `Registry.kindAt?_foldl_write` — **one write, and all writes.**
* `Registry.Sorted` — the entries stand in the order of the paths.
* `Registry.Change`, `Registry.ofHistory`, `Registry.LastKind` — histories.
* `Registry.Tells`, `Registry.tells_ofHistory` — what a registry tells after a history.
* `Registry.resolvePath?_write`, `Registry.Sorted.exchangeable` — what one more change does.
* `Registry.ofHistory_described` — **what a history leaves, and what a further change does.**
-/

namespace Newtype

/-! ### Colons -/

/-- What is stripped from a text ends in two colons. -/
theorem stripColons_cases (cs : List Char) :
    stripColons cs = cs ∨ ∃ front, cs = front ++ ':' :: ':' :: stripColons cs := by
  fun_induction stripColons cs with
  | case1 cs ih =>
    rcases ih with heq | ⟨front, heq⟩
    · exact Or.inr ⟨[], by rw [heq]; rfl⟩
    · exact Or.inr ⟨':' :: ':' :: front, congrArg (':' :: ':' :: ·) heq⟩
  | case2 cs h => exact Or.inl rfl

/-- What is stripped does not start with two colons. -/
theorem stripColons_ne (cs xs : List Char) : stripColons cs ≠ ':' :: ':' :: xs := by
  fun_induction stripColons cs with
  | case1 cs ih => exact ih
  | case2 cs h => exact fun heq => h xs heq

theorem stripColons_stripColons (cs : List Char) :
    stripColons (stripColons cs) = stripColons cs := by
  fun_induction stripColons cs with
  | case1 cs ih => exact ih
  | case2 cs h => rw [stripColons]; exact h

@[simp] theorem Registry.key_key (p : String) : key (key p) = key p := by
  simp only [key, String.toList_ofList, stripColons_stripColons]

/-- A character that does not begin two colons belongs to the segment. -/
theorem beforeColons_cons {c : Char} {cs : List Char} (h : ∀ rest, c = ':' → cs ≠ ':' :: rest) :
    beforeColons (c :: cs) = c :: beforeColons cs := by
  rw [beforeColons]
  exact h

/-- Two colons behind a reversed text do not change what stands before the first two colons,
unless they follow another colon. -/
theorem beforeColons_append (xs ys : List Char) :
    beforeColons (xs ++ ':' :: ':' :: ys) = beforeColons xs ∨
      beforeColons xs = xs ∧ xs.getLast? = some ':' := by
  fun_induction beforeColons xs with
  | case1 => exact Or.inl rfl
  | case2 xs => exact Or.inl rfl
  | case3 c xs hc ih =>
    cases xs with
    | nil =>
      by_cases h : c = ':'
      · subst h
        exact Or.inr ⟨rfl, rfl⟩
      · exact Or.inl (beforeColons_cons fun _ e => absurd e h)
    | cons d xs =>
      have hgo : beforeColons (c :: (d :: xs ++ ':' :: ':' :: ys)) =
          c :: beforeColons (d :: xs ++ ':' :: ':' :: ys) := by
        refine beforeColons_cons fun rest hcolon hcons => ?_
        cases hcons
        exact hc xs hcolon rfl
      rw [List.cons_append, hgo]
      rcases ih with heq | ⟨heq, hlast⟩
      · exact Or.inl (by rw [heq])
      · exact Or.inr ⟨by rw [heq], by rw [List.getLast?_cons_cons, hlast]⟩

/-- Of a reversed text, what stands before its first two colons ends in a colon only if it is the
whole text. -/
theorem beforeColons_eq_self {xs : List Char} (h : (beforeColons xs).getLast? = some ':') :
    beforeColons xs = xs := by
  fun_induction beforeColons xs with
  | case1 => rfl
  | case2 xs => cases h
  | case3 c xs hc ih =>
    cases hb : beforeColons xs with
    | nil =>
      -- nothing is left only at the end or before two colons, and with `c` these would be three
      rw [hb, List.getLast?_singleton, Option.some.injEq] at h
      cases xs with
      | nil => rfl
      | cons d xs =>
        by_cases hd : d = ':'
        · exact absurd (congrArg (· :: xs) hd) (hc xs h)
        · rw [beforeColons_cons fun _ e => absurd e hd] at hb
          cases hb
    | cons d ds =>
      rw [hb, List.getLast?_cons_cons] at h
      rw [← hb, ih (hb ▸ h)]

/-- A segment that begins with a colon is the whole path. -/
theorem lastSegment_eq_self {p : String} {cs : List Char} (h : (lastSegment p).toList = ':' :: cs) :
    lastSegment p = p := by
  have hself : beforeColons p.toList.reverse = p.toList.reverse := by
    refine beforeColons_eq_self ?_
    rw [lastSegment, String.toList_ofList] at h
    rw [← List.head?_reverse, h, List.head?_cons]
  rw [lastSegment, hself, List.reverse_reverse, String.ofList_toList]

/-- **The last segment of a path** is that of its key, unless the key begins with a colon and is
a segment by itself.  With two colons before it the path then ends behind three. -/
theorem lastSegment_cases (p : String) : lastSegment p = lastSegment (Registry.key p) ∨
    ∃ cs, (Registry.key p).toList = ':' :: cs ∧ lastSegment (Registry.key p) = Registry.key p ∧
      lastSegment p = lastSegment (String.ofList cs) := by
  have hkey : (Registry.key p).toList = stripColons p.toList := String.toList_ofList
  rcases stripColons_cases p.toList with heq | ⟨front, heq⟩
  · rw [Registry.key, heq, String.ofList_toList]
    exact Or.inl rfl
  · have hrev : p.toList.reverse =
        (Registry.key p).toList.reverse ++ ':' :: ':' :: front.reverse := by
      conv_lhs => rw [heq]
      simp [hkey]
    rcases beforeColons_append (Registry.key p).toList.reverse front.reverse with
      hseg | ⟨hseg, hlast⟩
    · rw [← hrev] at hseg
      exact Or.inl (by rw [lastSegment, lastSegment, hseg])
    · rw [List.getLast?_reverse] at hlast
      obtain ⟨cs, hcs⟩ := List.head?_eq_some_iff.mp hlast
      refine Or.inr ⟨cs, hcs, ?_, ?_⟩
      · rw [lastSegment, hseg, List.reverse_reverse, String.ofList_toList]
      · -- the key has no further colon at its start, so its first one ends the segment
        rw [hcs, List.reverse_cons, List.append_assoc, List.singleton_append] at hrev
        rcases beforeColons_append cs.reverse (':' :: front.reverse) with hshort | ⟨-, hcolon⟩
        · rw [lastSegment, lastSegment, hrev, hshort, String.toList_ofList]
        · rw [List.getLast?_reverse] at hcolon
          obtain ⟨xs, rfl⟩ := List.head?_eq_some_iff.mp hcolon
          exact absurd (hkey.symm.trans hcs) (stripColons_ne p.toList xs)

/-- Paths with the last segment of a key end in the same segment as its paths, or have it too. -/
theorem lastSegment_eq_or {p q : String} (h : lastSegment q = lastSegment (Registry.key p)) :
    lastSegment q = lastSegment p ∨ Registry.key q = Registry.key p := by
  rcases lastSegment_cases p with hseg | ⟨cs, hcs, hown, -⟩
  · exact Or.inl (h.trans hseg.symm)
  · have hq : lastSegment q = q := lastSegment_eq_self (by rw [h, hown, hcs])
    exact Or.inr (by rw [← hq, h, hown, Registry.key_key])

/-- **Paths with one key end in one segment**, if no segment begins with a colon. -/
theorem lastSegment_eq_of_key_eq {p q : String} (h : Registry.key p = Registry.key q)
    (hp : (lastSegment p).toList.head? ≠ some ':') (hq : (lastSegment q).toList.head? ≠ some ':') :
    lastSegment p = lastSegment q := by
  rcases lastSegment_cases p with hseg | ⟨cs, hcs, hown, hshort⟩ <;>
    rcases lastSegment_cases q with hseg' | ⟨cs', hcs', hown', hshort'⟩
  · rw [hseg, hseg', h]
  -- a path that ends like the key ends in a segment that begins with a colon
  · rw [hseg, h, hown', hcs'] at hp
    exact absurd rfl hp
  · rw [hseg', ← h, hown, hcs] at hq
    exact absurd rfl hq
  · have hsame : cs = cs' := (List.cons.inj (hcs.symm.trans ((congrArg _ h).trans hcs'))).2
    rw [hshort, hshort', hsame]

namespace Registry

/-! ### Writes -/

/-- What is known about a path as it is kept. -/
def kindAt? (r : Registry) (p : String) : Option Kind := (r.entries.find? (·.1 == p)).map (·.2)

theorem get?_eq_kindAt? (r : Registry) (p : String) : r.get? p = r.kindAt? (key p) := rfl

/-- A path as it is kept, with its new kind, or without one if it is forgotten. -/
abbrev Write := String × Option Kind

/-- Writes one entry. -/
def write (r : Registry) (w : Write) : Registry :=
  match w.2 with
  | some k => ⟨insertEntry w.1 k r.entries⟩
  | none => ⟨r.entries.filter (·.1 != w.1)⟩

/-- **A write changes one path.** -/
theorem kindAt?_write (r : Registry) (w : Write) (p : String) :
    (r.write w).kindAt? p = if w.1 = p then w.2 else r.kindAt? p := by
  obtain ⟨q, k⟩ := w
  cases k with
  | some k =>
    rw [write, kindAt?, find?_insertEntry]
    split_ifs <;> rfl
  | none =>
    rw [write, kindAt?, kindAt?, List.find?_filter]
    by_cases h : q = p
    · rw [if_pos h, Option.map_eq_none_iff, List.find?_eq_none]
      simp [h]
    · rw [if_neg h]
      refine congrArg (Option.map _) (List.find?_congr fun e _ => ?_)
      by_cases he : e.1 = p <;> simp [he, Ne.symm h]

theorem get?_write_of_ne {w : Write} {p : String} (h : w.1 ≠ key p) (r : Registry) :
    (r.write w).get? p = r.get? p := by
  rw [get?_eq_kindAt?, kindAt?_write, if_neg h]
  rfl

/-- The last write of a path among some gives it a kind. -/
def LastWrite (ws : List Write) (p : String) (k : Kind) : Prop :=
  ∃ earlier later, ws = earlier ++ (p, some k) :: later ∧ ∀ w ∈ later, w.1 ≠ p

theorem lastWrite_cons_iff {w : Write} {ws : List Write} {p : String} {k : Kind} :
    LastWrite (w :: ws) p k ↔
      LastWrite ws p k ∨ (∀ v ∈ ws, v.1 ≠ p) ∧ w = (p, some k) := by
  constructor
  · rintro ⟨earlier, later, heq, hlater⟩
    cases earlier with
    | nil =>
      cases heq
      exact Or.inr ⟨hlater, rfl⟩
    | cons v earlier =>
      cases heq
      exact Or.inl ⟨earlier, later, rfl, hlater⟩
  · rintro (⟨earlier, later, rfl, hlater⟩ | ⟨hlater, rfl⟩)
    · exact ⟨w :: earlier, later, rfl, hlater⟩
    · exact ⟨[], ws, rfl, hlater⟩

/-- **All writes**: a path has the kind that its last write gives it, and without a write the
kind that it had before. -/
theorem kindAt?_foldl_write (ws : List Write) (p : String) (k : Kind) : ∀ r : Registry,
    (ws.foldl write r).kindAt? p = some k ↔
      LastWrite ws p k ∨ (∀ w ∈ ws, w.1 ≠ p) ∧ r.kindAt? p = some k := by
  induction ws with
  | nil => intro r; simp [LastWrite]
  | cons w ws ih =>
    intro r
    rw [List.foldl_cons, ih, lastWrite_cons_iff, kindAt?_write, List.forall_mem_cons]
    by_cases hw : w.1 = p
    · subst hw
      simp [Prod.ext_iff]
    · have hne : w ≠ (p, some k) := fun h => hw (congrArg Prod.fst h)
      simp [hw, hne]

/-! ### The order of the entries -/

/-- The entries stand in the order of their paths. -/
def Sorted (r : Registry) : Prop := r.entries.Pairwise fun a b => a.1 < b.1

theorem sorted_empty : empty.Sorted := List.Pairwise.nil

theorem of_mem_insertEntry {p : String} {k : Kind} {e : String × Kind} :
    ∀ {es : List (String × Kind)}, e ∈ insertEntry p k es → e = (p, k) ∨ e ∈ es := by
  intro es
  induction es with
  | nil => intro h; exact Or.inl (List.mem_singleton.mp h)
  | cons f es ih =>
    obtain ⟨q, l⟩ := f
    rw [insertEntry]
    intro h
    split_ifs at h with hlt heq
    · exact List.mem_cons.mp h
    · rcases List.mem_cons.mp h with h | h
      · exact Or.inl h
      · exact Or.inr (List.mem_cons_of_mem _ h)
    · rcases List.mem_cons.mp h with h | h
      · exact Or.inr (List.mem_cons.mpr (Or.inl h))
      · exact (ih h).imp_right (List.mem_cons_of_mem _)

theorem pairwise_insertEntry {p : String} {k : Kind} {es : List (String × Kind)}
    (h : es.Pairwise fun a b => a.1 < b.1) :
    (insertEntry p k es).Pairwise fun a b => a.1 < b.1 := by
  induction es with
  | nil => exact List.pairwise_singleton _ _
  | cons f es ih =>
    obtain ⟨q, l⟩ := f
    obtain ⟨hq, hes⟩ := List.pairwise_cons.mp h
    rw [insertEntry]
    split_ifs with hlt heq
    · refine List.pairwise_cons.mpr ⟨fun e he => ?_, h⟩
      rcases List.mem_cons.mp he with rfl | he
      · exact hlt
      · exact String.lt_trans hlt (hq e he)
    · subst heq
      exact List.pairwise_cons.mpr ⟨hq, hes⟩
    · have hgt : q < p := lt_of_le_of_ne (not_lt.mp hlt) (Ne.symm heq)
      refine List.pairwise_cons.mpr ⟨fun e he => ?_, ih hes⟩
      rcases of_mem_insertEntry he with rfl | he
      · exact hgt
      · exact hq e he

/-- A write keeps the order. -/
theorem Sorted.write {r : Registry} (h : r.Sorted) (w : Write) : (r.write w).Sorted := by
  obtain ⟨q, k⟩ := w
  cases k with
  | some k => exact pairwise_insertEntry h
  | none => exact List.Pairwise.filter _ h

/-- All writes keep the order. -/
theorem Sorted.foldl_write {r : Registry} (h : r.Sorted) (ws : List Write) :
    (ws.foldl Registry.write r).Sorted := by
  induction ws generalizing r with
  | nil => exact h
  | cons w ws ih => exact ih (h.write w)

theorem Sorted.nodup {r : Registry} (h : r.Sorted) : r.entries.Nodup := by
  refine List.Pairwise.imp ?_ h
  rintro a b hlt rfl
  exact String.lt_irrefl a.1 hlt

/-- Of entries in order, the first with a property of its path is the least one. -/
theorem find?_eq_some_iff_least {es : List (String × Kind)} (h : es.Pairwise fun a b => a.1 < b.1)
    {P : String → Bool} {e : String × Kind} : es.find? (fun x => P x.1) = some e ↔
      e ∈ es ∧ P e.1 = true ∧ ∀ f ∈ es, P f.1 = true → ¬f.1 < e.1 := by
  induction es with
  | nil => simp
  | cons x es ih =>
    obtain ⟨hx, hes⟩ := List.pairwise_cons.mp h
    rw [List.find?_cons]
    cases hP : P x.1 with
    | true =>
      constructor
      · intro heq
        cases heq
        refine ⟨List.mem_cons_self, hP, fun f hf _ hlt => ?_⟩
        rcases List.mem_cons.mp hf with rfl | hf
        · exact String.lt_irrefl _ hlt
        · exact String.lt_asymm hlt (hx f hf)
      · rintro ⟨hmem, -, hleast⟩
        rcases List.mem_cons.mp hmem with rfl | hmem
        · rfl
        · exact absurd (hx e hmem) (hleast x List.mem_cons_self hP)
    | false =>
      have hne : ∀ f, P f.1 = true → f ≠ x := by
        rintro f hf rfl
        rw [hP] at hf
        cases hf
      simp only [ih hes, List.mem_cons]
      constructor
      · rintro ⟨hmem, he, hleast⟩
        refine ⟨Or.inr hmem, he, fun f hf hPf => ?_⟩
        exact hleast f (hf.resolve_left (hne f hPf)) hPf
      · rintro ⟨hmem, he, hleast⟩
        exact ⟨hmem.resolve_left (hne e he), he, fun f hf => hleast f (Or.inr hf)⟩

/-- In order, a path has one entry. -/
theorem Sorted.kindAt?_eq_some_iff {r : Registry} (h : r.Sorted) {p : String} {k : Kind} :
    r.kindAt? p = some k ↔ (p, k) ∈ r.entries := by
  rw [kindAt?, Option.map_eq_some_iff]
  simp only [find?_eq_some_iff_least h (P := (· == p)), beq_iff_eq]
  constructor
  · rintro ⟨⟨q, l⟩, ⟨hmem, rfl, -⟩, rfl⟩
    exact hmem
  · intro hmem
    exact ⟨(p, k), ⟨hmem, rfl, fun f _ hf => hf ▸ String.lt_irrefl _⟩, rfl⟩

/-- **In order, a name stands for the least path that ends in it.** -/
theorem Sorted.getByName?_eq_some_iff {r : Registry} (h : r.Sorted) {n : String} {k : Kind} :
    r.getByName? n = some k ↔ ∃ p, r.kindAt? p = some k ∧ lastSegment p = n ∧
      ∀ q l, r.kindAt? q = some l → lastSegment q = n → ¬q < p := by
  rw [getByName?, Option.map_eq_some_iff]
  simp only [find?_eq_some_iff_least h (P := (lastSegment · == n)), beq_iff_eq,
    h.kindAt?_eq_some_iff]
  constructor
  · rintro ⟨⟨p, l⟩, ⟨hmem, hp, hleast⟩, rfl⟩
    exact ⟨p, hmem, hp, fun q l' hq => hleast (q, l') hq⟩
  · rintro ⟨p, hmem, hp, hleast⟩
    exact ⟨(p, k), ⟨hmem, hp, fun f hf => hleast f.1 f.2 hf⟩, rfl⟩

/-- Registries in order that know the same are the same. -/
theorem Sorted.ext {r s : Registry} (hr : r.Sorted) (hs : s.Sorted)
    (h : ∀ p, r.kindAt? p = s.kindAt? p) : r = s := by
  have hmem : ∀ e, e ∈ r.entries ↔ e ∈ s.entries := by
    rintro ⟨p, k⟩
    rw [← hr.kindAt?_eq_some_iff, ← hs.kindAt?_eq_some_iff, h]
  have hperm : r.entries.Perm s.entries :=
    (List.perm_ext_iff_of_nodup hr.nodup hs.nodup).mpr hmem
  have heq : r.entries = s.entries := hperm.eq_of_pairwise
    (fun a b _ _ hab hba => absurd hab (String.lt_asymm hba)) hr hs
  cases r
  cases s
  exact congrArg Registry.mk heq

/-! ### Histories -/

/-- A change of a registry. -/
inductive Change where
  | register (path : String) (kind : Kind)
  | unregister (path : String)
  /-- the entries every generator starts with are added -/
  | builtins

/-- The registry after a change. -/
def change (r : Registry) : Change → Registry
  | .register p k => r.register p k
  | .unregister p => (r.remove p).2
  | .builtins => r.registerBuiltins

/-- What a change tells: when a path is forgotten, what was known about it. -/
def answer (r : Registry) : Change → Option Kind
  | .unregister p => (r.remove p).1
  | .register .. | .builtins => none

/-- The registry after a history. -/
def ofHistory (h : List Change) : Registry := h.foldl change empty

/-- The path that a change is about. -/
def Change.path? : Change → Option String
  | .register p _ | .unregister p => some p
  | .builtins => none

/-- What a change writes, in order. -/
def Change.writes : Change → List Write
  | .register p k => [(key p, some k)]
  | .unregister p => [(key p, none)]
  | .builtins => Registry.builtins.map fun e => (key e.1, some e.2)

/-- A path was registered with a kind, up to colons at its start, and after that neither
registered again nor forgotten. -/
def LastKind (h : List Change) (p : String) (k : Kind) : Prop :=
  LastWrite (h.flatMap Change.writes) (key p) k

/-- A path that is kept, with its kind. -/
def KeptAt (h : List Change) (p : String) (k : Kind) : Prop := key p = p ∧ LastKind h p k

theorem change_eq_foldl (r : Registry) (c : Change) : r.change c = c.writes.foldl write r := by
  cases c with
  | register p k => rfl
  | unregister p => rfl
  | builtins => rw [change, registerBuiltins, Change.writes, List.foldl_map]; rfl

theorem foldl_change (h : List Change) (r : Registry) :
    h.foldl change r = (h.flatMap Change.writes).foldl write r := by
  induction h generalizing r with
  | nil => rfl
  | cons c h ih =>
    rw [List.foldl_cons, ih, change_eq_foldl, List.flatMap_cons, List.foldl_append]

theorem sorted_ofHistory (h : List Change) : (ofHistory h).Sorted := by
  rw [ofHistory, foldl_change]
  exact sorted_empty.foldl_write _

/-- **What is known about a path after a history.** -/
theorem get?_ofHistory {h : List Change} {p : String} {k : Kind} :
    (ofHistory h).get? p = some k ↔ LastKind h p k := by
  rw [get?_eq_kindAt?, ofHistory, foldl_change, kindAt?_foldl_write, LastKind]
  simp [kindAt?, empty]

/-- Only paths without colons at the start are kept. -/
theorem key_of_mem_writes {h : List Change} {w : Write} (hw : w ∈ h.flatMap Change.writes) :
    key w.1 = w.1 := by
  obtain ⟨c, -, hw⟩ := List.mem_flatMap.mp hw
  cases c with
  | register p k => rw [List.mem_singleton.mp hw, key_key]
  | unregister p => rw [List.mem_singleton.mp hw, key_key]
  | builtins =>
    obtain ⟨e, -, rfl⟩ := List.mem_map.mp hw
    exact key_key e.1

theorem kindAt?_ofHistory {h : List Change} {p : String} {k : Kind} :
    (ofHistory h).kindAt? p = some k ↔ KeptAt h p k := by
  constructor
  · intro hp
    have hlast : LastWrite (h.flatMap Change.writes) p k := by
      rw [ofHistory, foldl_change, kindAt?_foldl_write] at hp
      exact hp.resolve_right fun hnone => by cases hnone.2
    have hkey : key p = p := by
      obtain ⟨earlier, later, heq, -⟩ := hlast
      exact key_of_mem_writes (h := h) (w := (p, some k)) (by rw [heq]; simp)
    exact ⟨hkey, by rwa [LastKind, hkey]⟩
  · rintro ⟨hkey, hlast⟩
    rw [← hkey]
    exact get?_ofHistory.mpr hlast

/-! ### What a registry tells -/

/-- What a registry tells after a history: about a path, about a name, and about what a path
stands for. -/
structure Tells (h : List Change) (r : Registry) : Prop where
  get? : ∀ p k, r.get? p = some k ↔ LastKind h p k
  contains : ∀ p, r.contains p = true ↔ ∃ k, LastKind h p k
  removed : ∀ p k, (r.remove p).1 = some k ↔ LastKind h p k
  /-- the kept paths are compared byte by byte -/
  getByName? : ∀ n k, r.getByName? n = some k ↔ ∃ p, KeptAt h p k ∧ lastSegment p = n ∧
    ∀ q l, KeptAt h q l → lastSegment q = n → utf8 p ≤ utf8 q
  primitive : ∀ x : Primitive, r.resolvePath? x.name = some (.primitive x)
  entry : ∀ p k, (∀ x : Primitive, x.name ≠ p) → LastKind h p k → r.resolvePath? p = some k
  lastSegment : ∀ p, (∀ x : Primitive, x.name ≠ p) → (∀ k, ¬LastKind h p k) →
    r.resolvePath? p = r.getByName? (lastSegment p)

theorem ofName?_name (x : Primitive) : Primitive.ofName? x.name = some x := by
  cases x <;> rfl

theorem ofName?_eq_none_iff {p : String} :
    Primitive.ofName? p = none ↔ ∀ x : Primitive, x.name ≠ p := by
  constructor
  · rintro h x rfl
    rw [ofName?_name] at h
    cases h
  · intro h
    exact List.find?_eq_none.mpr fun x _ hx => h x (beq_iff_eq.mp hx)

theorem resolvePath?_of_notPrimitive {p : String} (hp : ∀ x : Primitive, x.name ≠ p)
    (r : Registry) : r.resolvePath? p = (r.get? p).or (r.getByName? (lastSegment p)) := by
  rw [resolvePath?, ofName?_eq_none_iff.mpr hp]

/-- **What a registry tells after a history.** -/
theorem tells_ofHistory (h : List Change) : Tells h (ofHistory h) where
  get? p k := get?_ofHistory
  contains p := by simp only [contains, Option.isSome_iff_exists, get?_ofHistory]
  removed p k := get?_ofHistory
  getByName? n k := by
    have hle : ∀ p q : String, utf8 p ≤ utf8 q ↔ ¬q < p := fun p q => not_congr utf8_lt_iff
    simp only [(sorted_ofHistory h).getByName?_eq_some_iff, kindAt?_ofHistory, hle]
  primitive x := by rw [resolvePath?, ofName?_name]
  entry p k hp hk := by
    rw [resolvePath?_of_notPrimitive hp, get?_ofHistory.mpr hk, Option.some_or]
  lastSegment p hp hnone := by
    have hget : (ofHistory h).get? p = none :=
      Option.eq_none_iff_forall_ne_some.mpr fun k hk => hnone k (get?_ofHistory.mp hk)
    rw [resolvePath?_of_notPrimitive hp, hget, Option.none_or]

/-! ### One further change -/

/-- A new or a replaced entry does not count where its path does not. -/
theorem find?_insertEntry_of_not {p : String} {P : String → Bool} (hp : P p = false) (k : Kind)
    (es : List (String × Kind)) :
    (insertEntry p k es).find? (fun x => P x.1) = es.find? fun x => P x.1 := by
  induction es with
  | nil => simp [insertEntry, hp]
  | cons f es ih =>
    obtain ⟨q, l⟩ := f
    rw [insertEntry]
    split_ifs with hlt heq
    · rw [List.find?_cons_of_neg (by simp [hp])]
    · subst heq
      rw [List.find?_cons_of_neg (by simp [hp]), List.find?_cons_of_neg (by simp [hp])]
    · rw [List.find?_cons, List.find?_cons, ih]

/-- A write does not change what names stand for in which its path does not end. -/
theorem getByName?_write {w : Write} {n : String} (h : lastSegment w.1 ≠ n) (r : Registry) :
    (r.write w).getByName? n = r.getByName? n := by
  obtain ⟨p, k⟩ := w
  refine congrArg (Option.map _) ?_
  cases k with
  | some k => exact find?_insertEntry_of_not (P := (lastSegment · == n)) (by simpa using h) k _
  | none =>
    rw [write, List.find?_filter]
    refine List.find?_congr fun e _ => ?_
    by_cases he : lastSegment e.1 = n
    · have hne : e.1 ≠ p := fun heq => h (heq ▸ he)
      simp [he, hne]
    · simp [he]

/-- **A write changes what another path stands for only by its name.** -/
theorem resolvePath?_write {r : Registry} {w : Write} {q : String}
    (h : (r.write w).resolvePath? q ≠ r.resolvePath? q) : (∀ x : Primitive, x.name ≠ q) ∧
      (key q = w.1 ∨ r.get? q = none ∧ lastSegment q = lastSegment w.1) := by
  have hq : ∀ x : Primitive, x.name ≠ q := by
    rintro x rfl
    rw [resolvePath?, resolvePath?, ofName?_name] at h
    exact h rfl
  refine ⟨hq, or_iff_not_imp_left.mpr fun hkey => ?_⟩
  have hget : (r.write w).get? q = r.get? q := get?_write_of_ne (fun e => hkey e.symm) r
  rw [resolvePath?_of_notPrimitive hq, resolvePath?_of_notPrimitive hq, hget] at h
  cases hr : r.get? q with
  | some k =>
    rw [hr, Option.some_or, Option.some_or] at h
    exact absurd rfl h
  | none =>
    refine ⟨rfl, by_contra fun hseg => ?_⟩
    rw [getByName?_write fun e => hseg e.symm] at h
    exact h rfl

/-- Writes of different paths can be exchanged. -/
theorem Sorted.write_comm {r : Registry} (h : r.Sorted) {v w : Write} (hne : v.1 ≠ w.1) :
    (r.write v).write w = (r.write w).write v := by
  refine ((h.write v).write w).ext ((h.write w).write v) fun p => ?_
  simp only [kindAt?_write]
  by_cases hw : w.1 = p
  · have hv : v.1 ≠ p := fun hv => hne (hv.trans hw.symm)
    simp [hw, hv]
  · simp [hw]

/-- A change of one path is one write. -/
theorem exists_write_of_path {c : Change} {p : String} (hc : c.path? = some p) :
    ∃ k, ∀ r : Registry, r.change c = r.write (key p, k) := by
  cases c with
  | register q l => cases hc; exact ⟨some l, fun _ => rfl⟩
  | unregister q => cases hc; exact ⟨none, fun _ => rfl⟩
  | builtins => cases hc

/-- What a change tells depends only on its path. -/
theorem answer_congr {r s : Registry} {c : Change} {p : String} (hc : c.path? = some p)
    (h : r.get? p = s.get? p) : r.answer c = s.answer c := by
  cases c with
  | register q l => rfl
  | unregister q => cases hc; exact h
  | builtins => rfl

/-- Two changes can be exchanged: both orders leave the same, and each change tells the same
before the other and behind it. -/
structure Exchangeable (r : Registry) (c d : Change) : Prop where
  left : (r.change c).change d = (r.change d).change c
  first : (r.change d).answer c = r.answer c
  second : (r.change c).answer d = r.answer d

theorem Sorted.exchangeable {r : Registry} (h : r.Sorted) {c d : Change} {p q : String}
    (hc : c.path? = some p) (hd : d.path? = some q) (hne : key p ≠ key q) :
    Exchangeable r c d := by
  obtain ⟨k, hck⟩ := exists_write_of_path hc
  obtain ⟨l, hdl⟩ := exists_write_of_path hd
  constructor
  case left =>
    rw [hck, hdl, hck, hdl]
    exact h.write_comm hne
  case first => exact answer_congr hc (by rw [hdl]; exact get?_write_of_ne hne.symm _)
  case second => exact answer_congr hd (by rw [hck]; exact get?_write_of_ne hne _)

/-- **What a history leaves, and what a further change does.**  After every history the registry
tells of each path the kind of its last registration, of each name the kind of the least path
that ends in it, and resolves a path as a primitive, by its entry, or by its last segment.  A
change of one path alters what another stands for only if that is no primitive, and is the same
path up to colons at the start or has no entry and the same last segment.  Changes of two paths
can be exchanged if the paths are not the same up to such colons.  Different last segments are
enough for that if none of the two begins with a colon, and not enough otherwise. -/
theorem ofHistory_described (h : List Change) : Tells h (ofHistory h) ∧
    (∀ c p q, c.path? = some p →
      ((ofHistory h).change c).resolvePath? q ≠ (ofHistory h).resolvePath? q →
        (∀ x : Primitive, x.name ≠ q) ∧ (key q = key p ∨
          (ofHistory h).get? q = none ∧ lastSegment q = lastSegment p)) ∧
    (∀ c d p q, c.path? = some p → d.path? = some q → key p ≠ key q →
      Exchangeable (ofHistory h) c d) ∧
    ∀ c d p q, c.path? = some p → d.path? = some q → lastSegment p ≠ lastSegment q →
      (lastSegment p).toList.head? ≠ some ':' → (lastSegment q).toList.head? ≠ some ':' →
        Exchangeable (ofHistory h) c d := by
  refine ⟨tells_ofHistory h, ?_, ?_, ?_⟩
  · intro c p q hc hne
    obtain ⟨k, hwrite⟩ := exists_write_of_path hc
    rw [hwrite] at hne
    obtain ⟨hprim, hkey | ⟨hnone, hseg⟩⟩ := resolvePath?_write hne
    · exact ⟨hprim, Or.inl hkey⟩
    · exact ⟨hprim, (lastSegment_eq_or hseg).symm.imp_right fun hseg => ⟨hnone, hseg⟩⟩
  · intro c d p q hc hd hne
    exact (sorted_ofHistory h).exchangeable hc hd hne
  · intro c d p q hc hd hne hp hq
    exact (sorted_ofHistory h).exchangeable hc hd fun hkey =>
      hne (lastSegment_eq_of_key_eq hkey hp hq)

/-- Two paths with different last segments and one key: the later registration counts. -/
theorem not_exchangeable_colons : lastSegment ":::a" ≠ lastSegment ":a" ∧
    ¬Exchangeable (ofHistory []) (.register ":::a" .string) (.register ":a" .uuid) := by
  refine ⟨by decide, fun h => ?_⟩
  have hget := congrArg (Registry.get? · ":a") h.left
  exact absurd hget (by decide)

/-- A path whose entry is forgotten falls back to another one with the same last segment. -/
example : (ofHistory [.register "::a::Id" .uuid, .register "b::Id" .decimal,
    .unregister "a::Id"]).resolvePath? "a::Id" = some .decimal := by decide

end Registry

end Newtype
