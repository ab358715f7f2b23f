import Newtype.Proofs.Run

/-!
# Batches in another order

Sources and declarations can be given to a generator in any order.  The order shows in
the numbers of the sources, in the order in which wrappers are worked off and in what is
known at each turn, but not in the files: if the structs that are in order have different
names and no wrapper uses itself through others, the traits are the only solution of
their equations, which do not mention the order.

* `Generator.Addition`, `Generator.addAll` — filling a generator.
* `Entry`, `Generator.entries` — declarations with their members, without numbers.
* `entries_addAll` — additions give their entries one after the other.
* `events_perm` — **the same entries give the same events in some order.**
* `generate_of_perm` — **the order of the additions does not show in the files.**
-/

namespace Newtype

/-! ### Declarations without numbers -/

/-- A declaration as if it came from the first source text. -/
def Pending.unnumbered : Pending → Pending
  | .source _ d => .source 0 d
  | .resolved t s => .resolved t s

@[simp] theorem target_unnumbered (p : Pending) : p.unnumbered.target = p.target := by
  cases p <;> rfl

@[simp] theorem scope_unnumbered (p : Pending) : p.unnumbered.scope = p.scope := by
  cases p <;> rfl

@[simp] theorem types_unnumbered (p : Pending) : p.unnumbered.types = p.types := by
  cases p <;> rfl

@[simp] theorem specIn_unnumbered (p : Pending) (registry : Registry) (names : List String)
    (table : String → Option TraitSet) :
    p.unnumbered.specIn registry names table = p.specIn registry names table := by
  cases p <;> rfl

/-- A declaration with the members written for its struct. -/
structure Entry where
  declaration : Pending
  members : List UserMember

namespace Entry

/-- The struct with its members. -/
def target (e : Entry) : Target := e.declaration.target.addMembers e.members

/-- The name of the struct. -/
def name (e : Entry) : String := e.declaration.target.name

/-- What is wrong with the struct. -/
def fault? (e : Entry) : Option Rejected :=
  e.declaration.target.check.map fun r => (e.declaration.target, r)

/-- What happens at the turn of an entry in a batch whose wrappers have the traits in a
table. -/
def outcome (registry : Registry) (names : List String) (table : String → Option TraitSet)
    (e : Entry) : List Event :=
  Generator.happens e.target
    (e.declaration.specIn registry names (Generator.without e.name table))

end Entry

namespace Generator

/-- The entry of a declaration. -/
def entryOf (g : Generator) (p : Pending) : Entry := ⟨p.unnumbered, g.membersOf p⟩

/-- The entries of a generator. -/
def entries (g : Generator) : List Entry := g.pending.map g.entryOf

@[simp] theorem entryOf_target (g : Generator) (p : Pending) :
    (g.entryOf p).target = g.fullTarget p := by
  simp [entryOf, Entry.target, fullTarget]

@[simp] theorem entryOf_name (g : Generator) (p : Pending) :
    (g.entryOf p).name = p.target.name := by
  simp [entryOf, Entry.name]

@[simp] theorem entryOf_passes (g : Generator) (p : Pending) :
    (g.entryOf p).declaration.passes = p.passes := by
  simp [entryOf, Pending.passes]

/-! ### Filling a generator -/

/-- Something a generator can be given. -/
inductive Addition where
  | source (text : String) (file : Option String)
  | resolved (target : Target) (spec : Specification)

/-- Takes up an addition; a source text that cannot be read changes nothing. -/
def add (g : Generator) : Addition → Generator
  | .source text file => (g.addSource? text file).getD g
  | .resolved t s => g.addResolved t s

/-- Takes up some additions one after the other. -/
def addAll (g : Generator) (as : List Addition) : Generator := as.foldl add g

/-- All numbers in the generator are those of its sources. -/
structure Numbered (g : Generator) : Prop where
  pending : ∀ i d, .source i d ∈ g.pending → i < g.sources
  members : ∀ m ∈ g.members, m.1 < g.sources

theorem Numbered.addItems {g : Generator} (h : g.Numbered) (items : List Item)
    (file : Option String) : (g.addItems items file).Numbered where
  pending := by
    intro i d hd
    rcases List.mem_append.mp hd with hd | hd
    · exact Nat.lt_succ_of_lt (h.pending i d hd)
    · obtain ⟨d', -, heq⟩ := List.mem_map.mp hd
      cases heq
      exact Nat.lt_succ_self _
  members := by
    intro m hm
    rcases List.mem_append.mp hm with hm | hm
    · exact Nat.lt_succ_of_lt (h.members m hm)
    · obtain ⟨m', -, rfl⟩ := List.mem_map.mp hm
      exact Nat.lt_succ_self _

theorem Numbered.addResolved {g : Generator} (h : g.Numbered) (t : Target)
    (s : Specification) : (g.addResolved t s).Numbered where
  pending := by
    intro i d hd
    rcases List.mem_append.mp hd with hd | hd
    · exact h.pending i d hd
    · cases List.mem_singleton.mp hd
  members := h.members

theorem Numbered.add {g : Generator} (h : g.Numbered) (a : Addition) : (g.add a).Numbered := by
  cases a with
  | resolved t s => exact h.addResolved t s
  | source text file =>
    rw [Generator.add, addSource?]
    cases readFile text with
    | none => exact h
    | some items => exact h.addItems items file

/-- A new source has no members for the declarations before it. -/
theorem membersOf_addItems_of_mem {g : Generator} (h : g.Numbered) (items : List Item)
    (file : Option String) {p : Pending} (hp : p ∈ g.pending) :
    (g.addItems items file).membersOf p = g.membersOf p := by
  cases p with
  | resolved t s => rfl
  | source i d =>
    -- the new members have a number that is not in use yet
    have hi := h.pending i d hp
    have hne : g.sources ≠ i := by omega
    simp [membersOf, addItems, List.filter_append, List.filter_map, Function.comp_def, hne]

/-- The members for a declaration in a new source are those of the source alone. -/
theorem membersOf_addItems_new {g : Generator} (h : g.Numbered) (items : List Item)
    (file : Option String) (d : Declaration) :
    (g.addItems items file).membersOf (.source g.sources d) =
      (({} : Generator).addItems items file).membersOf (.source 0 d) := by
  have hold : g.members.filter (fun m => m.1 == g.sources && m.2.module == d.scope.module &&
      m.2.type == d.target.name) = [] := by
    refine List.filter_eq_nil_iff.mpr fun m hm => ?_
    have hlt := h.members m hm
    have hne : m.1 ≠ g.sources := by omega
    simp [hne]
  simp [membersOf, addItems, List.filter_append, hold, List.filter_map, Function.comp_def]

theorem entries_addItems {g : Generator} (h : g.Numbered) (items : List Item)
    (file : Option String) : (g.addItems items file).entries =
      g.entries ++ (({} : Generator).addItems items file).entries := by
  have hold : g.pending.map (g.addItems items file).entryOf = g.pending.map g.entryOf := by
    refine List.map_congr_left fun p hp => ?_
    rw [entryOf, entryOf, membersOf_addItems_of_mem h items file hp]
  have hnew : ((extract items file).declarations.map (.source g.sources)).map
      (g.addItems items file).entryOf =
      ((extract items file).declarations.map (.source 0)).map
        (({} : Generator).addItems items file).entryOf := by
    rw [List.map_map, List.map_map]
    refine List.map_congr_left fun d _ => ?_
    exact congrArg (Entry.mk (.source 0 d)) (membersOf_addItems_new h items file d)
  calc (g.addItems items file).entries
      = g.pending.map (g.addItems items file).entryOf ++
          ((extract items file).declarations.map (.source g.sources)).map
            (g.addItems items file).entryOf := List.map_append
    _ = g.entries ++ (({} : Generator).addItems items file).entries := by
        rw [hold, hnew]
        rfl

/-- The entries that an addition gives. -/
def Addition.entries (a : Addition) : List Entry := (({} : Generator).add a).entries

theorem entries_add {g : Generator} (h : g.Numbered) (a : Addition) :
    (g.add a).entries = g.entries ++ a.entries := by
  cases a with
  | resolved t s =>
    rw [Generator.entries, add, addResolved, List.map_append]
    rfl
  | source text file =>
    rw [Addition.entries, add, add, addSource?, addSource?]
    cases readFile text with
    | none => exact (List.append_nil _).symm
    | some items => exact entries_addItems h items file

/-- **Additions give their entries one after the other.** -/
theorem entries_addAll (as : List Addition) : ∀ {g : Generator}, g.Numbered →
    (g.addAll as).entries = g.entries ++ as.flatMap Addition.entries := by
  induction as with
  | nil => intro g _; exact (List.append_nil _).symm
  | cons a as ih =>
    intro g h
    rw [addAll, List.foldl_cons, ← addAll, ih (h.add a), entries_add h, List.flatMap_cons,
      List.append_assoc]

theorem addAll_registry_header (as : List Addition) : ∀ g : Generator,
    (g.addAll as).registry = g.registry ∧ (g.addAll as).header = g.header := by
  induction as with
  | nil => intro g; exact ⟨rfl, rfl⟩
  | cons a as ih =>
    intro g
    obtain ⟨hr, hh⟩ := ih (g.add a)
    rw [addAll, List.foldl_cons, ← addAll, hr, hh]
    cases a with
    | resolved t s => exact ⟨rfl, rfl⟩
    | source text file =>
      rw [add, addSource?]
      cases readFile text with
      | none => exact ⟨rfl, rfl⟩
      | some items => exact ⟨rfl, rfl⟩

end Generator

/-! ### Different names -/

/-- Without two structs of the same name, only those that are not in order are refused. -/
theorem screenFrom_of_nodup : ∀ (ps : List Pending) (seen : List String),
    (namesOf (ps.filter Pending.passes)).Nodup →
      (∀ p ∈ ps.filter Pending.passes, p.target.name ∉ seen) →
        screenFrom seen ps = (ps.filterMap fun p => p.target.check.map fun r => (p.target, r),
          ps.filter Pending.passes) := by
  intro ps
  induction ps with
  | nil => intro seen _ _; rfl
  | cons q ps ih =>
    intro seen hn hseen
    rcases screen_cases q seen with ⟨r, hr⟩ | ⟨hq, hs⟩ | ⟨hq, hs⟩
    · have hpass : ¬q.passes = true := by simp [Pending.passes, hr]
      rw [List.filter_cons_of_neg hpass] at hn hseen ⊢
      rw [screenFrom_cons_of_check hr, ih seen hn hseen, List.filterMap_cons, hr]
      rfl
    · -- no name has been seen before
      exact absurd hs (hseen q (by simp [hq]))
    · rw [List.filter_cons_of_pos hq] at hn hseen ⊢
      rw [namesOf, List.map_cons, List.nodup_cons] at hn
      have hcheck : q.target.check = none := Option.isNone_iff_eq_none.mp hq
      have hnew : ∀ p ∈ ps.filter Pending.passes, p.target.name ∉ q.target.name :: seen := by
        intro p hp
        rw [List.mem_cons, not_or]
        refine ⟨fun heq => hn.1 ?_, hseen p (List.mem_cons_of_mem _ hp)⟩
        exact heq ▸ List.mem_map_of_mem hp
      rw [screenFrom_cons_of_new hq hs, ih _ hn.2 hnew, List.filterMap_cons, hcheck]
      rfl

namespace Generator

/-- The structs that are in order have different names. -/
def Distinct (g : Generator) : Prop := (namesOf (g.pending.filter Pending.passes)).Nodup

theorem screen_of_distinct {g : Generator} (h : g.Distinct) : screen g.pending =
    (g.pending.filterMap fun p => p.target.check.map fun r => (p.target, r),
      g.pending.filter Pending.passes) :=
  screenFrom_of_nodup g.pending [] h fun _ _ => List.not_mem_nil

theorem rejected_of_distinct {g : Generator} (h : g.Distinct) :
    (screen g.pending).1 = g.entries.filterMap Entry.fault? := by
  rw [screen_of_distinct h, entries, List.filterMap_map]
  refine congrArg (List.filterMap · g.pending) (funext fun p => ?_)
  simp [entryOf, Entry.fault?]

/-- The entries whose structs are in order are those of the declarations in order. -/
theorem filter_entries (g : Generator) :
    g.entries.filter (·.declaration.passes) = (g.pending.filter Pending.passes).map g.entryOf := by
  rw [entries, List.filter_map]
  refine congrArg (List.map g.entryOf) (congrArg (List.filter · g.pending) (funext fun p => ?_))
  exact g.entryOf_passes p

theorem entries_of_distinct {g : Generator} (h : g.Distinct) :
    g.accepted.map g.entryOf = g.entries.filter (·.declaration.passes) := by
  rw [filter_entries, accepted, screen_of_distinct h]

theorem map_name_entryOf (g : Generator) (ps : List Pending) :
    (ps.map g.entryOf).map Entry.name = namesOf ps := by
  rw [List.map_map, namesOf]
  exact List.map_congr_left fun p _ => g.entryOf_name p

/-! ### Two generators with the same entries -/

/-- Two generators have the same entries in some order, with different names, and know
the same types. -/
structure Rearranged (g₁ g₂ : Generator) : Prop where
  entries : g₁.entries.Perm g₂.entries
  registry : g₁.registry = g₂.registry
  distinct : g₁.Distinct

namespace Rearranged

variable {g₁ g₂ : Generator}

theorem symm (h : Rearranged g₁ g₂) : Rearranged g₂ g₁ where
  entries := h.entries.symm
  registry := h.registry.symm
  distinct := by
    have hn := h.distinct
    rw [Distinct, ← map_name_entryOf, ← filter_entries] at hn ⊢
    exact ((h.entries.filter _).map _).nodup_iff.mp hn

theorem accepted_perm (h : Rearranged g₁ g₂) :
    (g₁.accepted.map g₁.entryOf).Perm (g₂.accepted.map g₂.entryOf) := by
  rw [entries_of_distinct h.distinct, entries_of_distinct h.symm.distinct]
  exact h.entries.filter _

theorem mem_names_iff (h : Rearranged g₁ g₂) (w : String) : w ∈ g₁.names ↔ w ∈ g₂.names := by
  rw [names, names, ← map_name_entryOf, ← map_name_entryOf]
  exact (h.accepted_perm.map _).mem_iff

theorem batchWrapper?_eq (h : Rearranged g₁ g₂) {p : Pending} :
    ∀ t ∈ p.types, batchWrapper? p.scope g₁.names t = batchWrapper? p.scope g₂.names t :=
  fun t _ => batchWrapper?_congr h.mem_names_iff p.scope t

theorem uses (h : Rearranged g₁ g₂) {a b : String} (hu : Uses g₁.accepted a b) :
    Uses g₂.accepted a b := by
  obtain ⟨p, hp, rfl, hne, t, ht, hw⟩ := hu
  obtain ⟨q, hq, heq⟩ := List.mem_map.mp (h.accepted_perm.mem_iff.mp (List.mem_map_of_mem hp))
  have hdecl : q.unnumbered = p.unnumbered := congrArg Entry.declaration heq
  refine ⟨q, hq, ?_, hne, t, ?_, ?_⟩
  · rw [← target_unnumbered q, hdecl, target_unnumbered]
  · rwa [← types_unnumbered q, hdecl, types_unnumbered]
  · rw [← scope_unnumbered q, hdecl, scope_unnumbered, ← hw]
    exact (batchWrapper?_congr h.mem_names_iff _ _).symm

theorem acyclic (h : Rearranged g₁ g₂) (ha : Acyclic g₁.accepted) : Acyclic g₂.accepted :=
  fun a hcycle => ha a (Relation.TransGen.mono (fun _ _ => h.symm.uses) a a hcycle)

end Rearranged

/-- The equation of an entry. -/
theorem table_entry {g : Generator} (ha : Acyclic g.accepted) {e : Entry}
    (he : e ∈ g.accepted.map g.entryOf) : g.table e.name = traitsOf e.target
      (e.declaration.specIn g.registry g.names (without e.name g.table)) := by
  obtain ⟨p, hp, rfl⟩ := List.mem_map.mp he
  rw [entryOf_name, entryOf_target, entryOf, specIn_unnumbered]
  exact table_settled hp (ha.grounded _)

/-- **The equations have one solution.**  The induction descends along the uses. -/
theorem table_congr {g₁ g₂ : Generator} (h : Rearranged g₁ g₂) (ha : Acyclic g₁.accepted)
    (w : String) : g₁.table w = g₂.table w := by
  induction (ha.grounded w).acc with
  | intro w _ ih =>
    by_cases hw : w ∈ g₁.names
    · -- both generators have the entry, so both tables satisfy its equation
      obtain ⟨p, hp, rfl⟩ := List.mem_map.mp hw
      have he₁ := List.mem_map_of_mem (f := g₁.entryOf) hp
      have he₂ := h.accepted_perm.mem_iff.mp he₁
      rw [← g₁.entryOf_name p, table_entry ha he₁, table_entry (h.acyclic ha) he₂, h.registry]
      refine congrArg (traitsOf _) (specIn_congr h.batchWrapper?_eq fun t ht b hb => ?_)
      simp only [entryOf, types_unnumbered, scope_unnumbered] at ht hb
      rw [entryOf_name, without, without]
      -- the equation of a wrapper does not look at its own entry
      by_cases hself : b = p.target.name
      · rw [if_pos hself, if_pos hself]
      · rw [if_neg hself, if_neg hself]
        exact ih b ⟨p, hp, rfl, hself, t, ht, hb⟩
    · rw [table_eq_none hw, table_eq_none (fun hw' => hw ((h.mem_names_iff w).mpr hw'))]

/-! ### What happens -/

theorem outcome_entryOf (g : Generator) (p : Pending) (names : List String)
    (table : String → Option TraitSet) : (g.entryOf p).outcome g.registry names table =
      happens (g.fullTarget p) (p.specIn g.registry names (without p.target.name table)) := by
  rw [Entry.outcome, entryOf_target, entryOf_name, entryOf, specIn_unnumbered]

/-- Without cycles, every turn could as well come at the end.  The induction is on the
declarations that are left, with those before them as a parameter. -/
theorem work_eq_flatMap {g : Generator} (ha : Acyclic g.accepted) : ∀ r l : List Pending,
    ordered g.accepted = l ++ r → g.work g.names (g.knownAfter l) r =
      (r.map g.entryOf).flatMap (Entry.outcome g.registry g.names g.table) := by
  intro r
  induction r with
  | nil => intro l _; rfl
  | cons p r ih =>
    intro l hsplit
    have hnext : g.learn g.names (g.knownAfter l) p = g.knownAfter (l ++ [p]) := by
      rw [knownAfter, knownAfter, List.foldl_append, List.foldl_cons, List.foldl_nil]
    have hrest : ordered g.accepted = (l ++ [p]) ++ r := by
      rw [hsplit, List.append_assoc, List.singleton_append]
    rw [work_cons, specification_settled hsplit (ha.grounded _), hnext, ih _ hrest,
      List.map_cons, List.flatMap_cons, outcome_entryOf]

theorem events_of_distinct {g : Generator} (hd : g.Distinct) (ha : Acyclic g.accepted) :
    g.events = (g.entries.filterMap Entry.fault?).map .reject ++
      ((ordered g.accepted).map g.entryOf).flatMap
        (Entry.outcome g.registry g.names g.table) := by
  rw [events_eq, rejected_of_distinct hd]
  exact congrArg _ (work_eq_flatMap ha (ordered g.accepted) [] rfl)

theorem outcome_congr {g₁ g₂ : Generator} (h : Rearranged g₁ g₂) (ha : Acyclic g₁.accepted) :
    Entry.outcome g₁.registry g₁.names g₁.table = Entry.outcome g₂.registry g₂.names g₂.table := by
  funext e
  have htable : g₁.table = g₂.table := funext (table_congr h ha)
  rw [Entry.outcome, Entry.outcome, h.registry, htable]
  exact congrArg (happens e.target) (specIn_congr h.batchWrapper?_eq fun _ _ _ _ => rfl)

/-- **The same entries give the same events in some order.** -/
theorem events_perm {g₁ g₂ : Generator} (h : Rearranged g₁ g₂) (ha : Acyclic g₁.accepted) :
    g₁.events.Perm g₂.events := by
  rw [events_of_distinct h.distinct ha, events_of_distinct h.symm.distinct (h.acyclic ha),
    outcome_congr h ha]
  have hordered : ((ordered g₁.accepted).map g₁.entryOf).Perm
      ((ordered g₂.accepted).map g₂.entryOf) :=
    calc List.Perm ((ordered g₁.accepted).map g₁.entryOf) (g₁.accepted.map g₁.entryOf) :=
          (ordered_perm _).map _
      List.Perm _ (g₂.accepted.map g₂.entryOf) := h.accepted_perm
      List.Perm _ ((ordered g₂.accepted).map g₂.entryOf) := ((ordered_perm _).map _).symm
  exact ((h.entries.filterMap _).map _).append (hordered.flatMap_right _)

/-! ### Files and reports -/

/-- Sorting by file names leaves no choice. -/
theorem mergeSort_congr {as bs : List Artifact} (h : as.Perm bs)
    (hfile : ∀ a ∈ as, ∀ b ∈ as, a.file = b.file → a = b) :
    as.mergeSort (fun a b => a.file ≤ b.file) = bs.mergeSort (fun a b => a.file ≤ b.file) := by
  refine List.Perm.eq_of_pairwise ?_ (sorted_mergeSort as) (sorted_mergeSort bs) ?_
  · intro a b ha hb hab hba
    rw [List.mem_mergeSort] at ha hb
    exact hfile a ha b (h.mem_iff.mpr hb) (String.le_antisymm hab hba)
  · exact (List.mergeSort_perm as _).trans (h.trans (List.mergeSort_perm bs _).symm)

/-- The same entries give the same files, and the same reports in some order. -/
theorem generate_congr {g₁ g₂ : Generator} (h : Rearranged g₁ g₂)
    (hheader : g₁.header = g₂.header) (ha : Acyclic g₁.accepted) :
    g₁.generate.1 = g₂.generate.1 ∧ g₁.generate.2.Perm g₂.generate.2 := by
  have hevents := events_perm h ha
  have hhead : g₁.withHeader = g₂.withHeader := by
    funext body
    rw [withHeader, withHeader, hheader]
  constructor
  · -- the header is part of every file
    have hown : g₂.ownArtifacts g₂.events = g₁.ownArtifacts g₂.events := by
      rw [ownArtifacts, ownArtifacts]
      simp only [artifact, hhead]
    have hshared : g₁.sharedArtifact = g₂.sharedArtifact := by
      rw [sharedArtifact, sharedArtifact, hhead]
    rw [generate, generate, artifacts_eq, artifacts_eq, hown, hshared]
    refine congrArg (· ++ _) (mergeSort_congr (hevents.filterMap _) fun a ha' b hb' => ?_)
    exact eq_of_file_eq ha' hb'
  · exact (hevents.filterMap _).map _

/-- A generator that knows some types, has a header and has been given some additions. -/
def filled (registry : Registry) (header : Option String) (as : List Addition) : Generator :=
  addAll { registry := registry, header := header } as

theorem rearranged_filled {registry : Registry} {header : Option String}
    {as bs : List Addition} (h : as.Perm bs) (hdistinct : (filled registry header as).Distinct) :
    Rearranged (filled registry header as) (filled registry header bs) where
  entries := by
    have hstart : Numbered { registry := registry, header := header } :=
      ⟨fun _ _ hd => absurd hd List.not_mem_nil, fun _ hm => absurd hm List.not_mem_nil⟩
    rw [filled, filled, entries_addAll as hstart, entries_addAll bs hstart]
    exact (h.flatMap_right _).append_left _
  registry := (addAll_registry_header as _).1.trans (addAll_registry_header bs _).1.symm
  distinct := hdistinct

/-- **The order of the additions does not show in the files.**  Take a generator that has
been given some sources and declarations, such that the structs that are in order have
different names and no wrapper uses itself through others.  Given the same in another
order, it generates the same files, and the same reports in some order. -/
theorem generate_of_perm {registry : Registry} {header : Option String}
    {as bs : List Addition} (h : as.Perm bs) (hdistinct : (filled registry header as).Distinct)
    (hacyclic : Acyclic (filled registry header as).accepted) :
    (filled registry header as).generate.1 = (filled registry header bs).generate.1 ∧
      (filled registry header as).generate.2.Perm (filled registry header bs).generate.2 := by
  have hheader : (filled registry header as).header = (filled registry header bs).header :=
    (addAll_registry_header as _).2.trans (addAll_registry_header bs _).2.symm
  exact generate_congr (rearranged_filled h hdistinct) hheader hacyclic

/-- A wrapper, the wrapper in its field with a member of its own, and a declaration added
with its fields. -/
def additions : List Addition :=
  [.source "#[wrapper_value_object(Inner)] struct Outer;" none,
    .source
      "#[wrapper_value_object(i32)] struct Inner; impl Display for Inner \x7b\x7d"
      none,
    .resolved { name := "Key" } ⟨[Field.defaultId], {}⟩]

/-- The three additions may as well come in the opposite order. -/
theorem generate_additions_reverse :
    (filled .builtin none additions).names = ["Outer", "Inner", "Key"] ∧
      (filled .builtin none additions).Distinct ∧
      Acyclic (filled .builtin none additions).accepted ∧
      (filled .builtin none additions).generate.1 =
        (filled .builtin none additions.reverse).generate.1 ∧
      (filled .builtin none additions).generate.2.Perm
        (filled .builtin none additions.reverse).generate.2 := by
  obtain ⟨hnames, hdistinct, hrank⟩ :
      (filled .builtin none additions).names = ["Outer", "Inner", "Key"] ∧
      (namesOf ((filled .builtin none additions).pending.filter Pending.passes)).Nodup ∧
      ∀ p ∈ (filled .builtin none additions).accepted,
        ∀ b ∈ p.needs (namesOf (filled .builtin none additions).accepted),
          (if b = "Outer" then 1 else 0) < if p.target.name = "Outer" then 1 else 0 := by
    decide +kernel
  have hacyclic := acyclic_of_rank (fun w => if w = "Outer" then 1 else 0) hrank
  exact ⟨hnames, hdistinct, hacyclic,
    generate_of_perm (List.reverse_perm _).symm hdistinct hacyclic⟩

end Generator
end Newtype
