import Newtype.Proofs.Graph
import Newtype.Proofs.Resolution

/-!
# What a run knows about its wrappers

A run works off the accepted declarations one after the other and keeps the traits of
the wrappers it has made.  Each declaration is read with what is known at its turn.  A
wrapper from which no cycle can be reached comes after all it uses, and what is known
about a wrapper never changes again, so such a wrapper might as well be read with what
is known at the end.  In this sense the traits of a batch solve a system of equations,
one for each wrapper, and the order is only a way to compute the solution.

* `kindIn`, `Pending.specIn` — reading with a table of traits in place of a list.
* `Generator.learn`, `Generator.happens` — one turn of a run.
* `Generator.table` — the traits that are known at the end.
* `specification_settled`, `table_settled` — **a grounded wrapper is read with the final
  table.**
* `produce_mem_events`, `malformed_mem_events`, `mem_generate` — what a run gives.
-/

namespace Newtype

/-! ### Reading with a table -/

/-- The kind of a type in a batch whose wrappers have the traits in a table. -/
def kindIn (registry : Registry) (scope : Scope) (names : List String)
    (table : String → Option TraitSet) (t : TypeExpr) : Kind :=
  match t.segments? with
  | none => .named .assumed
  | some segments =>
    match Primitive.ofName? (Path.join segments) with
    | some p => .primitive p
    | none =>
      match batchWrapper? scope names t with
      | some w => .named ((table w).getD .assumed)
      | none =>
        (registry.resolvePath? (Path.join (scope.expand segments))).getD (.named .assumed)

theorem batchKind_eq_kindIn (registry : Registry) (scope : Scope) (names : List String)
    (known : List (String × TraitSet)) :
    batchKind registry scope names known = kindIn registry scope names (known.lookup ·) := rfl

/-- Tables that agree on the wrapper a type is give it the same kind. -/
theorem kindIn_congr {registry : Registry} {scope : Scope} {names₁ names₂ : List String}
    {τ₁ τ₂ : String → Option TraitSet} {t : TypeExpr}
    (hn : batchWrapper? scope names₁ t = batchWrapper? scope names₂ t)
    (h : ∀ w, batchWrapper? scope names₁ t = some w → τ₁ w = τ₂ w) :
    kindIn registry scope names₁ τ₁ t = kindIn registry scope names₂ τ₂ t := by
  unfold kindIn
  rw [← hn]
  cases t.segments? with
  | none => rfl
  | some segments =>
    simp only
    cases Primitive.ofName? (Path.join segments) with
    | some p => rfl
    | none =>
      simp only
      cases hw : batchWrapper? scope names₁ t with
      | none => rfl
      | some w => simp only [h w hw]

/-- The specification of a declaration in a batch whose wrappers have the traits in a
table. -/
def Pending.specIn (registry : Registry) (names : List String)
    (table : String → Option TraitSet) : Pending → Except Malformed Specification
  | .source _ d => do
    Specification.ofArguments (kindIn registry d.scope names table) (← d.arguments)
  | .resolved _ s => .ok s

/-- Tables that agree on the wrappers of a declaration give it the same specification, if
its types are the same wrappers by both lists of names. -/
theorem specIn_congr {registry : Registry} {names₁ names₂ : List String}
    {τ₁ τ₂ : String → Option TraitSet} {p : Pending}
    (hn : ∀ t ∈ p.types, batchWrapper? p.scope names₁ t = batchWrapper? p.scope names₂ t)
    (h : ∀ t ∈ p.types, ∀ w, batchWrapper? p.scope names₁ t = some w → τ₁ w = τ₂ w) :
    p.specIn registry names₁ τ₁ = p.specIn registry names₂ τ₂ := by
  cases p with
  | resolved t s => rfl
  | source i d =>
    simp only [Pending.specIn]
    cases hd : d.arguments with
    | error m => rfl
    | ok args =>
      refine Specification.ofArguments_congr fun t ht => ?_
      have hmem : t ∈ (Pending.source i d).types := by
        simpa [Pending.types, hd, mem_typesAmong] using ht
      exact kindIn_congr (hn t hmem) (h t hmem)

namespace Generator

theorem specification_eq_specIn (g : Generator) (names : List String)
    (known : List (String × TraitSet)) (p : Pending) :
    g.specification names known p = p.specIn g.registry names (known.lookup ·) := by
  cases p with
  | resolved t s => rfl
  | source i d => rw [specification, batchKind_eq_kindIn, Pending.specIn]

/-! ### One turn -/

@[simp] theorem addMembers_name (t : Target) (ms : List UserMember) :
    (t.addMembers ms).name = t.name := by
  unfold Target.addMembers
  induction ms generalizing t with
  | nil => rfl
  | cons m ms ih =>
    rw [List.foldl_cons, ih]
    cases m <;> rfl

@[simp] theorem fullTarget_name (g : Generator) (p : Pending) :
    (g.fullTarget p).name = p.target.name := addMembers_name _ _

/-- The plan for a declaration with a specification. -/
def planOf (g : Generator) (p : Pending) (s : Specification) : Plan := Plan.of s (g.fullTarget p)

@[simp] theorem planOf_typeName (g : Generator) (p : Pending) (s : Specification) :
    (g.planOf p s).typeName = p.target.name := g.fullTarget_name p

/-- The traits of the wrapper for a struct, if its arguments can be read. -/
def traitsOf (t : Target) : Except Malformed Specification → Option TraitSet
  | .error _ => none
  | .ok s => some ((Plan.of s t).traits t)

/-- What happens at the turn of a declaration of a struct. -/
def happens (t : Target) : Except Malformed Specification → List Event
  | .error m => [.poll, .reject (t, .malformed m)]
  | .ok s => [.poll, .poll, .produce (Plan.of s t)]

/-- What is known after the turn of a declaration. -/
def learn (g : Generator) (names : List String) (known : List (String × TraitSet))
    (p : Pending) : List (String × TraitSet) :=
  match traitsOf (g.fullTarget p) (g.specification names known p) with
  | none => known
  | some t => (p.target.name, t) :: known

theorem work_cons (g : Generator) (names : List String) (known : List (String × TraitSet))
    (p : Pending) (ps : List Pending) : g.work names known (p :: ps) =
      happens (g.fullTarget p) (g.specification names known p) ++
        g.work names (g.learn names known p) ps := by
  rw [work, learn]
  cases h : g.specification names known p with
  | error m => rfl
  | ok s => simp only [happens, traitsOf, fullTarget_name]; rfl

/-- Everything that happens, happens at some turn. -/
theorem mem_work {g : Generator} {names : List String} {e : Event} {ps : List Pending} :
    ∀ {known : List (String × TraitSet)}, e ∈ g.work names known ps ↔
      ∃ l p r, ps = l ++ p :: r ∧
        e ∈ happens (g.fullTarget p) (g.specification names (l.foldl (g.learn names) known) p) := by
  induction ps with
  | nil =>
    intro known
    simp [work]
  | cons q ps ih =>
    intro known
    rw [work_cons, List.mem_append, ih]
    constructor
    · rintro (h | ⟨l, p, r, rfl, h⟩)
      · exact ⟨[], q, ps, rfl, h⟩
      · exact ⟨q :: l, p, r, rfl, h⟩
    · rintro ⟨l, p, r, heq, h⟩
      cases l with
      | nil =>
        cases heq
        exact Or.inl h
      | cons q' l =>
        cases heq
        exact Or.inr ⟨l, p, r, rfl, h⟩

/-! ### What is known -/

theorem lookup_learn_self (g : Generator) (names : List String)
    (known : List (String × TraitSet)) (p : Pending) :
    (g.learn names known p).lookup p.target.name =
      (traitsOf (g.fullTarget p) (g.specification names known p)).or
        (known.lookup p.target.name) := by
  unfold learn
  cases traitsOf (g.fullTarget p) (g.specification names known p) with
  | none => rfl
  | some t => simp

theorem lookup_learn_of_ne {g : Generator} {names : List String}
    {known : List (String × TraitSet)} {p : Pending} {w : String} (h : w ≠ p.target.name) :
    (g.learn names known p).lookup w = known.lookup w := by
  unfold learn
  cases traitsOf (g.fullTarget p) (g.specification names known p) with
  | none => rfl
  | some t => rw [List.lookup_cons, beq_false_of_ne h]

/-- Turns of other declarations do not change what is known about a wrapper. -/
theorem lookup_foldl_learn {g : Generator} {names : List String} {w : String} :
    ∀ {ps : List Pending} {known : List (String × TraitSet)}, w ∉ namesOf ps →
      (ps.foldl (g.learn names) known).lookup w = known.lookup w := by
  intro ps
  induction ps with
  | nil => intro known _; rfl
  | cons p ps ih =>
    intro known h
    rw [namesOf, List.map_cons, List.mem_cons, not_or] at h
    rw [List.foldl_cons, ih h.2, lookup_learn_of_ne h.1]

/-- What is known when the declarations in front of some other have been worked off. -/
def knownAfter (g : Generator) (ps : List Pending) : List (String × TraitSet) :=
  ps.foldl (g.learn g.names) []

/-- The traits that are known at the end of a run. -/
def table (g : Generator) (w : String) : Option TraitSet :=
  (g.knownAfter (ordered g.accepted)).lookup w

theorem nodup_names_ordered (g : Generator) : (namesOf (ordered g.accepted)).Nodup :=
  ((ordered_perm g.accepted).map _).nodup_iff.mpr g.nodup_names

/-- Cut before the turn of a declaration, the order has its name on neither side. -/
theorem name_notMem_of_ordered {g : Generator} {l r : List Pending} {p : Pending}
    (h : ordered g.accepted = l ++ p :: r) :
    p.target.name ∉ namesOf l ∧ p.target.name ∉ namesOf r := by
  have hn := g.nodup_names_ordered
  rw [h, namesOf, List.map_append, List.map_cons, List.nodup_append, List.nodup_cons] at hn
  exact ⟨fun hl => hn.2.2 _ hl _ List.mem_cons_self rfl, hn.2.1.1⟩

/-- What is known about a wrapper at the end is what its own turn has given. -/
theorem table_eq {g : Generator} {l r : List Pending} {p : Pending}
    (h : ordered g.accepted = l ++ p :: r) :
    g.table p.target.name =
      traitsOf (g.fullTarget p) (g.specification g.names (g.knownAfter l) p) := by
  obtain ⟨hl, hr⟩ := name_notMem_of_ordered h
  -- the name is not known before the turn, and later turns do not touch it
  have hnone : (g.knownAfter l).lookup p.target.name = none := lookup_foldl_learn hl
  unfold table
  rw [h, knownAfter, List.foldl_append, List.foldl_cons, lookup_foldl_learn hr,
    lookup_learn_self, ← knownAfter, hnone, Option.or_none]

/-- What is known about a wrapper after its turn stays. -/
theorem table_eq_of_mem {g : Generator} {l r : List Pending} {q : Pending}
    (h : ordered g.accepted = l ++ r) (hq : q ∈ l) :
    (g.knownAfter l).lookup q.target.name = g.table q.target.name := by
  have hnot : q.target.name ∉ namesOf r := by
    have hn := g.nodup_names_ordered
    rw [h, namesOf, List.map_append, List.nodup_append] at hn
    exact fun hr => hn.2.2 _ (List.mem_map_of_mem hq) _ hr rfl
  unfold table
  rw [h, knownAfter, knownAfter, List.foldl_append, lookup_foldl_learn hnot]

/-- A table without the entry of one wrapper. -/
def without (a : String) (table : String → Option TraitSet) (w : String) : Option TraitSet :=
  if w = a then none else table w

/-- **A wrapper from which no cycle can be reached is read with the final table.** -/
theorem specification_settled {g : Generator} {l r : List Pending} {p : Pending}
    (h : ordered g.accepted = l ++ p :: r) (hg : Grounded g.accepted p.target.name) :
    g.specification g.names (g.knownAfter l) p =
      p.specIn g.registry g.names (without p.target.name g.table) := by
  have hp : p ∈ g.accepted := (ordered_perm g.accepted).mem_iff.mp (by simp [h])
  rw [specification_eq_specIn]
  refine specIn_congr (fun _ _ => rfl) fun t ht w hw => ?_
  unfold without
  by_cases hself : w = p.target.name
  · -- a wrapper is not known at its own turn
    rw [if_pos hself, hself]
    exact lookup_foldl_learn (name_notMem_of_ordered h).1
  · -- another one has had its turn
    rw [if_neg hself]
    obtain ⟨q, hq, rfl⟩ := ordered_before g.nodup_names h hg ⟨p, hp, rfl, hself, t, ht, hw⟩
    exact table_eq_of_mem h hq

/-- Nothing is known about a name that no wrapper has. -/
theorem table_eq_none {g : Generator} {w : String} (h : w ∉ g.names) : g.table w = none := by
  have hw : w ∉ namesOf (ordered g.accepted) :=
    fun hmem => h (((ordered_perm g.accepted).map _).mem_iff.mp hmem)
  exact lookup_foldl_learn hw

/-! ### What a run gives -/

/-- An accepted declaration has its turn. -/
theorem exists_turn {g : Generator} {p : Pending} (hp : p ∈ g.accepted) :
    ∃ l r, ordered g.accepted = l ++ p :: r :=
  List.append_of_mem ((ordered_perm g.accepted).mem_iff.mpr hp)

/-- **The traits of grounded wrappers solve a system of equations.** -/
theorem table_settled {g : Generator} {p : Pending} (hp : p ∈ g.accepted)
    (hg : Grounded g.accepted p.target.name) :
    g.table p.target.name = traitsOf (g.fullTarget p)
      (p.specIn g.registry g.names (without p.target.name g.table)) := by
  obtain ⟨l, r, hturn⟩ := exists_turn hp
  rw [table_eq hturn, specification_settled hturn hg]

theorem mem_accepted_of_turn {g : Generator} {l r : List Pending} {p : Pending}
    (h : ordered g.accepted = l ++ p :: r) : p ∈ g.accepted :=
  (ordered_perm g.accepted).mem_iff.mp (h ▸ by simp)

theorem events_eq (g : Generator) : g.events =
    (screen g.pending).1.map .reject ++ g.work g.names [] (ordered g.accepted) := rfl

theorem check_ne_malformed (t : Target) (m : Malformed) : t.check ≠ some (.malformed m) := by
  unfold Target.check
  split
  · simp
  · split
    · simp
    · split <;> simp

/-- Screening never blames the arguments. -/
theorem ne_malformed_of_mem_screenFrom {x : Rejected} {m : Malformed} :
    ∀ {ps : List Pending} {seen : List String},
      x ∈ (screenFrom seen ps).1 → x.2 ≠ .malformed m := by
  intro ps
  induction ps with
  | nil => intro seen h; cases h
  | cons q ps ih =>
    intro seen h
    rcases screen_cases q seen with ⟨r, hr⟩ | ⟨hq, hs⟩ | ⟨hq, hs⟩
    · rw [screenFrom_cons_of_check hr] at h
      rcases List.mem_cons.mp h with rfl | h
      · rintro rfl
        exact check_ne_malformed _ _ hr
      · exact ih h
    · rw [screenFrom_cons_of_seen hq hs] at h
      rcases List.mem_cons.mp h with rfl | h
      · exact Rejection.noConfusion
      · exact ih h
    · rw [screenFrom_cons_of_new hq hs] at h
      exact ih h

/-- A plan is made at the turn of a declaration that can be read. -/
theorem produce_mem_events {g : Generator} {plan : Plan} : .produce plan ∈ g.events ↔
    ∃ l p r s, ordered g.accepted = l ++ p :: r ∧
      g.specification g.names (g.knownAfter l) p = .ok s ∧ plan = g.planOf p s := by
  rw [events_eq, List.mem_append, mem_work]
  constructor
  · rintro (h | ⟨l, p, r, hsplit, h⟩)
    · simp at h
    · change _ ∈ happens (g.fullTarget p) (g.specification g.names (g.knownAfter l) p) at h
      cases hs : g.specification g.names (g.knownAfter l) p with
      | error m => simp [hs, happens] at h
      | ok s => exact ⟨l, p, r, s, hsplit, hs, by simpa [hs, happens, planOf] using h⟩
  · rintro ⟨l, p, r, s, hsplit, hs, rfl⟩
    refine Or.inr ⟨l, p, r, hsplit, ?_⟩
    change _ ∈ happens (g.fullTarget p) (g.specification g.names (g.knownAfter l) p)
    simp [hs, happens, planOf]

/-- Arguments are refused at the turn of a declaration that cannot be read. -/
theorem malformed_mem_events {g : Generator} {t : Target} {m : Malformed} :
    .reject (t, .malformed m) ∈ g.events ↔
      ∃ l p r, ordered g.accepted = l ++ p :: r ∧
        g.specification g.names (g.knownAfter l) p = .error m ∧ t = g.fullTarget p := by
  rw [events_eq, List.mem_append, mem_work]
  constructor
  · rintro (h | ⟨l, p, r, hsplit, h⟩)
    · -- screening has other reasons
      obtain ⟨x, hx, heq⟩ := List.mem_map.mp h
      cases heq
      exact absurd rfl (ne_malformed_of_mem_screenFrom hx)
    · change _ ∈ happens (g.fullTarget p) (g.specification g.names (g.knownAfter l) p) at h
      cases hs : g.specification g.names (g.knownAfter l) p with
      | error m' =>
        simp only [hs, happens, List.mem_cons, List.not_mem_nil, or_false, reduceCtorEq,
          false_or, Event.reject.injEq, Prod.mk.injEq, Rejection.malformed.injEq] at h
        obtain ⟨rfl, rfl⟩ := h
        exact ⟨l, p, r, hsplit, hs, rfl⟩
      | ok s => simp [hs, happens] at h
  · rintro ⟨l, p, r, hsplit, hs, rfl⟩
    refine Or.inr ⟨l, p, r, hsplit, ?_⟩
    change _ ∈ happens (g.fullTarget p) (g.specification g.names (g.knownAfter l) p)
    simp [hs, happens]

/-! ### Files -/

theorem artifactName_injective {a b : String} (h : artifactName a = artifactName b) : a = b := by
  unfold artifactName at h
  rw [← String.toList_inj, String.toList_append, String.toList_append, List.append_left_inj] at h
  exact String.toList_inj.mp h

/-- No wrapper has the file that all wrappers share. -/
theorem artifactName_ne_sharedName (a : String) : artifactName a ≠ sharedName := by
  intro h
  have hsuffix : "_implementation.rs".toList <:+ sharedName.toList := by
    rw [← h, artifactName, String.toList_append]
    exact List.suffix_append _ _
  exact absurd hsuffix (by decide)

/-- The files of the wrappers among some events. -/
def ownArtifacts (g : Generator) (es : List Event) : List Artifact :=
  es.filterMap fun
    | .produce p => some (g.artifact p)
    | _ => none

theorem artifacts_eq (g : Generator) (es : List Event) : g.artifacts es =
    (g.ownArtifacts es).mergeSort (fun a b => a.file ≤ b.file) ++ [g.sharedArtifact] := rfl

theorem mem_ownArtifacts {g : Generator} {es : List Event} {a : Artifact} :
    a ∈ g.ownArtifacts es ↔ ∃ plan, .produce plan ∈ es ∧ a = g.artifact plan := by
  rw [ownArtifacts, List.mem_filterMap]
  constructor
  · rintro ⟨e, he, h⟩
    cases e with
    | poll => cases h
    | reject r => cases h
    | produce plan =>
      cases h
      exact ⟨plan, he, rfl⟩
  · rintro ⟨plan, he, rfl⟩
    exact ⟨_, he, rfl⟩

/-- The files of a run are those of its plans and the shared one. -/
theorem mem_generate {g : Generator} {a : Artifact} : a ∈ g.generate.1 ↔
    (∃ plan, .produce plan ∈ g.events ∧ a = g.artifact plan) ∨ a = g.sharedArtifact := by
  rw [generate, artifacts_eq, List.mem_append, List.mem_mergeSort, mem_ownArtifacts,
    List.mem_singleton]

/-- A file of a wrapper comes from the turn of a declaration with its name. -/
theorem exists_turn_of_mem_generate {g : Generator} {a : Artifact} {w : String}
    (ha : a ∈ g.generate.1) (hfile : a.file = artifactName w) :
    ∃ l p r s, ordered g.accepted = l ++ p :: r ∧ p.target.name = w ∧
      g.specification g.names (g.knownAfter l) p = .ok s ∧ a = g.artifact (g.planOf p s) := by
  rcases mem_generate.mp ha with ⟨plan, hplan, rfl⟩ | rfl
  · obtain ⟨l, p, r, s, hturn, hs, rfl⟩ := produce_mem_events.mp hplan
    refine ⟨l, p, r, s, hturn, artifactName_injective ?_, hs, rfl⟩
    rw [← hfile, artifact, planOf_typeName]
  · exact absurd hfile.symm (artifactName_ne_sharedName w)

/-- Declarations at two turns with the same name are the same, at the same turn. -/
theorem turn_unique {g : Generator} {l l' r r' : List Pending} {p p' : Pending}
    (h : ordered g.accepted = l ++ p :: r) (h' : ordered g.accepted = l' ++ p' :: r')
    (hname : p.target.name = p'.target.name) : l = l' ∧ p = p' := by
  have hp : p = p' := eq_of_name_eq g.nodup_names (mem_accepted_of_turn h)
    (mem_accepted_of_turn h') hname
  subst hp
  have hl := (name_notMem_of_ordered h).1
  have hl' := (name_notMem_of_ordered h').1
  -- if one cut came later, the name would stand in front of it
  rw [h, List.append_eq_append_iff] at h'
  rcases h' with ⟨c, rfl, hc⟩ | ⟨c, rfl, hc⟩
  · cases c with
    | nil => exact ⟨by simp, rfl⟩
    | cons q c =>
      cases hc
      exact absurd (by simp [namesOf]) hl'
  · cases c with
    | nil => exact ⟨by simp, rfl⟩
    | cons q c =>
      cases hc
      exact absurd (by simp [namesOf]) hl

/-- Two plans of a run for types with the same name are the same. -/
theorem plan_unique {g : Generator} {plan plan' : Plan} (h : .produce plan ∈ g.events)
    (h' : .produce plan' ∈ g.events) (hname : plan.typeName = plan'.typeName) : plan = plan' := by
  obtain ⟨l, p, r, s, hturn, hs, rfl⟩ := produce_mem_events.mp h
  obtain ⟨l', p', r', s', hturn', hs', rfl⟩ := produce_mem_events.mp h'
  rw [planOf_typeName, planOf_typeName] at hname
  obtain ⟨rfl, rfl⟩ := turn_unique hturn hturn' hname
  cases hs.symm.trans hs'
  rfl

/-- **The file of a wrapper is that of its own turn.** -/
theorem mem_generate_of_turn {g : Generator} {l r : List Pending} {p : Pending}
    (h : ordered g.accepted = l ++ p :: r) {a : Artifact} :
    a ∈ g.generate.1 ∧ a.file = artifactName p.target.name ↔
      ∃ s, g.specification g.names (g.knownAfter l) p = .ok s ∧ a = g.artifact (g.planOf p s) := by
  constructor
  · rintro ⟨ha, hfile⟩
    obtain ⟨l', p', r', s, h', hname, hs, rfl⟩ := exists_turn_of_mem_generate ha hfile
    obtain ⟨rfl, rfl⟩ := turn_unique h h' hname.symm
    exact ⟨s, hs, rfl⟩
  · rintro ⟨s, hs, rfl⟩
    refine ⟨mem_generate.mpr (Or.inl ⟨_, ?_, rfl⟩), ?_⟩
    · exact produce_mem_events.mpr ⟨l, p, r, s, h, hs, rfl⟩
    · exact congrArg artifactName (g.planOf_typeName p s)

/-- A declaration that can be read at its turn has one file, that of its plan. -/
theorem mem_generate_of_ok {g : Generator} {l r : List Pending} {p : Pending}
    (h : ordered g.accepted = l ++ p :: r) {s : Specification}
    (hs : g.specification g.names (g.knownAfter l) p = .ok s) {a : Artifact} :
    a ∈ g.generate.1 ∧ a.file = artifactName p.target.name ↔ a = g.artifact (g.planOf p s) := by
  rw [mem_generate_of_turn h]
  constructor
  · rintro ⟨s', hs', rfl⟩
    cases hs.symm.trans hs'
    rfl
  · rintro rfl
    exact ⟨s, hs, rfl⟩

/-- Two wrappers of a run have different files. -/
theorem eq_of_file_eq {g : Generator} {a b : Artifact} (ha : a ∈ g.ownArtifacts g.events)
    (hb : b ∈ g.ownArtifacts g.events) (h : a.file = b.file) : a = b := by
  obtain ⟨plan, hplan, rfl⟩ := mem_ownArtifacts.mp ha
  obtain ⟨plan', hplan', rfl⟩ := mem_ownArtifacts.mp hb
  rw [plan_unique hplan hplan' (artifactName_injective h)]

theorem sorted_mergeSort (as : List Artifact) :
    (as.mergeSort fun a b => a.file ≤ b.file).Pairwise fun a b => a.file ≤ b.file := by
  have hsorted : (as.mergeSort fun a b => a.file ≤ b.file).Pairwise
      fun a b => decide (a.file ≤ b.file) = true := by
    refine List.pairwise_mergeSort ?_ ?_ as
    · intro a b c hab hbc
      rw [decide_eq_true_iff] at hab hbc ⊢
      exact String.le_trans hab hbc
    · intro a b
      rw [Bool.or_eq_true, decide_eq_true_iff, decide_eq_true_iff]
      exact String.le_total a.file b.file
  exact hsorted.imp of_decide_eq_true

end Generator
end Newtype
