import Newtype.Batch.Run
import Newtype.Proofs.Arguments
import Newtype.Proofs.Order

/-!
# The wrappers of a batch and what they use

Screening leaves a list of declarations with different names, so a wrapper can be
spoken of by its name.  A wrapper uses another one if a type among its arguments leads
to it.  The order in which the batch is worked off is a rearrangement of the accepted
declarations, and a wrapper from which no cycle can be reached comes after all those it
uses.

* `of_mem_screenFrom`, `nodup_names_screenFrom` — the accepted declarations.
* `Pending.types`, `Uses`, `Acyclic`, `Grounded` — the graph of the wrappers.
* `mem_dependencies_iff` — the edges computed for the order are those of the graph.
* `ordered_perm`, `ordered_before` — **the order of a batch.**
-/

namespace Newtype

/-! ### Screening -/

/-- A declaration whose struct is in order. -/
def Pending.passes (p : Pending) : Bool := p.target.check.isNone

theorem screenFrom_cons_of_check {p : Pending} {r : Rejection} (h : p.target.check = some r)
    (seen : List String) (ps : List Pending) : screenFrom seen (p :: ps) =
      ((p.target, r) :: (screenFrom seen ps).1, (screenFrom seen ps).2) := by
  rw [screenFrom, h]

theorem screenFrom_cons_of_seen {p : Pending} {seen : List String} (h : p.passes = true)
    (hs : p.target.name ∈ seen) (ps : List Pending) : screenFrom seen (p :: ps) =
      ((p.target, .duplicate) :: (screenFrom seen ps).1, (screenFrom seen ps).2) := by
  rw [Pending.passes, Option.isNone_iff_eq_none] at h
  rw [screenFrom, h]
  exact if_pos (by simpa using hs)

theorem screenFrom_cons_of_new {p : Pending} {seen : List String} (h : p.passes = true)
    (hs : p.target.name ∉ seen) (ps : List Pending) : screenFrom seen (p :: ps) =
      ((screenFrom (p.target.name :: seen) ps).1,
        p :: (screenFrom (p.target.name :: seen) ps).2) := by
  rw [Pending.passes, Option.isNone_iff_eq_none] at h
  rw [screenFrom, h]
  exact if_neg (by simpa using hs)

/-- The three things that can happen to a declaration. -/
theorem screen_cases (p : Pending) (seen : List String) :
    (∃ r, p.target.check = some r) ∨ (p.passes = true ∧ p.target.name ∈ seen) ∨
      (p.passes = true ∧ p.target.name ∉ seen) := by
  cases h : p.target.check with
  | some r => exact Or.inl ⟨r, rfl⟩
  | none =>
    have hp : p.passes = true := by simp [Pending.passes, h]
    by_cases hs : p.target.name ∈ seen
    · exact Or.inr (Or.inl ⟨hp, hs⟩)
    · exact Or.inr (Or.inr ⟨hp, hs⟩)

/-- Accepted declarations are in order, and their names are new. -/
theorem of_mem_screenFrom {p : Pending} : ∀ {ps : List Pending} {seen : List String},
    p ∈ (screenFrom seen ps).2 → p ∈ ps ∧ p.passes = true ∧ p.target.name ∉ seen := by
  intro ps
  induction ps with
  | nil => intro seen h; cases h
  | cons q ps ih =>
    intro seen h
    rcases screen_cases q seen with ⟨r, hr⟩ | ⟨hq, hs⟩ | ⟨hq, hs⟩
    · rw [screenFrom_cons_of_check hr] at h
      obtain ⟨h1, h2, h3⟩ := ih h
      exact ⟨List.mem_cons_of_mem _ h1, h2, h3⟩
    · rw [screenFrom_cons_of_seen hq hs] at h
      obtain ⟨h1, h2, h3⟩ := ih h
      exact ⟨List.mem_cons_of_mem _ h1, h2, h3⟩
    · rw [screenFrom_cons_of_new hq hs] at h
      rcases List.mem_cons.mp h with rfl | h
      · exact ⟨List.mem_cons_self, hq, hs⟩
      · obtain ⟨h1, h2, h3⟩ := ih h
        exact ⟨List.mem_cons_of_mem _ h1, h2, fun hs => h3 (List.mem_cons_of_mem _ hs)⟩

/-- The names of the accepted declarations are different. -/
theorem nodup_names_screenFrom : ∀ (ps : List Pending) (seen : List String),
    (namesOf (screenFrom seen ps).2).Nodup := by
  intro ps
  induction ps with
  | nil => intro seen; exact List.nodup_nil
  | cons q ps ih =>
    intro seen
    rcases screen_cases q seen with ⟨r, hr⟩ | ⟨hq, hs⟩ | ⟨hq, hs⟩
    · rw [screenFrom_cons_of_check hr]
      exact ih seen
    · rw [screenFrom_cons_of_seen hq hs]
      exact ih seen
    · rw [screenFrom_cons_of_new hq hs]
      simp only [namesOf, List.map_cons, List.nodup_cons]
      refine ⟨?_, ih _⟩
      intro hmem
      obtain ⟨p, hp, hname⟩ := List.mem_map.mp hmem
      exact (of_mem_screenFrom hp).2.2 (hname ▸ List.mem_cons_self)

/-- The name of a declaration that is in order is accepted for some declaration. -/
theorem exists_mem_screenFrom {p : Pending} (hp : p.passes = true) :
    ∀ {ps : List Pending} {seen : List String}, p ∈ ps → p.target.name ∉ seen →
      ∃ q ∈ (screenFrom seen ps).2, q.target.name = p.target.name := by
  intro ps
  induction ps with
  | nil => intro seen h; cases h
  | cons q ps ih =>
    intro seen h hseen
    rcases screen_cases q seen with ⟨r, hr⟩ | ⟨hq, hs⟩ | ⟨hq, hs⟩
    · rw [screenFrom_cons_of_check hr]
      rcases List.mem_cons.mp h with rfl | h
      · simp [Pending.passes, hr] at hp
      · exact ih h hseen
    · rw [screenFrom_cons_of_seen hq hs]
      rcases List.mem_cons.mp h with rfl | h
      · exact absurd hs hseen
      · exact ih h hseen
    · rw [screenFrom_cons_of_new hq hs]
      -- whoever takes up the name first has it
      by_cases hname : q.target.name = p.target.name
      · exact ⟨q, List.mem_cons_self, hname⟩
      · rcases List.mem_cons.mp h with rfl | h
        · exact absurd rfl hname
        · have hnew : p.target.name ∉ q.target.name :: seen := by
            rw [List.mem_cons, not_or]
            exact ⟨fun e => hname e.symm, hseen⟩
          obtain ⟨q', hq', hn⟩ := ih h hnew
          exact ⟨q', List.mem_cons_of_mem _ hq', hn⟩

namespace Generator

/-- The declarations of a generator that are accepted. -/
def accepted (g : Generator) : List Pending := (screen g.pending).2

/-- The names of the wrappers of a batch. -/
def names (g : Generator) : List String := namesOf g.accepted

theorem nodup_names (g : Generator) : g.names.Nodup := nodup_names_screenFrom g.pending []

end Generator

/-- Declarations with different names are given by their names. -/
theorem eq_of_name_eq {ps : List Pending} (hn : (namesOf ps).Nodup) {p q : Pending}
    (hp : p ∈ ps) (hq : q ∈ ps) (h : p.target.name = q.target.name) : p = q :=
  List.inj_on_of_nodup_map hn hp hq h

/-! ### The graph -/

/-- The types among some argument forms. -/
def typesAmong (fs : List ArgumentForm) : List TypeExpr :=
  fs.filterMap fun
    | .type t => some t
    | _ => none

theorem mem_typesAmong {fs : List ArgumentForm} {t : TypeExpr} :
    t ∈ typesAmong fs ↔ .type t ∈ fs := by
  rw [typesAmong, List.mem_filterMap]
  constructor
  · rintro ⟨f, hf, h⟩
    cases f with
    | type u => cases h; exact hf
    | name n => cases h
    | option n v p => cases h
  · intro h
    exact ⟨_, h, rfl⟩

/-- The types among the arguments of a declaration. -/
def Pending.types : Pending → List TypeExpr
  | .source _ d =>
    match d.arguments with
    | .ok args => typesAmong (formsOf args)
    | .error _ => []
  | .resolved _ _ => []

/-- The wrapper `a` uses the wrapper `b`: a type among the arguments of `a` leads to
`b`, which is another one. -/
def Uses (ps : List Pending) (a b : String) : Prop :=
  ∃ p ∈ ps, p.target.name = a ∧ b ≠ a ∧
    ∃ t ∈ p.types, batchWrapper? p.scope (namesOf ps) t = some b

/-- There is no cycle. -/
def Acyclic (ps : List Pending) : Prop := ∀ a, ¬Relation.TransGen (Uses ps) a a

/-- No cycle can be reached from a wrapper. -/
def Grounded (ps : List Pending) (a : String) : Prop :=
  ∀ b, Relation.ReflTransGen (Uses ps) a b → ¬Relation.TransGen (Uses ps) b b

theorem Acyclic.grounded {ps : List Pending} (h : Acyclic ps) (a : String) : Grounded ps a :=
  fun b _ => h b

/-- A wrapper of the batch has one of its names. -/
theorem mem_of_batchWrapper?_eq_some {scope : Scope} {names : List String} {t : TypeExpr}
    {w : String} (h : batchWrapper? scope names t = some w) : w ∈ names := by
  unfold batchWrapper? at h
  obtain ⟨segments, -, h⟩ := Option.bind_eq_some_iff.mp h
  obtain ⟨last, -, h⟩ := Option.bind_eq_some_iff.mp h
  split at h
  · next hc =>
    cases h
    rw [Bool.and_eq_true] at hc
    simpa using hc.2
  · cases h

/-- Only which names there are counts, not their order. -/
theorem batchWrapper?_congr {names₁ names₂ : List String} (h : ∀ w, w ∈ names₁ ↔ w ∈ names₂)
    (scope : Scope) (t : TypeExpr) :
    batchWrapper? scope names₁ t = batchWrapper? scope names₂ t := by
  have hc : ∀ w, names₁.contains w = names₂.contains w := by
    intro w
    rw [Bool.eq_iff_iff, List.contains_iff_mem, List.contains_iff_mem]
    exact h w
  simp only [batchWrapper?, hc]

theorem Uses.mem_right {ps : List Pending} {a b : String} (h : Uses ps a b) :
    b ∈ namesOf ps := by
  obtain ⟨p, _, _, _, t, _, ht⟩ := h
  exact mem_of_batchWrapper?_eq_some ht

/-- Descent along the uses ends if it leads into no cycle. -/
theorem Grounded.acc {ps : List Pending} {a : String} (h : Grounded ps a) :
    Acc (flip (Uses ps)) a := by
  refine Order.acc_of_acyclic (s := {b | b ∈ a :: namesOf ps}) (List.finite_toSet _) ?_ h
  intro b hb
  rcases Relation.ReflTransGen.cases_tail hb with rfl | ⟨c, -, hc⟩
  · exact List.mem_cons_self
  · exact List.mem_cons_of_mem _ hc.mem_right

/-! ### The edges of the order -/

theorem mem_needs_iff {names : List String} {p : Pending} {w : String} :
    w ∈ p.needs names ↔
      w ≠ p.target.name ∧ ∃ t ∈ p.types, batchWrapper? p.scope names t = some w := by
  cases p with
  | resolved t s => simp [Pending.needs, Pending.types]
  | source i d =>
    cases hd : d.arguments with
    | error m => simp [Pending.needs, Pending.types, hd]
    | ok args =>
      simp only [Pending.needs, Pending.types, Pending.target, Pending.scope, hd,
        argumentWrappers, List.mem_filter, List.mem_filterMap, bne_iff_ne, mem_typesAmong,
        formsOf, List.mem_map]
      constructor
      · rintro ⟨⟨a, ha, hw⟩, hne⟩
        refine ⟨hne, ?_⟩
        cases hf : a.form with
        | type t => exact ⟨t, ⟨a, ha, hf⟩, by simpa [hf] using hw⟩
        | name n => simp [hf] at hw
        | option n v p => simp [hf] at hw
      · rintro ⟨hne, t, ⟨a, ha, hf⟩, hw⟩
        exact ⟨⟨a, ha, by simpa [hf] using hw⟩, hne⟩

/-- A rank that falls along the edges leaves no room for a cycle. -/
theorem acyclic_of_rank {ps : List Pending} (rank : String → Nat)
    (h : ∀ p ∈ ps, ∀ b ∈ p.needs (namesOf ps), rank b < rank p.target.name) : Acyclic ps := by
  have hstep : ∀ a b, Uses ps a b → rank b < rank a := by
    rintro a b ⟨p, hp, rfl, hne, ht⟩
    exact h p hp b (mem_needs_iff.mpr ⟨hne, ht⟩)
  have hpath : ∀ a b, Relation.TransGen (Uses ps) a b → rank b < rank a := by
    intro a b hab
    induction hab with
    | single hu => exact hstep _ _ hu
    | tail _ hu ih => exact Nat.lt_trans (hstep _ _ hu) ih
  intro a hcycle
  exact Nat.lt_irrefl _ (hpath a a hcycle)

theorem uses_iff_needs {ps : List Pending} (hn : (namesOf ps).Nodup) {p : Pending} (hp : p ∈ ps)
    {b : String} : Uses ps p.target.name b ↔ b ∈ p.needs (namesOf ps) := by
  rw [mem_needs_iff]
  constructor
  · rintro ⟨q, hq, hname, hne, ht⟩
    cases eq_of_name_eq hn hq hp hname
    exact ⟨hne, ht⟩
  · rintro ⟨hne, ht⟩
    exact ⟨p, hp, rfl, hne, ht⟩

theorem idxOf?_eq_some_of_nodup {names : List String} (hn : names.Nodup) {w : String} {j : Nat} :
    names.idxOf? w = some j ↔ names[j]? = some w := by
  rw [List.idxOf?_eq_some_iff, List.getElem?_eq_some_iff]
  constructor
  · rintro ⟨hj, hw, -⟩
    exact ⟨hj, hw⟩
  · rintro ⟨hj, hw⟩
    refine ⟨hj, hw, ?_⟩
    intro k hk heq
    have := hn.getElem_inj_iff.mp (heq.trans hw.symm)
    omega

/-- **The edges computed for the order are those of the graph.** -/
theorem mem_dependencies_iff {ps : List Pending} (hn : (namesOf ps).Nodup) {p : Pending} {i j : Nat}
    (hi : ps[i]? = some p) :
    j ∈ dependencies ps i ↔ ∃ q, ps[j]? = some q ∧ Uses ps p.target.name q.target.name := by
  have hp : p ∈ ps := List.mem_of_getElem? hi
  simp only [dependencies, hi, List.mem_filterMap, idxOf?_eq_some_of_nodup hn]
  constructor
  · rintro ⟨w, hw, hj⟩
    rw [namesOf, List.getElem?_map, Option.map_eq_some_iff] at hj
    obtain ⟨q, hq, rfl⟩ := hj
    exact ⟨q, hq, (uses_iff_needs hn hp).mpr hw⟩
  · rintro ⟨q, hq, hu⟩
    refine ⟨q.target.name, (uses_iff_needs hn hp).mp hu, ?_⟩
    rw [namesOf, List.getElem?_map, hq, Option.map_some]

/-- An entry from which no cycle can be reached is settled.  The induction descends
along the uses. -/
theorem mem_settled_of_grounded {ps : List Pending} (hn : (namesOf ps).Nodup) {p : Pending}
    {i : Nat} (hi : ps[i]? = some p) (hg : Grounded ps p.target.name) :
    i ∈ Order.settled (dependencies ps) ps.length := by
  -- places are not names, so the induction carries the place of the name along
  have key : ∀ a, Acc (flip (Uses ps)) a → ∀ (p : Pending) (i : Nat), ps[i]? = some p →
      p.target.name = a → i ∈ Order.settled (dependencies ps) ps.length := by
    intro a hacc
    induction hacc with
    | intro a _ ih =>
      rintro p i hi rfl
      obtain ⟨hlt, -⟩ := List.getElem?_eq_some_iff.mp hi
      refine Order.mem_settled_of_deps hlt fun j hj => ?_
      obtain ⟨q, hq, hu⟩ := (mem_dependencies_iff hn hi).mp hj
      exact ih q.target.name hu q j hq rfl
  exact key p.target.name hg.acc p i hi rfl

/-! ### The order of a batch -/

/-- Looking up every place of a list gives the list. -/
theorem filterMap_getElem?_range {α : Type} (xs : List α) :
    (List.range xs.length).filterMap (xs[·]?) = xs := by
  induction xs with
  | nil => rfl
  | cons x xs ih =>
    rw [List.length_cons, List.range_succ_eq_map, List.filterMap_cons, List.filterMap_map]
    simpa using ih

/-- The order is a rearrangement of the declarations. -/
theorem ordered_perm (ps : List Pending) : (Generator.ordered ps).Perm ps := by
  have h : (Generator.ordered ps).Perm ((List.range ps.length).filterMap (ps[·]?)) :=
    Order.dependencyOrder_perm.filterMap _
  rwa [filterMap_getElem?_range] at h

/-- **A wrapper from which no cycle can be reached comes after all it uses.** -/
theorem ordered_before {ps l r : List Pending} (hn : (namesOf ps).Nodup) {p : Pending}
    (h : Generator.ordered ps = l ++ p :: r) (hg : Grounded ps p.target.name) {b : String}
    (hu : Uses ps p.target.name b) : ∃ q ∈ l, q.target.name = b := by
  unfold Generator.ordered at h
  obtain ⟨is, js, hord, hl, hr⟩ := List.filterMap_eq_append_iff.mp h
  obtain ⟨ks, i, ms, rfl, hks, hi, -⟩ := List.filterMap_eq_cons_iff.mp hr
  have hsettled := mem_settled_of_grounded hn hi hg
  rw [← List.append_assoc] at hord
  have hbefore := Order.dependencyOrder_before hsettled hord
  -- the place of the wrapper that is used
  obtain ⟨q, hq, rfl⟩ := List.mem_map.mp hu.mem_right
  obtain ⟨j, hj⟩ := List.mem_iff_getElem?.mp hq
  have hdep := (mem_dependencies_iff hn hi).mpr ⟨q, hj, hu⟩
  rcases List.mem_append.mp (hbefore j hdep) with hmem | hmem
  · exact ⟨q, hl ▸ List.mem_filterMap.mpr ⟨j, hmem, hj⟩, rfl⟩
  · rw [hks j hmem] at hj
    cases hj

end Newtype
