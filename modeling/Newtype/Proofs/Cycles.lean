import Newtype.Proofs.Countdown
import Newtype.Proofs.Locality

/-!
# Wrappers on a cycle

Wrappers that hold each other cannot all come after those they use.  They are left over
when everything else has had its turn, and then follow in the order in which they were
declared.  Each of them is still read with what is known at its turn.  So the first finds
nothing about the others, but a later one finds the traits of those before it: whether a
wrapper sees another one of its cycle as unresolved depends on which was declared first.

* `OnCommonCycle`, `DeclaredBefore` — cycles, and the order of declaration.
* `mem_front_iff_of_cycle` — **wrappers on cycles have their turns as they were declared.**
* `Generator.CycleField` — a field that holds a wrapper of the same cycle.
* `CycleField.kind_of_later`, `CycleField.kind_of_earlier` — what such a field is taken for.
* `cyclesUnresolved_iff` — **when the wrappers of all cycles see each other as unresolved.**
* `not_cyclesUnresolved_pair` — a pair of which the second does not.
-/

namespace Newtype

/-! ### The entries that are left over -/

namespace Order

variable {deps : Nat → List Nat} {n : Nat}

/-- Entries that are left over stand in ascending order. -/
theorem mem_front_iff_lt {l r : List Nat} {i j : Nat} (hi : i ∉ settled deps n)
    (hj : j ∉ settled deps n) (hjn : j < n) (h : dependencyOrder deps n = l ++ i :: r) :
    j ∈ l ↔ j < i := by
  let rest := (List.range n).filter (!(settled deps n).contains ·)
  have hasc : rest.Pairwise (· < ·) := List.pairwise_lt_range.filter _
  have hjrest : j ∈ rest := by simp [rest, hjn, hj]
  -- the cut before `i` lies behind the settled part
  obtain ⟨c, rfl, hrest⟩ : ∃ c, l = settled deps n ++ c ∧ rest = c ++ i :: r := by
    rw [dependencyOrder_eq, List.append_eq_append_iff] at h
    rcases h with ⟨c, hl, hrest⟩ | ⟨c, hs, hc⟩
    · exact ⟨c, hl, hrest⟩
    · cases c with
      | nil => exact ⟨[], by simpa using hs.symm, hc.symm⟩
      | cons k c =>
        cases hc
        exact absurd (hs ▸ by simp) hi
  rw [hrest] at hasc hjrest
  obtain ⟨-, htail, hcross⟩ := List.pairwise_append.mp hasc
  rw [List.mem_append, or_iff_right hj]
  constructor
  · intro hjc
    exact hcross j hjc i List.mem_cons_self
  · intro hlt
    rcases List.mem_append.mp hjrest with hjc | hjr
    · exact hjc
    · rcases List.mem_cons.mp hjr with rfl | hjr
      · exact absurd hlt (Nat.lt_irrefl j)
      · exact absurd hlt (Nat.lt_asymm ((List.pairwise_cons.mp htail).1 j hjr))

end Order

/-! ### Cycles of wrappers -/

/-- Two wrappers are on a common cycle: each of them leads to the other. -/
def OnCommonCycle (ps : List Pending) (a b : String) : Prop :=
  Relation.TransGen (Uses ps) a b ∧ Relation.TransGen (Uses ps) b a

/-- The declaration `q` stands before the declaration `p`. -/
def DeclaredBefore (ps : List Pending) (q p : Pending) : Prop :=
  ∃ j i : Nat, ps[j]? = some q ∧ ps[i]? = some p ∧ j < i

theorem OnCommonCycle.self_left {ps : List Pending} {a b : String} (h : OnCommonCycle ps a b) :
    Relation.TransGen (Uses ps) a a := h.1.trans h.2

theorem OnCommonCycle.self_right {ps : List Pending} {a b : String} (h : OnCommonCycle ps a b) :
    Relation.TransGen (Uses ps) b b := h.2.trans h.1

/-- Of two declarations one stands before the other. -/
theorem declaredBefore_or {ps : List Pending} {p q : Pending} (hp : p ∈ ps) (hq : q ∈ ps)
    (hne : q ≠ p) : DeclaredBefore ps q p ∨ DeclaredBefore ps p q := by
  obtain ⟨i, hi⟩ := List.mem_iff_getElem?.mp hp
  obtain ⟨j, hj⟩ := List.mem_iff_getElem?.mp hq
  rcases Nat.lt_trichotomy j i with hlt | rfl | hlt
  · exact Or.inl ⟨j, i, hj, hi, hlt⟩
  · exact absurd (Option.some.inj (hj.symm.trans hi)) hne
  · exact Or.inr ⟨i, j, hi, hj, hlt⟩

section Places

variable {ps : List Pending} (hn : (namesOf ps).Nodup)

include hn

/-- A way through the wrappers is a way through their places. -/
theorem exists_place_of_transGen {a b : String} (h : Relation.TransGen (Uses ps) a b) {p : Pending}
    {i : Nat} (hi : ps[i]? = some p) (hp : p.target.name = a) :
    ∃ (q : Pending) (j : Nat), ps[j]? = some q ∧ q.target.name = b ∧
      Relation.TransGen (fun i d => d ∈ dependencies ps i) i j := by
  have hplace : ∀ {c : String}, c ∈ namesOf ps →
      ∃ (q : Pending) (j : Nat), ps[j]? = some q ∧ q.target.name = c := by
    intro c hc
    obtain ⟨q, hq, rfl⟩ := List.mem_map.mp hc
    obtain ⟨j, hj⟩ := List.mem_iff_getElem?.mp hq
    exact ⟨q, j, hj, rfl⟩
  subst hp
  induction h with
  | single hu =>
    obtain ⟨q, j, hj, rfl⟩ := hplace hu.mem_right
    exact ⟨q, j, hj, rfl, .single ((mem_dependencies_iff hn hi).mpr ⟨q, hj, hu⟩)⟩
  | tail _ hu ih =>
    obtain ⟨q, j, hj, rfl, hpath⟩ := ih
    obtain ⟨q', k, hk, rfl⟩ := hplace hu.mem_right
    exact ⟨q', k, hk, rfl, hpath.tail ((mem_dependencies_iff hn hj).mpr ⟨q', hk, hu⟩)⟩

/-- A wrapper on a cycle is left over. -/
theorem notMem_settled_of_cycle {p : Pending} {i : Nat} (hi : ps[i]? = some p)
    (h : Relation.TransGen (Uses ps) p.target.name p.target.name) :
    i ∉ Order.settled (dependencies ps) ps.length := by
  intro hsettled
  obtain ⟨q, j, hj, hname, hpath⟩ := exists_place_of_transGen hn h hi rfl
  cases place_unique hn hj hi hname
  exact Order.sound_settled.cycleFree hsettled i .refl hpath

/-- **Wrappers on cycles have their turns in the order in which they were declared.** -/
theorem mem_front_iff_of_cycle {l r : List Pending} {p q : Pending}
    (h : Generator.ordered ps = l ++ p :: r)
    (hp : Relation.TransGen (Uses ps) p.target.name p.target.name) (hq : q ∈ ps)
    (hqc : Relation.TransGen (Uses ps) q.target.name q.target.name) :
    q ∈ l ↔ DeclaredBefore ps q p := by
  obtain ⟨is, js, hord, hl, hr⟩ := List.filterMap_eq_append_iff.mp h
  obtain ⟨ks, i, ms, rfl, hks, hi, -⟩ := List.filterMap_eq_cons_iff.mp hr
  obtain ⟨j, hj⟩ := List.mem_iff_getElem?.mp hq
  rw [← List.append_assoc] at hord
  have hlt := Order.mem_front_iff_lt (notMem_settled_of_cycle hn hi hp)
    (notMem_settled_of_cycle hn hj hqc) (List.getElem?_eq_some_iff.mp hj).1 hord
  -- places of no declaration do not count
  have hjk : j ∉ ks := fun hmem => by cases (hks j hmem).symm.trans hj
  rw [List.mem_append, or_iff_left hjk] at hlt
  constructor
  · intro hql
    obtain ⟨k, hk, hkq⟩ := List.mem_filterMap.mp (hl ▸ hql)
    cases place_unique hn hkq hj rfl
    exact ⟨j, i, hj, hi, hlt.mp hk⟩
  · rintro ⟨j', i', hj', hi', hlt'⟩
    cases place_unique hn hj' hj rfl
    cases place_unique hn hi' hi rfl
    exact hl ▸ List.mem_filterMap.mpr ⟨j, hlt.mpr hlt', hj⟩

theorem not_declaredBefore_of {p q : Pending} (h : DeclaredBefore ps p q) :
    ¬DeclaredBefore ps q p := by
  obtain ⟨i, j, hi, hj, hlt⟩ := h
  rintro ⟨j', i', hj', hi', hlt'⟩
  cases place_unique hn hi' hi rfl
  cases place_unique hn hj' hj rfl
  exact Nat.lt_asymm hlt hlt'

end Places

/-! ### Fields that hold wrappers of the same cycle -/

/-- A type that is spelled like a primitive type is one. -/
theorem kindIn_of_primitive {registry : Registry} {scope : Scope} {names : List String}
    {table : String → Option TraitSet} {t : TypeExpr} {p : Primitive}
    (h : t.primitive? = some p) : kindIn registry scope names table t = .primitive p := by
  unfold kindIn
  cases hs : t.segments? with
  | none => simp [TypeExpr.primitive?, TypeExpr.path?, hs] at h
  | some segments =>
    have hp : Primitive.ofName? (Path.join segments) = some p := by
      simpa [TypeExpr.primitive?, TypeExpr.path?, hs] using h
    simp only [hp]

/-- If there are types among the arguments, all fields come from them. -/
theorem type_mem_types {registry : Registry} {names : List String} {τ : String → Option TraitSet}
    {w : Pending} {s : Specification} (h : w.specIn registry names τ = .ok s) (hne : w.types ≠ [])
    {f : Field} (hf : f ∈ s.fields) : f.type ∈ w.types := by
  cases w with
  | resolved t s' => exact absurd rfl hne
  | source i d =>
    simp only [Pending.specIn] at h
    obtain ⟨args, hargs, hof⟩ := bind_eq_ok_iff.mp h
    obtain ⟨-, rfl⟩ := Specification.ofArguments_eq_ok_iff.mp hof
    simp only [Pending.types, hargs, ← namedTypes_map_snd _ none] at hne ⊢
    simp only [Specification.ofForms, fieldsFor] at hf
    split at hf
    · next hempty => exact absurd (by rw [List.isEmpty_iff.mp hempty]; rfl) hne
    · obtain ⟨x, hx, rfl⟩ := List.mem_map.mp hf
      exact List.mem_map_of_mem hx

namespace Generator

/-- The traits that are known about a wrapper at the end follow from how it is read. -/
theorem table_eq_traitsOf_reading {g : Generator} {v : Pending} (hv : v ∈ g.accepted) :
    g.table v.target.name = traitsOf (g.fullTarget v) (g.reading v) := by
  obtain ⟨l, r, hturn⟩ := exists_turn hv
  rw [table_eq hturn, reading_of_turn hturn]

/-- The wrapper `w` has the field `f` at its turn, and the type of `f` leads to another
wrapper `v` on a common cycle. -/
structure CycleField (g : Generator) (w v : Pending) (f : Field) : Prop where
  holder : w ∈ g.accepted
  held : v ∈ g.accepted
  other : v ≠ w
  cycle : OnCommonCycle g.accepted w.target.name v.target.name
  field : ∃ s, g.reading w = .ok s ∧ f ∈ s.fields
  leads : batchWrapper? w.scope g.names f.type = some v.target.name

namespace CycleField

variable {g : Generator} {w v : Pending} {f : Field}

/-- The field has the kind that the batch gives its type at the turn of its wrapper. -/
theorem kind_eq (h : g.CycleField w v f) {l r : List Pending}
    (hturn : ordered g.accepted = l ++ w :: r) :
    f.kind = kindIn g.registry w.scope g.names ((g.knownAfter l).lookup ·) f.type := by
  obtain ⟨s, hs, hf⟩ := h.field
  rw [reading_of_turn hturn, specification_eq_specIn] at hs
  -- a wrapper on a cycle has types among its arguments
  have htypes : w.types ≠ [] := by
    obtain ⟨b, ⟨p, hp, hname, -, t, ht, -⟩, -⟩ := Relation.TransGen.head'_iff.mp h.cycle.1
    cases eq_of_name_eq g.nodup_names hp h.holder hname
    exact List.ne_nil_of_mem ht
  exact kind_eq_kindIn hs hf (type_mem_types hs htypes hf)

theorem kind_of_primitive (h : g.CycleField w v f) {p : Primitive}
    (hp : f.type.primitive? = some p) : f.kind = .primitive p := by
  obtain ⟨l, r, hturn⟩ := exists_turn h.holder
  rw [h.kind_eq hturn, kindIn_of_primitive hp]

/-- The other wrapper has had its turn exactly if it was declared earlier. -/
theorem mem_front_iff (h : g.CycleField w v f) {l r : List Pending}
    (hturn : ordered g.accepted = l ++ w :: r) : v ∈ l ↔ DeclaredBefore g.accepted v w :=
  mem_front_iff_of_cycle g.nodup_names hturn h.cycle.self_left h.held h.cycle.self_right

/-- A wrapper that was declared later is not known yet. -/
theorem kind_of_later (h : g.CycleField w v f) (hprim : f.type.primitive? = none)
    (hlater : DeclaredBefore g.accepted w v) : f.kind = .named .assumed := by
  obtain ⟨l, r, hturn⟩ := exists_turn h.holder
  have hfront : v ∉ l := fun hmem =>
    not_declaredBefore_of g.nodup_names hlater ((h.mem_front_iff hturn).mp hmem)
  have hname : v.target.name ∉ namesOf l := by
    intro hmem
    obtain ⟨q, hq, heq⟩ := List.mem_map.mp hmem
    have hqa : q ∈ g.accepted := (ordered_perm g.accepted).mem_iff.mp (hturn ▸ by simp [hq])
    cases eq_of_name_eq g.nodup_names hqa h.held heq
    exact hfront hq
  have hunknown : (g.knownAfter l).lookup v.target.name = none := lookup_foldl_learn hname
  rw [h.kind_eq hturn, kindIn_of_wrapper hprim h.leads, hunknown]
  rfl

/-- A wrapper that was declared earlier is known by its own traits. -/
theorem kind_of_earlier (h : g.CycleField w v f) (hprim : f.type.primitive? = none)
    (hearlier : DeclaredBefore g.accepted v w) :
    f.kind = .named ((g.table v.target.name).getD .assumed) := by
  obtain ⟨l, r, hturn⟩ := exists_turn h.holder
  have hfront : v ∈ l := (h.mem_front_iff hturn).mpr hearlier
  rw [h.kind_eq hturn, kindIn_of_wrapper hprim h.leads, table_eq_of_mem hturn hfront]

end CycleField

/-- The wrappers of every cycle see each other as unresolved: a field that holds another
wrapper of its cycle is taken to have the assumed traits. -/
def CyclesUnresolved (g : Generator) : Prop :=
  ∀ w v f, g.CycleField w v f → f.kind = .named .assumed

/-- A field that holds an earlier wrapper of its cycle is unresolved exactly if the traits of
that wrapper are the assumed ones, or its arguments cannot be read. -/
theorem kind_eq_assumed_iff {g : Generator} {w v : Pending} {f : Field} (h : g.CycleField w v f)
    (hprim : f.type.primitive? = none) (hearlier : DeclaredBefore g.accepted v w) :
    f.kind = .named .assumed ↔
      ∀ s, g.reading v = .ok s → (g.planOf v s).traits (g.fullTarget v) = .assumed := by
  rw [h.kind_of_earlier hprim hearlier, table_eq_traitsOf_reading h.held]
  cases g.reading v with
  | error m => simp [traitsOf]
  | ok s => simp [traitsOf, planOf]

/-- **What the wrappers of a cycle see of each other.**  A field that holds another wrapper of
its cycle is a primitive if its type is spelled like one.  Otherwise it is unresolved if the
other wrapper was declared later, and has the traits of the other wrapper if that was declared
earlier.  So the wrappers of all cycles see each other as unresolved exactly if no such field is
spelled like a primitive, and every wrapper that a later one of its cycle holds is refused or
has the assumed traits of its own. -/
theorem cyclesUnresolved_iff (g : Generator) :
    (∀ w v f, g.CycleField w v f →
      (∀ p, f.type.primitive? = some p → f.kind = .primitive p) ∧
      (f.type.primitive? = none →
        (DeclaredBefore g.accepted w v → f.kind = .named .assumed) ∧
        (DeclaredBefore g.accepted v w → g.FollowsAt f v))) ∧
    (g.CyclesUnresolved ↔ ∀ w v f, g.CycleField w v f → f.type.primitive? = none ∧
      (DeclaredBefore g.accepted v w →
        ∀ s, g.reading v = .ok s → (g.planOf v s).traits (g.fullTarget v) = .assumed)) := by
  refine ⟨fun w v f h => ⟨fun p hp => h.kind_of_primitive hp, fun hprim =>
    ⟨h.kind_of_later hprim, fun hearlier => ?_⟩⟩, ?_, ?_⟩
  · exact followsAt_of_table h.held (h.kind_of_earlier hprim hearlier)
  · intro hall w v f h
    have hkind := hall w v f h
    have hprim : f.type.primitive? = none := by
      cases hp : f.type.primitive? with
      | none => rfl
      | some p => cases hkind.symm.trans (h.kind_of_primitive hp)
    exact ⟨hprim, fun hearlier => (kind_eq_assumed_iff h hprim hearlier).mp hkind⟩
  · intro hall w v f h
    obtain ⟨hprim, htraits⟩ := hall w v f h
    rcases declaredBefore_or h.holder h.held h.other with hearlier | hlater
    · exact (kind_eq_assumed_iff h hprim hearlier).mpr (htraits hearlier)
    · exact h.kind_of_later hprim hlater

/-! ### A pair of wrappers that hold each other -/

/-- A wrapper that can be copied and one that cannot, which hold each other. -/
def copiedPair : Generator where
  pending :=
    [.source 0
        ⟨{ name := "Ping", readOnly := true }, .ok [⟨.type (bare "Pong"), .start⟩], ⟨[], []⟩⟩,
      declared "Pong" [bare "Ping"] []]

/-- The second wrapper of the pair knows that the first one can be copied. -/
theorem not_cyclesUnresolved_pair : ¬copiedPair.CyclesUnresolved := by
  intro h
  have hping : Uses copiedPair.accepted "Ping" "Pong" :=
    ⟨_, List.mem_cons_self, rfl, by decide, bare "Pong", List.mem_cons_self, rfl⟩
  have hpong : Uses copiedPair.accepted "Pong" "Ping" :=
    ⟨_, List.mem_cons_of_mem _ List.mem_cons_self, rfl, by decide, bare "Ping", List.mem_cons_self,
      rfl⟩
  have hkind := h (declared "Pong" [bare "Ping"] []) _
    ⟨"Value", bare "Ping", .named { TraitSet.assumed with copy := true }⟩
    ⟨List.mem_cons_of_mem _ List.mem_cons_self, List.mem_cons_self,
      fun e => absurd (congrArg (·.target.name) e) (by decide),
      ⟨.single hpong, .single hping⟩, ⟨_, rfl, List.mem_cons_self⟩, rfl⟩
  exact absurd hkind (by decide)

end Generator
end Newtype
