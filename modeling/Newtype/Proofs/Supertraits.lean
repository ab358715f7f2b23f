import Newtype.Proofs.Construction
import Newtype.Proofs.Operators
import Newtype.Proofs.Traits

/-!
# Traits that rest on others

A total order rests on an order, on an equality and on a total equality, and the operators of a
totally ordered type call its total order.  The traits of a registered type need not be
consistent: it may be said to have a total order and no equality.  A plan looks at each flag on
its own, so for some policies it would hand such traits on.  It does not, since operators
are only for numbers, and the traits of numbers are known.

* `TraitSet.OrderRests` — a total order comes with what it rests on.
* `Plan.SupertraitsClosed` — so do the members of a plan.
* `supertraitsClosed_of`, `orderRests_traits` — **the members and the traits of a wrapper.**
* `Generator.learn_orderRests`, `Generator.foldl_learn_orderRests` — what one turn of a run
  keeps, and a whole run.
* `supertraits_closed` — **traits come with those they rest on.**
-/

namespace Newtype

/-- A total order comes with an order and an equality. -/
def TraitSet.OrderRests (s : TraitSet) : Prop := s.ord = true → s.partialOrd = true ∧ s.eq = true

/-- Floating point numbers have no total order, and the other numbers have all traits. -/
theorem Kind.IsNumber.orderRests {k : Kind} (h : k.IsNumber) : k.traits.OrderRests := by
  have hprimitive : ∀ p : Primitive, p.traits.OrderRests := by
    intro p
    unfold TraitSet.OrderRests
    cases p <;> decide
  cases h with
  | integer | float => exact hprimitive _
  | decimal => exact fun _ => ⟨rfl, rfl⟩

theorem SingleNumber.orderRests {fields : List Field} (h : SingleNumber fields) :
    (Storage.ofFields fields).traits.OrderRests := by
  obtain ⟨f, rfl, hnumber⟩ := h
  exact hnumber.orderRests

/-- A field whose type is said to have a total order, but no equality. -/
def rankField : Field :=
  ⟨"Rank", .named ⟨false, ["Rank"]⟩, .named { TraitSet.value with eq := false }⟩

/-! ### Members of a plan -/

namespace Plan

/-- The members of a plan come with those they rest on. -/
structure SupertraitsClosed (p : Plan) : Prop where
  totalOrder : .totalOrder ∈ p.members → .equality ∈ p.members ∧ .totalEquality ∈ p.members ∧
    .relationalOperators true ∈ p.members ∧ .compareTo true ∈ p.members
  total : .relationalOperators true ∈ p.members → .totalOrder ∈ p.members
  compareTo : ∀ total, .relationalOperators total ∈ p.members → .compareTo total ∈ p.members
  /-- The order of a totally ordered wrapper calls its total order, which is there. -/
  called : .relationalOperators true ∈ p.members →
    (∃ f ∈ p.functions, f.owner = "impl ::core::cmp::PartialOrd for " ++ p.typeName ∧
      f.body = [.line "::core::option::Option::Some(::core::cmp::Ord::cmp(self, other))"]) ∧
    ∃ f ∈ p.functions, f.owner = "impl ::core::cmp::Ord for " ++ p.typeName ∧
      f.head = "fn cmp(&self, other: &Self) -> ::core::cmp::Ordering"

variable {fields : List Field} {t : Target} {p : Policy}

theorem equality_mem : .equality ∈ (make fields t p).members := by
  simp [make, equalityMembers]

theorem totalOrder_mem_iff : .totalOrder ∈ (make fields t p).members ↔
    p.comparison = true ∧ (Storage.ofFields fields).traits.partialOrd = true ∧
      (Storage.ofFields fields).traits.ord = true := by
  simp [make, mem_when, equalityMembers, orderMembers, mathMembers, formatMembers, and_assoc]

/-- Whatever the policy, a total order and operators of a total order come together. -/
theorem totalOrder_mem_iff_total : .totalOrder ∈ (make fields t p).members ↔
    .relationalOperators true ∈ (make fields t p).members := by
  rw [totalOrder_mem_iff, relationalOperators_mem_iff, eq_comm (a := true)]

/-- Operators of a total order call the total order. -/
theorem exists_ordCall {plan : Plan} (h : .relationalOperators true ∈ plan.members) :
    ∃ f ∈ plan.functions, f.owner = "impl ::core::cmp::PartialOrd for " ++ plan.typeName ∧
      f.body = [.line "::core::option::Option::Some(::core::cmp::Ord::cmp(self, other))"] :=
  ⟨_, mem_functions h (List.mem_append_right _ List.mem_cons_self), rfl, rfl⟩

theorem exists_cmp {plan : Plan} (h : .totalOrder ∈ plan.members) :
    ∃ f ∈ plan.functions, f.owner = "impl ::core::cmp::Ord for " ++ plan.typeName ∧
      f.head = "fn cmp(&self, other: &Self) -> ::core::cmp::Ordering" :=
  ⟨_, mem_functions h (List.mem_append_right _ List.mem_cons_self), rfl, rfl⟩

variable {o : Options}

/-- **The members of a wrapper come with those they rest on.** -/
theorem supertraitsClosed_of : (of ⟨fields, o⟩ t).SupertraitsClosed where
  totalOrder := by
    intro h
    obtain ⟨hcomparison, hpartial, htotal⟩ := totalOrder_mem_iff.mp h
    -- only a single number has comparison, and its traits are consistent
    have heq := ((comparison_of_iff.mp hcomparison).1.orderRests htotal).2
    exact ⟨equality_mem, totalEquality_mem_iff.mpr heq, totalOrder_mem_iff_total.mp h,
      compareTo_mem_iff.mpr ⟨hpartial, htotal.symm⟩⟩
  total := totalOrder_mem_iff_total.mpr
  compareTo := by
    intro total h
    obtain ⟨-, hpartial, htotal⟩ := relationalOperators_mem_iff.mp h
    exact compareTo_mem_iff.mpr ⟨hpartial, htotal⟩
  called := fun h => ⟨exists_ordCall h, exists_cmp (totalOrder_mem_iff_total.mpr h)⟩

-- A policy that gave operators to any type would order wrappers without an equality.
example : ∃ p : Policy, p.comparison = true ∧
    .totalOrder ∈ (make [rankField] { name := "Entry" } p).members ∧
      .totalEquality ∉ (make [rankField] { name := "Entry" } p).members :=
  ⟨⟨true, .other, true, false, false, true⟩, rfl, by decide, by decide⟩

theorem ord_traits_iff {plan : Plan} :
    (plan.traits t).ord = true ↔ .totalOrder ∈ plan.members := List.contains_iff_mem

theorem eq_traits_iff {plan : Plan} :
    (plan.traits t).eq = true ↔ .totalEquality ∈ plan.members := List.contains_iff_mem

theorem partialOrd_traits_iff {plan : Plan} : (plan.traits t).partialOrd = true ↔
    ∃ total, .relationalOperators total ∈ plan.members := by
  rw [traits, List.any_eq_true]
  constructor
  · rintro ⟨m, hm, hrelational⟩
    cases m with
    | relationalOperators total => exact ⟨total, hm⟩
    | _ => cases hrelational
  · rintro ⟨total, hm⟩
    exact ⟨_, hm, rfl⟩

/-- **The traits of a wrapper come with those they rest on.** -/
theorem orderRests_traits : ((of ⟨fields, o⟩ t).traits t).OrderRests := by
  intro htotal
  obtain ⟨-, heq, hrelational, -⟩ := supertraitsClosed_of.totalOrder (ord_traits_iff.mp htotal)
  exact ⟨partialOrd_traits_iff.mpr ⟨true, hrelational⟩, eq_traits_iff.mpr heq⟩

end Plan

/-! ### Whole runs -/

namespace Generator

variable {g : Generator} {names : List String}

/-- One turn of a run hands on consistent traits only. -/
theorem learn_orderRests {known : List (String × TraitSet)} {p : Pending}
    (h : ∀ e ∈ known, e.2.OrderRests) : ∀ e ∈ g.learn names known p, e.2.OrderRests := by
  intro e he
  unfold learn at he
  cases hs : g.specification names known p with
  | error m =>
    rw [hs] at he
    exact h e he
  | ok s =>
    rw [hs] at he
    rcases List.mem_cons.mp he with rfl | he
    · exact Plan.orderRests_traits
    · exact h e he

/-- So does a whole run. -/
theorem foldl_learn_orderRests : ∀ (ps : List Pending) {known : List (String × TraitSet)},
    (∀ e ∈ known, e.2.OrderRests) → ∀ e ∈ ps.foldl (g.learn names) known, e.2.OrderRests := by
  intro ps
  induction ps with
  | nil => intro known h; exact h
  | cons p ps ih => intro known h; exact ih (learn_orderRests h)

/-- The rest of a run is worked off with what is known after the turns before it. -/
theorem work_append (l r : List Pending) : ∀ known : List (String × TraitSet),
    g.work names known (l ++ r) =
      g.work names known l ++ g.work names (l.foldl (g.learn names) known) r := by
  induction l with
  | nil => intro known; rfl
  | cons p l ih => intro known; rw [List.cons_append, work_cons, work_cons, ih, List.append_assoc,
      List.foldl_cons]

theorem events_append {l r : List Pending} (h : ordered g.accepted = l ++ r) :
    ∃ past, g.events = past ++ g.work g.names (g.knownAfter l) r := by
  rw [events_eq, h, work_append, ← List.append_assoc]
  exact ⟨_, rfl⟩

end Generator

/-- **Traits come with those they rest on**: the members and the traits of every wrapper, for all
fields, whatever traits these have, for all options and targets; and whatever is registered,
all that a run knows about the wrappers before its next turn. -/
theorem supertraits_closed :
    (∀ (fields : List Field) (o : Options) (t : Target),
      (Plan.of ⟨fields, o⟩ t).SupertraitsClosed ∧
        ((Plan.of ⟨fields, o⟩ t).traits t).OrderRests) ∧
    ∀ (g : Generator) (l r : List Pending), Generator.ordered g.accepted = l ++ r →
      (∃ past, g.events = past ++ g.work g.names (g.knownAfter l) r) ∧
        ∀ e ∈ g.knownAfter l, e.2.OrderRests :=
  ⟨fun _ _ _ => ⟨Plan.supertraitsClosed_of, Plan.orderRests_traits⟩, fun _ l _ h =>
    ⟨Generator.events_append h,
      Generator.foldl_learn_orderRests l fun _ he => absurd he List.not_mem_nil⟩⟩

namespace Generator

/-- A wrapper of a registered type that is said to have a total order, but neither an order nor
an equality, beside a wrapper of a number. -/
def rankedBatch : Generator where
  pending := [declared "Entry" [bare "Rank"] [], declared "Score" [bare "i32"] []]
  registry := Registry.builtin.register "Rank"
    (.named { TraitSet.value with eq := false, partialOrd := false })

/-- The wrapper of the number is known to have a total order, and the other one is not. -/
theorem supertraits_closed_rankedBatch :
    ordered rankedBatch.accepted = ordered rankedBatch.accepted ++ [] ∧
    rankedBatch.knownAfter (ordered rankedBatch.accepted) =
        [("Score", TraitSet.owned),
          ("Entry", { TraitSet.owned with eq := false, ord := false, partialOrd := false })] ∧
      ∀ e ∈ rankedBatch.knownAfter (ordered rankedBatch.accepted), e.2.OrderRests := by
  have hall := (List.append_nil (ordered rankedBatch.accepted)).symm
  exact ⟨hall, by decide +kernel, (supertraits_closed.2 rankedBatch _ [] hall).2⟩

end Generator
end Newtype
