import Mathlib.Data.Fintype.Card
import Mathlib.Data.List.Perm.Subperm
import Mathlib.Data.Set.Finite.Basic
import Mathlib.Logic.Relation
import Newtype.Batch.Order

/-!
# The dependency order

What the greedy order of a batch achieves.  The list of entries done so far is
*sound*: no entry is in it twice, and every entry stands behind all it depends on.
Each step keeps this, and after as many steps as there are entries no further entry
is ready.  An entry that is left over then depends on another one that is left over,
so its dependencies lead into a cycle.

* `Sound` — the invariant of the list of entries that are done.
* `sound_takeReady`, `takeReady_stuck` — it holds at the end, and nothing is ready
  then.
* `Exhausts`, `exhausts_settled` — the loop without a bound on its steps.
* `dependencyOrder_perm` — every entry occurs exactly once in the order.
* `dependencyOrder_before` — an entry stands behind its dependencies, if it is not
  left over.
* `acc_of_acyclic` — in a finite graph, descent from a point that leads into no cycle
  ends.
-/

namespace Newtype
namespace Order

variable {deps : Nat → List Nat} {n : Nat}

/-! ### One step -/

theorem ready_iff {done : List Nat} {i : Nat} :
    ready deps done i = true ↔ ∀ d ∈ deps i, d ∈ done := by
  simp [ready]

/-- The next entry is in range, new, and ready. -/
theorem of_next?_eq_some {done : List Nat} {i : Nat} (h : next? deps n done = some i) :
    i < n ∧ i ∉ done ∧ ∀ d ∈ deps i, d ∈ done := by
  unfold next? at h
  have hmem := List.mem_of_find?_eq_some h
  have hp := List.find?_some h
  rw [List.mem_range] at hmem
  simp only [Bool.and_eq_true, Bool.not_eq_true', List.contains_eq_mem,
    decide_eq_false_iff_not] at hp
  exact ⟨hmem, hp.1, ready_iff.mp hp.2⟩

/-- When there is no next entry, each entry that is left over waits for another. -/
theorem exists_waiting_of_next?_eq_none {done : List Nat} (h : next? deps n done = none)
    {i : Nat} (hi : i < n) (hd : i ∉ done) : ∃ d ∈ deps i, d ∉ done := by
  unfold next? at h
  rw [List.find?_eq_none] at h
  have hnot := h i (List.mem_range.mpr hi)
  by_contra hall
  push Not at hall
  apply hnot
  simp only [Bool.and_eq_true, Bool.not_eq_true', List.contains_eq_mem,
    decide_eq_false_iff_not]
  exact ⟨hd, ready_iff.mpr hall⟩

/-! ### The invariant -/

/-- The entries done so far are different ones in range, and each stands behind all it
depends on. -/
structure Sound (deps : Nat → List Nat) (n : Nat) (done : List Nat) : Prop where
  nodup : done.Nodup
  lt : ∀ i ∈ done, i < n
  before : ∀ l i r, done = l ++ i :: r → ∀ d ∈ deps i, d ∈ l

theorem sound_nil : Sound deps n [] where
  nodup := List.nodup_nil
  lt := by simp
  before := by simp

/-- A step keeps the invariant. -/
theorem Sound.snoc {done : List Nat} (h : Sound deps n done) {i : Nat}
    (hi : next? deps n done = some i) : Sound deps n (done ++ [i]) := by
  obtain ⟨hlt, hnew, hready⟩ := of_next?_eq_some hi
  refine ⟨?_, ?_, ?_⟩
  · rw [List.nodup_append]
    refine ⟨h.nodup, List.nodup_singleton i, ?_⟩
    rintro a ha b hb rfl
    rw [List.mem_singleton] at hb
    exact hnew (hb ▸ ha)
  · intro j hj
    rw [List.mem_append, List.mem_singleton] at hj
    rcases hj with hj | rfl
    · exact h.lt j hj
    · exact hlt
  · intro l j r heq
    rcases List.eq_nil_or_concat r with rfl | ⟨r', z, rfl⟩
    · -- the new entry itself
      obtain ⟨rfl, hij⟩ := List.append_inj' heq rfl
      cases hij
      exact hready
    · -- an entry that was there before
      have heq' : done ++ [i] = (l ++ j :: r') ++ [z] := by
        rw [heq, List.append_assoc, List.cons_append, List.concat_eq_append]
      exact h.before l j r' (List.append_inj' heq' rfl).1

/-- All steps keep the invariant. -/
theorem sound_takeReady : ∀ (steps : Nat) (done : List Nat),
    Sound deps n done → Sound deps n (takeReady deps n steps done) := by
  intro steps
  induction steps with
  | zero => intro done h; exact h
  | succ steps ih =>
    intro done h
    rw [takeReady]
    cases hi : next? deps n done with
    | none => exact h
    | some i => exact ih _ (h.snoc hi)

/-- A sound list of full length holds every entry. -/
theorem Sound.mem_of_length {done : List Nat} (h : Sound deps n done) (hn : n ≤ done.length)
    {i : Nat} (hi : i < n) : i ∈ done := by
  have hsub : done ⊆ List.range n := fun j hj => List.mem_range.mpr (h.lt j hj)
  have hperm : done.Perm (List.range n) :=
    (List.subperm_of_subset h.nodup hsub).perm_of_length_le (by simpa using hn)
  exact hperm.mem_iff.mpr (List.mem_range.mpr hi)

/-- After as many steps as entries are missing, none is ready any more. -/
theorem takeReady_stuck : ∀ (steps : Nat) (done : List Nat), Sound deps n done →
    n ≤ done.length + steps → next? deps n (takeReady deps n steps done) = none := by
  intro steps
  induction steps with
  | zero =>
    intro done h hn
    rw [takeReady]
    cases hi : next? deps n done with
    | none => rfl
    | some i =>
      obtain ⟨hlt, hnew, -⟩ := of_next?_eq_some hi
      exact absurd (h.mem_of_length (by omega) hlt) hnew
  | succ steps ih =>
    intro done h hn
    rw [takeReady]
    cases hi : next? deps n done with
    | none => exact hi
    | some i => exact ih _ (h.snoc hi) (by simp; omega)

/-! ### The loop without its bound -/

/-- Taking the next entry again and again, from one list of entries, ends with another
list, for which there is no next entry. -/
inductive Exhausts {α : Type} (next : List α → Option α) : List α → List α → Prop
  | stop {done : List α} : next done = none → Exhausts next done done
  | step {done final : List α} {a : α} :
    next done = some a → Exhausts next (done ++ [a]) final → Exhausts next done final

/-- The loop leaves no choice. -/
theorem Exhausts.unique {α : Type} {next : List α → Option α} {done final final' : List α}
    (h : Exhausts next done final) (h' : Exhausts next done final') : final = final' := by
  induction h with
  | stop hnone =>
    cases h' with
    | stop _ => rfl
    | step hsome _ =>
      rw [hnone] at hsome
      cases hsome
  | step hsome _ ih =>
    cases h' with
    | stop hnone =>
      rw [hnone] at hsome
      cases hsome
    | step hsome' hrest =>
      cases hsome.symm.trans hsome'
      exact ih hrest

/-- As many steps as entries are missing are enough. -/
theorem exhausts_takeReady : ∀ (steps : Nat) (done : List Nat), Sound deps n done →
    n ≤ done.length + steps → Exhausts (next? deps n) done (takeReady deps n steps done) := by
  intro steps
  induction steps with
  | zero => intro done h hn; exact .stop (takeReady_stuck 0 done h hn)
  | succ steps ih =>
    intro done h hn
    rw [takeReady]
    cases hi : next? deps n done with
    | none => exact .stop hi
    | some i => exact .step hi (ih _ (h.snoc hi) (by simp; omega))

/-! ### The whole order -/

/-- The entries that are worked off before nothing is ready any more. -/
def settled (deps : Nat → List Nat) (n : Nat) : List Nat := takeReady deps n n []

theorem dependencyOrder_eq (deps : Nat → List Nat) (n : Nat) : dependencyOrder deps n =
    settled deps n ++ (List.range n).filter (!(settled deps n).contains ·) := rfl

theorem sound_settled : Sound deps n (settled deps n) := sound_takeReady n [] sound_nil

theorem exhausts_settled : Exhausts (next? deps n) [] (settled deps n) :=
  exhausts_takeReady n [] sound_nil (by simp)

/-- An entry all of whose dependencies are settled is settled. -/
theorem mem_settled_of_deps {i : Nat} (hi : i < n) (h : ∀ d ∈ deps i, d ∈ settled deps n) :
    i ∈ settled deps n := by
  by_contra hnot
  have hstuck := takeReady_stuck n [] (sound_nil : Sound deps n []) (by simp)
  obtain ⟨d, hd, hdnot⟩ := exists_waiting_of_next?_eq_none hstuck hi hnot
  exact hdnot (h d hd)

theorem nodup_dependencyOrder : (dependencyOrder deps n).Nodup := by
  rw [dependencyOrder_eq, List.nodup_append]
  refine ⟨sound_settled.nodup, List.nodup_range.filter _, ?_⟩
  rintro a ha b hb rfl
  rw [List.mem_filter] at hb
  simp [ha] at hb

theorem mem_dependencyOrder {i : Nat} : i ∈ dependencyOrder deps n ↔ i < n := by
  rw [dependencyOrder_eq, List.mem_append, List.mem_filter, List.mem_range]
  constructor
  · rintro (h | h)
    · exact sound_settled.lt i h
    · exact h.1
  · intro h
    by_cases hi : i ∈ settled deps n
    · exact Or.inl hi
    · exact Or.inr ⟨h, by simpa using hi⟩

/-- **Every entry occurs exactly once in the order.** -/
theorem dependencyOrder_perm : (dependencyOrder deps n).Perm (List.range n) := by
  rw [List.perm_ext_iff_of_nodup nodup_dependencyOrder List.nodup_range]
  intro i
  rw [mem_dependencyOrder, List.mem_range]

/-- **A settled entry stands behind everything it depends on.** -/
theorem dependencyOrder_before {l r : List Nat} {i : Nat} (hi : i ∈ settled deps n)
    (h : dependencyOrder deps n = l ++ i :: r) : ∀ d ∈ deps i, d ∈ l := by
  have hnodup : (l ++ i :: r).Nodup := h ▸ nodup_dependencyOrder
  have hil : i ∉ l := by
    rw [List.nodup_append] at hnodup
    intro hmem
    exact hnodup.2.2 i hmem i List.mem_cons_self rfl
  rw [dependencyOrder_eq, List.append_eq_append_iff] at h
  -- the cut before `i` lies inside the settled part, as `i` itself does
  rcases h with ⟨c, hl, -⟩ | ⟨c, hs, hc⟩
  · exact absurd (hl ▸ List.mem_append_left c hi) hil
  · cases c with
    | nil =>
      rw [List.append_nil] at hs
      exact absurd (hs ▸ hi) hil
    | cons j c =>
      rw [List.cons_append, List.cons.injEq] at hc
      obtain ⟨rfl, -⟩ := hc
      exact sound_settled.before l i c hs

/-! ### Descent in finite graphs -/

/-- **Descent from a point of a finite graph ends if no cycle can be reached from it.**
The set `s` holds everything that can be reached. -/
theorem acc_of_acyclic {α : Type*} {r : α → α → Prop} {s : Set α} (hs : s.Finite) {a : α}
    (hmem : ∀ b, Relation.ReflTransGen r a b → b ∈ s)
    (hcycle : ∀ b, Relation.ReflTransGen r a b → ¬Relation.TransGen r b b) :
    Acc (flip r) a := by
  -- the reachable points with the transitive closure are a finite strict order
  let Point := {b : α // Relation.ReflTransGen r a b}
  let below : Point → Point → Prop := fun x y => Relation.TransGen r y.1 x.1
  have : Finite Point := (hs.subset hmem).to_subtype
  have : IsTrans Point below := ⟨fun _ _ _ hxy hyz => hyz.trans hxy⟩
  have : Std.Irrefl below := ⟨fun x hx => hcycle x.1 x.2 hx⟩
  have hwf : WellFounded below := Finite.wellFounded_of_trans_of_irrefl below
  have key : ∀ x : Point, Acc (flip r) x.1 := by
    intro x
    induction x using hwf.induction with
    | _ x ih =>
      refine Acc.intro _ fun c hc => ?_
      exact ih ⟨c, x.2.tail hc⟩ (Relation.TransGen.single hc)
  exact key ⟨a, Relation.ReflTransGen.refl⟩

end Order
end Newtype
