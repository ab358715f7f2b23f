import Mathlib.Algebra.BigOperators.Group.List.Basic
import Mathlib.Algebra.GroupWithZero.Nat
import Mathlib.Data.Finset.Max
import Mathlib.Data.List.Lex
import Newtype.Proofs.Traits

/-!
# Counting down dependencies

A batch can be put into order by counting.  Every entry has a counter of its
dependencies that are not done yet; the least entry whose counter is at zero is done
next, and the counters of all entries that depend on it go down by one.  Here the count
is set beside the search for the next entry.  It never gets stuck: it ends, no counter
goes below zero, and it gives the same order.

What that order is can be said without an algorithm.  The places from which no cycle can
be reached come first, in the lexicographically least topological order, and the others
follow as they are.

* `Count`, `Count.run?`, `countedOrder?` — the count.
* `Count.after`, `take?_after`, `run?_after` — the counters that belong to the entries
  done, for a step and for the run.
* `CycleFree`, `mem_settled_iff` — the entries that are not left over.
* `Topological`, `isLeast_settled` — they stand in the least order.
* `Needs` — the graph on the places of a batch.
* `dependencyOrder_least` — **the order of a batch.**
-/

namespace Newtype
namespace Order

/-! ### The count -/

/-- The state of the count: how many dependencies of each entry are unmet, the entries
that are ready, and the entries that are done, in order. -/
structure Count where
  unmet : List Nat
  ready : Finset Nat
  done : List Nat

namespace Count

/-- A dependency of an entry is met.  Its counter goes down by one, and at zero the entry
is ready.  There is no result if the entry has no counter or the counter is at zero
before. -/
def meet? (s : Count) (i : Nat) : Option Count :=
  match s.unmet[i]? with
  | some (c + 1) =>
    some { s with
      unmet := s.unmet.set i c
      ready := if c = 0 then insert i s.ready else s.ready }
  | _ => none

/-- An entry is done, so each entry that depends on it has a dependency met. -/
def take? (dependents : Nat → List Nat) (s : Count) (i : Nat) : Option Count :=
  (dependents i).foldlM meet? { s with ready := s.ready.erase i, done := s.done ++ [i] }

/-- The sum of the counters and the number of entries that are ready. -/
def weight (s : Count) : Nat := s.unmet.sum + s.ready.card

theorem weight_meet?_le {s s' : Count} {i : Nat} (h : s.meet? i = some s') :
    s'.weight ≤ s.weight := by
  unfold meet? at h
  split at h
  · next c hc =>
    cases h
    obtain ⟨hlt, hget⟩ := List.getElem?_eq_some_iff.mp hc
    have hsum : (s.unmet.set i c).sum + 1 = s.unmet.sum := by
      rw [List.sum_set, if_pos hlt, ← List.sum_take_add_sum_drop s.unmet i,
        List.drop_eq_getElem_cons hlt, List.sum_cons, hget]
      omega
    have hcard : (if c = 0 then insert i s.ready else s.ready).card ≤ s.ready.card + 1 := by
      split
      · exact Finset.card_insert_le i s.ready
      · exact Nat.le_succ _
    simp only [weight]
    omega
  · cases h

theorem weight_foldlM_meet?_le {js : List Nat} {s s' : Count} (h : js.foldlM meet? s = some s') :
    s'.weight ≤ s.weight := by
  induction js generalizing s with
  | nil =>
    cases h
    exact Nat.le_refl _
  | cons j js ih =>
    rw [List.foldlM_cons] at h
    obtain ⟨t, ht, h⟩ := Option.bind_eq_some_iff.mp h
    exact Nat.le_trans (ih h) (weight_meet?_le ht)

/-- Taking an entry that is ready leaves less to do. -/
theorem weight_take?_lt {dependents : Nat → List Nat} {s s' : Count} {i : Nat}
    (hi : i ∈ s.ready) (h : s.take? dependents i = some s') : s'.weight < s.weight := by
  have herase : (s.ready.erase i).card < s.ready.card := Finset.card_erase_lt_of_mem hi
  have hle := weight_foldlM_meet?_le h
  simp only [weight] at hle ⊢
  omega

/-- As long as an entry is ready, the least one is taken. -/
def run? (dependents : Nat → List Nat) (s : Count) : Option Count :=
  if h : s.ready.Nonempty then
    match _hs : s.take? dependents (s.ready.min' h) with
    | some s' => s'.run? dependents
    | none => none
  else some s
termination_by s.weight
decreasing_by exact weight_take?_lt (Finset.min'_mem _ _) _hs

theorem run?_of_empty {dependents : Nat → List Nat} {s : Count} (h : s.ready = ∅) :
    s.run? dependents = some s := by
  rw [run?, dif_neg (by simp [h])]

theorem run?_of_isLeast {dependents : Nat → List Nat} {s s' : Count} {i : Nat}
    (hi : IsLeast (s.ready : Set Nat) i) (h : s.take? dependents i = some s') :
    s.run? dependents = s'.run? dependents := by
  have hne : s.ready.Nonempty := ⟨i, hi.1⟩
  have hmin : s.ready.min' hne = i := (Finset.isLeast_min' s.ready hne).unique hi
  rw [run?, dif_pos hne]
  split
  · next t ht =>
    rw [hmin, h] at ht
    cases ht
    rfl
  · next ht =>
    rw [hmin, h] at ht
    cases ht

/-- The count before anything is done.  Each entry has as many unmet dependencies as it
has different ones, and those without any are ready. -/
def start (deps : Nat → List Nat) (n : Nat) : Count where
  unmet := (List.range n).map fun i => (deps i).dedup.length
  ready := (Finset.range n).filter fun i => (deps i).dedup.length = 0
  done := []

end Count

/-- The entries that depend on an entry, in ascending order. -/
def dependents (deps : Nat → List Nat) (n d : Nat) : List Nat :=
  (List.range n).filter fun i => (deps i).contains d

/-- The order of `n` entries by counting: those that are done when no more is ready, then
the others.  There is none if a counter would go below zero. -/
def countedOrder? (deps : Nat → List Nat) (n : Nat) : Option (List Nat) :=
  ((Count.start deps n).run? (dependents deps n)).map fun s =>
    s.done ++ (List.range n).filter (!s.done.contains ·)

/-! ### What the counters count -/

variable {deps : Nat → List Nat} {n : Nat}

/-- The entries that can be done next. -/
def available (deps : Nat → List Nat) (n : Nat) (done : List Nat) : Set Nat :=
  {i | i < n ∧ i ∉ done ∧ ∀ d ∈ deps i, d ∈ done}

/-- The next entry is the least that can be done. -/
theorem isLeast_of_next?_eq_some {done : List Nat} {i : Nat} (h : next? deps n done = some i) :
    IsLeast (available deps n done) i := by
  refine ⟨of_next?_eq_some h, ?_⟩
  rintro j ⟨-, hnew, hready⟩
  rw [next?, List.find?_range_eq_some] at h
  by_contra hlt
  have hnot := h.2.2 j (by omega)
  simp [hnew, ready_iff.mpr hready] at hnot

theorem available_eq_empty {done : List Nat} (h : next? deps n done = none) :
    available deps n done = ∅ := by
  rw [Set.eq_empty_iff_forall_notMem]
  rintro i ⟨hlt, hnew, hready⟩
  obtain ⟨d, hd, hnot⟩ := exists_waiting_of_next?_eq_none h hlt hnew
  exact hnot (hready d hd)

/-- Dependencies come before the entry. -/
theorem Sound.idxOf_lt {done : List Nat} (h : Sound deps n done) {i d : Nat} (hi : i ∈ done)
    (hd : d ∈ deps i) : d ∈ done ∧ done.idxOf d < done.idxOf i := by
  obtain ⟨l, r, heq, hil⟩ := List.eq_append_cons_of_mem hi
  have hdl : d ∈ l := h.before l i r heq d hd
  refine ⟨heq ▸ List.mem_append_left _ hdl, ?_⟩
  rw [heq, List.idxOf_append_of_mem hdl, List.idxOf_append_of_notMem hil, List.idxOf_cons_self]
  exact List.idxOf_lt_length_of_mem hdl

/-- How many dependencies of an entry are not done. -/
def unmetAfter (deps : Nat → List Nat) (done : List Nat) (i : Nat) : Nat :=
  ((deps i).dedup.filter (· ∉ done)).length

theorem unmetAfter_eq_zero_iff {done : List Nat} {i : Nat} :
    unmetAfter deps done i = 0 ↔ ∀ d ∈ deps i, d ∈ done := by
  simp [unmetAfter, List.filter_eq_nil_iff]

/-- When a dependency is done, one less is unmet. -/
theorem unmetAfter_snoc_of_mem {done : List Nat} {i j : Nat} (hj : j ∈ deps i) (hnew : j ∉ done) :
    unmetAfter deps (done ++ [j]) i + 1 = unmetAfter deps done i := by
  have hnodup : ((deps i).dedup.filter (· ∉ done)).Nodup := (List.nodup_dedup _).filter _
  have hmem : j ∈ (deps i).dedup.filter (· ∉ done) := by simp [hj, hnew]
  have herase : (deps i).dedup.filter (· ∉ done ++ [j]) =
      ((deps i).dedup.filter (· ∉ done)).erase j := by
    rw [hnodup.erase_eq_filter, List.filter_filter]
    refine List.filter_congr fun d _ => ?_
    by_cases hd : d = j <;> simp [hd]
  have hpos : 0 < ((deps i).dedup.filter (· ∉ done)).length := List.length_pos_of_mem hmem
  rw [unmetAfter, unmetAfter, herase, List.length_erase_of_mem hmem]
  omega

/-- Other entries leave the counter alone. -/
theorem unmetAfter_snoc_of_notMem {done : List Nat} {i j : Nat} (hj : j ∉ deps i) :
    unmetAfter deps (done ++ [j]) i = unmetAfter deps done i := by
  have hsame : (deps i).dedup.filter (· ∉ done ++ [j]) = (deps i).dedup.filter (· ∉ done) := by
    refine List.filter_congr fun d hd => ?_
    have hne : d ≠ j := fun heq => hj (heq ▸ List.mem_dedup.mp hd)
    simp [hne]
  rw [unmetAfter, unmetAfter, hsame]

theorem mem_dependents {d i : Nat} : i ∈ dependents deps n d ↔ i < n ∧ d ∈ deps i := by
  simp [dependents]

namespace Count

/-- The count that belongs to the entries done. -/
def after (deps : Nat → List Nat) (n : Nat) (done : List Nat) : Count where
  unmet := (List.range n).map (unmetAfter deps done)
  ready := (Finset.range n).filter fun i => i ∉ done ∧ unmetAfter deps done i = 0
  done := done

theorem mem_ready_after {done : List Nat} {i : Nat} : i ∈ (after deps n done).ready ↔
    i < n ∧ i ∉ done ∧ unmetAfter deps done i = 0 := by
  simp [after]

theorem coe_ready_after (done : List Nat) :
    ((after deps n done).ready : Set Nat) = available deps n done := by
  ext i
  rw [Finset.mem_coe, mem_ready_after, unmetAfter_eq_zero_iff]
  rfl

theorem start_eq : start deps n = after deps n [] := by
  simp [start, after, unmetAfter, List.eq_nil_iff_forall_not_mem]

/-- One counter of a table goes down. -/
theorem meet?_table {f : Nat → Nat} {j : Nat} (hj : j < n) (hf : 0 < f j) (ready : Finset Nat)
    (done : List Nat) : meet? ⟨(List.range n).map f, ready, done⟩ j =
      some ⟨(List.range n).map fun k => if k = j then f k - 1 else f k,
        if f j = 1 then insert j ready else ready, done⟩ := by
  obtain ⟨c, hc⟩ : ∃ c, f j = c + 1 := ⟨f j - 1, by omega⟩
  have hget : ((List.range n).map f)[j]? = some (c + 1) := by simp [hj, hc]
  have hset : ((List.range n).map f).set j c =
      (List.range n).map fun k => if k = j then f k - 1 else f k := by
    refine List.ext_getElem (by simp) fun k _ _ => ?_
    rw [List.getElem_set]
    by_cases hk : j = k
    · subst hk
      simp [hc]
    · simp [hk, Ne.symm hk]
  rw [meet?, hget]
  simp [hset, hc]

/-- Different counters of a table go down one after the other.  None of them is at zero
before. -/
theorem foldlM_meet? {js : List Nat} (hnodup : js.Nodup) (hlt : ∀ j ∈ js, j < n)
    (done : List Nat) : ∀ (f : Nat → Nat) (ready : Finset Nat), (∀ j ∈ js, 0 < f j) →
      js.foldlM meet? ⟨(List.range n).map f, ready, done⟩ =
        some ⟨(List.range n).map fun k => if k ∈ js then f k - 1 else f k,
          ready ∪ (js.filter (f · = 1)).toFinset, done⟩ := by
  induction js with
  | nil =>
    intro f ready _
    simp
  | cons j js ih =>
    intro f ready hpos
    obtain ⟨hj, hnodup⟩ := List.nodup_cons.mp hnodup
    rw [List.forall_mem_cons] at hlt hpos
    have hother : ∀ k ∈ js, k ≠ j := fun k hk heq => hj (heq ▸ hk)
    have hpos' : ∀ k ∈ js, 0 < if k = j then f k - 1 else f k := by
      intro k hk
      rw [if_neg (hother k hk)]
      exact hpos.2 k hk
    rw [List.foldlM_cons, meet?_table hlt.1 hpos.1]
    change js.foldlM meet? _ = _
    rw [ih hnodup hlt.2 _ _ hpos']
    congr 2
    · refine List.map_congr_left fun k _ => ?_
      by_cases hk : k = j
      · subst hk
        simp [hj]
      · simp [hk]
    · have hfilter : js.filter (fun k => (if k = j then f k - 1 else f k) = 1) =
          js.filter (f · = 1) := by
        refine List.filter_congr fun k hk => ?_
        rw [if_neg (hother k hk)]
      rw [hfilter, List.filter_cons]
      by_cases hone : f j = 1
      · simp [hone]
      · simp [hone]

/-- The entries that are ready when one more is done: those of before, and those whose
counter has come to zero. -/
theorem ready_after_snoc {done : List Nat} (h : Sound deps n done) {i : Nat}
    (hi : next? deps n done = some i) :
    (after deps n done).ready.erase i ∪
        ((dependents deps n i).filter (unmetAfter deps done · = 1)).toFinset =
      (after deps n (done ++ [i])).ready := by
  obtain ⟨hlt, hnew, hready⟩ := of_next?_eq_some hi
  ext k
  simp only [Finset.mem_union, Finset.mem_erase, mem_ready_after, List.mem_toFinset,
    List.mem_filter, mem_dependents, decide_eq_true_eq, List.mem_append, List.mem_singleton,
    not_or]
  by_cases hdep : i ∈ deps k
  · have hmet := unmetAfter_snoc_of_mem hdep hnew
    -- an entry with a dependency that is not done is not done itself
    have hk : k ∉ done := fun hk => hnew ((h.idxOf_lt hk hdep).1)
    have hne : k ≠ i := fun heq => hnew (hready i (heq ▸ hdep))
    constructor
    · rintro (⟨-, -, -, hzero⟩ | ⟨⟨hkn, -⟩, hone⟩)
      · omega
      · exact ⟨hkn, ⟨hk, hne⟩, by omega⟩
    · rintro ⟨hkn, -, hzero⟩
      exact Or.inr ⟨⟨hkn, hdep⟩, by omega⟩
  · rw [unmetAfter_snoc_of_notMem hdep]
    constructor
    · rintro (⟨hne, hkn, hk, hzero⟩ | ⟨⟨-, hmem⟩, -⟩)
      · exact ⟨hkn, ⟨hk, hne⟩, hzero⟩
      · exact absurd hmem hdep
    · rintro ⟨hkn, ⟨hk, hne⟩, hzero⟩
      exact Or.inl ⟨hne, hkn, hk, hzero⟩

/-- **A step of the count.**  When the next entry is taken, every counter that goes down is
above zero, and what comes out are the counters for one more entry done. -/
theorem take?_after {done : List Nat} (h : Sound deps n done) {i : Nat}
    (hi : next? deps n done = some i) :
    (after deps n done).take? (dependents deps n) i = some (after deps n (done ++ [i])) := by
  obtain ⟨hlt, hnew, hready⟩ := of_next?_eq_some hi
  have hpos : ∀ j ∈ dependents deps n i, 0 < unmetAfter deps done j := by
    intro j hj
    have hmet := unmetAfter_snoc_of_mem (mem_dependents.mp hj).2 hnew
    omega
  have hnodup : (dependents deps n i).Nodup := List.nodup_range.filter _
  have hrange : ∀ j ∈ dependents deps n i, j < n := fun j hj => (mem_dependents.mp hj).1
  refine (foldlM_meet? hnodup hrange (done ++ [i]) _ _ hpos).trans ?_
  rw [ready_after_snoc h hi]
  congr 2
  refine List.map_congr_left fun k hk => ?_
  rw [List.mem_range] at hk
  by_cases hdep : i ∈ deps k
  · have hmet := unmetAfter_snoc_of_mem hdep hnew
    rw [if_pos (mem_dependents.mpr ⟨hk, hdep⟩)]
    omega
  · rw [if_neg fun hmem => hdep (mem_dependents.mp hmem).2, unmetAfter_snoc_of_notMem hdep]

/-- **The whole count.**  It ends with the counters for the entries done in the end. -/
theorem run?_after {done final : List Nat} (hx : Exhausts (next? deps n) done final) :
    Sound deps n done →
      (after deps n done).run? (dependents deps n) = some (after deps n final) := by
  induction hx with
  | @stop done hnone =>
    intro _
    refine run?_of_empty ?_
    rw [← Finset.coe_eq_empty, coe_ready_after, available_eq_empty hnone]
  | @step done final i hsome _ ih =>
    intro h
    have hleast : IsLeast ((after deps n done).ready : Set Nat) i := by
      rw [coe_ready_after]
      exact isLeast_of_next?_eq_some hsome
    rw [run?_of_isLeast hleast (take?_after h hsome)]
    exact ih (h.snoc hsome)

end Count

/-- The count gives the order of the search. -/
theorem countedOrder?_eq : countedOrder? deps n = some (dependencyOrder deps n) := by
  rw [countedOrder?, Count.start_eq, Count.run?_after exhausts_settled sound_nil]
  rfl

/-! ### The entries that are not left over -/

/-- No cycle can be reached from a point. -/
def CycleFree {α : Type} (r : α → α → Prop) (a : α) : Prop :=
  ∀ b, Relation.ReflTransGen r a b → ¬Relation.TransGen r b b

/-- From an entry that is done only entries can be reached that have been done before, so
there is no way back. -/
theorem Sound.cycleFree {done : List Nat} (h : Sound deps n done) {i : Nat} (hi : i ∈ done) :
    CycleFree (fun i d => d ∈ deps i) i := by
  have hreach : ∀ j, Relation.ReflTransGen (fun i d => d ∈ deps i) i j → j ∈ done := by
    intro j hj
    induction hj with
    | refl => exact hi
    | tail _ hd ih => exact (h.idxOf_lt ih hd).1
  intro j hj hcycle
  have hpath : ∀ k, Relation.TransGen (fun i d => d ∈ deps i) j k →
      k ∈ done ∧ done.idxOf k < done.idxOf j := by
    intro k hk
    induction hk with
    | single hd => exact h.idxOf_lt (hreach j hj) hd
    | tail _ hd ih =>
      obtain ⟨hmem, hlt⟩ := h.idxOf_lt ih.1 hd
      exact ⟨hmem, Nat.lt_trans hlt ih.2⟩
  exact Nat.lt_irrefl _ (hpath j hcycle).2

/-- **The entries that are not left over are those from which no cycle can be reached.** -/
theorem mem_settled_iff (hdeps : ∀ i, ∀ d ∈ deps i, d < n) {i : Nat} :
    i ∈ settled deps n ↔ i < n ∧ CycleFree (fun i d => d ∈ deps i) i := by
  constructor
  · intro hi
    exact ⟨sound_settled.lt i hi, sound_settled.cycleFree hi⟩
  · rintro ⟨hlt, hfree⟩
    have hacc : Acc (flip fun i d => d ∈ deps i) i := by
      refine acc_of_acyclic (s := {j | j < n}) (Set.finite_lt_nat n) ?_ hfree
      intro j hj
      rcases Relation.ReflTransGen.cases_tail hj with rfl | ⟨k, -, hk⟩
      · exact hlt
      · exact hdeps k j hk
    clear hfree
    induction hacc with
    | intro i _ ih => exact mem_settled_of_deps hlt fun d hd => ih d hd (hdeps i d hd)

/-! ### The least order -/

/-- The list is a topological order of a set: it holds each member once, behind all that
the member has an edge to. -/
structure Topological (edge : Nat → Nat → Prop) (s : Set Nat) (l : List Nat) : Prop where
  nodup : l.Nodup
  mem_iff : ∀ i, i ∈ l ↔ i ∈ s
  behind : ∀ l₁ i l₂, l = l₁ ++ i :: l₂ → ∀ j, edge i j → j ∈ l₁

/-- The loop only adds to the list. -/
theorem Exhausts.extends {α : Type} {next : List α → Option α} {done final : List α}
    (h : Exhausts next done final) : done <+: final := by
  induction h with
  | stop _ => exact List.prefix_rfl
  | step _ _ ih => exact (List.prefix_append _ _).trans ih

/-- The loop takes an entry as the next one behind all that stand before it. -/
theorem Exhausts.next_eq {α : Type} {next : List α → Option α} {done final : List α}
    (h : Exhausts next done final) :
    ∀ r a l, final = done ++ r ++ a :: l → next (done ++ r) = some a := by
  induction h with
  | stop _ =>
    intro r a l heq
    simp at heq
  | @step done final b hsome hrest ih =>
    intro r a l heq
    obtain ⟨t, ht⟩ := hrest.extends
    cases r with
    | nil =>
      -- the entry stands right behind the list, so it is the one that was taken
      have hab : b :: t = a :: l := by
        refine @List.append_cancel_left _ done _ _ ?_
        simpa using ht.trans heq
      cases hab
      simpa using hsome
    | cons c r =>
      have hbc : b :: t = c :: (r ++ a :: l) := by
        refine @List.append_cancel_left _ done _ _ ?_
        simpa using ht.trans heq
      cases hbc
      have hnext := ih r a l (by simpa using heq)
      simpa using hnext

/-- Each settled entry is the least of those that can be done next. -/
theorem isLeast_available_of_settled {l r : List Nat} {i : Nat}
    (h : settled deps n = l ++ i :: r) : IsLeast (available deps n l) i :=
  isLeast_of_next?_eq_some (exhausts_settled.next_eq l i r h)

/-- A topological order that always takes the least that can come next is the least one:
where another order goes its own way, it takes a larger entry. -/
theorem Topological.le {edge : Nat → Nat → Prop} {s : Set Nat} {l l' : List Nat}
    (h : Topological edge s l) (h' : Topological edge s l')
    (hleast : ∀ l₁ i l₂, l = l₁ ++ i :: l₂ → ∀ j ∈ s, j ∉ l₁ → (∀ k, edge j k → k ∈ l₁) → i ≤ j) :
    l ≤ l' := by
  rw [← not_lt, List.lt_iff_exists]
  rintro (⟨-, hshort⟩ | ⟨k, hk', hk, hsame, hlt⟩)
  · have hperm : l.Perm l' := by
      rw [List.perm_ext_iff_of_nodup h.nodup h'.nodup]
      intro i
      rw [h.mem_iff, h'.mem_iff]
    have hlength := hperm.length_eq
    omega
  · have hcut : ∀ (m : List Nat) (hm : k < m.length), m = m.take k ++ m[k] :: m.drop (k + 1) := by
      intro m hm
      rw [List.cons_getElem_drop_succ, List.take_append_drop]
    have hstart : l'.take k = l.take k := by
      refine List.ext_getElem (by simp; omega) fun j hj _ => ?_
      rw [List.getElem_take, List.getElem_take]
      exact hsame j (by simp at hj; omega)
    have hnew : l'[k] ∉ l.take k := by
      rw [← hstart]
      intro hmem
      have hnodup := h'.nodup
      rw [hcut l' hk', List.nodup_append] at hnodup
      exact hnodup.2.2 _ hmem _ List.mem_cons_self rfl
    have hedges : ∀ j, edge l'[k] j → j ∈ l.take k := by
      rw [← hstart]
      exact h'.behind _ _ _ (hcut l' hk')
    have hmem : l'[k] ∈ s := (h'.mem_iff _).mp (List.getElem_mem hk')
    have hle := hleast _ _ _ (hcut l hk) _ hmem hnew hedges
    omega

/-- **The settled entries stand in the least topological order.** -/
theorem isLeast_settled (hdeps : ∀ i, ∀ d ∈ deps i, d < n) :
    IsLeast {l | Topological (fun i d => d ∈ deps i)
      {i | i < n ∧ CycleFree (fun i d => d ∈ deps i) i} l} (settled deps n) := by
  have hsettled : Topological (fun i d => d ∈ deps i)
      {i | i < n ∧ CycleFree (fun i d => d ∈ deps i) i} (settled deps n) :=
    ⟨sound_settled.nodup, fun _ => mem_settled_iff hdeps, sound_settled.before⟩
  refine ⟨hsettled, fun l' h' => hsettled.le h' ?_⟩
  intro l₁ i l₂ heq j hj hnew hedges
  exact (isLeast_available_of_settled heq).2 ⟨hj.1, hnew, hedges⟩

end Order

/-! ### The order of a batch -/

/-- The declaration at one place needs the wrapper at another: a type among its arguments
leads there. -/
def Needs (ps : List Pending) (i j : Nat) : Prop :=
  ∃ p q, ps[i]? = some p ∧ ps[j]? = some q ∧ j ≠ i ∧
    ∃ t ∈ p.types, batchWrapper? p.scope (namesOf ps) t = some q.target.name

theorem mem_dependencies_iff_needs {ps : List Pending} (hn : (namesOf ps).Nodup) {i j : Nat} :
    j ∈ dependencies ps i ↔ Needs ps i j := by
  cases hi : ps[i]? with
  | none => simp [dependencies, Needs, hi]
  | some p =>
    have hp : p ∈ ps := List.mem_of_getElem? hi
    -- different places have different names
    have hplace : ∀ {q : Pending}, ps[j]? = some q → (q.target.name ≠ p.target.name ↔ j ≠ i) := by
      intro q hj
      have hi' : (namesOf ps)[i]? = some p.target.name := by rw [namesOf, List.getElem?_map, hi]; rfl
      have hj' : (namesOf ps)[j]? = some q.target.name := by rw [namesOf, List.getElem?_map, hj]; rfl
      refine not_congr ⟨fun heq => ?_, fun heq => ?_⟩
      · have hidx := (idxOf?_eq_some_of_nodup hn).mpr hj'
        rw [heq, (idxOf?_eq_some_of_nodup hn).mpr hi'] at hidx
        exact (Option.some.inj hidx).symm
      · subst heq
        cases hi.symm.trans hj
        rfl
    rw [mem_dependencies_iff hn hi, Needs]
    constructor
    · rintro ⟨q, hj, hu⟩
      obtain ⟨hne, ht⟩ := mem_needs_iff.mp ((uses_iff_needs hn hp).mp hu)
      exact ⟨p, q, hi, hj, (hplace hj).mp hne, ht⟩
    · rintro ⟨p', q, hi', hj, hne, ht⟩
      cases hi.symm.trans hi'
      exact ⟨q, hj, (uses_iff_needs hn hp).mpr (mem_needs_iff.mpr ⟨(hplace hj).mpr hne, ht⟩)⟩

/-- **The order of a batch with different names.**  Counting down unmet dependencies ends
without a counter that goes below zero and gives the order.  First come the places from
which no cycle can be reached, in the least topological order; each of them is the least
place that can come next.  The other places follow in ascending order, and no place is
missing or comes twice. -/
theorem dependencyOrder_least {ps : List Pending} (hn : (namesOf ps).Nodup) :
    ∃ l r, Order.countedOrder? (dependencies ps) ps.length = some (l ++ r) ∧
      Order.dependencyOrder (dependencies ps) ps.length = l ++ r ∧
      IsLeast {m | Order.Topological (Needs ps)
        {i | i < ps.length ∧ Order.CycleFree (Needs ps) i} m} l ∧
      (∀ l₁ i l₂, l = l₁ ++ i :: l₂ →
        IsLeast {j | j < ps.length ∧ j ∉ l₁ ∧ ∀ k, Needs ps j k → k ∈ l₁} i) ∧
      r.Pairwise (· < ·) ∧
      (∀ i, i ∈ r ↔ i < ps.length ∧ ¬Order.CycleFree (Needs ps) i) ∧
      (l ++ r).Perm (List.range ps.length) := by
  have hedge : Needs ps = fun i j => j ∈ dependencies ps i :=
    funext fun _ => funext fun _ => propext (mem_dependencies_iff_needs hn).symm
  have hdeps : ∀ i, ∀ j ∈ dependencies ps i, j < ps.length := by
    intro i j hj
    obtain ⟨-, q, -, hq, -⟩ := (mem_dependencies_iff_needs hn).mp hj
    exact (List.getElem?_eq_some_iff.mp hq).1
  rw [hedge]
  refine ⟨Order.settled (dependencies ps) ps.length,
    (List.range ps.length).filter (!(Order.settled (dependencies ps) ps.length).contains ·),
    Order.countedOrder?_eq, Order.dependencyOrder_eq _ _, Order.isLeast_settled hdeps, ?_, ?_, ?_,
    Order.dependencyOrder_perm⟩
  · intro l₁ i l₂ heq
    exact Order.isLeast_available_of_settled heq
  · exact List.pairwise_lt_range.filter _
  · intro i
    simp only [List.mem_filter, List.mem_range, Bool.not_eq_true', List.contains_eq_mem,
      decide_eq_false_iff_not, Order.mem_settled_iff hdeps]
    exact ⟨fun h => ⟨h.1, fun hfree => h.2 ⟨h.1, hfree⟩⟩, fun h => ⟨h.1, fun hfree => h.2 hfree.2⟩⟩

namespace Generator

/-- A wrapper declared before the one it holds, two wrappers that hold each other, and one
that holds a wrapper of this pair. -/
def looped : List Pending :=
  [declared "Outer" [bare "Inner"] [], declared "Ping" [bare "Pong"] [],
    declared "Pong" [bare "Ping", bare "Ping"] [], declared "Inner" [bare "i32"] [],
    declared "Fan" [bare "Ping"] []]

/-- The pair and what holds it come last. -/
theorem dependencyOrder_least_looped : (namesOf looped).Nodup ∧
    Order.countedOrder? (dependencies looped) 5 = some [3, 0, 1, 2, 4] ∧
    ∃ l r, [3, 0, 1, 2, 4] = l ++ r ∧
      IsLeast {m | Order.Topological (Needs looped)
        {i | i < 5 ∧ Order.CycleFree (Needs looped) i} m} l ∧
      ∀ i, i ∈ r ↔ i < 5 ∧ ¬Order.CycleFree (Needs looped) i := by
  have hn : (namesOf looped).Nodup := by decide
  have horder : Order.dependencyOrder (dependencies looped) 5 = [3, 0, 1, 2, 4] := by decide
  obtain ⟨l, r, hcount, heq, hleast, -, -, hrest, -⟩ := dependencyOrder_least hn
  have hlr : [3, 0, 1, 2, 4] = l ++ r := horder.symm.trans heq
  exact ⟨hn, hcount.trans (congrArg some hlr.symm), l, r, hlr, hleast, hrest⟩

end Generator

end Newtype
