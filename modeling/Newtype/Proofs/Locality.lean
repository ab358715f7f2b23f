import Mathlib.Data.List.Find
import Mathlib.Data.List.Forall2
import Newtype.Proofs.Outcomes
import Newtype.Proofs.Traits

/-!
# Parts of a batch

A part of a batch that uses no wrapper outside it, and shares no name with the outside, is
generated in the batch as it would be alone.  What stands outside changes the places of
the declarations, the order in which they have their turns and what is known at each turn,
but the order of the part among itself stays, and so does what is known about its wrappers.
This holds also if there are cycles, inside or outside.

* `nextOf`, `ordered_eq_append` — the order of a batch in terms of names, without places.
* `Closed`, `ordered_filter` — **the order of a closed part is that of the whole batch.**
* `Agree`, `Agree.foldl_learn` — what is known about the wrappers of the part.
* `pick`, `Generator.Part` — a part of a batch.
* `generate_of_part` — **a part is generated in the batch as it is alone.**
-/

namespace Newtype

/-! ### The order in terms of names -/

/-- The declaration has not had its turn, but all it needs have. -/
def Pending.isNext (names done : List String) (p : Pending) : Bool :=
  !done.contains p.target.name && (p.needs names).all done.contains

theorem isNext_iff {names done : List String} {p : Pending} : p.isNext names done = true ↔
    p.target.name ∉ done ∧ ∀ b ∈ p.needs names, b ∈ done := by
  simp [Pending.isNext]

/-- The first declaration that can have its turn. -/
def nextOf (ps done : List Pending) : Option Pending :=
  ps.find? (·.isNext (namesOf ps) (namesOf done))

/-- The declarations at some places. -/
def lookUp (ps : List Pending) (places : List Nat) : List Pending := places.filterMap (ps[·]?)

section Places

variable {ps : List Pending} (hn : (namesOf ps).Nodup)

include hn

theorem place_unique {p q : Pending} {i j : Nat} (hi : ps[i]? = some p) (hj : ps[j]? = some q)
    (h : p.target.name = q.target.name) : i = j := by
  have key : ∀ {r : Pending} {k : Nat}, ps[k]? = some r →
      (namesOf ps).idxOf? r.target.name = some k := by
    intro r k hk
    rw [idxOf?_eq_some_of_nodup hn, namesOf, List.getElem?_map, hk, Option.map_some]
  have hp := key hi
  rw [h, key hj] at hp
  exact (Option.some.inj hp).symm

theorem name_mem_lookUp_iff {places : List Nat} {p : Pending} {i : Nat} (hi : ps[i]? = some p) :
    p.target.name ∈ namesOf (lookUp ps places) ↔ i ∈ places := by
  simp only [namesOf, lookUp, List.mem_map, List.mem_filterMap]
  constructor
  · rintro ⟨q, ⟨j, hmem, hj⟩, hname⟩
    rwa [place_unique hn hi hj hname.symm]
  · intro hmem
    exact ⟨p, ⟨i, hmem, hi⟩, rfl⟩

/-- A declaration can have its turn exactly if its place is next. -/
theorem isNext_lookUp_iff {places : List Nat} {p : Pending} {i : Nat} (hi : ps[i]? = some p) :
    p.isNext (namesOf ps) (namesOf (lookUp ps places)) = true ↔
      i ∉ places ∧ ∀ j ∈ dependencies ps i, j ∈ places := by
  have hp : p ∈ ps := List.mem_of_getElem? hi
  rw [isNext_iff, name_mem_lookUp_iff hn hi]
  refine and_congr_right fun _ => ?_
  constructor
  · intro h j hj
    obtain ⟨q, hq, hu⟩ := (mem_dependencies_iff hn hi).mp hj
    exact (name_mem_lookUp_iff hn hq).mp (h _ ((uses_iff_needs hn hp).mp hu))
  · intro h b hb
    have hu := (uses_iff_needs hn hp).mpr hb
    obtain ⟨q, hq, rfl⟩ := List.mem_map.mp hu.mem_right
    obtain ⟨j, hj⟩ := List.mem_iff_getElem?.mp hq
    exact (name_mem_lookUp_iff hn hj).mpr (h j ((mem_dependencies_iff hn hi).mpr ⟨q, hj, hu⟩))

/-- The next declaration is the one at the next place. -/
theorem nextOf_lookUp (places : List Nat) : nextOf ps (lookUp ps places) =
    (Order.next? (dependencies ps) ps.length places).bind (ps[·]?) := by
  have hfind : nextOf ps (lookUp ps places) = ((List.range ps.length).filterMap (ps[·]?)).find?
      (·.isNext (namesOf ps) (namesOf (lookUp ps places))) := by
    rw [filterMap_getElem?_range]
    rfl
  rw [hfind, List.find?_filterMap, Order.next?]
  refine congrArg (Option.bind · _) (List.find?_congr fun i hi => ?_)
  have hget := List.getElem?_eq_getElem (List.mem_range.mp hi)
  rw [hget, Option.any_some, Bool.eq_iff_iff, isNext_lookUp_iff hn hget]
  simp [Order.ready_iff]

theorem exhausts_lookUp {places final : List Nat}
    (h : Order.Exhausts (Order.next? (dependencies ps) ps.length) places final) :
    Order.Exhausts (nextOf ps) (lookUp ps places) (lookUp ps final) := by
  induction h with
  | stop hnone => exact .stop (by rw [nextOf_lookUp hn, hnone, Option.bind_none])
  | @step places final i hsome _ ih =>
    have hlt : i < ps.length := (Order.of_next?_eq_some hsome).1
    have hget := List.getElem?_eq_getElem hlt
    refine .step (a := ps[i]) ?_ ?_
    · rw [nextOf_lookUp hn, hsome, Option.bind_some, hget]
    · rwa [lookUp, List.filterMap_append, List.filterMap_cons_some hget,
        List.filterMap_nil] at ih

/-- **The order of a batch**: the declarations that can have their turns one after the
other, and then the others as they stand. -/
theorem ordered_eq_append : ∃ front, Order.Exhausts (nextOf ps) [] front ∧
    Generator.ordered ps =
      front ++ ps.filter fun p => !(namesOf front).contains p.target.name := by
  refine ⟨_, exhausts_lookUp hn Order.exhausts_settled, ?_⟩
  rw [Generator.ordered, Order.dependencyOrder_eq, List.filterMap_append]
  refine congrArg (lookUp ps _ ++ ·) ?_
  -- the places that are left are those of the declarations that are left
  conv_rhs => arg 2; rw [← filterMap_getElem?_range ps]
  rw [List.filterMap_filter, List.filter_filterMap]
  refine List.filterMap_congr fun i hi => ?_
  have hget := List.getElem?_eq_getElem (List.mem_range.mp hi)
  rw [hget, Option.filter_some]
  simp only [List.contains_eq_mem, name_mem_lookUp_iff hn hget]

end Places

/-! ### Closed parts -/

/-- A part of some declarations, given by names, uses only wrappers with these names. -/
def Closed (ps : List Pending) (keep : String → Bool) : Prop :=
  ∀ p ∈ ps, keep p.target.name = true → ∀ t ∈ p.types, ∀ w,
    batchWrapper? p.scope (namesOf ps) t = some w → keep w = true

/-- The declarations with some names. -/
def keeping (keep : String → Bool) (ps : List Pending) : List Pending :=
  ps.filter fun p => keep p.target.name

@[simp] theorem keeping_nil (keep : String → Bool) : keeping keep [] = [] := rfl

theorem keeping_append (keep : String → Bool) (ps qs : List Pending) :
    keeping keep (ps ++ qs) = keeping keep ps ++ keeping keep qs := List.filter_append _ _

theorem keeping_cons_of_pos {keep : String → Bool} {p : Pending}
    (h : keep p.target.name = true) (ps : List Pending) :
    keeping keep (p :: ps) = p :: keeping keep ps := List.filter_cons_of_pos h

theorem keeping_cons_of_neg {keep : String → Bool} {p : Pending}
    (h : ¬keep p.target.name = true) (ps : List Pending) :
    keeping keep (p :: ps) = keeping keep ps := List.filter_cons_of_neg h

theorem mem_keeping {keep : String → Bool} {p : Pending} {ps : List Pending} :
    p ∈ keeping keep ps ↔ p ∈ ps ∧ keep p.target.name = true := List.mem_filter

/-- A type that leads to one of some names leads there also among more names, and the
other way round. -/
theorem batchWrapper?_of_subset {scope : Scope} {names₁ names₂ : List String} {t : TypeExpr}
    (hsub : ∀ w ∈ names₁, w ∈ names₂)
    (h : ∀ w, batchWrapper? scope names₂ t = some w → w ∈ names₁) :
    batchWrapper? scope names₁ t = batchWrapper? scope names₂ t := by
  unfold batchWrapper? at h ⊢
  cases hs : t.segments? with
  | none => rfl
  | some segments =>
    simp only [hs, Option.bind_some] at h ⊢
    cases hlast : (scope.expand segments).getLast? with
    | none => rfl
    | some last =>
      simp only [hlast, Option.bind_some] at h ⊢
      by_cases h₂ : isLocal (scope.expand segments) && names₂.contains last
      · have h₁ := h last (if_pos h₂)
        rw [Bool.and_eq_true] at h₂
        simp [h₁, h₂.1, hsub last h₁]
      · have h₁ : ¬(isLocal (scope.expand segments) && names₁.contains last) = true := by
          rw [Bool.and_eq_true] at h₂ ⊢
          rintro ⟨hlocal, hlast⟩
          rw [List.contains_iff_mem] at h₂ hlast
          exact h₂ ⟨hlocal, hsub last hlast⟩
        rw [if_neg h₁, if_neg h₂]

section Part

variable {ps : List Pending} {keep : String → Bool}

theorem mem_names_keeping {w : String} :
    w ∈ namesOf (keeping keep ps) ↔ w ∈ namesOf ps ∧ keep w = true := by
  simp only [namesOf, List.mem_map, mem_keeping]
  constructor
  · rintro ⟨p, ⟨hp, hk⟩, rfl⟩
    exact ⟨⟨p, hp, rfl⟩, hk⟩
  · rintro ⟨⟨p, hp, rfl⟩, hk⟩
    exact ⟨p, ⟨hp, hk⟩, rfl⟩

/-- In a closed part, types lead where they lead in the whole. -/
theorem Closed.batchWrapper?_eq (hc : Closed ps keep) {p : Pending} (hp : p ∈ ps)
    (hk : keep p.target.name = true) : ∀ t ∈ p.types,
      batchWrapper? p.scope (namesOf (keeping keep ps)) t =
        batchWrapper? p.scope (namesOf ps) t := by
  intro t ht
  refine batchWrapper?_of_subset (fun w hw => (mem_names_keeping.mp hw).1) fun w hw => ?_
  exact mem_names_keeping.mpr ⟨mem_of_batchWrapper?_eq_some hw, hc p hp hk t ht w hw⟩

theorem Closed.mem_needs_iff (hc : Closed ps keep) {p : Pending} (hp : p ∈ ps)
    (hk : keep p.target.name = true) {b : String} :
    b ∈ p.needs (namesOf (keeping keep ps)) ↔ b ∈ p.needs (namesOf ps) := by
  rw [Newtype.mem_needs_iff, Newtype.mem_needs_iff]
  refine and_congr_right fun _ => exists_congr fun t => and_congr_right fun ht => ?_
  rw [hc.batchWrapper?_eq hp hk t ht]

/-- A declaration of a closed part can have its turn in the part exactly if it can have it
in the whole. -/
theorem Closed.isNext_iff (hc : Closed ps keep) {p : Pending} (hp : p ∈ ps)
    (hk : keep p.target.name = true) (done : List Pending) :
    p.isNext (namesOf (keeping keep ps)) (namesOf (keeping keep done)) = true ↔
      p.isNext (namesOf ps) (namesOf done) = true := by
  rw [Newtype.isNext_iff, Newtype.isNext_iff, mem_names_keeping, and_iff_left hk]
  refine and_congr_right fun _ => ?_
  constructor
  · intro h b hb
    exact (mem_names_keeping.mp (h b ((hc.mem_needs_iff hp hk).mpr hb))).1
  · intro h b hb
    rw [hc.mem_needs_iff hp hk] at hb
    obtain ⟨-, t, ht, hw⟩ := Newtype.mem_needs_iff.mp hb
    exact mem_names_keeping.mpr ⟨h b hb, hc p hp hk t ht b hw⟩

theorem Closed.nextOf_eq_none (hc : Closed ps keep) {done : List Pending}
    (h : nextOf ps done = none) : nextOf (keeping keep ps) (keeping keep done) = none := by
  rw [nextOf, List.find?_eq_none] at h ⊢
  intro p hp
  obtain ⟨hp, hk⟩ := mem_keeping.mp hp
  rw [hc.isNext_iff hp hk]
  exact h p hp

theorem Closed.nextOf_eq_some (hc : Closed ps keep) {done : List Pending} {p : Pending}
    (h : nextOf ps done = some p) (hk : keep p.target.name = true) :
    nextOf (keeping keep ps) (keeping keep done) = some p := by
  obtain ⟨hnext, l, r, hsplit, hl⟩ := List.find?_eq_some_iff_append.mp h
  refine List.find?_eq_some_iff_append.mpr ⟨?_, keeping keep l, keeping keep r, ?_, ?_⟩
  · exact (hc.isNext_iff (hsplit ▸ by simp) hk done).mpr hnext
  · rw [hsplit, keeping_append, keeping_cons_of_pos hk]
  · -- none of those in front can have its turn
    intro q hq
    obtain ⟨hq, hkq⟩ := mem_keeping.mp hq
    have hnot := hl q hq
    rw [Bool.not_eq_true'] at hnot ⊢
    rw [← Bool.not_eq_true, hc.isNext_iff (hsplit ▸ by simp [hq]) hkq, hnot]
    simp

/-- The turns of the part are those among the turns of the whole. -/
theorem Closed.exhausts (hc : Closed ps keep) {done final : List Pending}
    (h : Order.Exhausts (nextOf ps) done final) :
    Order.Exhausts (nextOf (keeping keep ps)) (keeping keep done) (keeping keep final) := by
  induction h with
  | stop hnone => exact .stop (hc.nextOf_eq_none hnone)
  | @step done final p hsome _ ih =>
    rw [keeping_append] at ih
    by_cases hk : keep p.target.name = true
    · rw [keeping_cons_of_pos hk, keeping_nil] at ih
      exact .step (hc.nextOf_eq_some hsome hk) ih
    · -- a turn outside the part does not show in it
      rwa [keeping_cons_of_neg hk, keeping_nil, List.append_nil] at ih

/-- **The order of a closed part is that of the whole batch.** -/
theorem ordered_filter (hn : (namesOf ps).Nodup) (hc : Closed ps keep) :
    Generator.ordered (keeping keep ps) = keeping keep (Generator.ordered ps) := by
  have hnk : (namesOf (keeping keep ps)).Nodup := hn.sublist (List.filter_sublist.map _)
  obtain ⟨front, hfront, hord⟩ := ordered_eq_append hn
  obtain ⟨front', hfront', hord'⟩ := ordered_eq_append hnk
  have heq : front' = keeping keep front := hfront'.unique (hc.exhausts hfront)
  rw [hord, hord', heq, keeping_append]
  refine congrArg (keeping keep front ++ ·) ?_
  unfold keeping
  rw [List.filter_filter, List.filter_filter]
  refine List.filter_congr fun p _ => ?_
  rw [Bool.and_comm, ← keeping]
  by_cases hk : keep p.target.name = true
  · have hmem : p.target.name ∈ namesOf (keeping keep front) ↔ p.target.name ∈ namesOf front :=
      mem_names_keeping.trans (and_iff_left hk)
    simp only [List.contains_eq_mem, hmem]
  · simp [hk]

end Part

/-! ### What is known in a part -/

/-- The same is known about some wrappers. -/
def Agree (keep : String → Bool) (known known' : List (String × TraitSet)) : Prop :=
  ∀ w, keep w = true → known.lookup w = known'.lookup w

namespace Agree

variable {g : Generator} {ps : List Pending} {keep : String → Bool}
  {known known' : List (String × TraitSet)}

/-- A declaration of a closed part is read in the part as in the whole. -/
theorem specification_eq (h : Agree keep known known') (hc : Closed ps keep) {p : Pending}
    (hp : p ∈ ps) (hk : keep p.target.name = true) :
    g.specification (namesOf (keeping keep ps)) known p =
      g.specification (namesOf ps) known' p := by
  rw [Generator.specification_eq_specIn, Generator.specification_eq_specIn]
  refine specIn_congr (hc.batchWrapper?_eq hp hk) fun t ht w hw => ?_
  rw [hc.batchWrapper?_eq hp hk t ht] at hw
  exact h w (hc p hp hk t ht w hw)

/-- A turn in the part keeps the agreement. -/
theorem learn (h : Agree keep known known') (hc : Closed ps keep) {p : Pending} (hp : p ∈ ps)
    (hk : keep p.target.name = true) :
    Agree keep (g.learn (namesOf (keeping keep ps)) known p)
      (g.learn (namesOf ps) known' p) := by
  intro w hw
  by_cases hname : w = p.target.name
  · subst hname
    rw [Generator.lookup_learn_self, Generator.lookup_learn_self, h.specification_eq hc hp hk,
      h _ hw]
  · rw [Generator.lookup_learn_of_ne hname, Generator.lookup_learn_of_ne hname, h w hw]

/-- A turn outside the part keeps the agreement. -/
theorem learn_outside (h : Agree keep known known') {names : List String} {p : Pending}
    (hk : ¬keep p.target.name = true) : Agree keep known (g.learn names known' p) := by
  intro w hw
  have hname : w ≠ p.target.name := fun heq => hk (heq ▸ hw)
  rw [Generator.lookup_learn_of_ne hname, h w hw]

/-- **All turns keep the agreement.** -/
theorem foldl_learn (hc : Closed ps keep) : ∀ (l : List Pending)
    (known known' : List (String × TraitSet)), (∀ p ∈ l, p ∈ ps) → Agree keep known known' →
      Agree keep ((keeping keep l).foldl (g.learn (namesOf (keeping keep ps))) known)
        (l.foldl (g.learn (namesOf ps)) known') := by
  intro l
  induction l with
  | nil => intro known known' _ h; exact h
  | cons p l ih =>
    intro known known' hl h
    have hp := hl p List.mem_cons_self
    have hrest : ∀ q ∈ l, q ∈ ps := fun q hq => hl q (List.mem_cons_of_mem _ hq)
    by_cases hk : keep p.target.name = true
    · rw [keeping_cons_of_pos hk, List.foldl_cons, List.foldl_cons]
      exact ih _ _ hrest (h.learn hc hp hk)
    · rw [keeping_cons_of_neg hk, List.foldl_cons]
      exact ih _ _ hrest (h.learn_outside hk)

end Agree

/-! ### Marked declarations -/

/-- The entries of a list that have a mark. -/
def pick {α : Type} : List Bool → List α → List α
  | true :: marks, x :: xs => x :: pick marks xs
  | false :: marks, _ :: xs => pick marks xs
  | _, _ => []

theorem pick_sublist {α : Type} (xs : List α) : ∀ marks : List Bool,
    (pick marks xs).Sublist xs := by
  induction xs with
  | nil =>
    intro marks
    rcases marks with _ | ⟨b, marks⟩
    · exact List.Sublist.refl _
    · cases b <;> exact List.Sublist.refl _
  | cons x xs ih =>
    intro marks
    rcases marks with _ | ⟨b, marks⟩
    · exact List.nil_sublist _
    · cases b
      · exact (ih marks).cons x
      · exact (ih marks).cons_cons x

/-- The entries with a mark and those with the opposite one are all. -/
theorem pick_perm {α : Type} {xs : List α} : ∀ {marks : List Bool}, marks.length = xs.length →
    (pick marks xs ++ pick (marks.map (!·)) xs).Perm xs := by
  induction xs with
  | nil =>
    intro marks hlen
    rw [List.length_nil, List.length_eq_zero_iff] at hlen
    rw [hlen]
    exact .refl _
  | cons x xs ih =>
    intro marks hlen
    rcases marks with _ | ⟨b, marks⟩
    · simp at hlen
    · have hlen : marks.length = xs.length := by simpa using hlen
      have hrest := ih hlen
      cases b with
      | false => exact List.perm_middle.trans (hrest.cons x)
      | true => exact hrest.cons x

/-- Every entry has a mark or the opposite one. -/
theorem mem_pick_or {α : Type} {x : α} {xs : List α} {marks : List Bool}
    (hlen : marks.length = xs.length) (h : x ∈ xs) :
    x ∈ pick marks xs ∨ x ∈ pick (marks.map (!·)) xs :=
  List.mem_append.mp ((pick_perm hlen).mem_iff.mpr h)

/-- Among the declarations that are in order, the marked ones are those with some names. -/
def Divides (keep : String → Bool) (ps : List Pending) (marks : List Bool) : Prop :=
  List.Forall₂ (fun p b => p.passes = true → keep p.target.name = b) ps marks

theorem divides_of_pick {keep : String → Bool} {ps : List Pending} : ∀ {marks : List Bool},
    marks.length = ps.length →
      (∀ p ∈ pick marks ps, p.passes = true → keep p.target.name = true) →
        (∀ q ∈ pick (marks.map (!·)) ps, q.passes = true → keep q.target.name = false) →
          Divides keep ps marks := by
  induction ps with
  | nil =>
    intro marks hlen _ _
    rw [List.length_nil, List.length_eq_zero_iff] at hlen
    rw [hlen]
    exact .nil
  | cons p ps ih =>
    intro marks hlen hin hout
    rcases marks with _ | ⟨b, marks⟩
    · simp at hlen
    · have hlen' : marks.length = ps.length := by simpa using hlen
      cases b
      · exact .cons (hout p List.mem_cons_self)
          (ih hlen' hin fun q hq => hout q (List.mem_cons_of_mem _ hq))
      · exact .cons (hin p List.mem_cons_self)
          (ih hlen' (fun q hq => hin q (List.mem_cons_of_mem _ hq)) hout)

/-- The same ones of some names are taken. -/
def SameTaken (keep : String → Bool) (seen' seen : List String) : Prop :=
  ∀ w, keep w = true → (w ∈ seen' ↔ w ∈ seen)

theorem SameTaken.cons {keep : String → Bool} {seen' seen : List String}
    (h : SameTaken keep seen' seen) (a : String) : SameTaken keep (a :: seen') (a :: seen) := by
  intro w hw
  rw [List.mem_cons, List.mem_cons, h w hw]

theorem SameTaken.cons_outside {keep : String → Bool} {seen' seen : List String}
    (h : SameTaken keep seen' seen) {a : String} (ha : keep a = false) :
    SameTaken keep seen' (a :: seen) := by
  intro w hw
  have hne : w ≠ a := by
    rintro rfl
    rw [hw] at ha
    cases ha
  rw [List.mem_cons, or_iff_right hne, h w hw]

/-- A marked declaration is refused in the part for the same reason as in the whole. -/
theorem SameTaken.refusal?_eq {keep : String → Bool} {seen' seen : List String}
    (h : SameTaken keep seen' seen) {p : Pending}
    (hp : p.passes = true → keep p.target.name = true) :
    p.refusal? seen' = p.refusal? seen := by
  by_cases hpass : p.passes = true
  · exact refusal?_congr (h _ (hp hpass))
  · -- the struct is to blame, whatever names are taken
    rw [Pending.passes, Option.isNone_iff_eq_none] at hpass
    obtain ⟨r, hr⟩ := Option.ne_none_iff_exists'.mp hpass
    simp [Pending.refusal?, hr]

/-- The accepted declarations of the part are those of the whole with some names. -/
theorem screenFrom_pick {keep : String → Bool} {ps : List Pending} {marks : List Bool}
    (h : Divides keep ps marks) : ∀ {seen' seen : List String}, SameTaken keep seen' seen →
      (screenFrom seen' (pick marks ps)).2 = keeping keep (screenFrom seen ps).2 := by
  induction h with
  | nil => intro seen' seen _; rfl
  | @cons p b ps marks hp _ ih =>
    intro seen' seen hseen
    cases b with
    | true =>
      rw [pick]
      have hsame := hseen.refusal?_eq hp
      cases hr : p.refusal? seen with
      | some r =>
        rw [hr] at hsame
        rw [screenFrom_cons_of_refused hr, screenFrom_cons_of_refused hsame]
        exact ih hseen
      | none =>
        rw [hr] at hsame
        have hk := hp (refusal?_eq_none_iff.mp hr).1
        rw [screenFrom_cons_of_accepted hr, screenFrom_cons_of_accepted hsame,
          keeping_cons_of_pos hk, ih (hseen.cons _)]
    | false =>
      rw [pick]
      cases hr : p.refusal? seen with
      | some r =>
        rw [screenFrom_cons_of_refused hr]
        exact ih hseen
      | none =>
        have hk := hp (refusal?_eq_none_iff.mp hr).1
        rw [screenFrom_cons_of_accepted hr, keeping_cons_of_neg (by simp [hk])]
        exact ih (hseen.cons_outside hk)

/-- What the declarations of the part get is what they get in the whole, if this holds of
those that have a turn. -/
theorem outcomesFrom_pick {keep : String → Bool} {g' g : Generator} {ps : List Pending}
    {marks : List Bool} (h : Divides keep ps marks) : ∀ {seen' seen : List String},
      SameTaken keep seen' seen →
        (∀ p ∈ (screenFrom seen' (pick marks ps)).2, g'.turn p = g.turn p) →
          g'.outcomesFrom seen' (pick marks ps) = pick marks (g.outcomesFrom seen ps) := by
  induction h with
  | nil => intro seen' seen _ _; rfl
  | @cons p b ps marks hp _ ih =>
    intro seen' seen hseen hturn
    cases b with
    | true =>
      rw [pick] at hturn ⊢
      have hsame := hseen.refusal?_eq hp
      cases hr : p.refusal? seen with
      | some r =>
        rw [hr] at hsame
        rw [screenFrom_cons_of_refused hsame] at hturn
        rw [Generator.outcomesFrom_cons_of_refused hr,
          Generator.outcomesFrom_cons_of_refused hsame, pick, ih hseen hturn]
      | none =>
        rw [hr] at hsame
        rw [screenFrom_cons_of_accepted hsame] at hturn
        rw [Generator.outcomesFrom_cons_of_accepted hr,
          Generator.outcomesFrom_cons_of_accepted hsame, pick, hturn p List.mem_cons_self,
          ih (hseen.cons _) fun q hq => hturn q (List.mem_cons_of_mem _ hq)]
    | false =>
      rw [pick] at hturn ⊢
      cases hr : p.refusal? seen with
      | some r =>
        rw [Generator.outcomesFrom_cons_of_refused hr, pick]
        exact ih hseen hturn
      | none =>
        have hk := hp (refusal?_eq_none_iff.mp hr).1
        rw [Generator.outcomesFrom_cons_of_accepted hr, pick]
        exact ih (hseen.cons_outside hk) hturn

/-! ### Parts of a batch -/

namespace Generator

/-- The generator with the marked declarations only. -/
def restrict (g : Generator) (marks : List Bool) : Generator :=
  { g with pending := pick marks g.pending }

/-- The marked declarations are a part of the batch: those of them that are in order share
no name with such ones outside, and none of their types leads to a wrapper outside. -/
structure Part (g : Generator) (marks : List Bool) : Prop where
  length : marks.length = g.pending.length
  names : ∀ p ∈ pick marks g.pending, p.passes = true →
    ∀ q ∈ pick (marks.map (!·)) g.pending, q.passes = true → p.target.name ≠ q.target.name
  closed : ∀ p ∈ pick marks g.pending, ∀ t ∈ p.types,
    ∀ q ∈ pick (marks.map (!·)) g.pending, q.passes = true →
      batchWrapper? p.scope g.names t ≠ some q.target.name

/-- The names of the marked declarations that are in order. -/
def keptNames (g : Generator) (marks : List Bool) (w : String) : Bool :=
  (namesOf ((pick marks g.pending).filter Pending.passes)).contains w

theorem keptNames_eq_true_iff {g : Generator} {marks : List Bool} {w : String} :
    g.keptNames marks w = true ↔
      ∃ p ∈ pick marks g.pending, p.passes = true ∧ p.target.name = w := by
  simp [keptNames, namesOf, and_assoc]

namespace Part

variable {g : Generator} {marks : List Bool}

theorem divides (h : g.Part marks) : Divides (g.keptNames marks) g.pending marks := by
  refine divides_of_pick h.length ?_ ?_
  · intro p hp hpass
    exact keptNames_eq_true_iff.mpr ⟨p, hp, hpass, rfl⟩
  · intro q hq hpass
    rw [← Bool.not_eq_true, keptNames_eq_true_iff]
    rintro ⟨p, hp, hppass, hname⟩
    exact h.names p hp hppass q hq hpass hname

theorem accepted_eq (h : g.Part marks) :
    (g.restrict marks).accepted = keeping (g.keptNames marks) g.accepted :=
  screenFrom_pick h.divides fun _ _ => Iff.rfl

/-- An accepted declaration with a name of the part is marked. -/
theorem mem_pick (h : g.Part marks) {p : Pending} (hp : p ∈ g.accepted)
    (hk : g.keptNames marks p.target.name = true) : p ∈ pick marks g.pending := by
  obtain ⟨hmem, hpass, -⟩ := of_mem_screenFrom hp
  rcases mem_pick_or h.length hmem with hin | hout
  · exact hin
  · obtain ⟨q, hq, hqpass, hname⟩ := keptNames_eq_true_iff.mp hk
    exact absurd hname (h.names q hq hqpass p hout hpass)

theorem closed_accepted (h : g.Part marks) : Closed g.accepted (g.keptNames marks) := by
  intro p hp hk t ht w hw
  obtain ⟨q, hq, rfl⟩ := List.mem_map.mp (mem_of_batchWrapper?_eq_some hw)
  obtain ⟨hmem, hpass, -⟩ := of_mem_screenFrom hq
  rcases mem_pick_or h.length hmem with hin | hout
  · exact keptNames_eq_true_iff.mpr ⟨q, hin, hpass, rfl⟩
  · exact absurd hw (h.closed p (h.mem_pick hp hk) t ht q hout hpass)

theorem ordered_eq (h : g.Part marks) : ordered (g.restrict marks).accepted =
    keeping (g.keptNames marks) (ordered g.accepted) := by
  rw [h.accepted_eq]
  exact ordered_filter g.nodup_names h.closed_accepted

/-- **A declaration of the part is read at its turn as in the whole batch.** -/
theorem reading_eq (h : g.Part marks) {p : Pending} (hp : p ∈ (g.restrict marks).accepted) :
    (g.restrict marks).reading p = g.reading p := by
  rw [h.accepted_eq] at hp
  obtain ⟨hp, hk⟩ := mem_keeping.mp hp
  obtain ⟨l, r, hturn⟩ := exists_turn hp
  have hturn' : ordered (g.restrict marks).accepted =
      keeping (g.keptNames marks) l ++ p :: keeping (g.keptNames marks) r := by
    rw [h.ordered_eq, hturn, keeping_append, keeping_cons_of_pos hk]
  have hl : ∀ q ∈ l, q ∈ g.accepted :=
    fun q hq => (ordered_perm g.accepted).mem_iff.mp (hturn ▸ List.mem_append_left _ hq)
  have hknown := Agree.foldl_learn (g := g) h.closed_accepted l [] [] hl fun _ _ => rfl
  rw [reading_of_turn hturn, reading_of_turn hturn', knownAfter, knownAfter, Generator.names,
    Generator.names, h.accepted_eq]
  exact hknown.specification_eq h.closed_accepted hp hk

theorem turn_eq (h : g.Part marks) {p : Pending} (hp : p ∈ (g.restrict marks).accepted) :
    (g.restrict marks).turn p = g.turn p := by
  rw [turn, turn, h.reading_eq hp]
  rfl

theorem outcomes_eq (h : g.Part marks) :
    (g.restrict marks).outcomes = pick marks g.outcomes :=
  outcomesFrom_pick h.divides (fun _ _ => Iff.rfl) fun _ hp => h.turn_eq hp

/-- The turns of the part are among those of the whole batch, in the same order. -/
theorem turns_sublist (h : g.Part marks) :
    ((ordered (g.restrict marks).accepted).map (g.restrict marks).turn).Sublist
      ((ordered g.accepted).map g.turn) := by
  have hmap : (ordered (g.restrict marks).accepted).map (g.restrict marks).turn =
      (ordered (g.restrict marks).accepted).map g.turn := by
    refine List.map_congr_left fun p hp => h.turn_eq ?_
    exact (ordered_perm _).mem_iff.mp hp
  rw [hmap, h.ordered_eq]
  exact List.filter_sublist.map _

end Part

/-- **A part of a batch is generated in the batch as it is alone.**  Mark declarations of a
generator such that those in order share no name with such declarations outside, and
that no type among their arguments leads to a wrapper outside.  Alone they give files
that the whole batch gives as well, with the same texts; each of them gets the same, file
or report, in both runs; and the reports come in the same order.  What the whole batch reports
besides is what the declarations without a mark get. -/
theorem generate_of_part (g : Generator) {marks : List Bool} (h : g.Part marks) :
    (∀ a ∈ (g.restrict marks).generate.1, a ∈ g.generate.1) ∧
      (g.restrict marks).outcomes = pick marks g.outcomes ∧
      (g.restrict marks).generate.2.Sublist g.generate.2 ∧
      g.generate.2.Perm ((g.restrict marks).generate.2 ++
        (pick (marks.map (!·)) g.outcomes).filterMap Outcome.report?) := by
  refine ⟨?_, h.outcomes_eq, ?_, ?_⟩
  · intro a ha
    rw [mem_generate_iff_turn] at ha ⊢
    exact ha.imp_left fun hmem => (h.turns_sublist.filterMap _).subset hmem
  · rw [generate, generate, reports_events, reports_events, h.outcomes_eq]
    exact (((pick_sublist g.outcomes marks).filter _).filterMap _).append
      (h.turns_sublist.filterMap _)
  · -- every outcome belongs to a declaration with a mark or to one without
    have hlen : marks.length = g.outcomes.length := h.length.trans g.length_outcomes.symm
    have hpart := (g.restrict marks).reports_perm
    rw [h.outcomes_eq] at hpart
    refine (g.reports_perm.trans ((pick_perm hlen).symm.filterMap _)).trans ?_
    rw [List.filterMap_append]
    exact hpart.symm.append_right _

/-- Two wrappers that use each other, a name without a type and a struct in a function, with
a second pair around them, one wrapper of which uses the first pair. -/
def twoPairs : Generator where
  pending := [declared "Ping" [bare "Pong", bare "Left"] [], declared "Left" [bare "Right"] [],
    nameOnly "Lone", declared "Pong" [bare "Ping"] [],
    .source 0 ⟨{ name := "Ping", nested := true }, .ok [], ⟨[], []⟩⟩,
    declared "Right" [bare "Left"] []]

/-- The inner pair, the name without a type and the struct in a function are a part. -/
theorem generate_of_part_twoPairs :
    twoPairs.Part [false, true, true, false, true, true] ∧
      (twoPairs.restrict [false, true, true, false, true, true]).names =
        ["Left", "Lone", "Right"] ∧
      (∀ a ∈ (twoPairs.restrict [false, true, true, false, true, true]).generate.1,
        a ∈ twoPairs.generate.1) ∧
      (twoPairs.restrict [false, true, true, false, true, true]).outcomes =
        pick [false, true, true, false, true, true] twoPairs.outcomes ∧
      (twoPairs.restrict [false, true, true, false, true, true]).generate.2.Sublist
        twoPairs.generate.2 ∧
      twoPairs.generate.2.Perm
        ((twoPairs.restrict [false, true, true, false, true, true]).generate.2 ++
          (pick [true, false, false, true, false, false] twoPairs.outcomes).filterMap
            Outcome.report?) := by
  have hpart : twoPairs.Part [false, true, true, false, true, true] :=
    ⟨by decide, by decide, by decide⟩
  exact ⟨hpart, by decide, generate_of_part twoPairs hpart⟩

end Generator
end Newtype
