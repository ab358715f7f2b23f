import Newtype.Proofs.Output
import Newtype.Proofs.Rearrangement
import Newtype.Proofs.Refusals

/-!
# Who owns a name

Of several structs with one name the first that is in order takes the name, and each of the
others is reported: another wrapper already owns the file.  A name is taken before any
arguments are read, so the one that has it may turn out to have no wrapper, and then the
reports speak of a file that is not there.

* `bearers` — the declarations that ask for a name.
* `accepted_bearers`, `duplicates_bearers` — **the first of them is accepted, and the others
  are duplicates.**
* `Generator.DuplicatesOwned` — every report about a duplicate speaks of a file of the run.
* `duplicatesOwned_iff` — **this holds exactly if the first of several can be read.**
* `not_duplicatesOwned_ownerless` — it does not always hold.
-/

namespace Newtype

/-! ### Reports about duplicates -/

/-- A text in which a name stands twice tells the name. -/
theorem name_eq_of_twice {p q r s a b : String}
    (h : p ++ a ++ q ++ (a ++ r) ++ s = p ++ b ++ q ++ (b ++ r) ++ s) : a = b := by
  rw [← String.toList_inj] at h ⊢
  simp only [String.toList_append, List.append_assoc, List.append_cancel_left_eq] at h
  have hlength : a.toList.length = b.toList.length := by
    have := congrArg List.length h
    simp only [List.length_append] at this
    omega
  exact (List.append_inj h hlength).1

/-- The message about a duplicate tells its name. -/
theorem message_duplicate_injective {a b : String}
    (h : Rejection.message a .duplicate = Rejection.message b .duplicate) : a = b := by
  unfold Rejection.message artifactName at h
  exact name_eq_of_twice h

/-- The report says that a name already has a wrapper. -/
def Diagnostic.isDuplicate (w : String) (d : Diagnostic) : Bool :=
  d.code = .duplicate && d.message = Rejection.message w .duplicate

theorem isDuplicate_diagnostic {w : String} {r : Rejection} {t : Target} :
    (r.diagnostic t).isDuplicate w = true ↔ r = .duplicate ∧ t.name = w := by
  simp only [Diagnostic.isDuplicate, Bool.and_eq_true, decide_eq_true_eq]
  constructor
  · rintro ⟨hcode, hmessage⟩
    have hr : r = .duplicate := by
      cases r with
      | duplicate => rfl
      | _ => cases hcode
    subst hr
    exact ⟨rfl, message_duplicate_injective hmessage⟩
  · rintro ⟨rfl, rfl⟩
    exact ⟨rfl, rfl⟩

/-- A struct alone is never to blame for a duplicate. -/
theorem check_ne_duplicate (t : Target) : t.check ≠ some .duplicate := by
  unfold Target.check
  split
  · simp
  · split
    · simp
    · split <;> simp

/-! ### Declarations that ask for a name -/

/-- The declarations with a name whose structs are in order. -/
def bearers (w : String) (ps : List Pending) : List Pending :=
  ps.filter fun p => p.passes && p.target.name = w

theorem bearers_cons_of_pos {w : String} {p : Pending} (hp : p.passes = true)
    (hw : p.target.name = w) (ps : List Pending) : bearers w (p :: ps) = p :: bearers w ps :=
  List.filter_cons_of_pos (by simp [hp, hw])

theorem bearers_cons_of_not_passes {w : String} {p : Pending} {r : Rejection}
    (hr : p.target.check = some r) (ps : List Pending) :
    bearers w (p :: ps) = bearers w ps :=
  List.filter_cons_of_neg (by simp [Pending.passes, hr])

theorem bearers_cons_of_ne {w : String} {p : Pending} (hw : p.target.name ≠ w)
    (ps : List Pending) : bearers w (p :: ps) = bearers w ps :=
  List.filter_cons_of_neg (by simp [hw])

/-- **Of the declarations that ask for a name the first is accepted**, unless the name is
taken. -/
theorem accepted_bearers {w : String} : ∀ (ps : List Pending) (seen : List String),
    (screenFrom seen ps).2.filter (·.target.name = w) =
      if w ∈ seen then [] else (bearers w ps).take 1 := by
  intro ps
  induction ps with
  | nil => intro seen; simp [screenFrom, bearers]
  | cons p ps ih =>
    intro seen
    rcases screen_cases p seen with ⟨r, hr⟩ | ⟨hp, hs⟩ | ⟨hp, hs⟩
    · rw [screenFrom_cons_of_check hr, bearers_cons_of_not_passes hr, ih]
    · rw [screenFrom_cons_of_seen hp hs, ih]
      by_cases hw : p.target.name = w
      · rw [if_pos (hw ▸ hs), if_pos (hw ▸ hs)]
      · rw [bearers_cons_of_ne hw]
    · rw [screenFrom_cons_of_new hp hs]
      by_cases hw : p.target.name = w
      · subst hw
        rw [List.filter_cons_of_pos (by simp), ih, if_pos List.mem_cons_self, if_neg hs,
          bearers_cons_of_pos hp rfl, List.take_succ_cons, List.take_zero]
      · have hseen : w ∈ p.target.name :: seen ↔ w ∈ seen := by
          rw [List.mem_cons, or_iff_right (Ne.symm hw)]
        rw [List.filter_cons_of_neg (by simp [hw]), ih, bearers_cons_of_ne hw]
        simp only [hseen]

/-- **The others are duplicates**; all of them are if the name is taken. -/
theorem duplicates_bearers {w : String} : ∀ (ps : List Pending) (seen : List String),
    (screenFrom seen ps).1.filter (fun x => x.2 = .duplicate && x.1.name = w) =
      (if w ∈ seen then bearers w ps else (bearers w ps).tail).map (·.target, .duplicate) := by
  intro ps
  induction ps with
  | nil => intro seen; simp [screenFrom, bearers]
  | cons p ps ih =>
    intro seen
    rcases screen_cases p seen with ⟨r, hr⟩ | ⟨hp, hs⟩ | ⟨hp, hs⟩
    · have hne : r ≠ .duplicate := fun h => check_ne_duplicate _ (h ▸ hr)
      rw [screenFrom_cons_of_check hr, bearers_cons_of_not_passes hr,
        List.filter_cons_of_neg (by simp [hne]), ih]
    · rw [screenFrom_cons_of_seen hp hs]
      by_cases hw : p.target.name = w
      · subst hw
        rw [List.filter_cons_of_pos (by simp), ih, if_pos hs, if_pos hs,
          bearers_cons_of_pos hp rfl, List.map_cons]
      · rw [List.filter_cons_of_neg (by simp [hw]), ih, bearers_cons_of_ne hw]
    · rw [screenFrom_cons_of_new hp hs, ih]
      by_cases hw : p.target.name = w
      · subst hw
        rw [if_pos List.mem_cons_self, if_neg hs, bearers_cons_of_pos hp rfl, List.tail_cons]
      · have hseen : w ∈ p.target.name :: seen ↔ w ∈ seen := by
          rw [List.mem_cons, or_iff_right (Ne.symm hw)]
        rw [bearers_cons_of_ne hw]
        simp only [hseen]

namespace Generator

/-- The declaration that owns a name is the first that asks for it. -/
theorem mem_accepted_name_iff {g : Generator} {w : String} {p : Pending} :
    p ∈ g.accepted ∧ p.target.name = w ↔ (bearers w g.pending).head? = some p := by
  have hfilter : g.accepted.filter (·.target.name = w) = (bearers w g.pending).take 1 := by
    rw [accepted, screen, accepted_bearers, if_neg List.not_mem_nil]
  have hmem : p ∈ g.accepted ∧ p.target.name = w ↔
      p ∈ g.accepted.filter (·.target.name = w) := by
    rw [List.mem_filter, decide_eq_true_eq]
  rw [hmem, hfilter]
  cases bearers w g.pending with
  | nil => simp
  | cons q qs => simp [eq_comm]

/-- The reports of a run: those of screening, and then those that blame arguments. -/
theorem reports_screen (g : Generator) : ∃ late, (∀ d ∈ late, d.code = .malformed) ∧
    g.generate.2 = (screen g.pending).1.map (fun x => x.2.diagnostic x.1) ++ late := by
  refine ⟨((ordered g.accepted).map g.turn).filterMap Outcome.report?, ?_, ?_⟩
  · intro d hd
    obtain ⟨o, ho, hd⟩ := List.mem_filterMap.mp hd
    obtain ⟨p, -, rfl⟩ := List.mem_map.mp ho
    exact code_of_turn hd
  · rw [generate, reports_events, outcomes, (g.filter_outcomesFrom g.pending []).1,
      List.filterMap_map]
    exact congrArg (· ++ _) (congrFun List.filterMap_eq_map _)

/-- **Every declaration that asks for a name is reported as a duplicate, but for the
first.** -/
theorem reports_duplicate (g : Generator) (w : String) : g.generate.2.filter (·.isDuplicate w) =
    (bearers w g.pending).tail.map (Rejection.duplicate.diagnostic ·.target) := by
  obtain ⟨late, hlate, heq⟩ := g.reports_screen
  have hnone : late.filter (·.isDuplicate w) = [] := by
    refine List.filter_eq_nil_iff.mpr fun d hd => ?_
    simp [Diagnostic.isDuplicate, hlate d hd]
  have hpred : ((·.isDuplicate w) ∘ fun x : Rejected => x.2.diagnostic x.1) =
      fun x => decide (x.2 = .duplicate) && decide (x.1.name = w) := by
    funext x
    rw [Bool.eq_iff_iff, Function.comp_apply, isDuplicate_diagnostic]
    simp
  rw [heq, List.filter_append, hnone, List.append_nil, List.filter_map, hpred, screen,
    duplicates_bearers, if_neg List.not_mem_nil, List.map_map]
  rfl

/-- A name has a file exactly if the first declaration that asks for it can be read. -/
theorem mem_files_iff_readable {g : Generator} {w : String} :
    artifactName w ∈ g.generate.1.map (·.file) ↔
      ∃ p, (bearers w g.pending).head? = some p ∧ p.Readable := by
  rw [mem_generate_files_iff]
  refine exists_congr fun p => ?_
  rw [← mem_accepted_name_iff, and_assoc]
  exact and_congr_right fun _ => and_congr_right fun _ => exists_specification_iff

/-- Every report that a name already has a wrapper speaks of a file of the run. -/
def DuplicatesOwned (g : Generator) : Prop :=
  ∀ w, (∃ d ∈ g.generate.2, d.isDuplicate w = true) → ∃ a ∈ g.generate.1, a.file = artifactName w

/-- **Reports about duplicates speak of files exactly if the first of several declarations
with one name can always be read.**  Of the declarations that ask for a name, all but the
first are reported, and nothing else is reported as a duplicate of this name.  The name has
a file if and only if the first of them can be read; otherwise its arguments are blamed. -/
theorem duplicatesOwned_iff (g : Generator) :
    (∀ w, g.generate.2.filter (·.isDuplicate w) =
        (bearers w g.pending).tail.map (Rejection.duplicate.diagnostic ·.target)) ∧
      (∀ w, (∃ a ∈ g.generate.1, a.file = artifactName w) ↔
        ∃ p, (bearers w g.pending).head? = some p ∧ p.Readable) ∧
      (∀ w p, (bearers w g.pending).head? = some p → ¬p.Readable →
        ∃ m, (Rejection.malformed m).diagnostic p.target ∈ g.generate.2) ∧
      (g.DuplicatesOwned ↔ ∀ w p q ps, bearers w g.pending = p :: q :: ps → p.Readable) := by
  have hfile : ∀ w, (∃ a ∈ g.generate.1, a.file = artifactName w) ↔
      ∃ p, (bearers w g.pending).head? = some p ∧ p.Readable := by
    intro w
    rw [← mem_files_iff_readable, List.mem_map]
  have hreport : ∀ w, (∃ d ∈ g.generate.2, d.isDuplicate w = true) ↔
      (bearers w g.pending).tail ≠ [] := by
    intro w
    have hnil : g.generate.2.filter (·.isDuplicate w) = [] ↔ (bearers w g.pending).tail = [] := by
      rw [g.reports_duplicate, List.map_eq_nil_iff]
    rw [Ne, ← hnil, List.filter_eq_nil_iff]
    simp
  refine ⟨g.reports_duplicate, hfile, ?_, ?_⟩
  · intro w p hp hread
    obtain ⟨hacc, -⟩ := mem_accepted_name_iff.mpr hp
    cases hs : g.reading p with
    | ok s => exact absurd (exists_specification_iff.mp ⟨s, hs⟩) hread
    | error m =>
      refine ⟨m, List.mem_map.mpr ⟨(g.fullTarget p, .malformed m), ?_, ?_⟩⟩
      · exact mem_rejections.mpr (reject_mem_events.mpr (.inr ⟨p, hacc, m, hs, rfl⟩))
      · exact diagnostic_fullTarget g p _
  · constructor
    · intro howned w p q ps hps
      obtain ⟨p', hp', hread⟩ := (hfile w).mp (howned w ((hreport w).mpr (by simp [hps])))
      rw [hps, List.head?_cons, Option.some.injEq] at hp'
      exact hp' ▸ hread
    · intro hread w hw
      rw [hreport w] at hw
      rw [hfile w]
      match hps : bearers w g.pending, hw with
      | p :: q :: ps, _ => exact ⟨p, rfl, hread w p q ps hps⟩

/-- A struct whose arguments name a field without a type, and a second struct with its
name. -/
def ownerless : List Addition :=
  [.source "#[wrapper_value_object(\"Points\")] struct Score;" none,
    .source "#[wrapper_value_object(i32)] struct Score;" none]

/-- **A duplicate need not have an owner**: the second struct is reported, but the first has
no wrapper either. -/
theorem not_duplicatesOwned_ownerless : ¬(filled .builtin none ownerless).DuplicatesOwned := by
  obtain ⟨hreport, hfile⟩ :
      ((filled .builtin none ownerless).generate.2.any (·.isDuplicate "Score")) = true ∧
        (filled .builtin none ownerless).generate.1.map (·.file) = [sharedName] := by
    decide +kernel
  intro howned
  obtain ⟨a, ha, hname⟩ := howned "Score" (List.any_eq_true.mp hreport)
  have hmem : artifactName "Score" ∈ [sharedName] := hfile ▸ hname ▸ List.mem_map_of_mem ha
  exact artifactName_ne_sharedName _ (List.mem_singleton.mp hmem)

end Generator
end Newtype
