import Newtype.Proofs.Locality

/-!
# Declarations that screening refuses

A declaration that is refused because of its struct or its name leaves no trace but its
report: it takes no name, it is no type of the batch, and it has no turn.  So declarations
of this kind can be left out, any number of them and wherever they stand, and the others
get what they get with them.

* `Spares` — only declarations that are refused are left out.
* `Spares.screenFrom_eq` — the same declarations are accepted.
* `Spares.outcomesFrom_eq` — the others get the same.
* `generate_of_refused_left_out` — **a refused declaration does not disturb the others.**
-/

namespace Newtype

/-! ### Leaving out what is refused -/

/-- The declarations without a mark are refused, given the names that are taken. -/
inductive Spares : List String → List Pending → List Bool → Prop
  | nil {seen : List String} : Spares seen [] []
  | refused {seen : List String} {p : Pending} {r : Rejection} (h : p.refusal? seen = some r)
      (b : Bool) {ps : List Pending} {marks : List Bool} (rest : Spares seen ps marks) :
      Spares seen (p :: ps) (b :: marks)
  | accepted {seen : List String} {p : Pending} (h : p.refusal? seen = none)
      {ps : List Pending} {marks : List Bool} (rest : Spares (p.target.name :: seen) ps marks) :
      Spares seen (p :: ps) (true :: marks)

namespace Spares

variable {g : Generator}

/-- Only what is refused is left out if all that is left out gets a report of screening. -/
theorem of_outcomesFrom : ∀ {ps : List Pending} {seen : List String} {marks : List Bool},
    marks.length = ps.length →
      (∀ o ∈ pick (marks.map (!·)) (g.outcomesFrom seen ps), o.isScreening = true) →
        Spares seen ps marks := by
  intro ps
  induction ps with
  | nil =>
    intro seen marks hlen _
    rw [List.length_eq_zero_iff.mp hlen]
    exact .nil
  | cons p ps ih =>
    intro seen marks hlen hscreening
    cases marks with
    | nil => simp at hlen
    | cons b marks =>
      have hrest : marks.length = ps.length := by simpa using hlen
      cases hr : p.refusal? seen with
      | some r =>
        rw [Generator.outcomesFrom_cons_of_refused hr] at hscreening
        refine .refused hr b (ih hrest fun o ho => ?_)
        cases b with
        | true => exact hscreening o ho
        | false => exact hscreening o (List.mem_cons_of_mem _ ho)
      | none =>
        rw [Generator.outcomesFrom_cons_of_accepted hr] at hscreening
        cases b with
        | true => exact .accepted hr (ih hrest hscreening)
        | false =>
          -- it would have a turn, which gives no report of screening
          have hturn : (g.turn p).isScreening = true := hscreening _ List.mem_cons_self
          rw [g.isScreening_turn p] at hturn
          exact absurd hturn Bool.false_ne_true

/-- The same declarations are accepted. -/
theorem screenFrom_eq {seen : List String} {ps : List Pending} {marks : List Bool}
    (h : Spares seen ps marks) : (screenFrom seen (pick marks ps)).2 = (screenFrom seen ps).2 := by
  induction h with
  | nil => rfl
  | refused hr b _ ih =>
    rw [screenFrom_cons_of_refused hr]
    cases b with
    | true => rw [pick, screenFrom_cons_of_refused hr, ih]
    | false => rw [pick, ih]
  | accepted hr _ ih =>
    rw [pick, screenFrom_cons_of_accepted hr, screenFrom_cons_of_accepted hr, ih]

/-- The declarations that are left get the same, if this holds of those that have a turn. -/
theorem outcomesFrom_eq {g' : Generator} (hturn : ∀ p, g'.turn p = g.turn p)
    {seen : List String} {ps : List Pending} {marks : List Bool} (h : Spares seen ps marks) :
    g'.outcomesFrom seen (pick marks ps) = pick marks (g.outcomesFrom seen ps) := by
  induction h with
  | nil => rfl
  | refused hr b _ ih =>
    rw [Generator.outcomesFrom_cons_of_refused hr]
    cases b with
    | true => rw [pick, pick, Generator.outcomesFrom_cons_of_refused hr, ih]
    | false => rw [pick, pick, ih]
  | accepted hr _ ih =>
    rw [Generator.outcomesFrom_cons_of_accepted hr, pick, pick,
      Generator.outcomesFrom_cons_of_accepted hr, hturn, ih]

end Spares

/-! ### The run without them -/

namespace Generator

variable {g : Generator} {marks : List Bool}

theorem accepted_of_spares (h : Spares [] g.pending marks) :
    (g.restrict marks).accepted = g.accepted := h.screenFrom_eq

/-- Every declaration is read at its turn as before. -/
theorem turn_of_spares (h : Spares [] g.pending marks) (p : Pending) :
    (g.restrict marks).turn p = g.turn p := by
  have hnames : (g.restrict marks).names = g.names := by
    rw [Generator.names, Generator.names, accepted_of_spares h]
  have hbefore : (g.restrict marks).before p.target.name = g.before p.target.name := by
    rw [before, before, accepted_of_spares h]
  have hreading : (g.restrict marks).reading p = g.reading p := by
    rw [reading, reading, hbefore, knownAfter, knownAfter, hnames]
    rfl
  rw [turn, turn, hreading]
  rfl

theorem turns_of_spares (h : Spares [] g.pending marks) :
    (ordered (g.restrict marks).accepted).map (g.restrict marks).turn =
      (ordered g.accepted).map g.turn := by
  rw [accepted_of_spares h]
  exact List.map_congr_left fun p _ => turn_of_spares h p

/-- The reports of the turns blame the arguments. -/
theorem code_of_turn {p : Pending} {d : Diagnostic} (h : (g.turn p).report? = some d) :
    d.code = .malformed := by
  have hturn := g.isScreening_turn p
  cases ho : g.turn p with
  | file a => simp [ho, Outcome.report?] at h
  | report d' =>
    simp only [ho, Outcome.report?, Option.some.injEq] at h
    simpa [ho, Outcome.isScreening, h] using hturn

/-- **A refused declaration does not disturb the others.**  Leave out any declarations that
get a report about their struct or their name.  The files stay the same, and every
declaration that is left gets what it gets with the others.  The reports are those about
structs and names, in the order in which the declarations wait, and then those that blame
the arguments: of the former, exactly those about the declarations that are left out are
missing, and the latter stay as they are. -/
theorem generate_of_refused_left_out (g : Generator) {marks : List Bool}
    (hlen : marks.length = g.pending.length)
    (hrefused : ∀ o ∈ pick (marks.map (!·)) g.outcomes, o.isScreening = true) :
    (g.restrict marks).generate.1 = g.generate.1 ∧
      (g.restrict marks).outcomes = pick marks g.outcomes ∧
      ∃ late, (∀ d ∈ late, d.code = .malformed) ∧
        g.generate.2 = (g.outcomes.filter (·.isScreening)).filterMap Outcome.report? ++ late ∧
        (g.restrict marks).generate.2 =
          ((pick marks g.outcomes).filter (·.isScreening)).filterMap Outcome.report? ++ late := by
  have hspares : Spares [] g.pending marks := .of_outcomesFrom hlen hrefused
  have houtcomes : (g.restrict marks).outcomes = pick marks g.outcomes :=
    hspares.outcomesFrom_eq (turn_of_spares hspares)
  have hfiles : (g.restrict marks).turnFiles = g.turnFiles := by
    rw [turnFiles, turnFiles, turns_of_spares hspares]
  refine ⟨?_, houtcomes, ((ordered g.accepted).map g.turn).filterMap Outcome.report?, ?_,
    g.reports_events, ?_⟩
  · rw [generate, generate, artifacts_eq, artifacts_eq, ownArtifacts_events, ownArtifacts_events,
      hfiles]
    rfl
  · intro d hd
    obtain ⟨o, ho, hd⟩ := List.mem_filterMap.mp hd
    obtain ⟨p, -, rfl⟩ := List.mem_map.mp ho
    exact code_of_turn hd
  · rw [generate, reports_events, houtcomes, turns_of_spares hspares]

/-- A wrapper, a struct in a function with its name, a second struct with its name, a name
without a type, and a wrapper that uses the first one. -/
def refusedBetween : Generator where
  pending := [.source 0 ⟨{ name := "Score", nested := true }, .ok [], ⟨[], []⟩⟩,
    declared "Score" [bare "i32"] [], nameOnly "Lone", declared "Score" [bare "Lone"] [],
    declared "Range" [bare "Score"] []]

/-- The struct in a function and the second struct are left out. -/
theorem generate_of_refused_left_out_refusedBetween :
    refusedBetween.generate.2.map (·.code) = [.nested, .duplicate, .malformed] ∧
      (refusedBetween.restrict [false, true, true, false, true]).generate.2.map (·.code) =
        [.malformed] ∧
      (refusedBetween.restrict [false, true, true, false, true]).generate.1 =
        refusedBetween.generate.1 ∧
      (refusedBetween.restrict [false, true, true, false, true]).outcomes =
        pick [false, true, true, false, true] refusedBetween.outcomes := by
  have hrefused : ∀ o ∈ pick ([false, true, true, false, true].map (!·)) refusedBetween.outcomes,
      o.isScreening = true := by
    decide
  have hsame := generate_of_refused_left_out refusedBetween (by rfl) hrefused
  exact ⟨by decide, by decide, hsame.1, hsame.2.1⟩

end Generator
end Newtype
