import Newtype.Proofs.Run

/-!
# What every declaration gets

A run gives each declaration that waits exactly one thing: the file of its wrapper, or a
report.  The list of events does not say which event belongs to which declaration, so the
outcomes are computed here for the declarations in the order in which they wait, and the
events are shown to be these outcomes, those of screening first.

* `Outcome` — a file or a report.
* `Generator.reading`, `Generator.turn` — what happens at the turn of an accepted
  declaration.
* `Pending.refusal?` — why screening refuses a declaration.
* `Generator.outcomes` — what every declaration gets.
* `outcomes_events` — **the events are the outcomes.**
* `turn_eq_file_iff`, `outcome_eq_file_iff` — which declarations get a file.
* `generate_outcomes` — **every declaration is accounted for exactly once.**
-/

namespace Newtype

/-- What a declaration gets in a run. -/
inductive Outcome where
  | file (a : Artifact)
  | report (d : Diagnostic)
  deriving DecidableEq

namespace Outcome

/-- The file, if the outcome is one. -/
def file? : Outcome → Option Artifact
  | .file a => some a
  | .report _ => none

/-- The report, if the outcome is one. -/
def report? : Outcome → Option Diagnostic
  | .file _ => none
  | .report d => some d

/-- The outcome is a report that does not blame the arguments. -/
def isScreening : Outcome → Bool
  | .file _ => false
  | .report d => d.code != .malformed

theorem file?_eq_some_iff {o : Outcome} {a : Artifact} : o.file? = some a ↔ o = .file a := by
  cases o <;> simp [file?]

/-- Files and reports are all there is. -/
theorem length_files_add_reports (os : List Outcome) :
    (os.filterMap file?).length + (os.filterMap report?).length = os.length := by
  induction os with
  | nil => rfl
  | cons o os ih =>
    cases o with
    | file a =>
      rw [List.filterMap_cons_some (rfl : file? (.file a) = some a),
        List.filterMap_cons_none (rfl : report? (.file a) = none)]
      simp only [List.length_cons]
      omega
    | report d =>
      rw [List.filterMap_cons_none (rfl : file? (.report d) = none),
        List.filterMap_cons_some (rfl : report? (.report d) = some d)]
      simp only [List.length_cons]
      omega

/-- Screening gives no files. -/
theorem filterMap_file?_filter (os : List Outcome) :
    (os.filter (!·.isScreening)).filterMap file? = os.filterMap file? := by
  rw [List.filterMap_filter]
  refine congrArg (List.filterMap · os) (funext fun o => ?_)
  cases o with
  | file a => rfl
  | report d => simp [file?]

end Outcome

/-! ### Reports about a struct -/

@[simp] theorem addMembers_location (t : Target) (ms : List UserMember) :
    (t.addMembers ms).location = t.location := by
  unfold Target.addMembers
  induction ms generalizing t with
  | nil => rfl
  | cons m ms ih =>
    rw [List.foldl_cons, ih]
    cases m <;> rfl

/-- The members of a struct do not show in the reports about it. -/
theorem diagnostic_fullTarget (g : Generator) (p : Pending) (r : Rejection) :
    r.diagnostic (g.fullTarget p) = r.diagnostic p.target := by
  simp [Rejection.diagnostic, Generator.fullTarget]

theorem code_diagnostic (r : Rejection) (t : Target) : (r.diagnostic t).code = r.code := rfl

/-! ### Screening one declaration -/

/-- Why screening refuses a declaration, given the names that are taken. -/
def Pending.refusal? (seen : List String) (p : Pending) : Option Rejection :=
  p.target.check.or (if p.target.name ∈ seen then some .duplicate else none)

/-- Only which names are taken counts. -/
theorem refusal?_congr {seen₁ seen₂ : List String} {p : Pending}
    (h : p.target.name ∈ seen₁ ↔ p.target.name ∈ seen₂) :
    p.refusal? seen₁ = p.refusal? seen₂ := by
  simp only [Pending.refusal?, h]

theorem refusal?_eq_none_iff {seen : List String} {p : Pending} :
    p.refusal? seen = none ↔ p.passes = true ∧ p.target.name ∉ seen := by
  rw [Pending.refusal?, Option.or_eq_none_iff, Pending.passes, Option.isNone_iff_eq_none]
  simp

/-- A declaration that is refused is not in order, or its name is taken. -/
theorem of_refusal?_eq_some {seen : List String} {p : Pending} {r : Rejection}
    (h : p.refusal? seen = some r) : p.passes = true → p.target.name ∈ seen := by
  intro hp
  by_contra hs
  rw [refusal?_eq_none_iff.mpr ⟨hp, hs⟩] at h
  cases h

/-- Screening does not blame the arguments. -/
theorem code_ne_of_refusal? {seen : List String} {p : Pending} {r : Rejection}
    (h : p.refusal? seen = some r) : r.code ≠ .malformed := by
  have hne : ∀ m, r ≠ .malformed m := by
    rintro m rfl
    rcases Option.or_eq_some_iff.mp h with h | ⟨-, h⟩
    · exact Generator.check_ne_malformed _ _ h
    · split at h <;> cases h
  cases r with
  | malformed m => exact absurd rfl (hne m)
  | nested => exact DiagnosticCode.noConfusion
  | notFieldless => exact DiagnosticCode.noConfusion
  | generic => exact DiagnosticCode.noConfusion
  | duplicate => exact DiagnosticCode.noConfusion

theorem screenFrom_cons_of_refused {p : Pending} {seen : List String} {r : Rejection}
    (h : p.refusal? seen = some r) (ps : List Pending) : screenFrom seen (p :: ps) =
      ((p.target, r) :: (screenFrom seen ps).1, (screenFrom seen ps).2) := by
  rcases Option.or_eq_some_iff.mp h with h | ⟨hc, h⟩
  · exact screenFrom_cons_of_check h seen ps
  · split at h
    · next hs =>
      cases h
      exact screenFrom_cons_of_seen (Option.isNone_iff_eq_none.mpr hc) hs ps
    · cases h

theorem screenFrom_cons_of_accepted {p : Pending} {seen : List String}
    (h : p.refusal? seen = none) (ps : List Pending) : screenFrom seen (p :: ps) =
      ((screenFrom (p.target.name :: seen) ps).1,
        p :: (screenFrom (p.target.name :: seen) ps).2) := by
  obtain ⟨hp, hs⟩ := refusal?_eq_none_iff.mp h
  exact screenFrom_cons_of_new hp hs ps

/-! ### Declarations that can be read -/

/-- The arguments of a declaration can be read.  A declaration that comes with its fields
has none. -/
def Pending.Readable : Pending → Prop
  | .source _ d => ∃ args, d.arguments = .ok args ∧ Admissible args
  | .resolved _ _ => True

namespace Generator

/-- Whether arguments can be read does not depend on what is known. -/
theorem exists_specification_iff {g : Generator} {names : List String}
    {known : List (String × TraitSet)} {p : Pending} :
    (∃ s, g.specification names known p = .ok s) ↔ p.Readable := by
  cases p with
  | resolved t s => exact ⟨fun _ => trivial, fun _ => ⟨s, rfl⟩⟩
  | source i d =>
    simp only [specification, Pending.Readable, bind_eq_ok_iff,
      Specification.ofArguments_eq_ok_iff]
    constructor
    · rintro ⟨s, args, hargs, hadm, -⟩
      exact ⟨args, hargs, hadm⟩
    · rintro ⟨args, hargs, hadm⟩
      exact ⟨_, args, hargs, hadm, rfl⟩

/-! ### The turn of a declaration -/

/-- The declarations that are worked off before the one with a name. -/
def before (g : Generator) (w : String) : List Pending :=
  (ordered g.accepted).takeWhile (·.target.name != w)

/-- How an accepted declaration is read at its turn. -/
def reading (g : Generator) (p : Pending) : Except Malformed Specification :=
  g.specification g.names (g.knownAfter (g.before p.target.name)) p

theorem before_of_turn {g : Generator} {l r : List Pending} {p : Pending}
    (h : ordered g.accepted = l ++ p :: r) : g.before p.target.name = l := by
  have hl : ∀ q ∈ l, (q.target.name != p.target.name) = true := by
    intro q hq
    rw [bne_iff_ne]
    exact fun heq => (name_notMem_of_ordered h).1 (heq ▸ List.mem_map_of_mem hq)
  rw [before, h, List.takeWhile_append_of_pos hl, List.takeWhile_cons_of_neg (by simp),
    List.append_nil]

theorem reading_of_turn {g : Generator} {l r : List Pending} {p : Pending}
    (h : ordered g.accepted = l ++ p :: r) :
    g.reading p = g.specification g.names (g.knownAfter l) p := by
  rw [reading, before_of_turn h]

/-- What an accepted declaration gets at its turn. -/
def turn (g : Generator) (p : Pending) : Outcome :=
  match g.reading p with
  | .error m => .report ((Rejection.malformed m).diagnostic (g.fullTarget p))
  | .ok s => .file (g.artifact (g.planOf p s))

theorem isScreening_turn (g : Generator) (p : Pending) : (g.turn p).isScreening = false := by
  unfold turn
  cases g.reading p with
  | error m => rfl
  | ok s => rfl

/-- A declaration gets a file at its turn exactly if it can be read. -/
theorem turn_eq_file_iff {g : Generator} {p : Pending} :
    (∃ a, g.turn p = .file a) ↔ p.Readable := by
  have hreadable : (∃ s, g.reading p = .ok s) ↔ p.Readable := exists_specification_iff
  rw [← hreadable]
  unfold turn
  cases g.reading p with
  | error m => simp
  | ok s => simp

theorem file_of_turn {g : Generator} {p : Pending} {a : Artifact} (h : g.turn p = .file a) :
    a.file = artifactName p.target.name := by
  unfold turn at h
  cases hs : g.reading p with
  | error m => simp [hs] at h
  | ok s =>
    simp only [hs, Outcome.file.injEq] at h
    rw [← h]
    exact congrArg artifactName (g.planOf_typeName p s)

theorem report_of_turn {g : Generator} {p : Pending} {d : Diagnostic}
    (h : g.turn p = .report d) : ∃ r : Rejection, d = r.diagnostic p.target := by
  unfold turn at h
  cases hs : g.reading p with
  | error m =>
    simp only [hs, Outcome.report.injEq, diagnostic_fullTarget] at h
    exact ⟨_, h.symm⟩
  | ok s => simp [hs] at h

/-! ### All outcomes -/

/-- What a declaration gets, given the names that are taken. -/
def outcome (g : Generator) (seen : List String) (p : Pending) : Outcome :=
  match p.refusal? seen with
  | some r => .report (r.diagnostic p.target)
  | none => g.turn p

/-- What declarations get one after the other.  A declaration that is accepted takes its
name. -/
def outcomesFrom (g : Generator) : List String → List Pending → List Outcome
  | _, [] => []
  | seen, p :: ps =>
    g.outcome seen p ::
      g.outcomesFrom (if (p.refusal? seen).isSome then seen else p.target.name :: seen) ps

/-- What the declarations of a generator get, in the order in which they wait. -/
def outcomes (g : Generator) : List Outcome := g.outcomesFrom [] g.pending

theorem outcomesFrom_cons_of_refused {g : Generator} {p : Pending} {seen : List String}
    {r : Rejection} (h : p.refusal? seen = some r) (ps : List Pending) :
    g.outcomesFrom seen (p :: ps) =
      .report (r.diagnostic p.target) :: g.outcomesFrom seen ps := by
  simp [outcomesFrom, outcome, h]

theorem outcomesFrom_cons_of_accepted {g : Generator} {p : Pending} {seen : List String}
    (h : p.refusal? seen = none) (ps : List Pending) :
    g.outcomesFrom seen (p :: ps) = g.turn p :: g.outcomesFrom (p.target.name :: seen) ps := by
  simp [outcomesFrom, outcome, h]

/-- What screening and the turns contribute to the outcomes. -/
theorem filter_outcomesFrom (g : Generator) : ∀ (ps : List Pending) (seen : List String),
    (g.outcomesFrom seen ps).filter (·.isScreening) =
        (screenFrom seen ps).1.map (fun x => .report (x.2.diagnostic x.1)) ∧
      (g.outcomesFrom seen ps).filter (!·.isScreening) = (screenFrom seen ps).2.map g.turn := by
  intro ps
  induction ps with
  | nil => intro seen; exact ⟨rfl, rfl⟩
  | cons p ps ih =>
    intro seen
    cases hr : p.refusal? seen with
    | some r =>
      have hscreening : (Outcome.report (r.diagnostic p.target)).isScreening = true := by
        simpa [Outcome.isScreening, code_diagnostic] using code_ne_of_refusal? hr
      rw [outcomesFrom_cons_of_refused hr, screenFrom_cons_of_refused hr,
        List.filter_cons_of_pos hscreening, List.filter_cons_of_neg (by simp [hscreening]),
        (ih seen).1, (ih seen).2]
      exact ⟨rfl, rfl⟩
    | none =>
      have hturn := g.isScreening_turn p
      rw [outcomesFrom_cons_of_accepted hr, screenFrom_cons_of_accepted hr,
        List.filter_cons_of_neg (by simp [hturn]), List.filter_cons_of_pos (by simp [hturn]),
        (ih _).1, (ih _).2]
      exact ⟨rfl, rfl⟩

/-- **The outcome of each declaration, described without those before it.**  The names
that are taken are those of the declarations in front of it that are in order. -/
theorem getElem?_outcomesFrom (g : Generator) : ∀ (ps : List Pending) (seen : List String)
    (i : Nat), (g.outcomesFrom seen ps)[i]? =
      ps[i]?.map (g.outcome (seen ++ namesOf ((ps.take i).filter Pending.passes))) := by
  intro ps
  induction ps with
  | nil => intro seen i; simp [outcomesFrom]
  | cons p ps ih =>
    intro seen i
    cases i with
    | zero => simp [outcomesFrom, namesOf]
    | succ i =>
      rw [outcomesFrom, List.getElem?_cons_succ, List.getElem?_cons_succ, ih]
      refine congrArg (Option.map · ps[i]?) (funext fun q => ?_)
      -- a name is taken at the first declaration that is in order and has it
      have hmem : ∀ w, w ∈ (if (p.refusal? seen).isSome then seen else p.target.name :: seen) ++
          namesOf ((ps.take i).filter Pending.passes) ↔
          w ∈ seen ++ namesOf (((p :: ps).take (i + 1)).filter Pending.passes) := by
        intro w
        rw [List.take_succ_cons, List.filter_cons]
        cases hr : p.refusal? seen with
        | some r =>
          have htaken := of_refusal?_eq_some hr
          by_cases hp : p.passes = true
          · simp only [Option.isSome_some, if_true, hp, namesOf, List.map_cons, List.mem_append,
              List.mem_cons]
            constructor
            · rintro (hw | hw)
              · exact Or.inl hw
              · exact Or.inr (Or.inr hw)
            · rintro (hw | rfl | hw)
              · exact Or.inl hw
              · exact Or.inl (htaken hp)
              · exact Or.inr hw
          · simp [hp]
        | none =>
          obtain ⟨hp, -⟩ := refusal?_eq_none_iff.mp hr
          simp only [Option.isSome_none, Bool.false_eq_true, if_false, hp, if_true, namesOf,
            List.map_cons, List.mem_append, List.mem_cons]
          exact or_assoc.trans or_left_comm
      simp only [outcome, refusal?_congr (hmem q.target.name)]

theorem length_outcomes (g : Generator) : g.outcomes.length = g.pending.length := by
  have hlength : ∀ (ps : List Pending) (seen : List String),
      (g.outcomesFrom seen ps).length = ps.length := by
    intro ps
    induction ps with
    | nil => intro seen; rfl
    | cons p ps ih => intro seen; rw [outcomesFrom, List.length_cons, List.length_cons, ih]
  exact hlength g.pending []

/-- A declaration gets a file exactly if it is in order, its name is not taken and its
arguments can be read. -/
theorem outcome_eq_file_iff {g : Generator} {seen : List String} {p : Pending} :
    (∃ a, g.outcome seen p = .file a) ↔
      p.passes = true ∧ p.target.name ∉ seen ∧ p.Readable := by
  rw [← and_assoc, ← refusal?_eq_none_iff, ← turn_eq_file_iff (g := g)]
  unfold outcome
  cases p.refusal? seen with
  | some r => simp
  | none => simp

theorem file_of_outcome {g : Generator} {seen : List String} {p : Pending} {a : Artifact}
    (h : g.outcome seen p = .file a) : a.file = artifactName p.target.name := by
  unfold outcome at h
  cases hr : p.refusal? seen with
  | some r => simp [hr] at h
  | none => exact file_of_turn (by simpa [hr] using h)

theorem report_of_outcome {g : Generator} {seen : List String} {p : Pending} {d : Diagnostic}
    (h : g.outcome seen p = .report d) : ∃ r : Rejection, d = r.diagnostic p.target := by
  unfold outcome at h
  cases hr : p.refusal? seen with
  | some r => exact ⟨r, by simpa [hr] using h.symm⟩
  | none => exact report_of_turn (by simpa [hr] using h)

/-! ### The events of a run -/

/-- The outcome that an event is. -/
def outcomeOf (g : Generator) : Event → Option Outcome
  | .poll => none
  | .reject x => some (.report (x.2.diagnostic x.1))
  | .produce plan => some (.file (g.artifact plan))

theorem ownArtifacts_eq_filterMap (g : Generator) (es : List Event) :
    g.ownArtifacts es = (es.filterMap g.outcomeOf).filterMap Outcome.file? := by
  rw [ownArtifacts, List.filterMap_filterMap]
  refine congrArg (List.filterMap · es) (funext fun e => ?_)
  cases e <;> rfl

theorem reports_eq_filterMap (g : Generator) (es : List Event) :
    reports es = (es.filterMap g.outcomeOf).filterMap Outcome.report? := by
  rw [reports, rejections, List.map_filterMap, List.filterMap_filterMap]
  refine congrArg (List.filterMap · es) (funext fun e => ?_)
  cases e <;> rfl

/-- At its turn a declaration gets what it is said to get.  The induction is on the
declarations that are left, with those before them as a parameter. -/
theorem outcomes_work (g : Generator) : ∀ r l : List Pending, ordered g.accepted = l ++ r →
    (g.work g.names (g.knownAfter l) r).filterMap g.outcomeOf = r.map g.turn := by
  intro r
  induction r with
  | nil => intro l _; rfl
  | cons p r ih =>
    intro l hsplit
    have hnext : g.learn g.names (g.knownAfter l) p = g.knownAfter (l ++ [p]) := by
      rw [knownAfter, knownAfter, List.foldl_append, List.foldl_cons, List.foldl_nil]
    have hrest : ordered g.accepted = (l ++ [p]) ++ r := by
      rw [hsplit, List.append_assoc, List.singleton_append]
    have hhere : (happens (g.fullTarget p)
        (g.specification g.names (g.knownAfter l) p)).filterMap g.outcomeOf = [g.turn p] := by
      rw [turn, reading_of_turn hsplit]
      cases g.specification g.names (g.knownAfter l) p with
      | error m => rfl
      | ok s => rfl
    rw [work_cons, List.filterMap_append, hhere, hnext, ih _ hrest, List.map_cons,
      List.singleton_append]

/-- **The events are the outcomes**: those of screening, in the order in which the
declarations wait, and then those of the turns. -/
theorem outcomes_events (g : Generator) : g.events.filterMap g.outcomeOf =
    g.outcomes.filter (·.isScreening) ++ (ordered g.accepted).map g.turn := by
  rw [events_eq, List.filterMap_append, outcomes, (g.filter_outcomesFrom g.pending []).1]
  refine congrArg₂ (· ++ ·) ?_ (outcomes_work g (ordered g.accepted) [] rfl)
  rw [List.filterMap_map]
  exact congrFun List.filterMap_eq_map _

/-- The turns give what screening has left open. -/
theorem turns_perm (g : Generator) : ((ordered g.accepted).map g.turn).Perm
    (g.outcomes.filter (!·.isScreening)) := by
  rw [outcomes, (g.filter_outcomesFrom g.pending []).2]
  exact (ordered_perm g.accepted).map _

theorem events_perm_outcomes (g : Generator) :
    (g.events.filterMap g.outcomeOf).Perm g.outcomes := by
  rw [outcomes_events]
  exact ((turns_perm g).append_left _).trans (List.filter_append_perm _ _)

/-! ### Files and reports -/

/-- The files of the turns. -/
def turnFiles (g : Generator) : List Artifact :=
  ((ordered g.accepted).map g.turn).filterMap Outcome.file?

theorem ownArtifacts_events (g : Generator) : g.ownArtifacts g.events = g.turnFiles := by
  have hnone : (g.outcomes.filter (·.isScreening)).filterMap Outcome.file? = [] := by
    rw [List.filterMap_eq_nil_iff]
    intro o ho
    obtain ⟨-, ho⟩ := List.mem_filter.mp ho
    cases o with
    | file a => cases ho
    | report d => rfl
  rw [ownArtifacts_eq_filterMap, outcomes_events, List.filterMap_append, hnone,
    List.nil_append, turnFiles]

/-- What a run gives besides the shared file comes from its turns. -/
theorem mem_generate_iff_turn {g : Generator} {a : Artifact} :
    a ∈ g.generate.1 ↔ a ∈ g.turnFiles ∨ a = g.sharedArtifact := by
  rw [generate, artifacts_eq, List.mem_append, List.mem_mergeSort, ownArtifacts_events,
    List.mem_singleton]

/-- The wrappers have different files. -/
theorem pairwise_turnFiles (g : Generator) : g.turnFiles.Pairwise fun a b => a.file ≠ b.file := by
  have hnames : (ordered g.accepted).Pairwise fun p q => p.target.name ≠ q.target.name :=
    List.pairwise_map.mp g.nodup_names_ordered
  rw [turnFiles, List.filterMap_map]
  refine hnames.filterMap _ fun p q hne a ha b hb heq => hne ?_
  rw [file_of_turn (Outcome.file?_eq_some_iff.mp ha),
    file_of_turn (Outcome.file?_eq_some_iff.mp hb)] at heq
  exact artifactName_injective heq

/-- Sorted files with different names ascend strictly. -/
theorem pairwise_lt_mergeSort {as : List Artifact}
    (h : as.Pairwise fun a b => a.file ≠ b.file) :
    (as.mergeSort fun a b => a.file ≤ b.file).Pairwise fun a b => a.file < b.file := by
  have hne : (as.mergeSort fun a b => a.file ≤ b.file).Pairwise fun a b => a.file ≠ b.file :=
    ((List.mergeSort_perm as _).pairwise_iff fun hab => Ne.symm hab).mpr h
  refine ((sorted_mergeSort as).and hne).imp fun {a b} hab => ?_
  by_contra hlt
  exact hab.2 (String.le_antisymm hab.1 (String.not_lt.mp hlt))

/-- The files of a run: those among the outcomes by name, and the shared one. -/
theorem generate_files (g : Generator) : ∃ own, g.generate.1 = own ++ [g.sharedArtifact] ∧
    own.Perm (g.outcomes.filterMap Outcome.file?) ∧ own.Pairwise (fun a b => a.file < b.file) ∧
    ∀ a ∈ own, a.file ≠ g.sharedArtifact.file := by
  refine ⟨_, artifacts_eq g g.events, ?_, ?_, ?_⟩
  · rw [ownArtifacts_events, ← Outcome.filterMap_file?_filter]
    exact (List.mergeSort_perm _ _).trans ((turns_perm g).filterMap _)
  · rw [ownArtifacts_events]
    exact pairwise_lt_mergeSort g.pairwise_turnFiles
  · intro a ha
    rw [List.mem_mergeSort] at ha
    obtain ⟨plan, -, rfl⟩ := mem_ownArtifacts.mp ha
    exact artifactName_ne_sharedName plan.typeName

/-- The reports of a run: those of screening, then those of the turns. -/
theorem reports_events (g : Generator) : reports g.events =
    (g.outcomes.filter (·.isScreening)).filterMap Outcome.report? ++
      ((ordered g.accepted).map g.turn).filterMap Outcome.report? := by
  rw [reports_eq_filterMap g, outcomes_events, List.filterMap_append]

/-- The reports of a run are those among what the declarations get. -/
theorem reports_perm (g : Generator) :
    g.generate.2.Perm (g.outcomes.filterMap Outcome.report?) := by
  rw [generate, reports_eq_filterMap g]
  exact g.events_perm_outcomes.filterMap _

/-- All outcomes are among the events. -/
theorem length_generate (g : Generator) :
    g.generate.1.length + g.generate.2.length = g.pending.length + 1 := by
  have hcount := Outcome.length_files_add_reports (g.events.filterMap g.outcomeOf)
  rw [g.events_perm_outcomes.length_eq, g.length_outcomes, ← ownArtifacts_eq_filterMap,
    ← reports_eq_filterMap] at hcount
  simp only [generate, artifacts_eq, List.length_append, List.length_mergeSort,
    List.length_singleton]
  omega

/-- No declaration in order in front of a place has a name. -/
theorem name_notMem_take_iff {ps : List Pending} {i : Nat} {w : String} :
    w ∉ namesOf ((ps.take i).filter Pending.passes) ↔
      ∀ (j : Nat) (q : Pending), j < i → ps[j]? = some q → q.passes = true →
        q.target.name ≠ w := by
  rw [namesOf, List.mem_map]
  constructor
  · intro h j q hj hq hpass heq
    have hmem : q ∈ ps.take i := List.mem_of_getElem? ((List.getElem?_take_of_lt hj).trans hq)
    exact h ⟨q, List.mem_filter.mpr ⟨hmem, hpass⟩, heq⟩
  · rintro h ⟨q, hq, heq⟩
    obtain ⟨hmem, hpass⟩ := List.mem_filter.mp hq
    obtain ⟨j, hj⟩ := List.mem_iff_getElem?.mp hmem
    rw [List.getElem?_take] at hj
    split at hj
    · next hlt => exact h j q hlt hj hpass heq
    · cases hj

/-- **Every declaration is accounted for exactly once.**  Each declaration that waits has
one outcome, a file or a report, and the files and reports of a run are these outcomes
and the file that all wrappers share.  A declaration gets a file exactly if its struct is
in order, no declaration with the same name and a struct in order stands in front of it,
and its arguments can be read.  The files ascend by name, and the shared one comes last.
The reports about structs and their names come first, in the order in which the
declarations wait, and then those that blame the arguments. -/
theorem generate_outcomes (g : Generator) :
    g.generate.1.length + g.generate.2.length = g.pending.length + 1 ∧
    g.outcomes.length = g.pending.length ∧
    (∀ (i : Nat) (p : Pending), g.pending[i]? = some p → ∃ o, g.outcomes[i]? = some o ∧
      ((∃ a, o = .file a) ↔ p.passes = true ∧
        (∀ (j : Nat) (q : Pending), j < i → g.pending[j]? = some q → q.passes = true →
          q.target.name ≠ p.target.name) ∧ p.Readable) ∧
      (∀ a, o = .file a → a.file = artifactName p.target.name) ∧
      ∀ d, o = .report d → ∃ r : Rejection, d = r.diagnostic p.target) ∧
    (∃ own, g.generate.1 = own ++ [g.sharedArtifact] ∧
      own.Perm (g.outcomes.filterMap Outcome.file?) ∧
      own.Pairwise (fun a b => a.file < b.file) ∧ ∀ a ∈ own, a.file ≠ g.sharedArtifact.file) ∧
    ∃ late, g.generate.2 = (g.outcomes.filter (·.isScreening)).filterMap Outcome.report? ++ late ∧
      late.Perm ((g.outcomes.filter (!·.isScreening)).filterMap Outcome.report?) := by
  refine ⟨g.length_generate, g.length_outcomes, ?_, g.generate_files, _, g.reports_events,
    (turns_perm g).filterMap _⟩
  intro i p hp
  refine ⟨g.outcome (namesOf ((g.pending.take i).filter Pending.passes)) p, ?_, ?_,
    fun a => file_of_outcome, fun d => report_of_outcome⟩
  · rw [outcomes, getElem?_outcomesFrom, hp, List.nil_append, Option.map_some]
  · rw [outcome_eq_file_iff, name_notMem_take_iff]

end Generator
end Newtype
