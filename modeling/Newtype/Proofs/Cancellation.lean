import Newtype.Proofs.Run

/-!
# Runs that can be cancelled

A run looks at its flag before it reads a declaration and once more before it keeps the
file; a declaration that cannot be read is reported between the two.  Nothing is said about
the flag: it may be set and cleared at any moment, so each look may find either value.  Only
looks that are made count, and the first one that finds the flag set is the last.

* `looks`, `readAfter` — what a look finds that comes after some events.
* `LookedAt` — the looks that a run makes.
* `untilSet_of_unset`, `untilSet_of_set` — a run up to the first look that finds the flag set.
* `generateCancellable_all_or_nothing` — **a cancelled run gives no files.**
-/

namespace Newtype

/-- A flag: what a look finds, given the number of looks before it and what has been
reported. -/
abbrev Flag := Nat → List Diagnostic → Bool

namespace Generator

/-! ### Looks -/

/-- The number of looks among some events. -/
def looks : List Event → Nat
  | [] => 0
  | .poll :: es => looks es + 1
  | .reject _ :: es | .produce _ :: es => looks es

@[simp] theorem looks_append (es fs : List Event) : looks (es ++ fs) = looks es + looks fs := by
  induction es with
  | nil => simp [looks]
  | cons e es ih =>
    cases e with
    | poll => simp only [List.cons_append, looks, ih]; omega
    | reject x => simpa only [List.cons_append, looks] using ih
    | produce p => simpa only [List.cons_append, looks] using ih

@[simp] theorem reports_append (es fs : List Event) :
    reports (es ++ fs) = reports es ++ reports fs := by
  simp [reports, rejections]

/-- A look that comes after some events is one of the looks behind them. -/
theorem looks_lt_of_prefix {es run : List Event} (h : es ++ [.poll] <+: run) :
    looks es < looks run := by
  obtain ⟨rest, rfl⟩ := h
  simp only [looks_append, looks]
  omega

/-- What a look finds that comes right after some events. -/
def readAfter (flag : Flag) (es : List Event) : Bool := flag (looks es) (reports es)

/-- A look comes right after some events of a run, and it is made: none before it has found
the flag set. -/
structure LookedAt (flag : Flag) (run es : List Event) : Prop where
  look : es ++ [.poll] <+: run
  unset : ∀ fs, fs ++ [.poll] <+: es → readAfter flag fs = false

/-! ### Up to the first look that finds the flag set -/

/-- One event happens, unless it is a look that finds the flag set.  `past` is what has
happened before. -/
theorem untilSet_cons {flag : Flag} {past : List Event} {e : Event}
    (h : e = .poll → readAfter flag past = false) (es : List Event) :
    untilSet flag (looks past) (reports past) (e :: es) =
      (e :: (untilSet flag (looks (past ++ [e])) (reports (past ++ [e])) es).1,
        (untilSet flag (looks (past ++ [e])) (reports (past ++ [e])) es).2) := by
  rw [looks_append, reports_append]
  cases e with
  | poll =>
    have hlook : flag (looks past) (reports past) = false := h rfl
    have hreports : reports past ++ reports [.poll] = reports past := List.append_nil _
    simp only [untilSet, hlook, Bool.false_eq_true, if_false, looks, hreports]
  | reject x => rfl
  | produce p =>
    have hreports : reports past ++ reports [.produce p] = reports past := List.append_nil _
    simp only [untilSet, looks, hreports, Nat.add_zero]

/-- Events happen as long as no look among them finds the flag set. -/
theorem untilSet_append {flag : Flag} (rest : List Event) : ∀ (es past : List Event),
    (∀ fs, fs ++ [.poll] <+: es → readAfter flag (past ++ fs) = false) →
      untilSet flag (looks past) (reports past) (es ++ rest) =
        (es ++ (untilSet flag (looks (past ++ es)) (reports (past ++ es)) rest).1,
          (untilSet flag (looks (past ++ es)) (reports (past ++ es)) rest).2) := by
  intro es
  induction es with
  | nil => intro past _; simp
  | cons e es ih =>
    intro past hunset
    have hfirst : e = .poll → readAfter flag past = false := by
      rintro rfl
      simpa using hunset [] ⟨es, rfl⟩
    have hlater : ∀ fs, fs ++ [.poll] <+: es → readAfter flag ((past ++ [e]) ++ fs) = false := by
      intro fs hfs
      have h := hunset (e :: fs) ((List.prefix_cons_inj e).mpr hfs)
      rwa [List.append_assoc, List.singleton_append]
    rw [List.cons_append, untilSet_cons hfirst, ih _ hlater, List.append_assoc,
      List.singleton_append, List.cons_append]

/-- A run whose looks all find the flag unset goes to its end. -/
theorem untilSet_of_unset {flag : Flag} {run : List Event}
    (h : ∀ es, es ++ [.poll] <+: run → readAfter flag es = false) :
    untilSet flag 0 [] run = (run, false) := by
  have hrun := untilSet_append [] run [] h
  rw [List.append_nil] at hrun
  exact hrun.trans (by simp [untilSet])

/-- The first look that finds the flag set ends the run. -/
theorem untilSet_of_set {flag : Flag} {run es : List Event} (h : LookedAt flag run es)
    (hset : readAfter flag es = true) : untilSet flag 0 [] run = (es, true) := by
  obtain ⟨rest, hrest⟩ := h.look
  have hstop : untilSet flag (looks es) (reports es) (.poll :: rest) = ([], true) := by
    have hlook : flag (looks es) (reports es) = true := hset
    simp only [untilSet, hlook, if_true]
  have hrun := untilSet_append (.poll :: rest) es [] h.unset
  rw [List.nil_append, hstop, List.append_nil] at hrun
  rw [← hrest, List.append_assoc, List.singleton_append]
  exact hrun

/-! ### The looks that are made -/

/-- If a look would find the flag set, then so does one that is made: the first of them. -/
theorem exists_lookedAt_set {flag : Flag} {run : List Event} : ∀ (n : Nat) (es : List Event),
    es.length = n → es ++ [.poll] <+: run → readAfter flag es = true →
      ∃ fs, LookedAt flag run fs ∧ readAfter flag fs = true := by
  intro n
  induction n using Nat.strong_induction_on with
  | _ n ih =>
    intro es hn hlook hset
    by_cases hfirst : ∀ fs, fs ++ [.poll] <+: es → readAfter flag fs = false
    · exact ⟨es, ⟨hlook, hfirst⟩, hset⟩
    · -- an earlier look finds it set
      push Not at hfirst
      obtain ⟨fs, hfs, hset'⟩ := hfirst
      have hlt : fs.length < n := by
        have hle := hfs.length_le
        simp only [List.length_append, List.length_singleton] at hle
        omega
      have hlook' : fs ++ [.poll] <+: run :=
        hfs.trans ((List.prefix_append es [.poll]).trans hlook)
      exact ih fs.length hlt fs rfl hlook' (by simpa using hset')

/-- If the looks that are made find the flag unset, all looks are made. -/
theorem unset_of_lookedAt {flag : Flag} {run : List Event}
    (h : ∀ es, LookedAt flag run es → readAfter flag es = false) :
    ∀ es, es ++ [.poll] <+: run → readAfter flag es = false := by
  intro es hlook
  by_contra hset
  rw [Bool.not_eq_false] at hset
  obtain ⟨fs, hfs, hset'⟩ := exists_lookedAt_set es.length es rfl hlook hset
  rw [h fs hfs] at hset'
  exact Bool.false_ne_true hset'

/-- Fewer events report less. -/
theorem reports_prefix {es fs : List Event} (h : es <+: fs) : reports es <+: reports fs := by
  obtain ⟨rest, rfl⟩ := h
  rw [reports_append]
  exact List.prefix_append _ _

/-- **A cancelled run gives no files.**  If every look that is made finds the flag unset, the
run gives the files and reports of a run that cannot be cancelled.  If some look finds it
set, there are no files, and what has been reported before this look is a first part of
what would have been reported. -/
theorem generateCancellable_all_or_nothing (g : Generator) (flag : Flag) :
    ((∀ es, LookedAt flag g.events es → readAfter flag es = false) →
      g.generateCancellable flag = (some g.generate.1, g.generate.2)) ∧
    ∀ es, LookedAt flag g.events es → readAfter flag es = true →
      g.generateCancellable flag = (none, reports es) ∧ reports es <+: g.generate.2 := by
  constructor
  · intro hunset
    rw [generateCancellable, untilSet_of_unset (unset_of_lookedAt hunset)]
    rfl
  · intro es hlook hset
    refine ⟨?_, reports_prefix ((List.prefix_append es [.poll]).trans hlook.look)⟩
    rw [generateCancellable, untilSet_of_set hlook hset]
    rfl

/-- A struct in a function, a name without a type, and a struct that is in order. -/
def inTurn : Generator where
  pending := [.resolved { name := "Local", nested := true } ⟨[], {}⟩,
    .source 0 ⟨{ name := "Lone" }, .ok [⟨.name "First", .start⟩], ⟨[], []⟩⟩,
    .resolved { name := "Score" } ⟨[⟨"Value", .named ⟨false, ["i32"]⟩, .primitive .i32⟩], {}⟩]

/-- The flag is set right before the file of the last struct would be kept.  A flag that is
set only behind this look has no effect. -/
theorem generateCancellable_inTurn : ∃ es, LookedAt (fun n _ => n == 2) inTurn.events es ∧
    inTurn.generateCancellable (fun n _ => n == 2) = (none, reports es) ∧
    (reports es).map (·.code) = [.nested, .malformed] ∧ reports es <+: inTurn.generate.2 ∧
    inTurn.generateCancellable (fun n _ => n == 3) =
      (some inTurn.generate.1, inTurn.generate.2) := by
  obtain ⟨x, y, plan, hx, hevents⟩ : ∃ x y plan,
      (reports [.reject x, .poll, .reject y, .poll]).map (·.code) = [.nested, .malformed] ∧
        inTurn.events = [.reject x, .poll, .reject y, .poll, .poll, .produce plan] :=
    ⟨_, _, _, rfl, rfl⟩
  have hlook : LookedAt (fun n _ => n == 2) inTurn.events [.reject x, .poll, .reject y, .poll] := by
    refine ⟨⟨[.produce plan], hevents.symm⟩, fun fs hfs => ?_⟩
    have hlt : looks fs < 2 := looks_lt_of_prefix hfs
    simp only [readAfter, beq_eq_false_iff_ne]
    omega
  have hset := (generateCancellable_all_or_nothing inTurn _).2 _ hlook rfl
  refine ⟨_, hlook, hset.1, hx, hset.2, (generateCancellable_all_or_nothing inTurn _).1 ?_⟩
  intro es hes
  have hlt : looks es < 3 := by
    have hlt := looks_lt_of_prefix hes.look
    rwa [hevents] at hlt
  simp only [readAfter, beq_eq_false_iff_ne]
  omega

end Generator
end Newtype
