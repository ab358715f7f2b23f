import Mathlib.Data.List.Basic
import Newtype.Syntax.Source

/-!
# What readers take and give

Readers are put together from a few basic ones, so what they do is put together too.  One
direction says that a reader succeeds: it takes certain tokens, leaves the rest and gives a
result.  The other says what a success rests on.

* `Reads` — **a reader takes tokens, leaves a rest and gives a result with a property.**
* `Reads.bind` — one reader after another; `Reads.punct`, `Reads.grouped` and others — the
  basic readers.
* `Reads.repeat_last`, `Reads.repeat_more` — repetition, step by step.
* `Gives` — whenever a reader succeeds, its result has a property.
* `of_bind_eq_ok` — a success of two readers is one of each; `of_punct_eq_ok`, `of_taken_eq_ok`
  and others — the basic readers.
* `of_repeatUntil_eq_ok` — **what every step keeps holds in the end.**
-/

namespace Newtype
namespace Reader

variable {α β : Type}

/-! ### Readers that succeed -/

/-- With the tokens `ts` ahead the reader leaves `rest` ahead and gives a result with the
property `Q`.  Nothing is left over in a group. -/
def Reads (r : Reader α) (ts rest : List Tree) (Q : α → Prop) : Prop :=
  ∀ endAt spelled stray, ∃ a spelled',
    r ⟨ts, endAt, spelled, stray⟩ = .ok (a, ⟨rest, endAt, spelled', stray⟩) ∧ Q a

theorem Reads.pure {a : α} {ts : List Tree} {Q : α → Prop} (h : Q a) :
    Reads (Pure.pure a) ts ts Q :=
  fun _ spelled _ => ⟨a, spelled, rfl, h⟩

theorem Reads.bind {r : Reader α} {k : α → Reader β} {ts mid rest : List Tree} {Q : α → Prop}
    {R : β → Prop} (h : Reads r ts mid Q) (hk : ∀ a, Q a → Reads (k a) mid rest R) :
    Reads (r >>= k) ts rest R := by
  intro endAt spelled stray
  obtain ⟨a, spelled₁, hr, ha⟩ := h endAt spelled stray
  obtain ⟨b, spelled₂, hk, hb⟩ := hk a ha endAt spelled₁ stray
  refine ⟨b, spelled₂, ?_, hb⟩
  show (r ⟨ts, endAt, spelled, stray⟩ >>= fun x => k x.1 x.2) = _
  rw [hr]
  exact hk

/-- The first reader gives a known result. -/
theorem Reads.bind_eq {r : Reader α} {k : α → Reader β} {ts mid rest : List Tree} {a : α}
    {R : β → Prop} (h : Reads r ts mid (· = a)) (hk : Reads (k a) mid rest R) :
    Reads (r >>= k) ts rest R := by
  refine h.bind ?_
  rintro b rfl
  exact hk

theorem Reads.ahead (ts : List Tree) : Reads Reader.ahead ts ts (· = ts) :=
  fun _ spelled _ => ⟨ts, spelled, rfl, rfl⟩

theorem Reads.peek (test : List Tree → Bool) (ts : List Tree) :
    Reads (Reader.peek test) ts ts (· = test ts) :=
  fun _ spelled _ => ⟨test ts, spelled, rfl, rfl⟩

theorem Reads.here (ts : List Tree) : Reads Reader.here ts ts fun _ => True := by
  intro endAt spelled stray
  cases ts with
  | nil => exact ⟨endAt, spelled, rfl, trivial⟩
  | cons t ts => exact ⟨t.position, spelled, rfl, trivial⟩

theorem Reads.emit (out ts : List Tree) : Reads (Reader.emit out) ts ts fun _ => True :=
  fun _ spelled _ => ⟨(), out.reverse ++ spelled, rfl, trivial⟩

theorem Reads.accept (rest out ts : List Tree) :
    Reads (Reader.accept rest out) ts rest fun _ => True :=
  fun _ spelled _ => ⟨(), out.reverse ++ spelled, rfl, trivial⟩

theorem Reads.punct {s : String} {ts rest : List Tree} (h : dropPunct s.toList ts = some rest) :
    Reads (Reader.punct s) ts rest fun _ => True := by
  refine (Reads.ahead ts).bind_eq ?_
  rw [h]
  exact (Reads.here _).bind fun _ _ => Reads.accept rest _ _

theorem Reads.ite_true {test : List Tree → Bool} {ts rest : List Tree} {r s : Reader α}
    {Q : α → Prop} (htest : test ts = true) (h : Reads r ts rest Q) :
    Reads (do if ← Reader.peek test then r else s) ts rest Q := by
  refine (Reads.peek test ts).bind_eq ?_
  rwa [if_pos htest]

theorem Reads.ite_false {test : List Tree → Bool} {ts rest : List Tree} {r s : Reader α}
    {Q : α → Prop} (htest : test ts = false) (h : Reads s ts rest Q) :
    Reads (do if ← Reader.peek test then r else s) ts rest Q := by
  refine (Reads.peek test ts).bind_eq ?_
  rwa [if_neg (by simp [htest])]

theorem Reads.optPunct {s : String} {ts rest : List Tree} (h : dropPunct s.toList ts = some rest) :
    Reads (Reader.optPunct s) ts rest (· = true) :=
  .ite_true (by rw [punctAhead, h]; rfl) ((Reads.punct h).bind fun _ _ => .pure rfl)

theorem Reads.optPunct_absent {s : String} {ts : List Tree} (h : punctAhead s ts = false) :
    Reads (Reader.optPunct s) ts ts (· = false) :=
  .ite_false h (.pure rfl)

theorem Reads.wordIf {test : String → Bool} {w : String} (cause : SyntaxCause) (pos : Position)
    (rest : List Tree) (h : test w = true) :
    Reads (Reader.wordIf test cause) (.word w pos :: rest) rest (· = w) := by
  refine (Reads.ahead _).bind_eq ?_
  simp only [h, if_true]
  exact (Reads.accept _ _ _).bind fun _ _ => .pure rfl

theorem Reads.anyWord (w : String) (pos : Position) (rest : List Tree) :
    Reads Reader.anyWord (.word w pos :: rest) rest (· = w) :=
  .wordIf _ pos rest rfl

theorem Reads.name {w : String} (pos : Position) (rest : List Tree) (h : isName w = true) :
    Reads Reader.name (.word w pos :: rest) rest (· = w) := by
  refine (Reads.ahead _).bind_eq ?_
  exact .wordIf _ pos rest h

theorem Reads.taken {r : Reader α} {ts rest : List Tree} {Q : α → Prop} (h : Reads r ts rest Q) :
    Reads (Reader.taken r) ts rest fun x => Q x.1 := by
  intro endAt spelled stray
  obtain ⟨a, spelled', hr, ha⟩ := h endAt [] stray
  refine ⟨(a, spelled'.reverse), spelled, ?_, ha⟩
  show (r ⟨ts, endAt, [], stray⟩ >>= _) = _
  rw [hr]
  rfl

theorem Reads.captured {r : Reader α} {ts rest : List Tree} {Q : α → Prop} (h : Reads r ts rest Q) :
    Reads (Reader.captured r) ts rest fun x => Q x.1 :=
  h.taken.bind fun _ hx => (Reads.emit _ _).bind fun _ _ => .pure hx

/-- The content of a group is used up by its reader. -/
theorem Reads.grouped {d : Delimiter} {content : Reader α} {inner : List Tree} {Q : α → Prop}
    (left right : Position) (rest : List Tree) (h : Reads content inner [] Q) :
    Reads (Reader.grouped d content) (.group d inner left right :: rest) rest Q := by
  intro endAt spelled stray
  obtain ⟨a, spelled', hr, ha⟩ := h right [] stray
  refine ⟨a, .group d spelled'.reverse left right :: spelled, ?_, ha⟩
  have hopen : Reader.grouped d content ⟨.group d inner left right :: rest, endAt, spelled, stray⟩ =
      (content ⟨inner, right, [], stray⟩ >>= fun x => .ok (x.1, ⟨rest, endAt,
        .group d x.2.spelled.reverse left right :: spelled,
        x.2.stray.or (x.2.rest.head?.map fun t => (t.position, d))⟩)) := by
    cases d <;> rfl
  rw [hopen, hr]
  cases stray <;> rfl

/-- The last step of a repetition. -/
theorem Reads.repeat_last {step : α → Reader (α ⊕ β)} {a : α} {ts rest : List Tree} {Q : β → Prop}
    (n : Nat) (h : Reads (step a) ts rest fun x => ∃ b, x = .inr b ∧ Q b) :
    Reads (repeatAtMost step (n + 1) a) ts rest Q := by
  refine h.bind ?_
  rintro _ ⟨b, rfl, hb⟩
  exact .pure hb

/-- A step of a repetition that goes on. -/
theorem Reads.repeat_more {step : α → Reader (α ⊕ β)} {a a' : α} {ts mid rest : List Tree}
    {Q : β → Prop} {n : Nat} (h : Reads (step a) ts mid (· = .inl a'))
    (hmore : Reads (repeatAtMost step n a') mid rest Q) :
    Reads (repeatAtMost step (n + 1) a) ts rest Q := by
  refine h.bind_eq ?_
  exact hmore

/-- All tokens are read. -/
theorem Reads.runAll {r : Reader α} {ts : List Tree} {Q : α → Prop} (h : Reads r ts [] Q)
    (endAt : Position) : ∃ a, Reader.runAll r endAt ts = .ok a ∧ Q a := by
  obtain ⟨a, spelled, hr, ha⟩ := h endAt [] none
  exact ⟨a, by rw [Reader.runAll, hr], ha⟩

/-! ### What a success rests on -/

section

variable {c c' : Cursor}

theorem of_bind_eq_ok {r : Reader α} {k : α → Reader β} {b : β}
    (h : (r >>= k) c = .ok (b, c')) : ∃ a c₁, r c = .ok (a, c₁) ∧ k a c₁ = .ok (b, c') := by
  replace h : (r c >>= fun x => k x.1 x.2) = .ok (b, c') := h
  cases hr : r c with
  | error e => rw [hr] at h; cases h
  | ok x => rw [hr] at h; exact ⟨x.1, x.2, rfl, h⟩

theorem of_bind_ahead_eq_ok {k : List Tree → Reader β} {b : β}
    (h : (ahead >>= k) c = .ok (b, c')) : k c.rest c = .ok (b, c') := h

theorem of_pure_eq_ok {a b : α} (h : (Pure.pure a : Reader α) c = .ok (b, c')) :
    b = a ∧ c' = c := by
  cases h
  exact ⟨rfl, rfl⟩

theorem fault_ne_ok {cause : SyntaxCause} {a : α} : (fault cause : Reader α) c ≠ .ok (a, c') := by
  intro h
  obtain ⟨c₁, c₂, -, h⟩ := of_bind_eq_ok h
  cases hrest : c₁.rest with
  | nil => rw [hrest] at h; cases h
  | cons t ts => rw [hrest] at h; cases h

theorem of_ite_eq_ok {cond : Prop} [Decidable cond] {r s : Reader α} {a : α}
    (h : (if cond then r else s) c = .ok (a, c')) :
    cond ∧ r c = .ok (a, c') ∨ ¬cond ∧ s c = .ok (a, c') := by
  by_cases hcond : cond
  · rw [if_pos hcond] at h
    exact .inl ⟨hcond, h⟩
  · rw [if_neg hcond] at h
    exact .inr ⟨hcond, h⟩

theorem of_ite_peek_eq_ok {test : List Tree → Bool} {r s : Reader α} {a : α}
    (h : (do if ← Reader.peek test then r else s : Reader α) c = .ok (a, c')) :
    test c.rest = true ∧ r c = .ok (a, c') ∨ test c.rest = false ∧ s c = .ok (a, c') := by
  obtain ⟨b, c₁, hpeek, h⟩ := of_bind_eq_ok h
  obtain ⟨rfl, rfl⟩ : b = test c.rest ∧ c₁ = c := of_pure_eq_ok hpeek
  exact (of_ite_eq_ok h).imp_right (And.imp_left Bool.eq_false_iff.mpr)

/-- Whenever the reader succeeds, its result has the property `P`. -/
def Gives (r : Reader α) (P : α → Prop) : Prop := ∀ c a c', r c = .ok (a, c') → P a

theorem Gives.pure {a : α} {P : α → Prop} (h : P a) : Gives (Pure.pure a) P := by
  intro c b c' hb
  obtain ⟨rfl, -⟩ := of_pure_eq_ok hb
  exact h

/-- The last reader decides. -/
theorem Gives.bind {r : Reader α} {k : α → Reader β} {P : β → Prop} (h : ∀ a, Gives (k a) P) :
    Gives (r >>= k) P := by
  intro c b c' hb
  obtain ⟨a, c₁, -, hk⟩ := of_bind_eq_ok hb
  exact h a c₁ b c' hk

theorem Gives.ite {cond : Prop} [Decidable cond] {r s : Reader α} {P : α → Prop} (hr : Gives r P)
    (hs : Gives s P) : Gives (if cond then r else s) P := by
  split
  · exact hr
  · exact hs

theorem Gives.fault {cause : SyntaxCause} {P : α → Prop} : Gives (fault cause) P :=
  fun _ _ _ h => absurd h fault_ne_ok

theorem of_wordIf_eq_ok {test : String → Bool} {cause : SyntaxCause} {w : String}
    (h : wordIf test cause c = .ok (w, c')) :
    ∃ pos, c.rest = .word w pos :: c'.rest ∧ test w = true := by
  replace h := of_bind_ahead_eq_ok h
  cases hrest : c.rest with
  | nil => rw [hrest] at h; exact absurd h fault_ne_ok
  | cons t rest =>
    rw [hrest] at h
    cases t with
    | word v pos =>
      cases htest : test v with
      | true =>
        simp only [htest, if_true] at h
        obtain ⟨_, c₂, haccept, h⟩ := of_bind_eq_ok h
        obtain ⟨rfl, rfl⟩ := of_pure_eq_ok h
        cases haccept
        exact ⟨pos, rfl, htest⟩
      | false =>
        simp only [htest, Bool.false_eq_true, if_false] at h
        exact absurd h fault_ne_ok
    | _ => exact absurd h fault_ne_ok

theorem of_anyWord_eq_ok {w : String} (h : anyWord c = .ok (w, c')) :
    ∃ pos, c.rest = .word w pos :: c'.rest :=
  let ⟨pos, hrest, _⟩ := of_wordIf_eq_ok h
  ⟨pos, hrest⟩

theorem of_name_eq_ok {w : String} (h : name c = .ok (w, c')) :
    ∃ pos, c.rest = .word w pos :: c'.rest ∧ isName w = true := by
  replace h := of_bind_ahead_eq_ok h
  cases hrest : c.rest with
  | nil => rw [hrest] at h; exact absurd h fault_ne_ok
  | cons t rest =>
    rw [hrest] at h
    cases t with
    | word v pos => rw [← hrest]; exact of_wordIf_eq_ok h
    | _ => exact absurd h fault_ne_ok

theorem of_here_eq_ok {pos : Position} (h : here c = .ok (pos, c')) : c' = c := by
  obtain ⟨c₁, c₂, hget, hpos⟩ := of_bind_eq_ok h
  obtain ⟨rfl, rfl⟩ : c₁ = c ∧ c₂ = c := of_pure_eq_ok hget
  cases hrest : c₂.rest with
  | nil => rw [hrest] at hpos; exact (of_pure_eq_ok hpos).2
  | cons t ts => rw [hrest] at hpos; exact (of_pure_eq_ok hpos).2

theorem of_punct_eq_ok {s : String} (h : punct s c = .ok ((), c')) :
    dropPunct s.toList c.rest = some c'.rest ∧
      ∃ pos, c'.spelled = (glue pos s.toList).reverse ++ c.spelled := by
  replace h := of_bind_ahead_eq_ok h
  cases hdrop : dropPunct s.toList c.rest with
  | none => rw [hdrop] at h; exact absurd h fault_ne_ok
  | some rest =>
    rw [hdrop] at h
    obtain ⟨pos, c₂, hhere, haccept⟩ := of_bind_eq_ok h
    obtain rfl := of_here_eq_ok hhere
    cases haccept
    exact ⟨rfl, pos, rfl⟩

theorem of_optPunct_eq_ok {s : String} {b : Bool} (h : optPunct s c = .ok (b, c')) :
    b = true ∧ dropPunct s.toList c.rest = some c'.rest ∨
      b = false ∧ punctAhead s c.rest = false ∧ c' = c := by
  rcases of_ite_peek_eq_ok h with ⟨-, h⟩ | ⟨hnot, h⟩
  · obtain ⟨_, c₁, hpunct, h⟩ := of_bind_eq_ok h
    obtain ⟨rfl, rfl⟩ := of_pure_eq_ok h
    exact .inl ⟨rfl, (of_punct_eq_ok hpunct).1⟩
  · obtain ⟨rfl, rfl⟩ := of_pure_eq_ok h
    exact .inr ⟨rfl, hnot, rfl⟩

theorem of_taken_eq_ok {r : Reader α} {x : α × List Tree} (h : taken r c = .ok (x, c')) :
    ∃ c₁, r { c with spelled := [] } = .ok (x.1, c₁) ∧ x.2 = c₁.spelled.reverse ∧
      c' = { c₁ with spelled := c.spelled } := by
  have hopen : taken r c = (r { c with spelled := [] } >>= fun y =>
      .ok ((y.1, y.2.spelled.reverse), { y.2 with spelled := c.spelled })) := rfl
  rw [hopen] at h
  cases hr : r { c with spelled := [] } with
  | error e => rw [hr] at h; cases h
  | ok y =>
    rw [hr] at h
    cases h
    exact ⟨y.2, rfl, rfl, rfl⟩

/-- What holds at first and is kept by every step holds in the end. -/
theorem of_repeatAtMost_eq_ok {step : α → Reader (α ⊕ β)} {I : α → Cursor → Prop}
    {Q : β → Cursor → Prop}
    (hmore : ∀ a c a' c', I a c → step a c = .ok (.inl a', c') → I a' c')
    (hlast : ∀ a c b c', I a c → step a c = .ok (.inr b, c') → Q b c') {n : Nat} {a : α} {b : β}
    (ha : I a c) (h : repeatAtMost step n a c = .ok (b, c')) : Q b c' := by
  induction n generalizing a c with
  | zero => exact absurd h fault_ne_ok
  | succ n ih =>
    obtain ⟨x, c₁, hstep, h⟩ := of_bind_eq_ok h
    cases x with
    | inl a' => exact ih (hmore a c a' c₁ ha hstep) h
    | inr b' =>
      obtain ⟨rfl, rfl⟩ := of_pure_eq_ok h
      exact hlast a c b c' ha hstep

theorem of_repeatUntil_eq_ok {step : α → Reader (α ⊕ β)} {I : α → Cursor → Prop}
    {Q : β → Cursor → Prop}
    (hmore : ∀ a c a' c', I a c → step a c = .ok (.inl a', c') → I a' c')
    (hlast : ∀ a c b c', I a c → step a c = .ok (.inr b, c') → Q b c') {a : α} {b : β}
    (ha : I a c) (h : repeatUntil a step c = .ok (b, c')) : Q b c' := by
  exact of_repeatAtMost_eq_ok hmore hlast ha (of_bind_ahead_eq_ok h)

theorem of_runAll_eq_ok {r : Reader α} {endAt : Position} {ts : List Tree} {a : α}
    (h : runAll r endAt ts = .ok a) : ∃ c, r ⟨ts, endAt, [], none⟩ = .ok (a, c) := by
  rw [runAll] at h
  split at h
  next => cases h
  next b c hr =>
    split at h
    next => cases h
    next =>
      split at h
      next => cases h; exact ⟨c, hr⟩
      next => cases h

end

/-- Punctuation is taken off the front. -/
theorem dropPunct_suffix {cs : List Char} {ts rest : List Tree} (h : dropPunct cs ts = some rest) :
    rest <:+ ts := by
  fun_induction dropPunct cs ts with
  | case1 ts => exact Option.some.inj h ▸ List.suffix_refl _
  | case2 c joint pos ts => exact Option.some.inj h ▸ List.suffix_cons _ _
  | case3 => cases h
  | case4 cs c pos ts _ ih => exact (ih h).trans (List.suffix_cons _ _)
  | case5 => cases h
  | case6 => cases h

end Reader
end Newtype
