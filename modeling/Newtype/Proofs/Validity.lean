import Newtype.Catalog.Samples
import Newtype.Member.Plan

/-!
# Wrappers that check their values

Three wrappers of the catalogue have a hook: amounts and ranges of scores return an error,
percentages panic.  A program calls the members that are generated for them, with any
arguments and with wrappers that it has got before, so that results of operators become
operands again.  Whatever it calls, and whether results outside a type are refused or wrapped
around, it never holds a wrapper around a value that the hook refuses.

* `IntType.of_apply_eq_ok` — what an operator gives in either kind of build.
* `Checked` — the wrappers with a hook, made as the plans of their members say.
* `Checked.Valid`, `Checked.Fits` — the values that they may hold.
* `Call`, `step`, `run` — a program that calls members.
* `Checked.Attempt` — what comes of an attempt to make a wrapper.
* `step_sound`, `run_sound` — **one call, and every run, gives only valid wrappers.**
* `checked_wrappers_valid` — **what the calls of a run give.**
-/

namespace Newtype

/-! ### Results of operators -/

namespace IntType

theorem contains_iff {t : IntType} {x : Int} :
    t.contains x = true ↔ t.least ≤ x ∧ x ≤ t.largest := by
  simp [contains]

theorem least_nonpos (t : IntType) : t.least ≤ 0 := by
  unfold least
  split
  · simp
  · exact Int.le_refl 0

theorem largest_nonneg (t : IntType) : 0 ≤ t.largest := by
  have hpos : ∀ n, 0 < twoPow n := fun n => Nat.two_pow_pos n
  have hbits := hpos t.bits
  have hbits' := hpos (t.bits - 1)
  unfold largest
  split <;> omega

/-- A remainder lies between zero and the dividend. -/
theorem contains_tmod {t : IntType} {x : Int} (hx : t.contains x = true) (y : Int) :
    t.contains (x.tmod y) = true := by
  have habs : (x.tmod y).natAbs ≤ x.natAbs := by
    rw [Int.natAbs_tmod]
    exact Nat.mod_le _ _
  have hleast := t.least_nonpos
  have hlargest := t.largest_nonneg
  rw [contains_iff] at hx ⊢
  by_cases hsign : 0 ≤ x
  · have hnonneg : 0 ≤ x.tmod y := Int.tmod_nonneg y hsign
    omega
  · have hneg : x.tmod y = -((-x).tmod y) := by rw [Int.neg_tmod, Int.neg_neg]
    have hnonneg : 0 ≤ (-x).tmod y := Int.tmod_nonneg y (by omega)
    omega

/-- From the smallest to the largest number a type has as many as its bits can tell apart. -/
theorem largest_eq {t : IntType} (hbits : 0 < t.bits) :
    t.largest = t.least + twoPow t.bits - 1 := by
  obtain ⟨n, hn⟩ := Nat.exists_eq_add_of_lt hbits
  have hdouble : twoPow t.bits = 2 * twoPow (t.bits - 1) := by
    rw [hn, Nat.zero_add, Nat.add_sub_cancel]
    exact Nat.pow_succ'
  unfold largest least
  split <;> omega

theorem contains_wrap {t : IntType} (hbits : 0 < t.bits) (x : Int) :
    t.contains (t.wrap x) = true := by
  have hlargest := largest_eq hbits
  have hpos : (0 : Int) < twoPow t.bits := Int.natCast_pos.mpr (Nat.two_pow_pos t.bits)
  have hnonneg := Int.emod_nonneg (x - t.least) (Int.ne_of_gt hpos)
  have hlt := Int.emod_lt_of_pos (x - t.least) hpos
  rw [contains_iff, wrap]
  omega

/-- A number of the type stays as it is. -/
theorem wrap_eq_self {t : IntType} (hbits : 0 < t.bits) {x : Int} (h : t.contains x = true) :
    t.wrap x = x := by
  have hlargest := largest_eq hbits
  rw [contains_iff] at h
  rw [wrap, Int.emod_eq_of_lt (by omega) (by omega)]
  omega

/-- What comes of an exact result: the result itself, or where results are wrapped around the
number of the type with its bits. -/
theorem of_settle_eq_ok {t : IntType} {mode : Overflow} {r z : Int} (hbits : 0 < t.bits)
    (h : t.settle mode r = .ok z) :
    z = t.wrap r ∧ (mode = .checked → z = r) ∧ t.contains z = true := by
  unfold settle at h
  cases mode with
  | checked =>
    obtain ⟨hin, rfl⟩ : t.contains r = true ∧ r = z := by
      by_cases hin : t.contains r = true
      · rw [if_pos hin] at h
        exact ⟨hin, Except.ok.inj h⟩
      · rw [if_neg hin] at h
        cases h
    exact ⟨(wrap_eq_self hbits hin).symm, fun _ => rfl, hin⟩
  | wrapping =>
    cases h
    exact ⟨rfl, fun hmode => (nomatch hmode), contains_wrap hbits r⟩

/-- What an operator gives, if it has a result. -/
theorem of_apply_eq_ok {t : IntType} {mode : Overflow} {op : BinaryOp} {x y z : Int}
    (hbits : 0 < t.bits) (h : t.apply mode op x y = .ok z) (hx : t.contains x = true) :
    z = t.wrap (exact op x y) ∧ (mode = .checked → z = exact op x y) ∧ t.contains z = true := by
  cases op with
  | add => exact of_settle_eq_ok hbits h
  | sub => exact of_settle_eq_ok hbits h
  | mul => exact of_settle_eq_ok hbits h
  | div =>
    simp only [apply] at h
    split at h
    · cases h
    · -- a quotient is settled in the same way in every build
      obtain ⟨hwrap, hexact, hin⟩ := of_settle_eq_ok hbits h
      exact ⟨hwrap, fun _ => hexact rfl, hin⟩
  | rem =>
    have hin := contains_tmod hx y
    simp only [apply] at h
    split at h
    · cases h
    · split at h
      · cases h
        exact ⟨(wrap_eq_self hbits hin).symm, fun _ => rfl, hin⟩
      · cases h

end IntType

/-! ### The wrappers with a hook -/

namespace Catalog

/-- The wrappers of the catalogue that have a hook. -/
inductive Checked where
  | amount
  | percentage
  | range
  deriving DecidableEq

namespace Checked

/-- What a wrapper holds. -/
@[reducible] def Storage : Checked → Type
  | amount | percentage => Int
  | range => Int × Int

/-- The wrapper with its hook, as the catalogue has it. -/
def declared : (k : Checked) → Wrapper k.Storage
  | amount => positiveAmount
  | percentage => Catalog.percentage
  | range => scoreRange

/-- The fields of the wrapper. -/
def fields : Checked → List Field
  | amount => [⟨Field.defaultName, .named ⟨false, ["i64"]⟩, .primitive .i64⟩]
  | percentage => [⟨Field.defaultName, .named ⟨false, ["u8"]⟩, .primitive .u8⟩]
  | range => [⟨"Lowest", .named ⟨false, ["i32"]⟩, .primitive .i32⟩,
      ⟨"Highest", .named ⟨false, ["i32"]⟩, .primitive .i32⟩]

/-- The struct of the wrapper with the hook that its author has written. -/
def target (k : Checked) : Target where
  name := k.declared.name
  readOnly := true
  hook := match k with
    | amount => some ⟨some "ValidationError"⟩
    | percentage => some ⟨none⟩
    | range => some ⟨some "RangeError"⟩

/-- The members that are generated for the wrapper. -/
def plan (k : Checked) : Plan := .of ⟨k.fields, {}⟩ k.target

/-- The check of the constructor that is generated. -/
def constructor? (k : Checked) : Option Check :=
  k.plan.members.findSome? fun
    | .constructor check => some check
    | _ => none

/-- A wrapper can be made from a reference to one. -/
def canCopy (k : Checked) : Bool :=
  k.plan.members.any fun
    | .copyConstructor _ => true
    | _ => false

/-- What an operator gives, if one is generated. -/
def output? (k : Checked) (op : BinaryOp) : Option ArithmeticOutput :=
  k.plan.members.findSome? fun
    | .arithmetic o output => if o = op then some output else none
    | _ => none

/-- The wrapper, whose hook is asked where its planned constructor asks it. -/
def wrapper (k : Checked) : Wrapper k.Storage :=
  { k.declared with check := k.constructor?.getD .none }

/-- The catalogue has the checks as they are planned. -/
theorem constructor?_eq (k : Checked) : k.constructor? = some k.declared.check := by
  cases k <;> rfl

theorem wrapper_eq (k : Checked) : k.wrapper = k.declared := by
  rw [wrapper, constructor?_eq]
  rfl

/-- A value that the hook accepts. -/
def Valid : (k : Checked) → k.Storage → Prop
  | amount, x => 0 < x
  | percentage, x => x ≤ 100
  | range, r => r.1 ≤ r.2

/-- A value of the type that the wrapper is declared with. -/
def Fits : (k : Checked) → k.Storage → Prop
  | amount, x => IntType.i64.contains x = true
  | percentage, x => IntType.u8.contains x = true
  | range, r => IntType.i32.contains r.1 = true ∧ IntType.i32.contains r.2 = true

/-- What the hook finds wrong with a value. -/
def fault : (k : Checked) → k.Storage → Fault
  | amount, x => .notPositive x
  | percentage, x => .outOfRange x
  | range, r => .inverted r.1 r.2

/-- What is wrong stops the program if the constructor is planned so, for percentages only. -/
theorem isPanic_fault (k : Checked) (a : k.Storage) :
    ((k.fault a).isPanic = true ↔ k.constructor? = some .panicking) ∧
      (k.constructor? = some .panicking ↔ k = percentage) := by
  rw [constructor?_eq]
  cases k <;> simp [fault, Fault.isPanic, declared, positiveAmount, Catalog.percentage, scoreRange]

/-- A planned constructor asks the hook about every value. -/
theorem make_eq (k : Checked) (a : k.Storage) :
    k.wrapper.make a = (k.declared.validate a).elim (.ok ⟨a⟩) .error := by
  have hcheck : k.declared.check ≠ .none := by cases k <;> decide
  rw [wrapper_eq, Wrapper.make]
  cases hk : k.declared.check with
  | none => exact absurd hk hcheck
  | fallible | panicking => cases k.declared.validate a <;> rfl

/-- The hook refuses exactly the values that are not valid. -/
theorem make_of_valid {k : Checked} {a : k.Storage} (h : k.Valid a) :
    k.wrapper.make a = .ok ⟨a⟩ := by
  have hpass : k.declared.validate a = none := by
    cases k with
    | amount => exact if_pos h
    | percentage => exact if_pos h
    | range => exact if_neg (Int.not_lt.mpr h)
  rw [make_eq, hpass, Option.elim_none]

theorem make_of_not_valid {k : Checked} {a : k.Storage} (h : ¬k.Valid a) :
    k.wrapper.make a = .error (k.fault a) := by
  have hrefused : k.declared.validate a = some (k.fault a) := by
    cases k with
    | amount => exact if_neg h
    | percentage => exact if_neg h
    | range => exact if_pos (Int.not_le.mp h)
  rw [make_eq, hrefused, Option.elim_some]

end Checked

/-! ### Programs -/

/-- A wrapper that a program holds. -/
structure Held where
  kind : Checked
  wrapped : Wrapped kind.wrapper

namespace Held

/-- The wrapper holds a value that its hook accepts, and one of its type. -/
def Sound (v : Held) : Prop := v.kind.Valid v.wrapped.value ∧ v.kind.Fits v.wrapped.value

end Held

/-- What a call gives: a wrapper, a plain number, or an error or a panic. -/
inductive Answer where
  | made (v : Held)
  | number (x : Int)
  | fault (f : Fault)

/-- A call of a member.  Wrappers are given by their place among those that the program has
got before. -/
inductive Call where
  | new (k : Checked) (a : k.Storage)
  | ofStorage (k : Checked) (a : k.Storage)
  | copy (place : Nat)
  | operate (op : BinaryOp) (left right : Nat)

/-- The arguments of a call are values of the types of its parameters. -/
def Call.Fits : Call → Prop
  | .new k a | .ofStorage k a => k.Fits a
  | .copy _ | .operate .. => True

namespace Answer

/-- The answer of a member that makes a wrapper. -/
def ofMade {k : Checked} : Except Fault (Wrapped k.wrapper) → Answer
  | .ok x => .made ⟨k, x⟩
  | .error f => .fault f

/-- The answer of a member that gives a number. -/
def ofNumber : Except Fault Int → Answer
  | .ok x => .number x
  | .error f => .fault f

/-- The wrapper, if the answer is one. -/
def held? : Answer → Option Held
  | .made v => some v
  | _ => none

end Answer

section Modes

variable (mode : Overflow)

/-- An operator on two wrappers, if there is one.  Its members are generated for numbers
only, and both operands have the same type. -/
def operate (op : BinaryOp) : Held → Held → Option Answer
  | ⟨.amount, x⟩, ⟨.amount, y⟩ => (Checked.amount.output? op).map fun
    | .wrapper => .ofMade (k := .amount) (wrappedOp .i64 op x y mode)
    | .widened => .ofNumber (widenedOp op x y mode)
  | ⟨.percentage, x⟩, ⟨.percentage, y⟩ => (Checked.percentage.output? op).map fun
    | .wrapper => .ofMade (k := .percentage) (wrappedOp .u8 op x y mode)
    | .widened => .ofNumber (widenedOp op x y mode)
  | _, _ => none

/-- What a call gives to a program that holds some wrappers; nothing if there is no such
member or no such wrapper. -/
def step (held : List Held) : Call → Option Answer
  | .new k a => k.constructor?.map fun _ => .ofMade (k.wrapper.make a)
  | .ofStorage k a =>
    if .fromStorage ∈ k.plan.members then some (.ofMade (k.wrapper.ofStorage a)) else none
  | .copy place => held[place]?.bind fun v =>
    if v.kind.canCopy then some (.made ⟨v.kind, v.wrapped.copy⟩) else none
  | .operate op left right =>
    held[left]?.bind fun x => held[right]?.bind fun y => operate mode op x y

/-- The wrappers among some answers. -/
def heldAmong (answers : List (Option Answer)) : List Held :=
  answers.filterMap fun a => a.bind Answer.held?

/-- What the calls of a program give, one after the other. -/
def run (held : List Held) : List Call → List (Option Answer)
  | [] => []
  | c :: cs => step mode held c :: run (held ++ heldAmong [step mode held c]) cs

end Modes

/-! ### One call -/

/-- What comes of an attempt to make a wrapper around a value: the wrapper, whose accessors
and plain value give the value back, or what the hook finds wrong with this value. -/
def Checked.Attempt (k : Checked) (a : k.Storage) (answer : Answer) : Prop :=
  (k.Valid a → ∃ x : Wrapped k.wrapper, answer = .made ⟨k, x⟩ ∧ x.value = a ∧ x.intoInner = a) ∧
    (¬k.Valid a → answer = .fault (k.fault a))

theorem attempt_make (k : Checked) (a : k.Storage) :
    k.Attempt a (.ofMade (k.wrapper.make a)) := by
  constructor
  · intro hvalid
    exact ⟨⟨a⟩, by rw [Checked.make_of_valid hvalid]; rfl, rfl, rfl⟩
  · intro hvalid
    rw [Checked.make_of_not_valid hvalid]
    rfl

/-- A wrapper that comes of an attempt is sound, if the value is one of its type. -/
theorem Checked.Attempt.sound {k : Checked} {a : k.Storage} {answer : Answer} {v : Held}
    (h : k.Attempt a answer) (hfits : k.Fits a) (hv : answer.held? = some v) : v.Sound := by
  by_cases hvalid : k.Valid a
  · obtain ⟨x, rfl, hx, -⟩ := h.1 hvalid
    cases hv
    exact ⟨by rw [hx]; exact hvalid, by rw [hx]; exact hfits⟩
  · rw [h.2 hvalid] at hv
    cases hv

/-- Amounts have operators that give amounts again, percentages have ones that give plain
numbers, and ranges have none. -/
theorem output?_eq (k : Checked) (op : BinaryOp) : k.output? op =
    match k with
    | .amount => some .wrapper
    | .percentage => some .widened
    | .range => none := by
  cases k <;> cases op <;> rfl

/-- The plans have all the other members that a program calls. -/
theorem planned (k : Checked) : .fromStorage ∈ k.plan.members ∧ k.canCopy = true := by
  cases k <;> decide

/-- A call that makes a wrapper from plain values is an attempt. -/
theorem step_new (mode : Overflow) (held : List Held) (k : Checked) (a : k.Storage) :
    step mode held (.new k a) = some (.ofMade (k.wrapper.make a)) ∧
      step mode held (.ofStorage k a) = some (.ofMade (k.wrapper.make a)) := by
  exact ⟨by rw [step, k.constructor?_eq, Option.map_some], if_pos (planned k).1⟩

theorem step_copy (mode : Overflow) {held : List Held} {place : Nat} {v : Held}
    (h : held[place]? = some v) :
    step mode held (.copy place) = some (.made ⟨v.kind, v.wrapped.copy⟩) := by
  rw [step, h, Option.bind_some, if_pos (planned v.kind).2]

/-- An operator on amounts stops the program, or it is an attempt to make an amount. -/
theorem operate_amount (mode : Overflow) (op : BinaryOp) (x y : Wrapped Checked.amount.wrapper) :
    ∃ answer, operate mode op ⟨.amount, x⟩ ⟨.amount, y⟩ = some answer ∧
      (∀ c, IntType.i64.apply mode op x.value y.value = .error c →
        answer = .fault (.arithmetic op c)) ∧
      ∀ z, IntType.i64.apply mode op x.value y.value = .ok z →
        Checked.amount.Attempt z answer := by
  refine ⟨.ofMade (k := .amount) (wrappedOp .i64 op x y mode), ?_, ?_, ?_⟩
  · simp only [operate, output?_eq, Option.map_some]
  · intro c hc
    simp only [wrappedOp, Wrapped.combine, intOp, hc]
    rfl
  · intro z hz
    have hmake : wrappedOp .i64 op x y mode = Checked.amount.wrapper.make z := by
      simp only [wrappedOp, Wrapped.combine, intOp, hz]
      rfl
    rw [hmake]
    exact attempt_make .amount z

/-- An operator on percentages gives no percentage. -/
theorem operate_percentage (mode : Overflow) (op : BinaryOp)
    (x y : Wrapped Checked.percentage.wrapper) :
    operate mode op ⟨.percentage, x⟩ ⟨.percentage, y⟩ =
      some (.ofNumber (widenedOp op x y mode)) := by
  simp only [operate, output?_eq, Option.map_some]

theorem held?_ofNumber (r : Except Fault Int) : (Answer.ofNumber r).held? = none := by
  cases r <;> rfl

/-- An operator gives only sound wrappers. -/
theorem operate_sound {mode : Overflow} {op : BinaryOp} {x y v : Held} {answer : Answer}
    (hx : x.Sound) (h : operate mode op x y = some answer) (hv : answer.held? = some v) :
    v.Sound := by
  obtain ⟨kx, x⟩ := x
  obtain ⟨ky, y⟩ := y
  cases kx <;> cases ky
  case amount.amount =>
    obtain ⟨answer', hanswer, herror, hok⟩ := operate_amount mode op x y
    rw [h, Option.some.injEq] at hanswer
    subst hanswer
    cases happly : IntType.i64.apply mode op x.value y.value with
    | error c =>
      rw [herror c happly] at hv
      cases hv
    | ok z =>
      have hfits := (IntType.of_apply_eq_ok (by decide) happly hx.2).2.2
      exact (hok z happly).sound hfits hv
  case percentage.percentage =>
    rw [operate_percentage, Option.some.injEq] at h
    rw [← h, held?_ofNumber] at hv
    cases hv
  all_goals cases h

/-- **One call gives only sound wrappers**, if those that the program holds are sound. -/
theorem step_sound {mode : Overflow} {held : List Held} (hheld : ∀ v ∈ held, v.Sound) {c : Call}
    (hc : c.Fits) {answer : Answer} {v : Held} (h : step mode held c = some answer)
    (hv : answer.held? = some v) : v.Sound := by
  cases c with
  | new k a =>
    rw [(step_new mode held k a).1] at h
    cases h
    exact (attempt_make k a).sound hc hv
  | ofStorage k a =>
    rw [(step_new mode held k a).2] at h
    cases h
    exact (attempt_make k a).sound hc hv
  | copy place =>
    obtain ⟨x, hx, -⟩ := Option.bind_eq_some_iff.mp h
    rw [step_copy mode hx] at h
    cases h
    cases hv
    exact hheld x (List.mem_of_getElem? hx)
  | operate op left right =>
    obtain ⟨x, hx, h⟩ := Option.bind_eq_some_iff.mp h
    obtain ⟨y, -, h⟩ := Option.bind_eq_some_iff.mp h
    exact operate_sound (hheld x (List.mem_of_getElem? hx)) h hv

/-! ### Whole runs -/

theorem mem_heldAmong {answers : List (Option Answer)} {v : Held} :
    v ∈ heldAmong answers ↔ ∃ answer, some answer ∈ answers ∧ answer.held? = some v := by
  simp only [heldAmong, List.mem_filterMap, Option.bind_eq_some_iff]
  constructor
  · rintro ⟨a, ha, answer, rfl, hv⟩
    exact ⟨answer, ha, hv⟩
  · rintro ⟨answer, ha, hv⟩
    exact ⟨some answer, ha, answer, rfl, hv⟩

theorem heldAmong_append (as bs : List (Option Answer)) :
    heldAmong (as ++ bs) = heldAmong as ++ heldAmong bs := List.filterMap_append

/-- **Every run gives only sound wrappers.**  The induction is on the calls, with what the
program holds as a parameter. -/
theorem run_sound (mode : Overflow) : ∀ (cs : List Call) (held : List Held),
    (∀ v ∈ held, v.Sound) → (∀ c ∈ cs, c.Fits) → ∀ v ∈ heldAmong (run mode held cs), v.Sound := by
  intro cs
  induction cs with
  | nil => intro held _ _ v hv; cases hv
  | cons c cs ih =>
    intro held hheld hcs v hv
    have hfirst : ∀ v ∈ heldAmong [step mode held c], v.Sound := by
      intro v hv
      obtain ⟨answer, hanswer, hv⟩ := mem_heldAmong.mp hv
      exact step_sound hheld (hcs c List.mem_cons_self) (List.mem_singleton.mp hanswer).symm hv
    have hnext : ∀ v ∈ held ++ heldAmong [step mode held c], v.Sound := by
      intro v hv
      rcases List.mem_append.mp hv with hv | hv
      · exact hheld v hv
      · exact hfirst v hv
    rw [run, ← List.singleton_append, heldAmong_append, List.mem_append] at hv
    rcases hv with hv | hv
    · exact hfirst v hv
    · exact ih _ hnext (fun d hd => hcs d (List.mem_cons_of_mem _ hd)) v hv

/-- Each call of a run is answered with what the program holds at that moment. -/
theorem getElem?_run (mode : Overflow) : ∀ (cs : List Call) (held : List Held) (i : Nat),
    (run mode held cs)[i]? =
      cs[i]?.map (step mode (held ++ heldAmong ((run mode held cs).take i))) := by
  intro cs
  induction cs with
  | nil => intro held i; simp [run]
  | cons c cs ih =>
    intro held i
    cases i with
    | zero => simp [run, heldAmong]
    | succ i =>
      rw [run, List.getElem?_cons_succ, List.getElem?_cons_succ, List.take_succ_cons, ih,
        ← List.singleton_append (l := List.take _ _), heldAmong_append, List.append_assoc]

/-- The wrappers that a program has got before one of its calls. -/
def heldBefore (mode : Overflow) (cs : List Call) (i : Nat) : List Held :=
  heldAmong ((run mode [] cs).take i)

theorem answer_eq {mode : Overflow} {cs : List Call} {i : Nat} {c : Call} (h : cs[i]? = some c) :
    (run mode [] cs)[i]? = some (step mode (heldBefore mode cs i) c) := by
  rw [getElem?_run, h, List.nil_append]
  rfl

/-- **What the calls of a run give.**  A program calls members with any arguments of the
right types and with wrappers that it has got before, in a build that refuses results outside a
type or in one that wraps them around.  All wrappers that it ever gets hold values that their
hooks accept, and values of their types.  An attempt to make a wrapper from plain values gives
the wrapper with exactly these values, or what the hook finds wrong with exactly these values,
which stops the program where the constructor is planned so, for percentages, and is returned
for the others.  A copy holds the same value.  An operator on amounts stops the program or is
such an attempt with the exact result, or with what is left of it in the type, and one on
percentages gives no wrapper. -/
theorem checked_wrappers_valid (mode : Overflow) (cs : List Call) (hcs : ∀ c ∈ cs, c.Fits) :
    (∀ v ∈ heldAmong (run mode [] cs), v.Sound) ∧
    (∀ (i : Nat) (k : Checked) (a : k.Storage),
      cs[i]? = some (.new k a) ∨ cs[i]? = some (.ofStorage k a) →
      ∃ answer, (run mode [] cs)[i]? = some (some answer) ∧ k.Attempt a answer ∧
        ((k.fault a).isPanic = true ↔ k.constructor? = some .panicking) ∧
        (k.constructor? = some .panicking ↔ k = .percentage)) ∧
    (∀ i place v, cs[i]? = some (.copy place) → (heldBefore mode cs i)[place]? = some v →
      ∃ x : Wrapped v.kind.wrapper, (run mode [] cs)[i]? = some (some (.made ⟨v.kind, x⟩)) ∧
        x.value = v.wrapped.value) ∧
    (∀ i op left right x y, cs[i]? = some (.operate op left right) →
      (heldBefore mode cs i)[left]? = some ⟨.amount, x⟩ →
      (heldBefore mode cs i)[right]? = some ⟨.amount, y⟩ →
      ∃ answer, (run mode [] cs)[i]? = some (some answer) ∧
        (∀ c, IntType.i64.apply mode op x.value y.value = .error c →
          answer = .fault (.arithmetic op c)) ∧
        ∀ z, IntType.i64.apply mode op x.value y.value = .ok z →
          z = IntType.i64.wrap (IntType.exact op x.value y.value) ∧
          (mode = .checked → z = IntType.exact op x.value y.value) ∧
          Checked.amount.Attempt z answer) ∧
    ∀ i op left right x y, cs[i]? = some (.operate op left right) →
      (heldBefore mode cs i)[left]? = some ⟨.percentage, x⟩ →
      (heldBefore mode cs i)[right]? = some ⟨.percentage, y⟩ →
      ∃ answer, (run mode [] cs)[i]? = some (some answer) ∧ answer.held? = none := by
  have hsound := run_sound mode cs [] (fun v hv => absurd hv List.not_mem_nil) hcs
  have hbefore : ∀ i, ∀ v ∈ heldBefore mode cs i, v.Sound := by
    intro i v hv
    obtain ⟨answer, hanswer, hv⟩ := mem_heldAmong.mp hv
    exact hsound v (mem_heldAmong.mpr ⟨answer, List.mem_of_mem_take hanswer, hv⟩)
  refine ⟨hsound, ?_, ?_, ?_, ?_⟩
  · intro i k a hcall
    refine ⟨_, ?_, attempt_make k a, k.isPanic_fault a⟩
    obtain ⟨hnew, hstorage⟩ := step_new mode (heldBefore mode cs i) k a
    rcases hcall with hcall | hcall
    · rw [answer_eq hcall, hnew]
    · rw [answer_eq hcall, hstorage]
  · intro i place v hcall hv
    exact ⟨v.wrapped.copy, by rw [answer_eq hcall, step_copy mode hv], rfl⟩
  · intro i op left right x y hcall hx hy
    obtain ⟨answer, hanswer, herror, hok⟩ := operate_amount mode op x y
    have hxsound := hbefore i _ (List.mem_of_getElem? hx)
    refine ⟨answer, ?_, herror, fun z hz => ?_⟩
    · rw [answer_eq hcall, step, hx, hy, Option.bind_some, Option.bind_some, hanswer]
    · obtain ⟨hwrap, hexact, -⟩ := IntType.of_apply_eq_ok (by decide) hz hxsound.2
      exact ⟨hwrap, hexact, hok z hz⟩
  · intro i op left right x y hcall hx hy
    refine ⟨_, ?_, held?_ofNumber (widenedOp op x y mode)⟩
    rw [answer_eq hcall, step, hx, hy, Option.bind_some, Option.bind_some, operate_percentage]

/-- Two amounts, their difference the wrong way round, their product and a remainder of it,
the largest percentage, one above it and a copy, a sum of percentages, a range that is inverted,
and the largest amount, which is added to itself and multiplied by three. -/
def mixedCalls : List Call :=
  [.new .amount 3, .ofStorage .amount 5, .operate .sub 0 1, .operate .mul 0 1, .operate .rem 2 1,
    .new .percentage 100, .new .percentage 101, .copy 3, .operate .add 3 4,
    .ofStorage .range (3, 1), .new .amount 9223372036854775807, .operate .add 5 5,
    .operate .mul 5 0]

/-- A wrapped sum is refused by the hook, and a wrapped product is an amount again. -/
theorem checked_wrappers_valid_mixedCalls : (∀ c ∈ mixedCalls, c.Fits) ∧
    (∀ mode, ∀ v ∈ heldAmong (run mode [] mixedCalls), v.Sound) ∧
    ∀ mode, run mode [] mixedCalls =
      [some (.made ⟨.amount, ⟨3⟩⟩), some (.made ⟨.amount, ⟨5⟩⟩),
        some (.fault (.notPositive (-2))), some (.made ⟨.amount, ⟨15⟩⟩),
        some (.fault (.notPositive 0)), some (.made ⟨.percentage, ⟨100⟩⟩),
        some (.fault (.outOfRange 101)), some (.made ⟨.percentage, ⟨100⟩⟩), some (.number 200),
        some (.fault (.inverted 3 1)), some (.made ⟨.amount, ⟨9223372036854775807⟩⟩)] ++
      if mode = .checked then
        [some (.fault (.arithmetic .add .overflow)), some (.fault (.arithmetic .mul .overflow))]
      else [some (.fault (.notPositive (-2))), some (.made ⟨.amount, ⟨9223372036854775805⟩⟩)] := by
  have hfits : ∀ c ∈ mixedCalls, c.Fits := by
    simp [mixedCalls, Call.Fits, Checked.Fits, IntType.contains, IntType.least, IntType.largest,
      IntType.i64, IntType.u8, IntType.i32, twoPow]
  refine ⟨hfits, fun mode => (checked_wrappers_valid mode mixedCalls hfits).1, fun mode => ?_⟩
  cases mode <;> rfl

end Catalog
end Newtype
