import Mathlib.Algebra.Ring.Int.Defs
import Newtype.Proofs.Validity

/-!
# Arithmetic of amounts

Amounts are positive, and this keeps their operators away from most of what can go wrong with
numbers of a fixed width.  A difference of two positive numbers cannot leave a signed type,
and a quotient or a remainder by a positive number always exists and lies between zero and
the dividend.  So these three never stop the program: the hook is asked about the exact
result, and each has its own condition for a positive one.  Only a sum or a product can leave
the type, which is refused here, and as long as it does not it is positive again.

* `IntType.apply_sub`, `IntType.apply_div`, `IntType.apply_rem` — operators that always have a
  result for positive numbers.
* `IntType.apply_of_nonneg` — sums and products, which can leave the type at its upper end.
* `tdiv_pos_iff`, `tmod_pos_iff` — when a quotient and a remainder are positive.
* `Catalog.operate_of_ok`, `Catalog.operate_of_error` — what becomes of a result.
* `Catalog.amount_arithmetic` — **the operators on the amounts that a program holds.**
-/

namespace Newtype

/-! ### Positive numbers of a fixed width -/

namespace IntType

variable {t : IntType} {x y z : Int}

/-- A signed type goes one step further down than up. -/
theorem least_eq_of_signed (h : t.signed = true) : t.least = -t.largest - 1 := by
  simp only [least, largest, h, if_true]
  omega

theorem largest_i64 : i64.largest = 2 ^ 63 - 1 := rfl

/-- What lies between zero and a number of a type is a number of the type. -/
theorem contains_of_le (hz : 0 ≤ z) (hzx : z ≤ x) (hx : t.contains x = true) :
    t.contains z = true := by
  rw [contains_iff] at hx ⊢
  have hleast := t.least_nonpos
  omega

/-- A difference of positive numbers never leaves a signed type. -/
theorem apply_sub (hsigned : t.signed = true) (hx : 0 < x) (hy : 0 < y)
    (hxt : t.contains x = true) (hyt : t.contains y = true) : t.apply .checked .sub x y = .ok (x - y) := by
  have hdifference : t.contains (x - y) = true := by
    have hleast := least_eq_of_signed hsigned
    rw [contains_iff] at hxt hyt ⊢
    omega
  exact if_pos hdifference

theorem contains_tdiv (hx : 0 < x) (hy : 0 < y) (hxt : t.contains x = true) :
    t.contains (x.tdiv y) = true := by
  have hx' := Int.le_of_lt hx
  refine contains_of_le (Int.tdiv_nonneg hx' (Int.le_of_lt hy)) ?_ hxt
  exact Int.tdiv_le_self y hx'

/-- A quotient by a positive number always exists. -/
theorem apply_div (hx : 0 < x) (hy : 0 < y) (hxt : t.contains x = true) :
    t.apply .checked .div x y = .ok (x.tdiv y) := by
  simp only [apply]
  rw [if_neg (Int.ne_of_gt hy), settle, if_pos (contains_tdiv hx hy hxt)]

/-- A remainder by a positive number always exists. -/
theorem apply_rem (hx : 0 < x) (hy : 0 < y) (hxt : t.contains x = true) :
    t.apply .checked .rem x y = .ok (x.tmod y) := by
  simp only [apply]
  rw [if_neg (Int.ne_of_gt hy), if_pos (contains_tdiv hx hy hxt)]

/-- A sum or a product that is not negative can leave the type only at its upper end. -/
theorem apply_of_nonneg {op : BinaryOp} (hop : op = .add ∨ op = .mul) (h : 0 ≤ exact op x y) :
    t.apply .checked op x y =
      if exact op x y ≤ t.largest then .ok (exact op x y) else .error .overflow := by
  have happly : t.apply .checked op x y =
      if t.contains (exact op x y) then .ok (exact op x y) else .error .overflow := by
    rcases hop with rfl | rfl <;> rfl
  have hcontains : t.contains (exact op x y) = true ↔ exact op x y ≤ t.largest := by
    have hleast := t.least_nonpos
    rw [contains_iff]
    omega
  simp only [happly, hcontains]

end IntType

/-- A quotient is positive if the divisor is no larger than the dividend. -/
theorem tdiv_pos_iff {x y : Int} (hx : 0 < x) (hy : 0 < y) : 0 < x.tdiv y ↔ y ≤ x := by
  rw [Int.tdiv_eq_ediv_of_nonneg (Int.le_of_lt hx), ← Int.add_one_le_iff,
    Int.le_ediv_iff_mul_le hy]
  omega

/-- A remainder is positive if the divisor does not divide the dividend. -/
theorem tmod_pos_iff {x y : Int} (hx : 0 < x) : 0 < x.tmod y ↔ ¬y ∣ x := by
  have hnonneg : 0 ≤ x.tmod y := Int.tmod_nonneg y (Int.le_of_lt hx)
  rw [Int.dvd_iff_tmod_eq_zero]
  omega

/-! ### Operators on amounts -/

namespace Catalog

/-- The amount with a value. -/
def Held.amount (x : Int) : Held := ⟨.amount, ⟨x⟩⟩

variable {op : BinaryOp} {x y z : Int}

/-- A result is asked about before it becomes an amount. -/
theorem operate_of_ok (h : IntType.i64.apply .checked op x y = .ok z) :
    operate .checked op (.amount x) (.amount y) =
      some (if 0 < z then .made (.amount z) else .fault (.notPositive z)) := by
  obtain ⟨answer, hanswer, -, hok⟩ := operate_amount .checked op ⟨x⟩ ⟨y⟩
  obtain ⟨hvalid, hfault⟩ := hok z h
  by_cases hz : 0 < z
  · obtain ⟨⟨v⟩, rfl, rfl, -⟩ := hvalid hz
    rw [if_pos hz]
    exact hanswer
  · rw [if_neg hz]
    exact hanswer.trans (congrArg some (hfault hz))

/-- Without a result the program stops. -/
theorem operate_of_error {c : ArithmeticCause} (h : IntType.i64.apply .checked op x y = .error c) :
    operate .checked op (.amount x) (.amount y) = some (.fault (.arithmetic op c)) := by
  obtain ⟨answer, hanswer, herror, -⟩ := operate_amount .checked op ⟨x⟩ ⟨y⟩
  rw [← herror c h]
  exact hanswer

/-- An operator whose result is positive gives it, as long as it fits. -/
theorem operate_of_pos (hop : op = .add ∨ op = .mul) (h : 0 < IntType.exact op x y) :
    operate .checked op (.amount x) (.amount y) =
      some (if IntType.exact op x y < 2 ^ 63 then .made (.amount (IntType.exact op x y))
        else .fault (.arithmetic op .overflow)) := by
  have happly := IntType.apply_of_nonneg (t := .i64) hop (Int.le_of_lt h)
  have hlargest := IntType.largest_i64
  by_cases hfits : IntType.exact op x y < 2 ^ 63
  · rw [if_pos (by omega)] at happly
    rw [operate_of_ok happly, if_pos h, if_pos hfits]
  · rw [if_neg (by omega)] at happly
    rw [operate_of_error happly, if_neg hfits]

/-- **The operators on the amounts that a program holds.**  Whatever members it has called,
the difference, the quotient and the remainder of two of its amounts always exist as numbers
of eight bytes, and none of them stops the program.  The difference is an amount if it is
positive, and otherwise returned in an error.  The quotient is an amount unless the divisor
is larger, and the remainder unless the divisor divides; otherwise they are zero, which the
error tells.  A sum and a product are amounts as long as they fit, and stop the program
otherwise. -/
theorem amount_arithmetic (cs : List Call) (hcs : ∀ c ∈ cs, c.Fits) (x y : Int)
    (hx : Held.amount x ∈ heldAmong (run .checked [] cs)) (hy : Held.amount y ∈ heldAmong (run .checked [] cs)) :
    (∀ op ∈ [BinaryOp.sub, .div, .rem], ∃ z, IntType.i64.apply .checked op x y = .ok z) ∧
    operate .checked .sub (.amount x) (.amount y) =
      some (if y < x then .made (.amount (x - y)) else .fault (.notPositive (x - y))) ∧
    operate .checked .div (.amount x) (.amount y) =
      some (if y ≤ x then .made (.amount (x.tdiv y)) else .fault (.notPositive 0)) ∧
    operate .checked .rem (.amount x) (.amount y) =
      some (if y ∣ x then .fault (.notPositive 0) else .made (.amount (x.tmod y))) ∧
    operate .checked .add (.amount x) (.amount y) =
      some (if x + y < 2 ^ 63 then .made (.amount (x + y))
        else .fault (.arithmetic .add .overflow)) ∧
    operate .checked .mul (.amount x) (.amount y) =
      some (if x * y < 2 ^ 63 then .made (.amount (x * y))
        else .fault (.arithmetic .mul .overflow)) ∧
    (∀ z, (Fault.notPositive z).isPanic = false) ∧
    ∀ op c, (Fault.arithmetic op c).isPanic = true := by
  have hsound := run_sound .checked cs [] (fun v hv => absurd hv List.not_mem_nil) hcs
  obtain ⟨hx, hxt⟩ : 0 < x ∧ IntType.i64.contains x = true := hsound _ hx
  obtain ⟨hy, hyt⟩ : 0 < y ∧ IntType.i64.contains y = true := hsound _ hy
  have hsub := IntType.apply_sub rfl hx hy hxt hyt
  have hdiv := IntType.apply_div hx hy hxt
  have hrem := IntType.apply_rem hx hy hxt
  refine ⟨?_, ?_, ?_, ?_, ?_, ?_, fun _ => rfl, fun _ _ => rfl⟩
  · intro op hop
    simp only [List.mem_cons, List.not_mem_nil, or_false] at hop
    rcases hop with rfl | rfl | rfl
    · exact ⟨_, hsub⟩
    · exact ⟨_, hdiv⟩
    · exact ⟨_, hrem⟩
  · rw [operate_of_ok hsub]
    simp only [Int.sub_pos]
  · rw [operate_of_ok hdiv]
    simp only [tdiv_pos_iff hx hy]
    by_cases h : y ≤ x
    · rw [if_pos h, if_pos h]
    · rw [if_neg h, if_neg h, Int.tdiv_eq_zero_of_lt (Int.le_of_lt hx) (Int.not_le.mp h)]
  · rw [operate_of_ok hrem]
    simp only [tmod_pos_iff hx]
    by_cases h : y ∣ x
    · rw [if_neg (not_not_intro h), if_pos h, Int.tmod_eq_zero_of_dvd h]
    · rw [if_pos h, if_neg h]
  · exact operate_of_pos (.inl rfl) (Int.add_pos hx hy)
  · exact operate_of_pos (.inr rfl) (Int.mul_pos hx hy)

/-- The largest amount, and one that is itself a difference. -/
def extremeCalls : List Call :=
  [.new .amount 9223372036854775807, .ofStorage .amount 7, .new .amount 5, .operate .sub 1 2]

theorem amount_arithmetic_extremeCalls : (∀ c ∈ extremeCalls, c.Fits) ∧
    heldAmong (run .checked [] extremeCalls) =
      [.amount 9223372036854775807, .amount 7, .amount 5, .amount 2] ∧
    operate .checked .sub (.amount 2) (.amount 9223372036854775807) =
      some (.fault (.notPositive (-9223372036854775805))) ∧
    operate .checked .div (.amount 2) (.amount 9223372036854775807) = some (.fault (.notPositive 0)) ∧
    operate .checked .rem (.amount 2) (.amount 9223372036854775807) = some (.made (.amount 2)) ∧
    operate .checked .add (.amount 2) (.amount 9223372036854775807) =
      some (.fault (.arithmetic .add .overflow)) ∧
    operate .checked .mul (.amount 2) (.amount 9223372036854775807) =
      some (.fault (.arithmetic .mul .overflow)) := by
  have hfits : ∀ c ∈ extremeCalls, c.Fits := by
    simp [extremeCalls, Call.Fits, Checked.Fits, IntType.contains, IntType.least, IntType.largest,
      IntType.i64, twoPow]
  have hheld : heldAmong (run .checked [] extremeCalls) =
      [.amount 9223372036854775807, .amount 7, .amount 5, .amount 2] := by rfl
  obtain ⟨-, hsub, hdiv, hrem, hadd, hmul, -⟩ :=
    amount_arithmetic extremeCalls hfits 2 9223372036854775807 (by rw [hheld]; simp)
      (by rw [hheld]; simp)
  exact ⟨hfits, hheld, hsub, hdiv, hrem, hadd, hmul⟩

end Catalog
end Newtype
