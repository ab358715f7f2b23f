import Newtype.Proofs.Backing

/-!
# Operators

Which wrappers can be compared and calculated with.  Only a wrapper of a single number gets
operators; its options say whether it does, and where they leave that open the name of the
type decides.  The decision is made in two steps, by the policy and by the plan, and the plan
looks at the traits of the storage once more.  Since every number has an order, the second
look never overrules the first.

* `Kind.IsNumber`, `SingleNumber` — numbers, and fields that are one number.
* `Choice.Asks` — an option asks for operators.
* `comparison_of_iff`, `math_of_iff` — **what a policy decides.**
* `relationalOperators_mem_iff`, `operators_make` … `generate_mem_iff` — what a plan makes of it.
* `OperatorPolicy`, `operator_policy` — **the operators of every wrapper.**
-/

namespace Newtype

/-! ### Numbers -/

/-- The kinds of numbers. -/
inductive Kind.IsNumber : Kind → Prop where
  | integer {p : Primitive} (h : p.isIntegral = true) : IsNumber (.primitive p)
  | float {p : Primitive} (h : p.isFloat = true) : IsNumber (.primitive p)
  | decimal : IsNumber .decimal

/-- The integers of one byte. -/
def Kind.IsByte (k : Kind) : Prop := k = .primitive .i8 ∨ k = .primitive .u8

/-- The fields are a single number. -/
def SingleNumber (fields : List Field) : Prop := ∃ f, fields = [f] ∧ f.kind.IsNumber

/-- Of the primitives, integers and floating point numbers are numeric. -/
theorem isNumeric_primitive (p : Primitive) :
    (Category.ofKind (.primitive p)).isNumeric = (p.isIntegral || p.isFloat) := by
  cases p <;> rfl

theorem isNumeric_ofKind_iff (k : Kind) : (Category.ofKind k).isNumeric = true ↔ k.IsNumber := by
  constructor
  · intro h
    cases k with
    | primitive p =>
      rw [isNumeric_primitive, Bool.or_eq_true] at h
      exact h.elim .integer .float
    | decimal => exact .decimal
    | string | uuid | named _ => exact absurd h Bool.false_ne_true
  · intro h
    cases h with
    | integer h | float h => rw [isNumeric_primitive, h]; simp
    | decimal => rfl

theorem ofKind_eq_byteWide_iff (k : Kind) : Category.ofKind k = .byteWide ↔ k.IsByte := by
  unfold Kind.IsByte
  cases k with
  | primitive p => cases p <;> decide
  | string | uuid | decimal | named _ => simp [Category.ofKind]

theorem ofKind_eq_identifier_iff (k : Kind) : Category.ofKind k = .identifier ↔ k = .uuid := by
  cases k with
  | primitive p => cases p <;> decide
  | string | uuid | decimal | named _ => simp [Category.ofKind]

/-- Every number has an order. -/
theorem Kind.IsNumber.partialOrd {k : Kind} (h : k.IsNumber) : k.traits.partialOrd = true := by
  have hprimitive : ∀ p : Primitive, p.traits.partialOrd = true := by
    intro p
    cases p <;> rfl
  cases h with
  | integer | float => exact hprimitive _
  | decimal => rfl

/-! ### The policy -/

/-- An option asks for operators: it says so, or it is left open and the type has no name of
an identifier. -/
def Choice.Asks (c : Choice) (name : String) : Prop :=
  c = .yes ∨ c = .unset ∧ ¬∃ start, name = start ++ "Id"

theorem looksLikeId_iff (name : String) :
    looksLikeId name = true ↔ ∃ start, name = start ++ "Id" := by
  rw [looksLikeId, List.isSuffixOf_iff_suffix]
  constructor
  · rintro ⟨start, hstart⟩
    refine ⟨String.ofList start, ?_⟩
    rw [← String.toList_inj, String.toList_append, String.toList_ofList]
    exact hstart.symm
  · rintro ⟨start, rfl⟩
    rw [String.toList_append]
    exact List.suffix_append _ _

theorem resolve_iff (c : Choice) (name : String) :
    c.resolve (!looksLikeId name) = true ↔ c.Asks name := by
  cases c with
  | unset => simp [Choice.resolve, Choice.Asks, ← looksLikeId_iff]
  | yes | no => simp [Choice.resolve, Choice.Asks]

variable {fields : List Field} {o : Options} {t : Target}

/-- What a category says about the fields, they are a single field of such a kind. -/
theorem categoryOf_eq_iff {c : Category} (hc : c ≠ .other) :
    Policy.categoryOf fields = c ↔ ∃ f, fields = [f] ∧ Category.ofKind f.kind = c := by
  constructor
  · intro h
    unfold Policy.categoryOf at h
    split at h
    · next f => exact ⟨f, rfl, h⟩
    · exact absurd h.symm hc
  · rintro ⟨f, rfl, h⟩
    exact h

theorem singleNumber_iff : SingleNumber fields ↔
    (fields.length == 1 && (Policy.categoryOf fields).isNumeric) = true := by
  constructor
  · rintro ⟨f, rfl, h⟩
    exact (isNumeric_ofKind_iff f.kind).mpr h
  · intro h
    rw [Bool.and_eq_true, beq_iff_eq, List.length_eq_one_iff] at h
    obtain ⟨⟨f, rfl⟩, h⟩ := h
    exact ⟨f, rfl, (isNumeric_ofKind_iff f.kind).mp h⟩

/-- **A policy allows comparison** to a single number whose option asks for it. -/
theorem comparison_of_iff : (Policy.of fields o t).comparison = true ↔
    SingleNumber fields ∧ o.comparison.Asks t.name := by
  rw [singleNumber_iff, ← resolve_iff, ← Bool.and_eq_true]
  rfl

/-- **A policy allows arithmetic** to a single number whose option asks for it. -/
theorem math_of_iff : (Policy.of fields o t).math = true ↔
    SingleNumber fields ∧ o.math.Asks t.name := by
  rw [singleNumber_iff, ← resolve_iff, ← Bool.and_eq_true]
  rfl

/-! ### The plan -/

/-- The operator that a member is, and what it gives. -/
def Member.operator? : Member → Option (BinaryOp × ArithmeticOutput)
  | .arithmetic op output => some (op, output)
  | _ => none

namespace Plan

variable {p : Policy}

theorem relationalOperators_mem_iff {total : Bool} :
    .relationalOperators total ∈ (make fields t p).members ↔
      p.comparison = true ∧ (Storage.ofFields fields).traits.partialOrd = true ∧
        total = (Storage.ofFields fields).traits.ord := by
  simp [make, mem_when, equalityMembers, orderMembers, mathMembers, formatMembers, and_assoc]

theorem numericFormat_mem_iff {form : NumberFormat} :
    .numericFormat form ∈ (make fields t p).members ↔
      (p.single = true ∧ p.category.isNumeric = true) ∧
        form ∈ if p.category.isIntegral then NumberFormat.integral else NumberFormat.fractional := by
  simp [make, mem_when, equalityMembers, orderMembers, mathMembers, formatMembers]

theorem tryFormat_mem_iff : .tryFormat ∈ (make fields t p).members ↔
    p.single = true ∧ p.category.isNumeric = true := by
  simp [make, mem_when, equalityMembers, orderMembers, mathMembers, formatMembers]

theorem generate_mem_iff : .generate ∈ (make fields t p).members ↔
    p.single = true ∧ p.category = .identifier := by
  simp [make, mem_when, equalityMembers, orderMembers, mathMembers, formatMembers]

theorem intoStorage_mem_iff : .intoStorage ∈ (make fields t p).members ↔ p.implicit = true := by
  simp [make, mem_when, equalityMembers, orderMembers, mathMembers, formatMembers]

theorem filterMap_when {α β : Type} (g : α → Option β) (b : Bool) (xs : List α) :
    (when b xs).filterMap g = when b (xs.filterMap g) := by
  cases b <;> rfl

theorem when_nil {α : Type} (b : Bool) : when b ([] : List α) = [] := by cases b <;> rfl

/-- The operators of a plan. -/
theorem operators_make : (make fields t p).members.filterMap Member.operator? =
    when p.math (BinaryOp.all.map (·, if p.category = .byteWide then .widened else .wrapper)) := by
  have hmath : (mathMembers p.category p.math).filterMap Member.operator? =
      when p.math (BinaryOp.all.map (·, if p.category = .byteWide then .widened else .wrapper)) := by
    rw [mathMembers, filterMap_when]
    rfl
  -- in all other groups there is none
  have haccessors : ((List.range (Storage.ofFields fields).slots.length).map
      Member.accessor).filterMap Member.operator? = [] := by
    rw [List.filterMap_map]
    exact List.filterMap_eq_nil_iff.mpr fun _ _ => rfl
  have hformats : (formatMembers p.category p.single).filterMap Member.operator? = [] := by
    refine List.filterMap_eq_nil_iff.mpr fun m hm => ?_
    simp only [formatMembers, mem_when, List.mem_append, List.mem_map, List.mem_singleton] at hm
    rcases hm.2 with ⟨form, -, rfl⟩ | rfl <;> rfl
  simp only [make, equalityMembers, orderMembers, List.filterMap_append, filterMap_when, hmath,
    haccessors, hformats, List.filterMap_cons, List.filterMap_nil, Member.operator?, when_nil,
    List.nil_append, List.append_nil]

end Plan

/-! ### Options that do not matter -/

/-- Without a single number the options decide at most about the conversion of a single
value. -/
theorem policy_congr {o' : Options} (hnumber : ¬SingleNumber fields)
    (himplicit : fields.length = 1 → o'.implicit = o.implicit) :
    Policy.of fields o' t = Policy.of fields o t := by
  have hcomparison : ∀ o, (Policy.of fields o t).comparison = false := by
    intro o
    rw [← Bool.not_eq_true, comparison_of_iff]
    exact fun h => hnumber h.1
  have hmath : ∀ o, (Policy.of fields o t).math = false := by
    intro o
    rw [← Bool.not_eq_true, math_of_iff]
    exact fun h => hnumber h.1
  have hconversion : (Policy.of fields o' t).implicit = (Policy.of fields o t).implicit := by
    simp only [Policy.of]
    by_cases hone : fields.length = 1
    · rw [himplicit hone]
    · rw [beq_false_of_ne hone, Bool.false_and, Bool.false_and]
  -- the other decisions do not look at the options
  rw [Policy.mk.injEq]
  exact ⟨rfl, rfl, (hcomparison o').trans (hcomparison o).symm,
    (hmath o').trans (hmath o).symm, hconversion, rfl⟩

/-! ### The operators of a wrapper -/

/-- The operators and the text forms of numbers that a wrapper gets, by its fields, its options
and its name. -/
structure OperatorPolicy (fields : List Field) (o : Options) (t : Target) : Prop where
  relational : (∃ total, .relationalOperators total ∈ (Plan.of ⟨fields, o⟩ t).members) ↔
    SingleNumber fields ∧ o.comparison.Asks t.name
  arithmetic : (∃ op output, .arithmetic op output ∈ (Plan.of ⟨fields, o⟩ t).members) ↔
    SingleNumber fields ∧ o.math.Asks t.name
  /-- If there are operators, they are these five in this order, with the same output; bytes
  give a plain number of a wider type. -/
  operators : SingleNumber fields ∧ o.math.Asks t.name → ∃ output,
    (Plan.of ⟨fields, o⟩ t).members.filterMap Member.operator? =
        [(.add, output), (.sub, output), (.mul, output), (.div, output), (.rem, output)] ∧
      (output = .widened ↔ ∃ f, fields = [f] ∧ f.kind.IsByte)
  numericFormat : (∃ form, .numericFormat form ∈ (Plan.of ⟨fields, o⟩ t).members) ↔
    SingleNumber fields
  tryFormat : .tryFormat ∈ (Plan.of ⟨fields, o⟩ t).members ↔ SingleNumber fields
  generate : .generate ∈ (Plan.of ⟨fields, o⟩ t).members ↔ ∃ f, fields = [f] ∧ f.kind = .uuid
  intoStorage : .intoStorage ∈ (Plan.of ⟨fields, o⟩ t).members ↔
    fields.length = 1 ∧ o.implicit = true
  /-- To several fields the options do not matter at all. -/
  compound : 2 ≤ fields.length → ∀ o', Plan.of ⟨fields, o'⟩ t = Plan.of ⟨fields, o⟩ t
  /-- To a single field that is no number, only the conversion matters. -/
  single : ∀ f, fields = [f] → ¬f.kind.IsNumber → ∀ o', o'.implicit = o.implicit →
    Plan.of ⟨fields, o'⟩ t = Plan.of ⟨fields, o⟩ t

/-- The storage of a single number has the order that operators need. -/
theorem SingleNumber.partialOrd (h : SingleNumber fields) :
    (Storage.ofFields fields).traits.partialOrd = true := by
  obtain ⟨f, rfl, hnumber⟩ := h
  exact hnumber.partialOrd

theorem arithmetic_mem_iff {plan : Plan} {op : BinaryOp} {output : ArithmeticOutput} :
    .arithmetic op output ∈ plan.members ↔
      (op, output) ∈ plan.members.filterMap Member.operator? := by
  rw [List.mem_filterMap]
  constructor
  · exact fun h => ⟨_, h, rfl⟩
  · rintro ⟨m, hm, heq⟩
    cases m with
    | arithmetic op' output' => cases heq; exact hm
    | _ => cases heq

/-- What the operators of some fields give. -/
def operatorOutput (fields : List Field) : ArithmeticOutput :=
  if Policy.categoryOf fields = .byteWide then .widened else .wrapper

theorem operatorOutput_eq_widened_iff :
    operatorOutput fields = .widened ↔ ∃ f, fields = [f] ∧ f.kind.IsByte := by
  simp only [← ofKind_eq_byteWide_iff,
    ← categoryOf_eq_iff (by decide : Category.byteWide ≠ .other)]
  unfold operatorOutput
  split <;> simp_all

/-- The operators of a single number that asks for them. -/
theorem operators_of (h : SingleNumber fields ∧ o.math.Asks t.name) :
    (Plan.of ⟨fields, o⟩ t).members.filterMap Member.operator? =
      BinaryOp.all.map (·, operatorOutput fields) := by
  rw [Plan.of, Plan.operators_make, math_of_iff.mpr h]
  rfl

/-- **The operators of every wrapper**, for all fields, options and targets. -/
theorem operator_policy (fields : List Field) (o : Options) (t : Target) :
    OperatorPolicy fields o t := by
  have hsingle : (Policy.of fields o t).single = true ∧
      (Policy.of fields o t).category.isNumeric = true ↔ SingleNumber fields := by
    rw [singleNumber_iff, Bool.and_eq_true]
    rfl
  refine ⟨?_, ?_, ?_, ?_, ?_, ?_, ?_, ?_, ?_⟩
  · constructor
    · rintro ⟨total, hmem⟩
      exact comparison_of_iff.mp (Plan.relationalOperators_mem_iff.mp hmem).1
    · intro h
      exact ⟨_, Plan.relationalOperators_mem_iff.mpr
        ⟨comparison_of_iff.mpr h, h.1.partialOrd, rfl⟩⟩
  · constructor
    · rintro ⟨op, output, hmem⟩
      rw [arithmetic_mem_iff, Plan.of, Plan.operators_make, Plan.mem_when] at hmem
      exact math_of_iff.mp hmem.1
    · intro h
      refine ⟨.add, operatorOutput fields, arithmetic_mem_iff.mpr ?_⟩
      rw [operators_of h]
      exact List.mem_cons_self
  · intro h
    exact ⟨operatorOutput fields, operators_of h, operatorOutput_eq_widened_iff⟩
  · constructor
    · rintro ⟨form, hmem⟩
      exact hsingle.mp (Plan.numericFormat_mem_iff.mp hmem).1
    · intro h
      -- fractional numbers have this form, too
      refine ⟨.lowerExp, Plan.numericFormat_mem_iff.mpr ⟨hsingle.mpr h, ?_⟩⟩
      split <;> decide
  · rw [Plan.of, Plan.tryFormat_mem_iff, hsingle]
  · rw [Plan.of, Plan.generate_mem_iff]
    simp only [← ofKind_eq_identifier_iff,
      ← categoryOf_eq_iff (by decide : Category.identifier ≠ .other)]
    constructor
    · exact fun h => h.2
    · intro h
      obtain ⟨f, rfl, -⟩ := (categoryOf_eq_iff (by decide : Category.identifier ≠ .other)).mp h
      exact ⟨rfl, h⟩
  · rw [Plan.of, Plan.intoStorage_mem_iff, Policy.of, Bool.and_eq_true, beq_iff_eq]
  · intro hlength o'
    have hnumber : ¬SingleNumber fields := by
      rintro ⟨f, rfl, -⟩
      rw [List.length_singleton] at hlength
      omega
    rw [Plan.of, Plan.of, policy_congr hnumber fun hone => absurd hlength (by omega)]
  · rintro f rfl hkind o' himplicit
    have hnumber : ¬SingleNumber [f] := by
      rintro ⟨f', heq, hnumber⟩
      cases heq
      exact hkind hnumber
    rw [Plan.of, Plan.of, policy_congr hnumber fun _ => himplicit]

end Newtype
