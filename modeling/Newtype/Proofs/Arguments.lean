import Mathlib.Data.List.Nodup
import Newtype.Spec.Basic

/-!
# Which argument lists are specifications

Arguments are read from left to right with a name that may wait for its type.  Here
the lists that are read to the end are described without that state: they are made of
*blocks*, which are an option, a type, or a name with the type behind it, and four
conditions hold of the names, types and options among them.  The fields are the types
in order, and of each option the last value counts.

* `NameFits`, `OptionFits` — what is asked of a single name or option.
* `Block`, `Admissible` — the grammar of argument lists.
* `namedTypes`, `Options.lastOf` — the fields and options a list stands for.
* `foldlM_step_eq_ok_iff` — the left-to-right reading, from any state.
* `ofArguments_grammar` — **an argument list is read exactly if it is admissible.**
-/

namespace Newtype

/-- A step followed by another succeeds if both do. -/
theorem bind_eq_ok_iff {ε α β : Type} {x : Except ε α} {f : α → Except ε β} {b : β} :
    x >>= f = .ok b ↔ ∃ a, x = .ok a ∧ f a = .ok b := by
  cases x with
  | error e => exact ⟨fun h => (nomatch h), fun ⟨_, h, _⟩ => (nomatch h)⟩
  | ok a => exact ⟨fun h => ⟨a, rfl, h⟩, fun ⟨_, h, hf⟩ => by cases h; exact hf⟩

/-- A step followed by another fails if one of them does. -/
theorem bind_eq_error_iff {ε α β : Type} {x : Except ε α} {f : α → Except ε β} {e : ε} :
    x >>= f = .error e ↔ x = .error e ∨ ∃ a, x = .ok a ∧ f a = .error e := by
  cases x with
  | error d => simp [bind, Except.bind]
  | ok a => simp [bind, Except.bind]

/-! ### Names -/

/-- The text can be the name of a field: it is not empty, it has only letters, numbers
and `_` and no digit in front, and its accessor is an identifier that no generated
member needs. -/
structure NameFits (s : String) : Prop where
  nonempty : s ≠ ""
  chars : ∀ c ∈ s.toList, Text.isAlphanumeric c = true ∨ c = '_'
  start : ∀ c, s.toList.head? = some c → c.isDigit = false
  accessor : isIdentifier (Text.snakeCase s) = true
  free : Text.snakeCase s ∉ reservedNames

theorem isFieldName_iff {s : String} : isFieldName s = true ↔
    s ≠ "" ∧ (∀ c ∈ s.toList, Text.isAlphanumeric c = true ∨ c = '_') ∧
      (∀ c, s.toList.head? = some c → c.isDigit = false) ∧
      isIdentifier (Text.snakeCase s) = true := by
  unfold isFieldName
  cases hs : s.toList.head? with
  | none => simp [and_assoc]
  | some c => simp [and_assoc]

theorem checkName_eq_ok_iff {s : String} {pos : Position} :
    checkName s pos = .ok () ↔ NameFits s := by
  unfold checkName
  constructor
  · intro h
    split at h
    · cases h
    · next hf =>
      split at h
      · cases h
      · next hr =>
        rw [Bool.not_eq_true', Bool.not_eq_false] at hf
        obtain ⟨h1, h2, h3, h4⟩ := isFieldName_iff.mp hf
        exact ⟨h1, h2, h3, h4, by simpa using hr⟩
  · intro h
    have hf : isFieldName s = true :=
      isFieldName_iff.mpr ⟨h.nonempty, h.chars, h.start, h.accessor⟩
    simp [hf, h.free]

/-! ### Options -/

/-- The option about conversion. -/
def implicitKey : String := "GenerateImplicitConversionToPrimitive"

/-- The option about comparison. -/
def comparisonKey : String := "GenerateComparisonOperators"

/-- The option about arithmetic. -/
def mathKey : String := "GenerateMathOperators"

/-- An option that is known has a value it may have. -/
structure OptionFits (name : String) (value : Expr) : Prop where
  implicit : Text.upperCamelCase name = implicitKey → value.truth?.isSome
  comparison : Text.upperCamelCase name = comparisonKey → value.choice?.isSome
  math : Text.upperCamelCase name = mathKey → value.choice?.isSome

/-- The value that an option gives the setting with a key, if it is about this one. -/
def settingOf {α : Type} (key : String) (read : Expr → Option α) (o : String × Expr) : Option α :=
  if Text.upperCamelCase o.1 = key then read o.2 else none

/-- The options after one more whose value fits. -/
def Options.set (o : Options) (a : String × Expr) : Options where
  implicit := (settingOf implicitKey Expr.truth? a).getD o.implicit
  comparison := (settingOf comparisonKey Expr.choice? a).getD o.comparison
  math := (settingOf mathKey Expr.choice? a).getD o.math

theorem optionValue_eq_ok_iff {α : Type} {value : Option α} {option : String}
    {expected : OptionDomain} {pos : Position} {a : α} :
    optionValue value option expected pos = .ok a ↔ value = some a := by
  cases value <;> simp [optionValue]

/-- Reading an option that sets one thing: the value must be one it may have. -/
theorem setting_eq_ok_iff {α : Type} {value : Option α} {option : String}
    {expected : OptionDomain} {pos : Position} {put : α → Options} {o' : Options} {d : α} :
    (do return put (← optionValue value option expected pos) : Except Malformed Options) = .ok o' ↔
      value.isSome ∧ o' = put (value.getD d) := by
  rw [bind_eq_ok_iff]
  simp only [optionValue_eq_ok_iff]
  constructor
  · rintro ⟨a, rfl, h⟩
    cases h
    exact ⟨rfl, rfl⟩
  · rintro ⟨hsome, rfl⟩
    obtain ⟨a, rfl⟩ := Option.isSome_iff_exists.mp hsome
    exact ⟨a, rfl, rfl⟩

/-- **One option is taken exactly if its value fits.** -/
theorem apply_eq_ok_iff {o o' : Options} {name : String} {value : Expr} {pos : Position} :
    o.apply name value pos = .ok o' ↔ OptionFits name value ∧ o' = o.set (name, value) := by
  have key₁ : implicitKey ≠ comparisonKey := by decide
  have key₂ : implicitKey ≠ mathKey := by decide
  have key₃ : comparisonKey ≠ mathKey := by decide
  -- the three keys exclude each other, so that at most one of the conditions is asked
  unfold Options.apply
  change (if (Text.upperCamelCase name == implicitKey) = true then _ else
    if (Text.upperCamelCase name == comparisonKey) = true then _ else
    if (Text.upperCamelCase name == mathKey) = true then _ else _) = _ ↔ _
  by_cases h₁ : Text.upperCamelCase name = implicitKey
  · rw [if_pos (by simpa using h₁), setting_eq_ok_iff (d := o.implicit)]
    constructor
    · rintro ⟨hv, rfl⟩
      refine ⟨⟨fun _ => hv, fun h => absurd (h₁.symm.trans h) key₁,
        fun h => absurd (h₁.symm.trans h) key₂⟩, ?_⟩
      simp [Options.set, settingOf, h₁, key₁, key₂]
    · rintro ⟨hf, rfl⟩
      exact ⟨hf.implicit h₁, by simp [Options.set, settingOf, h₁, key₁, key₂]⟩
  rw [if_neg (by simpa using h₁)]
  by_cases h₂ : Text.upperCamelCase name = comparisonKey
  · rw [if_pos (by simpa using h₂), setting_eq_ok_iff (d := o.comparison)]
    constructor
    · rintro ⟨hv, rfl⟩
      refine ⟨⟨fun h => absurd h h₁, fun _ => hv, fun h => absurd (h₂.symm.trans h) key₃⟩, ?_⟩
      simp [Options.set, settingOf, h₂, key₁.symm, key₃]
    · rintro ⟨hf, rfl⟩
      exact ⟨hf.comparison h₂, by simp [Options.set, settingOf, h₂, key₁.symm, key₃]⟩
  rw [if_neg (by simpa using h₂)]
  by_cases h₃ : Text.upperCamelCase name = mathKey
  · rw [if_pos (by simpa using h₃), setting_eq_ok_iff (d := o.math)]
    constructor
    · rintro ⟨hv, rfl⟩
      refine ⟨⟨fun h => absurd h h₁, fun h => absurd h h₂, fun _ => hv⟩, ?_⟩
      simp [Options.set, settingOf, h₃, key₂.symm, key₃.symm]
    · rintro ⟨hf, rfl⟩
      exact ⟨hf.math h₃, by simp [Options.set, settingOf, h₃, key₂.symm, key₃.symm]⟩
  rw [if_neg (by simpa using h₃)]
  -- an option with any other name sets nothing
  have hset : o.set (name, value) = o := by simp [Options.set, settingOf, h₁, h₂, h₃]
  rw [hset]
  constructor
  · intro h
    cases h
    exact ⟨⟨fun h => absurd h h₁, fun h => absurd h h₂, fun h => absurd h h₃⟩, rfl⟩
  · rintro ⟨-, rfl⟩
    rfl

/-- The options among some argument forms, with their values. -/
def optionsAmong (fs : List ArgumentForm) : List (String × Expr) :=
  fs.filterMap fun
    | .option name value _ => some (name, value)
    | _ => none

/-- The last value that some options give a setting. -/
def lastSetting {α : Type} (key : String) (read : Expr → Option α) (os : List (String × Expr)) :
    Option α :=
  (os.filterMap (settingOf key read)).getLast?

/-- The options in which each setting has its last value, if it has one. -/
def Options.lastOf (os : List (String × Expr)) : Options where
  implicit := (lastSetting implicitKey Expr.truth? os).getD false
  comparison := (lastSetting comparisonKey Expr.choice? os).getD .unset
  math := (lastSetting mathKey Expr.choice? os).getD .unset

/-- A first value counts only if no later one does. -/
theorem lastSetting_cons_getD {α : Type} (key : String) (read : Expr → Option α)
    (o : String × Expr) (os : List (String × Expr)) (d : α) :
    (lastSetting key read (o :: os)).getD d =
      (lastSetting key read os).getD ((settingOf key read o).getD d) := by
  unfold lastSetting
  rw [List.filterMap_cons]
  cases settingOf key read o with
  | none => rfl
  | some a =>
    simp only [Option.getD_some]
    rw [List.getLast?_cons, Option.getD_some]

/-- Taking options one after the other leaves the last value of each setting. -/
theorem foldl_set (os : List (String × Expr)) (o : Options) : os.foldl Options.set o =
    { implicit := (lastSetting implicitKey Expr.truth? os).getD o.implicit
      comparison := (lastSetting comparisonKey Expr.choice? os).getD o.comparison
      math := (lastSetting mathKey Expr.choice? os).getD o.math } := by
  induction os generalizing o with
  | nil => rfl
  | cons a os ih =>
    rw [List.foldl_cons, ih]
    simp only [lastSetting_cons_getD]
    rfl

theorem foldl_set_default (os : List (String × Expr)) :
    os.foldl Options.set {} = Options.lastOf os := foldl_set os {}

/-! ### The grammar -/

/-- A block of arguments: an option, a type, or a name with the type behind it. -/
inductive Block where
  | option (name : String) (value : Expr) (valuePos pos : Position)
  | type (t : TypeExpr) (pos : Position)
  | pair (name : String) (namePos : Position) (t : TypeExpr) (pos : Position)

/-- The arguments of a block. -/
def Block.arguments : Block → List Argument
  | .option name value valuePos pos => [⟨.option name value valuePos, pos⟩]
  | .type t pos => [⟨.type t, pos⟩]
  | .pair name namePos t pos => [⟨.name name, namePos⟩, ⟨.type t, pos⟩]

/-- The types among some argument forms, each with the name in front of it or the
default name.  `waiting` is a name that stands in front of the list. -/
def namedTypes (waiting : Option String) : List ArgumentForm → List (String × TypeExpr)
  | [] => []
  | .name n :: fs => namedTypes (some n) fs
  | .type t :: fs => (waiting.getD Field.defaultName, t) :: namedTypes none fs
  | .option _ _ _ :: fs => namedTypes waiting fs

/-- The forms of some arguments. -/
def formsOf (args : List Argument) : List ArgumentForm := args.map (·.form)

/-- The argument lists that stand for fields and options. -/
structure Admissible (args : List Argument) : Prop where
  /-- names stand in front of types only -/
  blocks : ∃ bs : List Block, args = bs.flatMap Block.arguments
  names : ∀ n, .name n ∈ formsOf args → NameFits n
  options : ∀ n v p, .option n v p ∈ formsOf args → OptionFits n v
  room : (namedTypes none (formsOf args)).length ≤ Field.maximum
  distinct : ((namedTypes none (formsOf args)).map fun f => Text.snakeCase f.1).Nodup

/-- The fields for some types with their names; without any, there is an identifier. -/
def fieldsFor (resolve : TypeExpr → Kind) (ts : List (String × TypeExpr)) : List Field :=
  if ts.isEmpty then [Field.defaultId] else ts.map fun f => ⟨f.1, f.2, resolve f.2⟩

/-! ### Blocks without positions -/

/-- The names among the forms stand in front of types only.  `waiting` says whether a
name stands in front of the list. -/
def Closes : Bool → List ArgumentForm → Prop
  | waiting, [] => waiting = false
  | waiting, .name _ :: fs => waiting = false ∧ Closes true fs
  | _, .type _ :: fs => Closes false fs
  | waiting, .option _ _ _ :: fs => waiting = false ∧ Closes false fs

/-- What is left when the list is cut behind a name begins with a type. -/
theorem blocks_of_closes : ∀ args : List Argument,
    (Closes false (formsOf args) → ∃ bs : List Block, args = bs.flatMap Block.arguments) ∧
      (Closes true (formsOf args) →
        ∃ t pos, ∃ bs : List Block, args = ⟨.type t, pos⟩ :: bs.flatMap Block.arguments) := by
  intro args
  induction args with
  | nil => exact ⟨fun _ => ⟨[], rfl⟩, fun h => by simp [formsOf, Closes] at h⟩
  | cons a args ih =>
    obtain ⟨ihf, iht⟩ := ih
    obtain ⟨form, pos⟩ := a
    simp only [formsOf, List.map_cons] at ihf iht ⊢
    cases form with
    | name n =>
      -- the rest begins with the type that completes the pair
      refine ⟨fun h => ?_, fun h => by simp [Closes] at h⟩
      obtain ⟨t, tpos, bs, rfl⟩ := iht h.2
      exact ⟨.pair n pos t tpos :: bs, rfl⟩
    | type t =>
      refine ⟨fun h => ?_, fun h => ?_⟩
      · obtain ⟨bs, rfl⟩ := ihf h
        exact ⟨.type t pos :: bs, rfl⟩
      · obtain ⟨bs, rfl⟩ := ihf h
        exact ⟨t, pos, bs, rfl⟩
    | option n v vpos =>
      refine ⟨fun h => ?_, fun h => by simp [Closes] at h⟩
      obtain ⟨bs, rfl⟩ := ihf h.2
      exact ⟨.option n v vpos pos :: bs, rfl⟩

theorem closes_of_blocks (bs : List Block) :
    Closes false (formsOf (bs.flatMap Block.arguments)) := by
  induction bs with
  | nil => rfl
  | cons b bs ih =>
    cases b with
    | option n v vpos pos => exact ⟨rfl, ih⟩
    | type t pos => exact ih
    | pair n npos t pos => exact ⟨rfl, ih⟩

theorem closes_iff_blocks {args : List Argument} :
    Closes false (formsOf args) ↔ ∃ bs : List Block, args = bs.flatMap Block.arguments := by
  constructor
  · exact (blocks_of_closes args).1
  · rintro ⟨bs, rfl⟩
    exact closes_of_blocks bs

/-! ### Reading from left to right -/

namespace Specification

variable {resolve : TypeExpr → Kind} {s s' : Partial}

theorem step_name_eq_ok_iff {n : String} {pos : Position} :
    step resolve s ⟨.name n, pos⟩ = .ok s' ↔
      s.pending = none ∧ NameFits n ∧ s' = { s with pending := some (n, pos) } := by
  obtain ⟨fields, options, pending⟩ := s
  cases pending with
  | some w => simp [step]
  | none =>
    simp only [step, bind_eq_ok_iff, true_and]
    constructor
    · rintro ⟨_, hn, h⟩
      cases h
      exact ⟨checkName_eq_ok_iff.mp hn, rfl⟩
    · rintro ⟨hn, rfl⟩
      exact ⟨(), checkName_eq_ok_iff.mpr hn, rfl⟩

theorem step_option_eq_ok_iff {n : String} {v : Expr} {vpos pos : Position} :
    step resolve s ⟨.option n v vpos, pos⟩ = .ok s' ↔
      s.pending = none ∧ OptionFits n v ∧ s' = { s with options := s.options.set (n, v) } := by
  obtain ⟨fields, options, pending⟩ := s
  cases pending with
  | some w => simp [step]
  | none =>
    simp only [step, bind_eq_ok_iff, apply_eq_ok_iff, true_and]
    constructor
    · rintro ⟨o, ⟨hv, rfl⟩, h⟩
      cases h
      exact ⟨hv, rfl⟩
    · rintro ⟨hv, rfl⟩
      exact ⟨_, ⟨hv, rfl⟩, rfl⟩

/-- The name that a type takes. -/
def Partial.nextName (s : Partial) : String := (s.pending.map (·.1)).getD Field.defaultName

/-- The accessors of the fields that have been read. -/
def Partial.accessors (s : Partial) : List String := s.fields.map Field.accessor

theorem step_type_eq_ok_iff {t : TypeExpr} {pos : Position} :
    step resolve s ⟨.type t, pos⟩ = .ok s' ↔
      Text.snakeCase s.nextName ∉ s.accessors ∧ s.fields.length ≠ Field.maximum ∧
        s' = ⟨s.fields ++ [⟨s.nextName, t, resolve t⟩], s.options, none⟩ := by
  obtain ⟨fields, options, pending⟩ := s
  have hname : (pending.getD (Field.defaultName, pos)).1 =
      (pending.map (·.1)).getD Field.defaultName := by cases pending <;> rfl
  have hany : (fields.any (·.accessor == Text.snakeCase (pending.getD (Field.defaultName, pos)).1))
      = true ↔ Text.snakeCase ((pending.map (·.1)).getD Field.defaultName) ∈
        fields.map Field.accessor := by
    simp [hname]
  simp only [step, Partial.nextName, Partial.accessors]
  by_cases hdup : Text.snakeCase ((pending.map (·.1)).getD Field.defaultName) ∈
      fields.map Field.accessor
  · rw [if_pos (hany.mpr hdup)]
    exact ⟨fun h => (nomatch h), fun h => absurd hdup h.1⟩
  rw [if_neg (fun h => hdup (hany.mp h))]
  by_cases hmax : fields.length = Field.maximum
  · rw [if_pos hmax]
    exact ⟨fun h => (nomatch h), fun h => absurd hmax h.2.1⟩
  rw [if_neg hmax, hname, Except.ok.injEq]
  exact ⟨fun h => ⟨hdup, hmax, h.symm⟩, fun h => h.2.2.symm⟩

/-- The accessors are different, and there are not too many fields. -/
structure Partial.Fits (s : Partial) : Prop where
  distinct : s.accessors.Nodup
  room : s.fields.length ≤ Field.maximum

/-- A new field with an accessor of its own fits in if there is room. -/
theorem Partial.Fits.snoc (hs : s.Fits) {f : Field} (hnew : f.accessor ∉ s.accessors)
    (hmax : s.fields.length ≠ Field.maximum) :
    Partial.Fits ⟨s.fields ++ [f], s.options, none⟩ := by
  have hroom := hs.room
  refine ⟨?_, by simp only [List.length_append, List.length_singleton]; omega⟩
  simp only [Partial.accessors, List.map_append, List.map_cons, List.map_nil]
  rw [List.nodup_append]
  refine ⟨hs.distinct, List.nodup_singleton _, ?_⟩
  rintro a ha b hb rfl
  rw [List.mem_singleton] at hb
  exact hnew (hb ▸ ha)

/-- What the arguments must be like if reading goes from `s` to `s'` and no name waits
at the end. -/
structure Reads (resolve : TypeExpr → Kind) (s : Partial) (fs : List ArgumentForm)
    (s' : Partial) : Prop where
  closes : Closes s.pending.isSome fs
  names : ∀ n, .name n ∈ fs → NameFits n
  options : ∀ n v p, .option n v p ∈ fs → OptionFits n v
  room : s.fields.length + (namedTypes (s.pending.map (·.1)) fs).length ≤ Field.maximum
  distinct : (s.accessors ++ (namedTypes (s.pending.map (·.1)) fs).map
    fun f => Text.snakeCase f.1).Nodup
  result : s' = ⟨s.fields ++ (namedTypes (s.pending.map (·.1)) fs).map
    fun f => ⟨f.1, f.2, resolve f.2⟩, (optionsAmong fs).foldl Options.set s.options, none⟩

theorem reads_nil (hs : s.Fits) : Reads resolve s [] s' ↔ s' = s ∧ s'.pending = none := by
  obtain ⟨fields, options, pending⟩ := s
  constructor
  · intro h
    have hp : pending = none := by simpa [Closes] using h.closes
    subst hp
    have hr := h.result
    simp [namedTypes, optionsAmong] at hr
    exact ⟨hr, by rw [hr]⟩
  · rintro ⟨rfl, hp⟩
    cases hp
    refine ⟨rfl, by simp, by simp, by simpa [namedTypes] using hs.room, ?_, ?_⟩
    · simpa [namedTypes] using hs.distinct
    · simp [namedTypes, optionsAmong]

theorem reads_name {n : String} (pos : Position) {fs : List ArgumentForm} :
    Reads resolve s (.name n :: fs) s' ↔ s.pending = none ∧ NameFits n ∧
      Reads resolve { s with pending := some (n, pos) } fs s' := by
  obtain ⟨fields, options, pending⟩ := s
  constructor
  · rintro ⟨hc, hn, ho, hr, hd, rfl⟩
    have hp : pending = none := by simpa using hc.1
    subst hp
    exact ⟨rfl, hn n List.mem_cons_self, hc.2, fun m hm => hn m (List.mem_cons_of_mem _ hm),
      fun m v p hm => ho m v p (List.mem_cons_of_mem _ hm), hr, hd, rfl⟩
  · rintro ⟨rfl, hfit, hc, hn, ho, hr, hd, rfl⟩
    refine ⟨⟨rfl, hc⟩, ?_, ?_, hr, hd, rfl⟩
    · intro m hm
      rcases List.mem_cons.mp hm with h | h
      · cases h
        exact hfit
      · exact hn m h
    · intro m v p hm
      exact ho m v p (by simpa using hm)

theorem reads_option {n : String} {v : Expr} {vpos : Position} {fs : List ArgumentForm} :
    Reads resolve s (.option n v vpos :: fs) s' ↔ s.pending = none ∧ OptionFits n v ∧
      Reads resolve { s with options := s.options.set (n, v) } fs s' := by
  obtain ⟨fields, options, pending⟩ := s
  constructor
  · rintro ⟨hc, hn, ho, hr, hd, rfl⟩
    have hp : pending = none := by simpa using hc.1
    subst hp
    exact ⟨rfl, ho n v vpos List.mem_cons_self, hc.2, fun m hm => hn m (List.mem_cons_of_mem _ hm),
      fun m w p hm => ho m w p (List.mem_cons_of_mem _ hm), hr, hd, rfl⟩
  · rintro ⟨rfl, hfit, hc, hn, ho, hr, hd, rfl⟩
    refine ⟨⟨rfl, hc⟩, ?_, ?_, hr, hd, rfl⟩
    · intro m hm
      exact hn m (by simpa using hm)
    · intro m w p hm
      rcases List.mem_cons.mp hm with h | h
      · cases h
        exact hfit
      · exact ho m w p h

theorem reads_type {t : TypeExpr} {fs : List ArgumentForm} :
    Reads resolve s (.type t :: fs) s' ↔
      Text.snakeCase s.nextName ∉ s.accessors ∧ s.fields.length ≠ Field.maximum ∧
        Reads resolve ⟨s.fields ++ [⟨s.nextName, t, resolve t⟩], s.options, none⟩ fs s' := by
  have hacc : ∀ f : Field, Partial.accessors ⟨s.fields ++ [f], s.options, none⟩ =
      s.accessors ++ [f.accessor] := by
    intro f
    simp [Partial.accessors]
  constructor
  · rintro ⟨hc, hn, ho, hr, hd, rfl⟩
    -- the type takes the name that waits, so none waits for the rest
    simp only [namedTypes, List.map_cons, List.length_cons] at hr hd ⊢
    refine ⟨?_, by omega, hc, fun m hm => hn m (List.mem_cons_of_mem _ hm),
      fun m v p hm => ho m v p (List.mem_cons_of_mem _ hm), ?_, ?_, ?_⟩
    · intro hmem
      rw [List.nodup_append] at hd
      exact hd.2.2 _ hmem _ List.mem_cons_self rfl
    · simp only [List.length_append, List.length_singleton]
      change _ + (namedTypes none fs).length ≤ _
      omega
    · rw [hacc, List.append_assoc]
      exact hd
    · simp [optionsAmong, Partial.nextName]
  · rintro ⟨hnew, hmax, hc, hn, ho, hr, hd, rfl⟩
    rw [hacc, List.append_assoc] at hd
    simp only [List.length_append, List.length_singleton, Option.map_none] at hr
    refine ⟨hc, ?_, ?_, ?_, hd, ?_⟩
    · intro m hm
      exact hn m (by simpa using hm)
    · intro m v p hm
      exact ho m v p (by simpa using hm)
    · simp only [namedTypes, List.length_cons]
      omega
    · simp [optionsAmong, namedTypes, Partial.nextName]

/-- **Reading from any state, described without the steps.**  The induction is on the
arguments; each case is the step for one form and the matching case of `Reads`. -/
theorem foldlM_step_eq_ok_iff : ∀ (args : List Argument) (s s' : Partial), s.Fits →
    (args.foldlM (step resolve) s = .ok s' ∧ s'.pending = none ↔
      Reads resolve s (formsOf args) s') := by
  intro args
  induction args with
  | nil =>
    intro s s' hs
    rw [formsOf, List.map_nil, reads_nil hs, List.foldlM_nil]
    constructor
    · rintro ⟨h, hp⟩
      cases h
      exact ⟨rfl, hp⟩
    · rintro ⟨rfl, hp⟩
      exact ⟨rfl, hp⟩
  | cons a args ih =>
    intro s s' hs
    obtain ⟨form, pos⟩ := a
    rw [List.foldlM_cons, bind_eq_ok_iff, formsOf, List.map_cons]
    cases form with
    | name n =>
      rw [reads_name pos, ← formsOf,
        ← ih { s with pending := some (n, pos) } s' ⟨hs.distinct, hs.room⟩]
      constructor
      · rintro ⟨⟨s₁, h₁, h₂⟩, hp⟩
        obtain ⟨hnone, hfit, rfl⟩ := step_name_eq_ok_iff.mp h₁
        exact ⟨hnone, hfit, h₂, hp⟩
      · rintro ⟨hnone, hfit, h₂, hp⟩
        exact ⟨⟨_, step_name_eq_ok_iff.mpr ⟨hnone, hfit, rfl⟩, h₂⟩, hp⟩
    | type t =>
      -- the only step that adds a field, so `Fits` has to be shown again
      rw [reads_type]
      constructor
      · rintro ⟨⟨s₁, h₁, h₂⟩, hp⟩
        obtain ⟨hnew, hmax, rfl⟩ := step_type_eq_ok_iff.mp h₁
        have hfits := hs.snoc (f := ⟨s.nextName, t, resolve t⟩) hnew hmax
        exact ⟨hnew, hmax, (ih _ s' hfits).mp ⟨h₂, hp⟩⟩
      · rintro ⟨hnew, hmax, h⟩
        have hfits := hs.snoc (f := ⟨s.nextName, t, resolve t⟩) hnew hmax
        obtain ⟨h₂, hp⟩ := (ih _ s' hfits).mpr h
        exact ⟨⟨_, step_type_eq_ok_iff.mpr ⟨hnew, hmax, rfl⟩, h₂⟩, hp⟩
    | option n v vpos =>
      rw [reads_option, ← formsOf,
        ← ih { s with options := s.options.set (n, v) } s' ⟨hs.distinct, hs.room⟩]
      constructor
      · rintro ⟨⟨s₁, h₁, h₂⟩, hp⟩
        obtain ⟨hnone, hfit, rfl⟩ := step_option_eq_ok_iff.mp h₁
        exact ⟨hnone, hfit, h₂, hp⟩
      · rintro ⟨hnone, hfit, h₂, hp⟩
        exact ⟨⟨_, step_option_eq_ok_iff.mpr ⟨hnone, hfit, rfl⟩, h₂⟩, hp⟩

/-! ### Whole lists -/

theorem finish_eq_ok_iff {spec : Specification} : finish s = .ok spec ↔ s.pending = none ∧
    spec = ⟨if s.fields.isEmpty then [Field.defaultId] else s.fields, s.options⟩ := by
  obtain ⟨fields, options, pending⟩ := s
  cases pending with
  | some w => simp [finish]
  | none =>
    simp only [finish, true_and, Except.ok.injEq]
    exact eq_comm

/-- What an admissible list stands for. -/
def ofForms (resolve : TypeExpr → Kind) (fs : List ArgumentForm) : Specification :=
  ⟨fieldsFor resolve (namedTypes none fs), Options.lastOf (optionsAmong fs)⟩

theorem reads_start_iff {args : List Argument} :
    Reads resolve .start (formsOf args) s' ↔ Admissible args ∧
      s' = ⟨(namedTypes none (formsOf args)).map fun f => ⟨f.1, f.2, resolve f.2⟩,
        Options.lastOf (optionsAmong (formsOf args)), none⟩ := by
  constructor
  · rintro ⟨hc, hn, ho, hr, hd, rfl⟩
    refine ⟨⟨closes_iff_blocks.mp hc, hn, ho, ?_, hd⟩, ?_⟩
    · simpa [Partial.start] using hr
    · simp [Partial.start, foldl_set_default]
  · rintro ⟨⟨hb, hn, ho, hr, hd⟩, rfl⟩
    refine ⟨closes_iff_blocks.mpr hb, hn, ho, ?_, hd, ?_⟩
    · simpa [Partial.start] using hr
    · simp [Partial.start, foldl_set_default]

/-- **A list is read exactly if it is admissible**, and what it stands for. -/
theorem ofArguments_eq_ok_iff {args : List Argument} {spec : Specification} :
    ofArguments resolve args = .ok spec ↔
      Admissible args ∧ spec = ofForms resolve (formsOf args) := by
  have hstart : Partial.start.Fits := ⟨List.nodup_nil, Nat.zero_le _⟩
  rw [ofArguments, bind_eq_ok_iff]
  constructor
  · rintro ⟨s', hs', hfin⟩
    obtain ⟨hp, rfl⟩ := finish_eq_ok_iff.mp hfin
    obtain ⟨hadm, rfl⟩ := reads_start_iff.mp ((foldlM_step_eq_ok_iff args _ _ hstart).mp ⟨hs', hp⟩)
    refine ⟨hadm, ?_⟩
    simp [ofForms, fieldsFor]
  · rintro ⟨hadm, rfl⟩
    have hreads : Reads resolve .start (formsOf args) _ := reads_start_iff.mpr ⟨hadm, rfl⟩
    obtain ⟨hs', hp⟩ := (foldlM_step_eq_ok_iff args .start _ hstart).mpr hreads
    refine ⟨_, hs', finish_eq_ok_iff.mpr ⟨hp, ?_⟩⟩
    simp [ofForms, fieldsFor]

/-! ### What fields and options depend on -/

/-- The form is an option. -/
def isOption : ArgumentForm → Bool
  | .option _ _ _ => true
  | _ => false

/-- The types and their names are not changed by options between them. -/
theorem namedTypes_filter (fs : List ArgumentForm) : ∀ waiting : Option String,
    namedTypes waiting (fs.filter (!isOption ·)) = namedTypes waiting fs := by
  induction fs with
  | nil => intro _; rfl
  | cons f fs ih =>
    intro waiting
    cases f with
    | name n =>
      rw [List.filter_cons_of_pos rfl]
      exact ih (some n)
    | type t =>
      rw [List.filter_cons_of_pos rfl, namedTypes, namedTypes, ih]
    | option n v p =>
      rw [List.filter_cons_of_neg (by simp [isOption])]
      exact ih waiting

/-- The options are not changed by names and types between them. -/
theorem optionsAmong_filter (fs : List ArgumentForm) :
    optionsAmong (fs.filter isOption) = optionsAmong fs := by
  induction fs with
  | nil => rfl
  | cons f fs ih =>
    cases f with
    | name n =>
      rw [List.filter_cons_of_neg (by simp [isOption])]
      exact ih
    | type t =>
      rw [List.filter_cons_of_neg (by simp [isOption])]
      exact ih
    | option n v p =>
      rw [List.filter_cons_of_pos rfl]
      exact congrArg ((n, v) :: ·) ih

/-! ### The grammar theorem -/

/-- An error other than a name at the end lies in the part that has been read. -/
theorem foldlM_error_of_ofArguments {args : List Argument} {m : Malformed}
    (h : ofArguments resolve args = .error m) (hm : ∀ n, m.cause ≠ .danglingName n) :
    args.foldlM (step resolve) .start = .error m := by
  rw [ofArguments] at h
  rcases bind_eq_error_iff.mp h with h | ⟨⟨fields, options, pending⟩, -, h⟩
  · exact h
  · cases pending with
    | none => cases h
    | some w =>
      cases h
      exact absurd rfl (hm w.1)

/-- **What an argument list stands for.**  It is read exactly if it is admissible; its
fields are the types in order with their names, whatever options stand between them,
and each option has its last value, whatever the fields are.  An error other than a
name at the end stays when arguments are added. -/
theorem ofArguments_grammar (resolve : TypeExpr → Kind) (args : List Argument) :
    ((∃ spec, ofArguments resolve args = .ok spec) ↔ Admissible args) ∧
      (∀ spec, ofArguments resolve args = .ok spec →
        spec.fields = fieldsFor resolve
          (namedTypes none ((formsOf args).filter (!isOption ·))) ∧
        spec.options = Options.lastOf (optionsAmong ((formsOf args).filter isOption))) ∧
      (∀ m, ofArguments resolve args = .error m → (∀ n, m.cause ≠ .danglingName n) →
        ∀ more, ofArguments resolve (args ++ more) = .error m) := by
  refine ⟨?_, ?_, ?_⟩
  · constructor
    · rintro ⟨spec, h⟩
      exact (ofArguments_eq_ok_iff.mp h).1
    · intro h
      exact ⟨_, ofArguments_eq_ok_iff.mpr ⟨h, rfl⟩⟩
  · intro spec h
    obtain ⟨-, rfl⟩ := ofArguments_eq_ok_iff.mp h
    rw [namedTypes_filter, optionsAmong_filter]
    exact ⟨rfl, rfl⟩
  · intro m h hm more
    -- a step has failed, and no later step is taken
    have hfold := foldlM_error_of_ofArguments h hm
    rw [ofArguments, List.foldlM_append, hfold]
    rfl

end Specification
end Newtype
