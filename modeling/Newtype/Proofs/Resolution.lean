import Newtype.Proofs.Arguments

/-!
# Specifications and the meaning of types

What a type means is asked of a function `resolve`, and only the kinds of the fields
depend on its answers.  Reading the same arguments with two such functions goes through
states that are alike but for the kinds: it fails at the same argument for the same
reason, or gives the same names, types and options.

* `Partial.written`, `Specification.written` — everything but the kinds.
* `ofArguments_written` — **it does not depend on `resolve`.**
* `ofArguments_congr` — two functions that agree on the types of the list give the same.
-/

namespace Newtype

/-- Steps that are alike, in what `g` shows of their results, followed by steps that are
alike. -/
theorem bind_alike {ε α β γ δ : Type} {g : α → γ} {k : β → δ} {x₁ x₂ : Except ε α}
    {f₁ f₂ : α → Except ε β} (hx : g <$> x₁ = g <$> x₂)
    (hf : ∀ a₁ a₂, g a₁ = g a₂ → k <$> f₁ a₁ = k <$> f₂ a₂) :
    k <$> (x₁ >>= f₁) = k <$> (x₂ >>= f₂) := by
  cases x₁ with
  | error e₁ =>
    cases x₂ with
    | error e₂ =>
      cases hx
      rfl
    | ok a₂ => cases hx
  | ok a₁ =>
    cases x₂ with
    | error e₂ => cases hx
    | ok a₂ => exact hf a₁ a₂ (Except.ok.inj hx)

/-- Steps that are alike succeed together. -/
theorem exists_ok_of_alike {ε α γ : Type} {g : α → γ} {x₁ x₂ : Except ε α}
    (h : g <$> x₁ = g <$> x₂) {a₁ : α} (h₁ : x₁ = .ok a₁) : ∃ a₂, x₂ = .ok a₂ ∧ g a₁ = g a₂ := by
  subst h₁
  cases x₂ with
  | error e₂ => cases h
  | ok a₂ => exact ⟨a₂, rfl, Except.ok.inj h⟩

/-- Steps that are alike fail together, for the same reason. -/
theorem error_iff_of_alike {ε α γ : Type} {g : α → γ} {x₁ x₂ : Except ε α}
    (h : g <$> x₁ = g <$> x₂) {e : ε} : x₁ = .error e ↔ x₂ = .error e := by
  cases x₁ with
  | error e₁ =>
    cases x₂ with
    | error e₂ =>
      cases h
      rfl
    | ok a₂ => cases h
  | ok a₁ =>
    cases x₂ with
    | error e₂ => cases h
    | ok a₂ => simp

/-- A field without its kind. -/
def Field.written (f : Field) : String × TypeExpr := (f.name, f.type)

namespace Specification

/-- The names and types of the fields, and the options. -/
def written (s : Specification) : List (String × TypeExpr) × Options :=
  (s.fields.map Field.written, s.options)

/-- What has been read but for the kinds. -/
def Partial.written (s : Partial) :
    List (String × TypeExpr) × Options × Option (String × Position) :=
  (s.fields.map Field.written, s.options, s.pending)

variable {r₁ r₂ : TypeExpr → Kind} {s₁ s₂ : Partial}

/-- Whether an accessor is taken depends on the names only. -/
theorem any_accessor_congr {fs₁ fs₂ : List Field}
    (h : fs₁.map Field.written = fs₂.map Field.written) (a : String) :
    fs₁.any (·.accessor == a) = fs₂.any (·.accessor == a) := by
  have hmap : ∀ fs : List Field, fs.any (·.accessor == a) =
      (fs.map Field.written).any fun w => Text.snakeCase w.1 == a := by
    intro fs
    rw [List.any_map]
    rfl
  rw [hmap, hmap, h]

/-- **A step keeps two states alike.** -/
theorem step_written (h : s₁.written = s₂.written) (a : Argument) :
    Partial.written <$> step r₁ s₁ a = Partial.written <$> step r₂ s₂ a := by
  obtain ⟨fs₁, o₁, p₁⟩ := s₁
  obtain ⟨fs₂, o₂, p₂⟩ := s₂
  simp only [Partial.written, Prod.mk.injEq] at h
  obtain ⟨hfs, rfl, rfl⟩ := h
  obtain ⟨form, pos⟩ := a
  cases form with
  | name n =>
    cases p₁ with
    | some w => rfl
    | none =>
      refine bind_alike (g := id) rfl fun _ _ _ => ?_
      exact congrArg Except.ok (by simp [Partial.written, hfs])
  | type t =>
    -- the checks look at the names and the number of the fields
    have hlen : fs₁.length = fs₂.length := by simpa using congrArg List.length hfs
    simp only [step, any_accessor_congr hfs, hlen]
    split
    · rfl
    · split
      · rfl
      · simp [Functor.map, Except.map, Partial.written, hfs, Field.written]
  | option n v vpos =>
    cases p₁ with
    | some w => rfl
    | none =>
      refine bind_alike (g := id) rfl fun o o' ho => ?_
      cases ho
      exact congrArg Except.ok (by simp [Partial.written, hfs])

/-- All steps keep two states alike. -/
theorem foldlM_step_written : ∀ (args : List Argument) (s₁ s₂ : Partial),
    s₁.written = s₂.written →
      Partial.written <$> args.foldlM (step r₁) s₁ =
        Partial.written <$> args.foldlM (step r₂) s₂ := by
  intro args
  induction args with
  | nil => intro s₁ s₂ h; simpa [pure, Except.pure, Functor.map, Except.map] using h
  | cons a args ih =>
    intro s₁ s₂ h
    rw [List.foldlM_cons, List.foldlM_cons]
    exact bind_alike (step_written h a) ih

theorem finish_written (h : s₁.written = s₂.written) :
    written <$> finish s₁ = written <$> finish s₂ := by
  obtain ⟨fs₁, o₁, p₁⟩ := s₁
  obtain ⟨fs₂, o₂, p₂⟩ := s₂
  simp only [Partial.written, Prod.mk.injEq] at h
  obtain ⟨hfs, rfl, rfl⟩ := h
  have hempty : fs₁.isEmpty = fs₂.isEmpty := by
    cases fs₁ <;> cases fs₂ <;> simp_all
  cases p₁ with
  | some w => rfl
  | none =>
    simp only [finish, hempty, Functor.map, Except.map, written]
    split
    · rfl
    · rw [hfs]

/-- **Only the kinds of the fields depend on what types mean.** -/
theorem ofArguments_written (r₁ r₂ : TypeExpr → Kind) (args : List Argument) :
    written <$> ofArguments r₁ args = written <$> ofArguments r₂ args := by
  exact bind_alike (foldlM_step_written args .start .start rfl) fun _ _ => finish_written

/-- Two readings of a list fail together, for the same reason. -/
theorem ofArguments_error_iff (r₁ r₂ : TypeExpr → Kind) {args : List Argument} {m : Malformed} :
    ofArguments r₁ args = .error m ↔ ofArguments r₂ args = .error m :=
  error_iff_of_alike (ofArguments_written r₁ r₂ args)

/-! ### Functions that agree -/

/-- A type with its name is one of the list. -/
theorem type_mem_of_mem_namedTypes {fs : List ArgumentForm} {f : String × TypeExpr} :
    ∀ {waiting : Option String}, f ∈ namedTypes waiting fs → .type f.2 ∈ fs := by
  induction fs with
  | nil => intro _ h; cases h
  | cons a fs ih =>
    intro waiting h
    cases a with
    | name n => exact List.mem_cons_of_mem _ (ih h)
    | option n v p => exact List.mem_cons_of_mem _ (ih h)
    | type t =>
      rw [namedTypes, List.mem_cons] at h
      rcases h with rfl | h
      · exact List.mem_cons_self
      · exact List.mem_cons_of_mem _ (ih h)

/-- **What a list stands for depends only on what its own types mean.** -/
theorem ofArguments_congr {args : List Argument}
    (h : ∀ t, .type t ∈ formsOf args → r₁ t = r₂ t) :
    ofArguments r₁ args = ofArguments r₂ args := by
  have hforms : ofForms r₁ (formsOf args) = ofForms r₂ (formsOf args) := by
    have hmap : (namedTypes none (formsOf args)).map (fun f => (⟨f.1, f.2, r₁ f.2⟩ : Field)) =
        (namedTypes none (formsOf args)).map fun f => ⟨f.1, f.2, r₂ f.2⟩ := by
      refine List.map_congr_left fun f hf => ?_
      rw [h f.2 (type_mem_of_mem_namedTypes hf)]
    rw [ofForms, ofForms, fieldsFor, fieldsFor, hmap]
  cases h₁ : ofArguments r₁ args with
  | error m => exact ((ofArguments_error_iff r₁ r₂).mp h₁).symm
  | ok s =>
    obtain ⟨hadm, rfl⟩ := ofArguments_eq_ok_iff.mp h₁
    exact (ofArguments_eq_ok_iff.mpr ⟨hadm, hforms⟩).symm

end Specification
end Newtype
