import Newtype.Proofs.Run

/-!
# Wrappers in the fields of other wrappers

A field whose type is another wrapper of the batch is planned by the traits of that
wrapper, and by assumed traits if its arguments were refused.  This holds of fields that
come from type arguments, for every wrapper from which no cycle can be reached.  Fields
that come with their kind keep it: those of a declaration that was added with its
fields, and the identifier of a wrapper that names no type.

* `Generator.Follows` — a field has the traits of the wrapper it holds.
* `kind_eq_kindIn` — fields from type arguments have the kind the batch gives them.
* `follows_of_grounded` — **the fields of a wrapper follow the batch.**
* `not_follows_everywhere` — fields that come with their kind need not.
-/

namespace Newtype

/-- The primitive type that a type is as it is written. -/
def TypeExpr.primitive? (t : TypeExpr) : Option Primitive := t.path?.bind Primitive.ofName?

/-- A type that is a wrapper of the batch, and no primitive, has the traits in the
table. -/
theorem kindIn_of_wrapper {registry : Registry} {scope : Scope} {names : List String}
    {table : String → Option TraitSet} {t : TypeExpr} {w : String} (hprim : t.primitive? = none)
    (hw : batchWrapper? scope names t = some w) :
    kindIn registry scope names table t = .named ((table w).getD .assumed) := by
  unfold kindIn
  cases hs : t.segments? with
  | none => simp [batchWrapper?, hs] at hw
  | some segments =>
    have hp : Primitive.ofName? (Path.join segments) = none := by
      simpa [TypeExpr.primitive?, TypeExpr.path?, hs] using hprim
    simp only [hp, hw]

/-! ### Fields from type arguments -/

theorem namedTypes_map_snd (fs : List ArgumentForm) : ∀ waiting : Option String,
    (namedTypes waiting fs).map (·.2) = typesAmong fs := by
  induction fs with
  | nil => intro _; rfl
  | cons f fs ih =>
    intro waiting
    cases f with
    | name n => exact ih (some n)
    | type t => exact congrArg (t :: ·) (ih none)
    | option n v p => exact ih waiting

/-- A field whose type is among the arguments has been asked for its kind. -/
theorem kind_eq_of_ofArguments {resolve : TypeExpr → Kind} {args : List Argument}
    {s : Specification} (h : Specification.ofArguments resolve args = .ok s) {f : Field}
    (hf : f ∈ s.fields) (ht : f.type ∈ typesAmong (formsOf args)) : f.kind = resolve f.type := by
  obtain ⟨-, rfl⟩ := Specification.ofArguments_eq_ok_iff.mp h
  rw [← namedTypes_map_snd _ none] at ht
  simp only [Specification.ofForms, fieldsFor] at hf
  split at hf
  · next hempty =>
    rw [List.isEmpty_iff.mp hempty] at ht
    cases ht
  · obtain ⟨x, -, rfl⟩ := List.mem_map.mp hf
    rfl

namespace Generator

theorem kind_eq_kindIn {registry : Registry} {names : List String}
    {τ : String → Option TraitSet} {w : Pending} {s : Specification}
    (h : w.specIn registry names τ = .ok s) {f : Field} (hf : f ∈ s.fields)
    (ht : f.type ∈ w.types) : f.kind = kindIn registry w.scope names τ f.type := by
  cases w with
  | resolved t s' => cases ht
  | source i d =>
    simp only [Pending.specIn] at h
    obtain ⟨args, hargs, hof⟩ := bind_eq_ok_iff.mp h
    rw [Pending.types, hargs] at ht
    exact kind_eq_of_ofArguments hof hf ht

/-! ### Following the batch -/

/-- The field `f` has the traits of the wrapper `v` in it: those that follow from the plan
behind the file of `v`, or assumed ones if `v` has no file because its arguments were
refused. -/
def FollowsAt (g : Generator) (f : Field) (v : Pending) : Prop :=
  (∃ plan, .produce plan ∈ g.events ∧ plan.typeName = v.target.name ∧
      (∀ a, a ∈ g.generate.1 ∧ a.file = artifactName v.target.name ↔ a = g.artifact plan) ∧
      f.kind = .named (plan.traits (g.fullTarget v))) ∨
    ∃ m, .reject (g.fullTarget v, .malformed m) ∈ g.events ∧
      (∀ a ∈ g.generate.1, a.file ≠ artifactName v.target.name) ∧ f.kind = .named .assumed

/-- If the type of the field is another wrapper of the batch, the field has its
traits. -/
def Follows (g : Generator) (w : Pending) (f : Field) : Prop :=
  f.type.primitive? = none → ∀ v ∈ g.accepted, v ≠ w →
    batchWrapper? w.scope g.names f.type = some v.target.name → g.FollowsAt f v

/-- The traits in the final table are those of the plan behind the file, and a wrapper
without an entry was refused. -/
theorem followsAt_of_table {g : Generator} {v : Pending} (hv : v ∈ g.accepted) {f : Field}
    (hf : f.kind = .named ((g.table v.target.name).getD .assumed)) : g.FollowsAt f v := by
  obtain ⟨l, r, hturn⟩ := exists_turn hv
  rw [table_eq hturn] at hf
  cases hs : g.specification g.names (g.knownAfter l) v with
  | error m =>
    rw [hs] at hf
    refine Or.inr ⟨m, malformed_mem_events.mpr ⟨l, v, r, hturn, hs, rfl⟩, ?_, hf⟩
    intro a ha hfile
    obtain ⟨s, hok, -⟩ := (mem_generate_of_turn hturn).mp ⟨ha, hfile⟩
    rw [hs] at hok
    cases hok
  | ok s =>
    rw [hs] at hf
    refine Or.inl ⟨g.planOf v s, produce_mem_events.mpr ⟨l, v, r, s, hturn, hs, rfl⟩,
      g.planOf_typeName v s, ?_, hf⟩
    exact fun a => mem_generate_of_ok hturn hs

/-- **The fields of a wrapper follow the batch.**  A wrapper with a file from which no
cycle can be reached has the file of the plan for its fields, its options and the struct
with the members written for it, and every field that comes from a type argument has
the traits of the wrapper in it. -/
theorem follows_of_grounded (g : Generator) {w : Pending} (hw : w ∈ g.accepted)
    (hg : Grounded g.accepted w.target.name)
    (ha : ∃ a ∈ g.generate.1, a.file = artifactName w.target.name) :
    ∃ known s, g.specification g.names known w = .ok s ∧
      (∀ a, a ∈ g.generate.1 ∧ a.file = artifactName w.target.name ↔
        a = ⟨artifactName w.target.name,
          g.withHeader (Plan.of s (w.target.addMembers (g.membersOf w))).text⟩) ∧
      ∀ f ∈ s.fields, f.type ∈ w.types → g.Follows w f := by
  obtain ⟨l, r, hturn⟩ := exists_turn hw
  obtain ⟨a, hmem, hfile⟩ := ha
  obtain ⟨s, hs, -⟩ := (mem_generate_of_turn hturn).mp ⟨hmem, hfile⟩
  refine ⟨g.knownAfter l, s, hs, ?_, ?_⟩
  · intro a
    have hart : g.artifact (g.planOf w s) = ⟨artifactName w.target.name,
        g.withHeader (Plan.of s (w.target.addMembers (g.membersOf w))).text⟩ :=
      congrArg (Artifact.mk · _) (congrArg artifactName (g.planOf_typeName w s))
    rw [← hart]
    exact mem_generate_of_ok hturn hs
  · intro f hf ht hprim v hv hne huse
    -- the field was resolved with the final table, in which `v` has its own entry
    rw [specification_settled hturn hg] at hs
    have hkind := kind_eq_kindIn hs hf ht
    rw [kindIn_of_wrapper hprim huse] at hkind
    have hname : v.target.name ≠ w.target.name :=
      fun h => hne (eq_of_name_eq g.nodup_names hv hw h)
    rw [without, if_neg hname] at hkind
    exact followsAt_of_table hv hkind

/-! ### Batches of two -/

/-- The type that a single name is. -/
def bare (w : String) : TypeExpr := .named ⟨false, [w]⟩

/-- A declaration of the first source text whose arguments are some types. -/
def declared (w : String) (types : List TypeExpr) (bindings : List Binding) : Pending :=
  .source 0 ⟨{ name := w }, .ok (types.map fun t => ⟨.type t, .start⟩), ⟨[], bindings⟩⟩

/-- A declaration of the first source text with the name of a field but no type. -/
def nameOnly (w : String) : Pending :=
  .source 0 ⟨{ name := w }, .ok [⟨.name "First", .start⟩], ⟨[], []⟩⟩

/-- A wrapper declared before the wrapper it holds. -/
def outerInner : Generator where
  pending := [declared "Outer" [bare "Inner"] [], declared "Inner" [bare "i32"] []]

theorem acyclic_outerInner : Acyclic outerInner.accepted :=
  acyclic_of_rank (fun w => if w = "Outer" then 1 else 0) (by decide)

/-- The wrapper outside has its file, and its field follows the wrapper inside. -/
theorem follows_outerInner :
    ∃ known s, outerInner.specification outerInner.names known
        (declared "Outer" [bare "Inner"] []) = .ok s ∧
      (∀ a, a ∈ outerInner.generate.1 ∧ a.file = artifactName "Outer" ↔
        a = ⟨artifactName "Outer",
          outerInner.withHeader (Plan.of s { name := "Outer" }).text⟩) ∧
      ∀ f ∈ s.fields, f.type ∈ [bare "Inner"] →
        outerInner.Follows (declared "Outer" [bare "Inner"] []) f := by
  have hturn : ordered outerInner.accepted =
      [declared "Inner" [bare "i32"] []] ++ declared "Outer" [bare "Inner"] [] :: [] := rfl
  exact follows_of_grounded outerInner (mem_accepted_of_turn hturn) (acyclic_outerInner.grounded _)
    ⟨_, (mem_generate_of_ok hturn rfl).mpr rfl⟩

/-- Every field that holds another wrapper has its traits, wherever it comes from. -/
def FollowsEverywhere (g : Generator) : Prop :=
  ∀ w ∈ g.accepted, Grounded g.accepted w.target.name →
    (∃ a ∈ g.generate.1, a.file = artifactName w.target.name) →
      ∃ known s, g.specification g.names known w = .ok s ∧ ∀ f ∈ s.fields, g.Follows w f

/-- A field that holds another wrapper and has a kind of its own does not follow. -/
theorem not_followsEverywhere_of_kind {g : Generator} {l r : List Pending} {w v : Pending}
    {s : Specification} {f : Field} (hturn : ordered g.accepted = l ++ w :: r)
    (hground : Grounded g.accepted w.target.name)
    (hs : ∀ known, g.specification g.names known w = .ok s) (hf : f ∈ s.fields)
    (hkind : ∀ t, f.kind ≠ .named t) (hprim : f.type.primitive? = none) (hv : v ∈ g.accepted)
    (hne : v ≠ w) (huse : batchWrapper? w.scope g.names f.type = some v.target.name) :
    ¬g.FollowsEverywhere := by
  intro h
  obtain ⟨known, s', hs', hfollows⟩ := h w (mem_accepted_of_turn hturn) hground
    ⟨_, (mem_generate_of_ok hturn (hs _)).mpr rfl⟩
  cases (hs known).symm.trans hs'
  rcases hfollows f hf hprim v hv hne huse with ⟨plan, -, -, -, hk⟩ | ⟨m, -, -, hk⟩
  · exact hkind _ hk
  · exact hkind _ hk

/-- A wrapper added with its field, which is said to be a number, beside the wrapper whose
name the type of the field is. -/
def givenField : Generator where
  pending := [declared "Inner" [bare "i32"] [],
    .resolved { name := "Outer" } ⟨[⟨"Value", bare "Inner", .primitive .i32⟩], {}⟩]

theorem not_follows_givenField : ¬givenField.FollowsEverywhere := by
  have hturn : ordered givenField.accepted = [declared "Inner" [bare "i32"] []] ++
      .resolved { name := "Outer" } ⟨[⟨"Value", bare "Inner", .primitive .i32⟩], {}⟩ :: [] := rfl
  have hacyclic : Acyclic givenField.accepted := acyclic_of_rank (fun _ => 0) (by decide)
  exact not_followsEverywhere_of_kind (v := declared "Inner" [bare "i32"] []) hturn
    (hacyclic.grounded _) (fun _ => rfl) List.mem_cons_self (fun _ => Kind.noConfusion) rfl
    List.mem_cons_self Pending.noConfusion rfl

/-- A wrapper without arguments in a module that binds `uuid` to a place of the same
crate, beside a wrapper `Uuid`. -/
def givenIdentifier : Generator where
  pending := [declared "Uuid" [bare "i32"] [],
    declared "Key" [] [("uuid", ["crate", "ids"])]]

theorem not_follows_givenIdentifier : ¬givenIdentifier.FollowsEverywhere := by
  have hturn : ordered givenIdentifier.accepted = [declared "Uuid" [bare "i32"] []] ++
      declared "Key" [] [("uuid", ["crate", "ids"])] :: [] := rfl
  have hacyclic : Acyclic givenIdentifier.accepted := acyclic_of_rank (fun _ => 0) (by decide)
  have hne : declared "Uuid" [bare "i32"] [] ≠ declared "Key" [] [("uuid", ["crate", "ids"])] :=
    fun e => absurd (congrArg (·.target.name) e) (by decide)
  exact not_followsEverywhere_of_kind (f := Field.defaultId)
    (v := declared "Uuid" [bare "i32"] []) hturn (hacyclic.grounded _) (fun _ => rfl)
    List.mem_cons_self (fun _ => Kind.noConfusion) rfl List.mem_cons_self hne rfl

/-- **Fields that come with their kind need not follow the batch**: neither those of a
declaration added with its fields, nor the identifier of a wrapper that names no
type. -/
theorem not_follows_everywhere :
    ¬givenField.FollowsEverywhere ∧ ¬givenIdentifier.FollowsEverywhere :=
  ⟨not_follows_givenField, not_follows_givenIdentifier⟩

end Generator
end Newtype
