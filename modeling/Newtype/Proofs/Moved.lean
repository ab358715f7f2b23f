import Mathlib.Data.List.Forall2
import Newtype.Proofs.Outcomes
import Newtype.Proofs.Rearrangement

/-!
# Declarations in another place

When something is written into a source text, the declarations behind it move.  Their
places change, and with them the tokens of their arguments, but places show in reports
only.  Two batches whose declarations differ in nothing else go on in lockstep: they
accept the same names, work them off in the same order, know the same at each turn and
write the same files.

The members that authors have written may differ for some wrappers.  Then the batches
still agree on everything that is worked off before the first of them.

* `ArgumentForm.Alike`, `Declaration.Alike`, `Pending.Alike` — the same but for places.
* `shown_ofArguments` — arguments that are alike are read alike.
* `Entry.Alike`, `Generator.Lockstep` — two batches in lockstep.
* `Lockstep.ordered`, `Lockstep.shown_reading` — **they agree at every turn.**
* `Generator.fileOf` — the file of a wrapper.
* `Lockstep.generate_files` — **they write the same files.**
-/

namespace Newtype

/-! ### Arguments -/

/-- Two types that are the same for a wrapper: they have the same text and path. -/
structure TypeExpr.Alike (t t' : TypeExpr) : Prop where
  segments : t.segments? = t'.segments?
  text : t.text = t'.text

/-- Two values that are the same for an option. -/
structure Expr.Alike (v v' : Expr) : Prop where
  truth : v.truth? = v'.truth?
  choice : v.choice? = v'.choice?

/-- Two arguments that differ in places only. -/
inductive ArgumentForm.Alike : ArgumentForm → ArgumentForm → Prop
  | name (n : String) : Alike (.name n) (.name n)
  | type {t t' : TypeExpr} : t.Alike t' → Alike (.type t) (.type t')
  | option (n : String) {v v' : Expr} (pos pos' : Position) :
    v.Alike v' → Alike (.option n v pos) (.option n v' pos')

instance (t t' : TypeExpr) : Decidable (t.Alike t') :=
  decidable_of_iff (t.segments? = t'.segments? ∧ t.text = t'.text)
    ⟨fun h => ⟨h.1, h.2⟩, fun h => ⟨h.segments, h.text⟩⟩

instance (v v' : Expr) : Decidable (v.Alike v') :=
  decidable_of_iff (v.truth? = v'.truth? ∧ v.choice? = v'.choice?)
    ⟨fun h => ⟨h.1, h.2⟩, fun h => ⟨h.truth, h.choice⟩⟩

instance : (f f' : ArgumentForm) → Decidable (f.Alike f')
  | .name n, .name n' =>
    decidable_of_iff (n = n') ⟨fun h => h ▸ .name n, fun h => by cases h; rfl⟩
  | .type t, .type t' =>
    decidable_of_iff (t.Alike t') ⟨.type, fun h => by cases h; assumption⟩
  | .option n v p, .option n' v' p' =>
    decidable_of_iff (n = n' ∧ v.Alike v')
      ⟨fun h => h.1 ▸ .option n p p' h.2, fun h => by cases h; exact ⟨rfl, by assumption⟩⟩
  | .name _, .type _ | .name _, .option _ _ _ | .type _, .name _ | .type _, .option _ _ _
  | .option _ _ _, .name _ | .option _ _ _, .type _ => isFalse fun h => nomatch h

theorem TypeExpr.Alike.symm {t t' : TypeExpr} (h : t.Alike t') : t'.Alike t :=
  ⟨h.segments.symm, h.text.symm⟩

theorem Expr.Alike.symm {v v' : Expr} (h : v.Alike v') : v'.Alike v :=
  ⟨h.truth.symm, h.choice.symm⟩

theorem ArgumentForm.Alike.refl (f : ArgumentForm) : f.Alike f := by
  cases f with
  | name n => exact .name n
  | type t => exact .type ⟨rfl, rfl⟩
  | option n v p => exact .option n p p ⟨rfl, rfl⟩

theorem ArgumentForm.Alike.symm {f f' : ArgumentForm} (h : f.Alike f') : f'.Alike f := by
  cases h with
  | name n => exact .name n
  | type h => exact .type h.symm
  | option n p p' h => exact .option n p' p h.symm

theorem OptionFits.alike {n : String} {v v' : Expr} (h : v.Alike v') (hf : OptionFits n v) :
    OptionFits n v' :=
  ⟨h.truth ▸ hf.implicit, h.choice ▸ hf.comparison, h.choice ▸ hf.math⟩

/-- What stands in the second of two related lists has a counterpart in the first. -/
theorem exists_mem_of_forall₂ {α β : Type} {R : α → β → Prop} {as : List α} {bs : List β}
    (h : List.Forall₂ R as bs) {b : β} (hb : b ∈ bs) : ∃ a ∈ as, R a b := by
  induction h with
  | nil => cases hb
  | cons hab _ ih =>
    rcases List.mem_cons.mp hb with rfl | hb
    · exact ⟨_, List.mem_cons_self, hab⟩
    · obtain ⟨a, ha, hR⟩ := ih hb
      exact ⟨a, List.mem_cons_of_mem _ ha, hR⟩

/-- Two lists of arguments that differ in places only. -/
def FormsAlike (fs fs' : List ArgumentForm) : Prop := List.Forall₂ ArgumentForm.Alike fs fs'

namespace FormsAlike

variable {fs fs' : List ArgumentForm}

theorem symm (h : FormsAlike fs fs') : FormsAlike fs' fs :=
  List.Forall₂.flip (h.imp fun _ _ hf => hf.symm)

theorem closes (h : FormsAlike fs fs') : ∀ waiting : Bool,
    Closes waiting fs → Closes waiting fs' := by
  induction h with
  | nil => exact fun _ hc => hc
  | cons hf _ ih =>
    intro waiting hc
    cases hf with
    | name n => exact ⟨hc.1, ih true hc.2⟩
    | type _ => exact ih false hc
    | option n p p' _ => exact ⟨hc.1, ih false hc.2⟩

theorem namedTypes (h : FormsAlike fs fs') : ∀ waiting : Option String,
    List.Forall₂ (fun f f' => f.1 = f'.1 ∧ f.2.Alike f'.2) (Newtype.namedTypes waiting fs)
      (Newtype.namedTypes waiting fs') := by
  induction h with
  | nil => exact fun _ => .nil
  | cons hf _ ih =>
    intro waiting
    cases hf with
    | name n => exact ih (some n)
    | type ht => exact .cons ⟨rfl, ht⟩ (ih none)
    | option n p p' _ => exact ih waiting

/-- A setting has the same values in both lists. -/
theorem lastSetting (h : FormsAlike fs fs') {α : Type} (key : String) {read : Expr → Option α}
    (hread : ∀ v v' : Expr, v.Alike v' → read v = read v') :
    Newtype.lastSetting key read (optionsAmong fs) =
      Newtype.lastSetting key read (optionsAmong fs') := by
  refine congrArg List.getLast? ?_
  induction h with
  | nil => rfl
  | cons hf _ ih =>
    cases hf with
    | name n => exact ih
    | type _ => exact ih
    | option n p p' hv =>
      simp only [optionsAmong, List.filterMap_cons, settingOf, hread _ _ hv] at ih ⊢
      rw [ih]

theorem lastOf (h : FormsAlike fs fs') :
    Options.lastOf (optionsAmong fs) = Options.lastOf (optionsAmong fs') := by
  unfold Options.lastOf
  rw [h.lastSetting implicitKey fun _ _ hv => hv.truth,
    h.lastSetting comparisonKey fun _ _ hv => hv.choice,
    h.lastSetting mathKey fun _ _ hv => hv.choice]

theorem admissible {args args' : List Argument} (h : FormsAlike (formsOf args) (formsOf args'))
    (ha : Admissible args) : Admissible args' where
  blocks := closes_iff_blocks.mp (h.closes false (closes_iff_blocks.mpr ha.blocks))
  names := by
    intro n hn
    obtain ⟨f, hf, halike⟩ := exists_mem_of_forall₂ h hn
    cases halike with
    | name => exact ha.names n hf
  options := by
    intro n v p ho
    obtain ⟨f, hf, halike⟩ := exists_mem_of_forall₂ h ho
    cases halike with
    | option _ _ _ hv => exact (ha.options n _ _ hf).alike hv
  room := (h.namedTypes none).length_eq ▸ ha.room
  distinct := by
    have hnames : (Newtype.namedTypes none (formsOf args)).map (fun f => Text.snakeCase f.1) =
        (Newtype.namedTypes none (formsOf args')).map fun f => Text.snakeCase f.1 := by
      rw [← List.forall₂_eq_eq_eq, List.forall₂_map_left_iff, List.forall₂_map_right_iff]
      exact (h.namedTypes none).imp fun _ _ hf => congrArg Text.snakeCase hf.1
    exact hnames ▸ ha.distinct

end FormsAlike

/-! ### Specifications -/

/-- What a wrapper shows of a field. -/
def Field.shown (f : Field) : String × String × Kind := (f.name, f.type.text, f.kind)

/-- What a wrapper shows of its specification. -/
def Specification.shown (s : Specification) : List (String × String × Kind) × Options :=
  (s.fields.map Field.shown, s.options)

/-- What a wrapper shows of its specification, if there is one. -/
def shownOf (x : Except Malformed Specification) :
    Option (List (String × String × Kind) × Options) :=
  x.toOption.map Specification.shown

/-- Two readings that show the same both fail, or both succeed. -/
theorem shownOf_cases {x x' : Except Malformed Specification} (h : shownOf x = shownOf x') :
    (∃ m m', x = .error m ∧ x' = .error m') ∨
      ∃ s s', x = .ok s ∧ x' = .ok s' ∧ s.shown = s'.shown := by
  cases x with
  | error m =>
    cases x' with
    | error m' => exact Or.inl ⟨m, m', rfl, rfl⟩
    | ok s' => cases h
  | ok s =>
    cases x' with
    | error m' => cases h
    | ok s' => exact Or.inr ⟨s, s', rfl, rfl, Option.some.inj h⟩

theorem shown_ofForms {r r' : TypeExpr → Kind} (hr : ∀ t t' : TypeExpr, t.Alike t' → r t = r' t')
    {fs fs' : List ArgumentForm} (h : FormsAlike fs fs') :
    (Specification.ofForms r fs).shown = (Specification.ofForms r' fs').shown := by
  have hfields : (fieldsFor r (namedTypes none fs)).map Field.shown =
      (fieldsFor r' (namedTypes none fs')).map Field.shown := by
    have htypes := h.namedTypes none
    generalize namedTypes none fs = ts at htypes ⊢
    generalize namedTypes none fs' = ts' at htypes ⊢
    unfold fieldsFor
    cases htypes with
    | nil => rfl
    | cons hf hfs =>
      simp only [List.isEmpty_cons, Bool.false_eq_true, if_false, List.map_map]
      rw [← List.forall₂_eq_eq_eq, List.forall₂_map_left_iff, List.forall₂_map_right_iff]
      have hshown : ∀ a b : String × TypeExpr, a.1 = b.1 ∧ a.2.Alike b.2 →
          Field.shown ⟨a.1, a.2, r a.2⟩ = Field.shown ⟨b.1, b.2, r' b.2⟩ := by
        intro a b hab
        simp only [Field.shown, hab.1, hab.2.text, hr _ _ hab.2]
      exact .cons (hshown _ _ hf) (hfs.imp hshown)
  exact Prod.ext hfields h.lastOf

/-- **Arguments that are alike are read alike**, if types that are alike have the same
kind. -/
theorem shown_ofArguments {r r' : TypeExpr → Kind}
    (hr : ∀ t t' : TypeExpr, t.Alike t' → r t = r' t') {args args' : List Argument}
    (h : FormsAlike (formsOf args) (formsOf args')) :
    shownOf (Specification.ofArguments r args) =
      shownOf (Specification.ofArguments r' args') := by
  by_cases ha : Admissible args
  · rw [Specification.ofArguments_eq_ok_iff.mpr ⟨ha, rfl⟩,
      Specification.ofArguments_eq_ok_iff.mpr ⟨h.admissible ha, rfl⟩]
    exact congrArg some (shown_ofForms hr h)
  · have hnone : ∀ (k : TypeExpr → Kind) (as : List Argument), ¬Admissible as →
        shownOf (Specification.ofArguments k as) = none := by
      intro k as has
      cases hs : Specification.ofArguments k as with
      | error m => rfl
      | ok s => exact absurd (Specification.ofArguments_eq_ok_iff.mp hs).1 has
    rw [hnone r args ha, hnone r' args' fun ha' => ha (h.symm.admissible ha')]

theorem batchWrapper?_alike {t t' : TypeExpr} (h : t.Alike t') (scope : Scope)
    (names : List String) : batchWrapper? scope names t = batchWrapper? scope names t' := by
  rw [batchWrapper?, batchWrapper?, h.segments]

theorem argumentWrappers_eq (scope : Scope) (names : List String) (args : List Argument) :
    argumentWrappers scope names args =
      (typesAmong (formsOf args)).filterMap (batchWrapper? scope names) := by
  rw [argumentWrappers, typesAmong, formsOf, List.filterMap_map, List.filterMap_filterMap]
  refine congrArg (List.filterMap · args) (funext fun a => ?_)
  rw [Function.comp_apply]
  cases a.form <;> rfl

/-- Arguments that are alike lead to the same wrappers. -/
theorem argumentWrappers_alike {args args' : List Argument}
    (h : FormsAlike (formsOf args) (formsOf args')) (scope : Scope) (names : List String) :
    argumentWrappers scope names args = argumentWrappers scope names args' := by
  rw [argumentWrappers_eq, argumentWrappers_eq]
  generalize formsOf args = fs at h ⊢
  generalize formsOf args' = fs' at h ⊢
  induction h with
  | nil => rfl
  | cons hf _ ih =>
    cases hf with
    | name n => exact ih
    | type ht =>
      simp only [typesAmong, List.filterMap_cons, batchWrapper?_alike ht] at ih ⊢
      rw [ih]
    | option n p p' _ => exact ih

theorem kindIn_alike {t t' : TypeExpr} (h : t.Alike t') (registry : Registry) (scope : Scope)
    (names : List String) (table : String → Option TraitSet) :
    kindIn registry scope names table t = kindIn registry scope names table t' := by
  rw [kindIn, kindIn, h.segments, batchWrapper?_alike h]

/-! ### Plans -/

/-- Two structs that differ in their place only. -/
def Target.Alike (t t' : Target) : Prop := { t with location := t'.location } = t'

theorem Target.Alike.refl (t : Target) : t.Alike t := rfl

theorem Target.Alike.addMembers {t t' : Target} (h : t.Alike t') (ms : List UserMember) :
    (t.addMembers ms).Alike (t'.addMembers ms) := by
  unfold Target.addMembers
  induction ms generalizing t t' with
  | nil => exact h
  | cons m ms ih =>
    refine ih ?_
    rw [← h]
    cases m <;> rfl

/-- **A plan shows no places**: it is made from what a specification shows. -/
theorem plan_of_shown {s s' : Specification} (hs : s.shown = s'.shown) {t t' : Target}
    (ht : t.Alike t') : Plan.of s t = Plan.of s' t' := by
  obtain ⟨hfields, hoptions⟩ := Prod.mk.inj hs
  have hslots : Storage.ofFields s.fields = Storage.ofFields s'.fields := by
    have hslot : s.fields.map Slot.ofField = s'.fields.map Slot.ofField := by
      have h := congrArg
        (List.map fun f : String × String × Kind => Slot.mk (Text.snakeCase f.1) f.2.1
          f.2.2.traits.copy) hfields
      rwa [List.map_map, List.map_map] at h
    have htraits : s.fields.map (·.kind.traits) = s'.fields.map (·.kind.traits) := by
      have h := congrArg (List.map fun f : String × String × Kind => f.2.2.traits) hfields
      rwa [List.map_map, List.map_map] at h
    rw [Storage.ofFields, Storage.ofFields, hslot, htraits]
  have hlength : s.fields.length = s'.fields.length := by
    simpa only [List.length_map] using congrArg List.length hfields
  have hcategory : Policy.categoryOf s.fields = Policy.categoryOf s'.fields := by
    match h : s.fields, h' : s'.fields with
    | [], [] => rfl
    | [f], [f'] =>
      rw [h, h'] at hfields
      have hkind : f.kind = f'.kind := congrArg (·.2.2) (List.cons.inj hfields).1
      exact congrArg Category.ofKind hkind
    | _ :: _ :: _, _ :: _ :: _ => rfl
    | [], _ :: _ => simp [h, h'] at hlength
    | _ :: _, [] => simp [h, h'] at hlength
    | [_], _ :: _ :: _ => simp [h, h'] at hlength
    | _ :: _ :: _, [_] => simp [h, h'] at hlength
  rw [← ht, Plan.of, Plan.of, Plan.make, Plan.make, Policy.of, Policy.of, hslots, hlength,
    hcategory, hoptions]

/-! ### Declarations -/

/-- What has been read from two markers differs in places only. -/
inductive ArgumentsAlike :
    Except Malformed (List Argument) → Except Malformed (List Argument) → Prop
  | refused (m m' : Malformed) : ArgumentsAlike (.error m) (.error m')
  | read {args args' : List Argument} :
    FormsAlike (formsOf args) (formsOf args') → ArgumentsAlike (.ok args) (.ok args')

instance : (x x' : Except Malformed (List Argument)) → Decidable (ArgumentsAlike x x')
  | .error m, .error m' => isTrue (.refused m m')
  | .ok args, .ok args' =>
    decidable_of_iff (List.Forall₂ ArgumentForm.Alike (formsOf args) (formsOf args'))
      ⟨.read, fun h => by cases h; assumption⟩
  | .error _, .ok _ | .ok _, .error _ => isFalse fun h => nomatch h

/-- Two declarations that differ in places only. -/
structure Declaration.Alike (d d' : Declaration) : Prop where
  target : d.target.Alike d'.target
  arguments : ArgumentsAlike d.arguments d'.arguments
  scope : d.scope = d'.scope

/-- Two declarations that wait, the same but for places and the numbers of their
sources. -/
inductive Pending.Alike : Pending → Pending → Prop
  | source (i j : Nat) {d d' : Declaration} : d.Alike d' → Alike (.source i d) (.source j d')
  | resolved (t : Target) (s : Specification) : Alike (.resolved t s) (.resolved t s)

theorem Declaration.Alike.refl (d : Declaration) : d.Alike d where
  target := .refl d.target
  arguments := by
    cases d.arguments with
    | error m => exact .refused m m
    | ok args => exact .read (List.forall₂_same.mpr fun f _ => .refl f)
  scope := rfl

theorem Pending.Alike.refl (p : Pending) : p.Alike p := by
  cases p with
  | source i d => exact .source i i (.refl d)
  | resolved t s => exact .resolved t s

namespace Pending.Alike

variable {p p' : Pending}

theorem target (h : p.Alike p') : p.target.Alike p'.target := by
  cases h with
  | source i j h => exact h.target
  | resolved t s => rfl

theorem name (h : p.Alike p') : p.target.name = p'.target.name := by
  rw [← h.target]

theorem passes (h : p.Alike p') : p.passes = p'.passes := by
  rw [Pending.passes, Pending.passes, ← h.target]
  rfl

/-- Declarations that are alike need the same wrappers. -/
theorem needs (h : p.Alike p') (names : List String) : p.needs names = p'.needs names := by
  cases h with
  | resolved t s => rfl
  | @source i j d d' h =>
    have hname : d.target.name = d'.target.name := (source i j h).name
    have hargs := h.arguments
    rw [Pending.needs, Pending.needs, h.scope, hname]
    generalize d.arguments = x at hargs ⊢
    generalize d'.arguments = x' at hargs ⊢
    cases hargs with
    | refused m m' => rfl
    | read hargs => simp only [argumentWrappers_alike hargs]

/-- Declarations that are alike are read alike. -/
theorem shown_specIn (h : p.Alike p') (registry : Registry) (names : List String)
    (table : String → Option TraitSet) :
    shownOf (p.specIn registry names table) = shownOf (p'.specIn registry names table) := by
  cases h with
  | resolved t s => rfl
  | @source i j d d' h =>
    have hargs := h.arguments
    rw [Pending.specIn, Pending.specIn, h.scope]
    generalize d.arguments = x at hargs ⊢
    generalize d'.arguments = x' at hargs ⊢
    cases hargs with
    | refused m m' => rfl
    | read hargs =>
      exact shown_ofArguments (fun _ _ ht => kindIn_alike ht registry _ names table) hargs

end Pending.Alike

/-! ### Lists in lockstep -/

/-- Declarations that are not in order leave no trace among those accepted. -/
theorem screenFrom_filter : ∀ (ps : List Pending) (seen : List String),
    (screenFrom seen ps).2 = (screenFrom seen (ps.filter Pending.passes)).2 := by
  intro ps
  induction ps with
  | nil => intro seen; rfl
  | cons p ps ih =>
    intro seen
    rcases screen_cases p seen with ⟨r, hr⟩ | ⟨hp, hs⟩ | ⟨hp, hs⟩
    · rw [screenFrom_cons_of_check hr, List.filter_cons_of_neg (by simp [Pending.passes, hr])]
      exact ih seen
    · rw [screenFrom_cons_of_seen hp hs, List.filter_cons_of_pos hp,
        screenFrom_cons_of_seen hp hs]
      exact ih seen
    · rw [screenFrom_cons_of_new hp hs, List.filter_cons_of_pos hp,
        screenFrom_cons_of_new hp hs]
      exact congrArg (p :: ·) (ih _)

/-- Declarations in order that are alike are accepted together. -/
theorem screenFrom_forall₂ {R : Pending → Pending → Prop} (hR : ∀ p p', R p p' → p.Alike p')
    (ps ps' : List Pending) (seen : List String)
    (h : List.Forall₂ R (ps.filter Pending.passes) (ps'.filter Pending.passes)) :
    List.Forall₂ R (screenFrom seen ps).2 (screenFrom seen ps').2 := by
  rw [screenFrom_filter ps, screenFrom_filter ps']
  have hpass : ∀ p ∈ ps.filter Pending.passes, p.passes = true :=
    fun p hp => (List.mem_filter.mp hp).2
  generalize ps.filter Pending.passes = qs at h hpass
  generalize ps'.filter Pending.passes = qs' at h
  induction h generalizing seen with
  | nil => exact .nil
  | @cons p p' qs qs' hpp _ ih =>
    have hp : p.passes = true := hpass p List.mem_cons_self
    have hp' : p'.passes = true := (hR p p' hpp).passes ▸ hp
    have hrest : ∀ q ∈ qs, q.passes = true := fun q hq => hpass q (List.mem_cons_of_mem _ hq)
    have hname := (hR p p' hpp).name
    by_cases hs : p.target.name ∈ seen
    · rw [screenFrom_cons_of_seen hp hs, screenFrom_cons_of_seen hp' (hname ▸ hs)]
      exact ih seen hrest
    · rw [screenFrom_cons_of_new hp hs, screenFrom_cons_of_new hp' (hname ▸ hs), ← hname]
      exact .cons hpp (ih _ hrest)

theorem namesOf_forall₂ {R : Pending → Pending → Prop} (hR : ∀ p p', R p p' → p.Alike p')
    {ps ps' : List Pending} (h : List.Forall₂ R ps ps') : namesOf ps = namesOf ps' := by
  rw [namesOf, namesOf, ← List.forall₂_eq_eq_eq, List.forall₂_map_left_iff,
    List.forall₂_map_right_iff]
  exact h.imp fun p p' hpp => (hR p p' hpp).name

/-- The entries at a place of two related lists are related. -/
theorem getElem?_forall₂ {α β : Type} {R : α → β → Prop} {as : List α} {bs : List β}
    (h : List.Forall₂ R as bs) (i : Nat) : Option.Rel R as[i]? bs[i]? := by
  induction h generalizing i with
  | nil => exact .none
  | cons hab _ ih =>
    cases i with
    | zero => exact .some hab
    | succ i => exact ih i

/-- Lists that are alike are worked off in the same order. -/
theorem ordered_forall₂ {R : Pending → Pending → Prop} (hR : ∀ p p', R p p' → p.Alike p')
    {ps ps' : List Pending} (h : List.Forall₂ R ps ps') :
    List.Forall₂ R (Generator.ordered ps) (Generator.ordered ps') := by
  have hdeps : dependencies ps = dependencies ps' := by
    funext i
    have hat := getElem?_forall₂ h i
    rw [dependencies, dependencies, namesOf_forall₂ hR h]
    generalize ps[i]? = x at hat ⊢
    generalize ps'[i]? = x' at hat ⊢
    cases hat with
    | none => rfl
    | some hpp => simp only [(hR _ _ hpp).needs]
  rw [Generator.ordered, Generator.ordered, hdeps, h.length_eq]
  refine List.rel_filterMap (R := Eq) (fun i j hij => ?_) (List.forall₂_same.mpr fun _ _ => rfl)
  cases hij
  exact getElem?_forall₂ h i

theorem takeWhile_forall₂ {R : Pending → Pending → Prop} (hR : ∀ p p', R p p' → p.Alike p')
    {ps ps' : List Pending} (h : List.Forall₂ R ps ps') (w : String) :
    List.Forall₂ R (ps.takeWhile (·.target.name != w)) (ps'.takeWhile (·.target.name != w)) := by
  induction h with
  | nil => exact .nil
  | @cons p p' ps ps' hpp _ ih =>
    rw [List.takeWhile_cons, List.takeWhile_cons, (hR p p' hpp).name]
    by_cases hw : (p'.target.name != w) = true
    · rw [if_pos hw, if_pos hw]
      exact .cons hpp ih
    · rw [if_neg hw, if_neg hw]
      exact .nil

/-! ### Batches in lockstep -/

/-- Two entries that are alike, with the same members if their name is among those
kept. -/
structure Entry.Alike (keep : String → Prop) (e e' : Entry) : Prop where
  declaration : e.declaration.Alike e'.declaration
  members : keep e.name → e.members = e'.members

namespace Generator

/-- Two batches whose declarations in order are alike one by one. -/
structure Lockstep (keep : String → Prop) (g g' : Generator) : Prop where
  registry : g.registry = g'.registry
  header : g.header = g'.header
  entries : List.Forall₂ (Entry.Alike keep) (g.entries.filter (·.declaration.passes))
    (g'.entries.filter (·.declaration.passes))

/-- Two declarations that stand at the same place of two batches. -/
def Matched (keep : String → Prop) (g g' : Generator) (p p' : Pending) : Prop :=
  Entry.Alike keep (g.entryOf p) (g'.entryOf p')

theorem Matched.alike {keep : String → Prop} {g g' : Generator} {p p' : Pending}
    (h : Matched keep g g' p p') : p.Alike p' := by
  have hdecl : p.unnumbered.Alike p'.unnumbered := h.declaration
  cases p with
  | source i d =>
    cases p' with
    | source j d' =>
      cases hdecl with
      | source _ _ h => exact .source i j h
    | resolved t s => cases hdecl
  | resolved t s =>
    cases p' with
    | source j d' => cases hdecl
    | resolved t' s' => exact hdecl

/-- The structs of matched declarations are alike with their members. -/
theorem Matched.fullTarget {keep : String → Prop} {g g' : Generator} {p p' : Pending}
    (h : Matched keep g g' p p') (hk : keep p.target.name) :
    (g.fullTarget p).Alike (g'.fullTarget p') := by
  have hmembers : g.membersOf p = g'.membersOf p' := h.members (by rwa [entryOf_name])
  rw [Generator.fullTarget, Generator.fullTarget, ← hmembers]
  exact h.alike.target.addMembers _

namespace Lockstep

variable {keep : String → Prop} {g g' : Generator}

theorem accepted (h : Lockstep keep g g') :
    List.Forall₂ (Matched keep g g') g.accepted g'.accepted := by
  have hpassing := h.entries
  rw [filter_entries, filter_entries, List.forall₂_map_left_iff,
    List.forall₂_map_right_iff] at hpassing
  exact screenFrom_forall₂ (fun _ _ => Matched.alike) g.pending g'.pending [] hpassing

theorem names (h : Lockstep keep g g') : g.names = g'.names :=
  namesOf_forall₂ (fun _ _ => Matched.alike) h.accepted

/-- **The declarations are worked off in the same order.** -/
theorem ordered (h : Lockstep keep g g') :
    List.Forall₂ (Matched keep g g') (ordered g.accepted) (Generator.ordered g'.accepted) :=
  ordered_forall₂ (fun _ _ => Matched.alike) h.accepted

theorem before (h : Lockstep keep g g') (w : String) :
    List.Forall₂ (Matched keep g g') (g.before w) (g'.before w) :=
  takeWhile_forall₂ (fun _ _ => Matched.alike) h.ordered w

/-- Matched declarations are read alike with the same knowledge. -/
theorem shown_specification (h : Lockstep keep g g') {p p' : Pending}
    (hp : Matched keep g g' p p') (known : List (String × TraitSet)) :
    shownOf (g.specification g.names known p) = shownOf (g'.specification g'.names known p') := by
  rw [specification_eq_specIn, specification_eq_specIn, h.registry, h.names]
  exact hp.alike.shown_specIn _ _ _

/-- The turn of two matched declarations whose members are the same adds the same to
what is known. -/
theorem learn (h : Lockstep keep g g') {p p' : Pending} (hp : Matched keep g g' p p')
    (hk : keep p.target.name) (known : List (String × TraitSet)) :
    g.learn g.names known p = g'.learn g'.names known p' := by
  have hshown := h.shown_specification hp known
  have htarget := hp.fullTarget hk
  rw [Generator.learn, Generator.learn, hp.alike.name]
  rcases shownOf_cases hshown with ⟨m, m', hs, hs'⟩ | ⟨s, s', hs, hs', heq⟩
  · rw [hs, hs']
    rfl
  · have hplan := plan_of_shown heq htarget
    have htraits : (Plan.of s (g.fullTarget p)).traits (g.fullTarget p) =
        (Plan.of s' (g'.fullTarget p')).traits (g'.fullTarget p') := by
      rw [hplan, Plan.traits, Plan.traits, ← htarget]
    rw [hs, hs', traitsOf, traitsOf, htraits]

/-- As long as the members are the same, the same is known. -/
theorem knownAfter (h : Lockstep keep g g') {ps ps' : List Pending}
    (hps : List.Forall₂ (Matched keep g g') ps ps') (hk : ∀ p ∈ ps, keep p.target.name) :
    g.knownAfter ps = g'.knownAfter ps' := by
  rw [Generator.knownAfter, Generator.knownAfter]
  generalize ([] : List (String × TraitSet)) = known
  induction hps generalizing known with
  | nil => rfl
  | cons hp _ ih =>
    rw [List.foldl_cons, List.foldl_cons, h.learn hp (hk _ List.mem_cons_self)]
    exact ih (fun q hq => hk q (List.mem_cons_of_mem _ hq)) _

/-- **Matched declarations are read alike at their turn**, if all wrappers that come
before them have the same members. -/
theorem shown_reading (h : Lockstep keep g g') {p p' : Pending} (hp : Matched keep g g' p p')
    (hk : ∀ q ∈ g.before p.target.name, keep q.target.name) :
    shownOf (g.reading p) = shownOf (g'.reading p') := by
  have hbefore := h.before p.target.name
  rw [reading, reading, h.knownAfter hbefore hk, ← hp.alike.name]
  exact h.shown_specification hp _

end Lockstep

/-- The file that comes from a reading. -/
theorem file?_turn (g : Generator) (p : Pending) :
    (g.turn p).file? = (g.reading p).toOption.map fun s => g.artifact (g.planOf p s) := by
  rw [turn]
  cases g.reading p with
  | error m => rfl
  | ok s => rfl

theorem withHeader_congr {g g' : Generator} (h : g.header = g'.header) :
    g.withHeader = g'.withHeader := by
  funext body
  rw [withHeader, withHeader, h]

/-- Matched declarations that are read alike and have the same members get the same
file. -/
theorem Matched.file? {keep : String → Prop} {g g' : Generator} {p p' : Pending}
    (hp : Matched keep g g' p p') (hk : keep p.target.name) (hheader : g.header = g'.header)
    (hread : shownOf (g.reading p) = shownOf (g'.reading p')) :
    (g.turn p).file? = (g'.turn p').file? := by
  rw [file?_turn, file?_turn]
  rcases shownOf_cases hread with ⟨m, m', hs, hs'⟩ | ⟨s, s', hs, hs', heq⟩
  · rw [hs, hs']
    rfl
  · have hplan : g.planOf p s = g'.planOf p' s' := plan_of_shown heq (hp.fullTarget hk)
    have hartifact : g.artifact (g.planOf p s) = g'.artifact (g'.planOf p' s') := by
      rw [hplan]
      simp only [artifact, withHeader_congr hheader]
    rw [hs, hs']
    exact congrArg some hartifact

/-! ### The file of a wrapper -/

/-- The file of the wrapper for a struct, if a run gives one. -/
def fileOf (g : Generator) (w : String) : Option Artifact :=
  g.generate.1.find? (·.file == artifactName w)

/-- The file of a wrapper is that of the turn of its declaration. -/
theorem fileOf_eq_turn {g : Generator} {p : Pending} (hp : p ∈ g.accepted) :
    g.fileOf p.target.name = (g.turn p).file? := by
  obtain ⟨l, r, hturn⟩ := exists_turn hp
  have hfile : ∀ a, a ∈ g.generate.1 ∧ a.file = artifactName p.target.name ↔
      (g.turn p).file? = some a := by
    intro a
    rw [mem_generate_of_turn hturn, ← reading_of_turn hturn, file?_turn]
    cases g.reading p with
    | error m => simp [Except.toOption]
    | ok s => simp [Except.toOption, eq_comm]
  cases hfind : g.fileOf p.target.name with
  | some a =>
    have hmem := List.mem_of_find?_eq_some hfind
    have hname : a.file = artifactName p.target.name := by
      simpa using List.find?_some hfind
    exact ((hfile a).mp ⟨hmem, hname⟩).symm
  | none =>
    cases ha : (g.turn p).file? with
    | none => rfl
    | some a =>
      obtain ⟨hmem, hname⟩ := (hfile a).mpr ha
      have hnot := List.find?_eq_none.mp hfind a hmem
      exact absurd (beq_iff_eq.mpr hname) hnot

/-- **Batches in lockstep write the same files**, if all members are the same. -/
theorem Lockstep.generate_files {g g' : Generator} (h : Lockstep (fun _ => True) g g') :
    g.generate.1 = g'.generate.1 := by
  have hturns : g.turnFiles = g'.turnFiles := by
    rw [turnFiles, turnFiles, List.filterMap_map, List.filterMap_map, ← List.forall₂_eq_eq_eq]
    refine List.rel_filterMap (fun p p' hp => ?_) h.ordered
    have hfile := hp.file? trivial h.header (h.shown_reading hp fun _ _ => trivial)
    rw [Function.comp_apply, Function.comp_apply, hfile]
    cases (g'.turn p').file? with
    | none => exact .none
    | some a => exact .some rfl
  rw [generate, generate, artifacts_eq, artifacts_eq, ownArtifacts_events, ownArtifacts_events,
    hturns, sharedArtifact, sharedArtifact, withHeader_congr h.header]

end Generator
end Newtype
