import Newtype.Proofs.MemberPhrases

/-!
# Every wrapper is checked

A hook that the author of a struct has written has to see every value before a wrapper of it
is handed out, and it must not see one twice.  So the text may call the hook at one place
only, and whatever makes wrappers has to get there.  Which texts make wrappers is read off
their words: a struct literal, a call of the constructor, a call of the hook.

* `FunctionText`, `Plan.functions` — the functions of a text.
* `Plan.functionsFor`, `Plan.functions_perm` — the functions of each member.
* `Plan.exists_function`, `Plan.count_text_functions` — **what makes wrappers stands in
  functions**, one for each member that makes wrappers.
* `Plan.Guarded` — the hook is called once, on every way to a wrapper.
* `construction_guarded` — **the hook guards every construction.**
-/

namespace Newtype

open Layout

/-! ### Functions of a text -/

/-- A function in a text. -/
structure FunctionText where
  /-- the head of the block it stands in -/
  owner : String
  /-- the body of that block -/
  block : List Layout
  head : String
  body : List Layout

namespace FunctionText

/-- A piece of a block as a function of it. -/
def within (owner : String) (block : List Layout) : Layout → Option FunctionText
  | .block head body => some ⟨owner, block, head, body⟩
  | _ => none

/-- The number of places at which a phrase stands in the body of a function. -/
def uses (w : Phrase) (f : FunctionText) : Nat := w.count (renderAll 2 f.body)

/-- What a function gives: its head says so, or refers to the output that its block sets. -/
def Gives (f : FunctionText) (type : String) : Prop :=
  ∃ start, f.head = start ++ ") -> " ++ type ∨
    f.head = start ++ ") -> Self::Output" ∧ .line ("type Output = " ++ type ++ ";") ∈ f.block

theorem uses_eq (w : Phrase) (f : FunctionText) : f.uses w = countAll w f.body :=
  count_renderAll w 2 f.body

end FunctionText

namespace Layout

/-- The functions in a block. -/
def functions : Layout → List FunctionText
  | .block owner body => body.filterMap (FunctionText.within owner body)
  | _ => []

theorem count_le_countAll (w : Phrase) {l : Layout} : ∀ {ls : List Layout}, l ∈ ls →
    count w l ≤ countAll w ls := by
  intro ls
  induction ls with
  | nil => intro h; exact absurd h List.not_mem_nil
  | cons l' ls ih =>
    intro h
    rw [countAll]
    rcases List.mem_cons.mp h with rfl | h
    · omega
    · have := ih h
      omega

/-- The phrases in a function stand in its block. -/
theorem uses_le_countAll (w : Phrase) {owner : String} {block ls : List Layout} {f : FunctionText}
    (hf : f ∈ ls.filterMap (FunctionText.within owner block)) : f.uses w ≤ countAll w ls := by
  obtain ⟨l, hl, hfunction⟩ := List.mem_filterMap.mp hf
  have hle := count_le_countAll w hl
  cases l with
  | block head body =>
    cases hfunction
    rw [count] at hle
    rw [FunctionText.uses_eq]
    show countAll w body ≤ countAll w ls
    omega
  | line | blank | indented => cases hfunction

theorem uses_le_count (w : Phrase) {l : Layout} {f : FunctionText} (hf : f ∈ l.functions) :
    f.uses w ≤ count w l := by
  cases l with
  | block owner body =>
    have hle := uses_le_countAll w hf
    rw [count]
    omega
  | line | blank | indented => exact absurd hf List.not_mem_nil

end Layout

namespace Plan

/-! ### The functions of a member -/

/-- The functions in the text of a plan. -/
def functions (p : Plan) : List FunctionText := p.layout.flatMap Layout.functions

/-- The body of the block of the type itself. -/
def inherentBody (p : Plan) : List Layout :=
  spaced ((p.members.filter isInherent).map p.inherentMember)

/-- The functions that a member stands for. -/
def functionsFor (p : Plan) (m : Member) : List FunctionText :=
  (p.inherentMember m).filterMap (FunctionText.within ("impl " ++ p.typeName) p.inherentBody) ++
    (p.traitImpl m).flatMap Layout.functions

/-- **The functions of a text are those of the members.**  The members of the type itself come
first. -/
theorem functions_perm (p : Plan) : p.functions.Perm (p.members.flatMap p.functionsFor) := by
  have hown : p.inherentBody.filterMap
      (FunctionText.within ("impl " ++ p.typeName) p.inherentBody) =
        (p.members.filter isInherent).flatMap p.functionsFor := by
    have hblank : FunctionText.within ("impl " ++ p.typeName) p.inherentBody .blank = none := rfl
    nth_rewrite 2 [inherentBody]
    rw [filterMap_spaced hblank, List.flatMap_map]
    refine List.flatMap_congr fun m hm => ?_
    rw [functionsFor, traitImpl_of_isInherent p (List.mem_filter.mp hm).2, List.flatMap_nil,
      List.append_nil]
  have htraits : ((p.members.filter (!isInherent ·)).flatMap fun m =>
      .blank :: .line "#[automatically_derived]" :: p.traitImpl m).flatMap Layout.functions =
        (p.members.filter (!isInherent ·)).flatMap p.functionsFor := by
    rw [List.flatMap_assoc]
    refine List.flatMap_congr fun m hm => ?_
    have hm : isInherent m = false := by simpa using (List.mem_filter.mp hm).2
    rw [functionsFor, inherentMember_of_not_isInherent p hm]
    rfl
  have hfunctions : p.functions = (p.members.filter isInherent ++
      p.members.filter (!isInherent ·)).flatMap p.functionsFor := by
    rw [List.flatMap_append, ← hown, ← htraits]
    rfl
  rw [hfunctions]
  exact (List.filter_append_perm isInherent p.members).flatMap_right p.functionsFor

theorem mem_functions {p : Plan} {m : Member} (hm : m ∈ p.members) {f : FunctionText}
    (hf : f ∈ p.functionsFor m) : f ∈ p.functions :=
  p.functions_perm.mem_iff.mpr (List.mem_flatMap.mpr ⟨m, hm, hf⟩)

/-! ### The functions that make wrappers -/

theorem uses_le_phrases {p : Plan} (h : p.PlainParts) {m : Member} {f : FunctionText}
    (hf : f ∈ p.functionsFor m) (w : Phrase) : f.uses w ≤ m.phrases.count w := by
  rw [functionsFor] at hf
  cases hm : isInherent m with
  | true =>
    rw [traitImpl_of_isInherent p hm, List.flatMap_nil, List.append_nil] at hf
    rw [← countAll_inherentMember w h hm]
    exact uses_le_countAll w hf
  | false =>
    rw [inherentMember_of_not_isInherent p hm, List.filterMap_nil, List.nil_append] at hf
    obtain ⟨l, hl, hf⟩ := List.mem_flatMap.mp hf
    rw [← countAll_traitImpl w h hm]
    exact (uses_le_count w hf).trans (count_le_countAll w hl)

/-- The constructor. -/
theorem functionsFor_constructor (p : Plan) (hook : Option Hook) :
    p.functionsFor (.constructor (.of hook)) = [⟨"impl " ++ p.typeName, p.inherentBody,
      "pub fn new(" ++ p.parameters ++ ") -> " ++ p.constructorOutput, p.guardedBody hook⟩] := by
  rw [functionsFor, inherentMember, constructorLayout_of]
  cases hook.isSome <;> rfl

/-- Making a wrapper from a plain value. -/
theorem functionsFor_fromStorage (p : Plan) : ∃ f, p.functionsFor .fromStorage = [f] ∧
    f.body = p.unpackedBody ∧ f.Gives p.constructorOutput ∧
      f.owner = "impl ::core::convert::" ++
        (if p.check.error?.isSome then "TryFrom<" else "From<") ++ p.storage.type ++ "> for " ++
          p.typeName ∧
      ∀ e, p.check.error? = some e → .line ("type Error = " ++ e ++ ";") ∈ f.block := by
  have hfunctions : p.functionsFor .fromStorage = p.fromStorageLayout.functions :=
    List.append_nil _
  rw [hfunctions]
  unfold fromStorageLayout constructorOutput
  cases p.check.error? with
  | some e =>
    refine ⟨_, rfl, rfl, ⟨"fn try_from(value: " ++ p.storage.type, .inl ?_⟩, rfl, ?_⟩
    · simp only [String.append_assoc]
    · intro e' he
      cases he
      exact List.mem_cons_self
  | none =>
    refine ⟨_, rfl, rfl, ⟨"fn from(value: " ++ p.storage.type, .inl ?_⟩, rfl, ?_⟩
    · have hlast : ") -> Self" = ") -> " ++ "Self" := rfl
      simp only [hlast, String.append_assoc]
    · intro e he
      cases he

/-- An operator that gives a wrapper again. -/
theorem functionsFor_operator (p : Plan) (op : BinaryOp) :
    ∃ f, p.functionsFor (.arithmetic op .wrapper) = [f] ∧ f.body = operatorBody op ∧
      f.Gives p.constructorOutput := by
  refine ⟨_, rfl, rfl, "fn " ++ op.method ++ "(self, rhs: Self", .inr ⟨?_, List.mem_cons_self⟩⟩
  have hlast : "(self, rhs: Self) -> Self::Output" =
      "(self, rhs: Self" ++ ") -> Self::Output" := rfl
  simp only [hlast, String.append_assoc]

/-- Making a wrapper of a new identifier. -/
theorem functionsFor_generate (p : Plan) : ∃ f, p.functionsFor .generate = [f] ∧
    f.body = p.generateBody ∧ f.Gives p.constructorOutput :=
  ⟨_, rfl, rfl, "pub fn generate(", .inl rfl⟩

/-- A member that makes wrappers stands for one function, which has all its phrases. -/
theorem exists_function {p : Plan} (h : p.PlainParts) {m : Member} (hm : m.phrases ≠ []) :
    ∃ f, p.functionsFor m = [f] ∧ ∀ w, f.uses w = m.phrases.count w := by
  cases m with
  | constructor check =>
    obtain ⟨hook, rfl⟩ := check.exists_of
    refine ⟨_, functionsFor_constructor p hook, fun w => ?_⟩
    rw [FunctionText.uses_eq, phrases_constructor]
    exact countAll_guardedBody w h hook
  | copyConstructor bitwise =>
    cases bitwise with
    | true => exact absurd rfl hm
    | false =>
      refine ⟨_, rfl, fun w => ?_⟩
      rw [FunctionText.uses_eq, countAll, countAll, Nat.add_zero]
      exact count_cloned w
  | arithmetic op output =>
    cases output with
    | widened => exact absurd rfl hm
    | wrapper =>
      obtain ⟨f, hf, hbody, -⟩ := functionsFor_operator p op
      refine ⟨f, hf, fun w => ?_⟩
      rw [FunctionText.uses_eq, hbody]
      exact countAll_operatorBody w op
  | fromStorage =>
    obtain ⟨f, hf, hbody, -⟩ := functionsFor_fromStorage p
    refine ⟨f, hf, fun w => ?_⟩
    rw [FunctionText.uses_eq, hbody]
    exact countAll_unpackedBody w h
  | generate =>
    obtain ⟨f, hf, hbody, -⟩ := functionsFor_generate p
    refine ⟨f, hf, fun w => ?_⟩
    rw [FunctionText.uses_eq, hbody]
    exact countAll_generateBody w h
  | _ => exact absurd rfl hm

theorem countAll_bodies {p : Plan} (h : p.PlainParts) (m : Member) (w : Phrase) :
    countAll w ((p.functionsFor m).flatMap (·.body)) = m.phrases.count w := by
  by_cases hm : m.phrases = []
  · have hnone : ∀ f ∈ p.functionsFor m, countAll w f.body = ([] : List Phrase).count w := by
      intro f hf
      have hle := uses_le_phrases h hf w
      rw [hm, FunctionText.uses_eq] at hle
      exact Nat.le_zero.mp hle
    rw [countAll_flatMap hnone, hm, List.flatMap_eq_nil_iff.mpr fun _ _ => rfl]
  · obtain ⟨f, hf, huses⟩ := exists_function h hm
    have hbody : [f].flatMap (·.body) = f.body := List.append_nil f.body
    rw [hf, hbody, ← FunctionText.uses_eq, huses w]

/-- **What makes wrappers stands in functions.** -/
theorem count_text_functions {p : Plan} (h : p.PlainParts) (w : Phrase) :
    w.count p.text = w.count (renderAll 2 (p.functions.flatMap (·.body))) := by
  have hbodies := p.functions_perm.flatMap_right (·.body)
  rw [List.flatMap_assoc] at hbodies
  rw [count_text_eq h, count_renderAll, countAll_perm w hbodies]
  exact (countAll_flatMap fun m _ => countAll_bodies h m w).symm

end Plan

/-! ### Which members make wrappers -/

namespace Member

theorem of_hook_mem {m : Member} (h : .hook ∈ m.phrases) : ∃ check, m = .constructor check := by
  unfold phrases at h
  split at h <;> simp_all

theorem of_literal_mem {m : Member} (h : .literal ∈ m.phrases) :
    (∃ check, m = .constructor check) ∨ m = .copyConstructor false := by
  unfold phrases at h
  split at h <;> simp_all

theorem of_maker_mem {m : Member} (h : .maker ∈ m.phrases) :
    m = .fromStorage ∨ m = .generate ∨ ∃ op, m = .arithmetic op .wrapper := by
  unfold phrases at h
  split at h <;> simp_all

end Member

/-! ### Guarded construction -/

/-- A function that gets its wrapper from one call of the constructor, and gives what the
constructor gives. -/
structure FunctionText.Rewraps (f : FunctionText) (hook : Option Hook) : Prop where
  calls : f.uses .maker = 1
  builds_none : f.uses .literal = 0
  checks_none : f.uses .hook = 0
  gives : f.Gives (Plan.outputOf hook)

namespace Plan

/-- The text of a plan calls the hook once, on every way to a wrapper. -/
structure Guarded (p : Plan) (hook : Option Hook) : Prop where
  /-- The functions of the text are those of the members. -/
  functions : p.functions.Perm (p.members.flatMap p.functionsFor)
  /-- What makes wrappers stands in their bodies. -/
  inside : ∀ w : Phrase, w.count p.text = w.count (renderAll 2 (p.functions.flatMap (·.body)))
  /-- The hook is called at one place; without a hook there is no call. -/
  once : Phrase.hook.count p.text = if hook.isSome then 1 else 0
  /-- That place is in the constructor, behind the value and before it is given. -/
  new : ∃ f ∈ p.functions, p.functionsFor (.constructor p.check) = [f] ∧
    f.owner = "impl " ++ p.typeName ∧
      f.head = "pub fn new(" ++ p.parameters ++ ") -> " ++ outputOf hook ∧
      f.body = p.guardedBody hook ∧ f.uses .literal = 1 ∧ f.uses .maker = 0 ∧
      f.uses .hook = if hook.isSome then 1 else 0
  /-- Struct literals stand in the constructor, and where a wrapper is copied field by field. -/
  literals : ∀ m ∈ p.members, ∀ f ∈ p.functionsFor m, 0 < f.uses .literal →
    m = .constructor p.check ∨ m = .copyConstructor false
  /-- Only these members call the constructor. -/
  makers : ∀ m ∈ p.members, ∀ f ∈ p.functionsFor m, 0 < f.uses .maker →
    m = .fromStorage ∨ m = .generate ∨ ∃ op, m = .arithmetic op .wrapper
  /-- A wrapper of a plain value comes from the constructor, with the error of the hook if there
  is one. -/
  conversion : ∃ f ∈ p.functions, p.functionsFor .fromStorage = [f] ∧ f.Rewraps hook ∧
    f.owner = "impl ::core::convert::" ++
      (if (hook.bind (·.error)).isSome then "TryFrom<" else "From<") ++ p.storage.type ++
        "> for " ++ p.typeName ∧
    ∀ e, hook.bind (·.error) = some e → .line ("type Error = " ++ e ++ ";") ∈ f.block
  /-- So are the results of operators. -/
  operators : ∀ op, .arithmetic op .wrapper ∈ p.members → ∃ f ∈ p.functions,
    p.functionsFor (.arithmetic op .wrapper) = [f] ∧ f.Rewraps hook
  /-- So is a wrapper of a new identifier. -/
  generation : .generate ∈ p.members → ∃ f ∈ p.functions,
    p.functionsFor .generate = [f] ∧ f.Rewraps hook

variable {fields : List Field} {t : Target} {policy : Policy}

theorem constructor_mem_iff {check : Check} : .constructor check ∈ (make fields t policy).members ↔
    check = (make fields t policy).check := by
  simp [make, mem_when, equalityMembers, orderMembers, mathMembers, formatMembers]

theorem fromStorage_mem : .fromStorage ∈ (make fields t policy).members := by
  simp [make]

/-- Only the constructor calls the hook. -/
theorem count_hook (hook : Option Hook) (hcheck : (make fields t policy).check = .of hook) :
    ((make fields t policy).members.flatMap Member.phrases).count .hook =
      if hook.isSome then 1 else 0 := by
  have hnew : (Member.constructor (.of hook)).phrases.count .hook =
      if hook.isSome then 1 else 0 := by
    rw [phrases_constructor]
    cases hook.isSome <;> rfl
  have hcopy : (Member.copyConstructor t.readOnly).phrases.count .hook = 0 := by
    cases t.readOnly <;> rfl
  -- behind those two no member is a constructor
  have hrest : (((List.range fields.length).map Member.accessor ++
      further fields t policy).flatMap Member.phrases).count .hook = 0 := by
    rw [List.count_eq_zero]
    intro hmem
    obtain ⟨m, hm, hhook⟩ := List.mem_flatMap.mp hmem
    obtain ⟨check, rfl⟩ := Member.of_hook_mem hhook
    rcases List.mem_append.mp hm with hm | hm
    · obtain ⟨i, -, hi⟩ := List.mem_map.mp hm
      cases hi
    · obtain ⟨total, output, hsub⟩ := further_sublist fields t policy
      exact (ne_of_mem_allFurther (hsub.subset hm)).1 check rfl
  have hfirst : (if policy.validation then Check.of t.hook else .none) = .of hook := hcheck
  rw [members_make, hfirst, List.flatMap_append, List.count_append, hrest, List.flatMap_cons,
    List.flatMap_cons, List.flatMap_nil, List.append_nil, List.count_append, hnew, hcopy,
    Nat.add_zero]

theorem error?_of (hook : Option Hook) : (Check.of hook).error? = hook.bind (·.error) := by
  rcases hook with - | ⟨- | e⟩ <;> rfl

theorem constructorOutput_of {p : Plan} {hook : Option Hook} (hcheck : p.check = .of hook) :
    p.constructorOutput = outputOf hook := by
  rw [constructorOutput, hcheck, error?_of]
  rcases hook with - | ⟨- | e⟩ <;> rfl

/-- One call of the constructor is all that these members have. -/
theorem rewraps_of {p : Plan} (h : p.PlainParts) {hook : Option Hook} (hcheck : p.check = .of hook)
    {m : Member} (hm : m.phrases = [.maker]) {f : FunctionText} (hf : p.functionsFor m = [f])
    (hgives : f.Gives p.constructorOutput) : f.Rewraps hook := by
  obtain ⟨f', hf', huses⟩ := exists_function h (hm ▸ List.cons_ne_nil _ _)
  obtain rfl : f = f' := List.singleton_inj.mp (hf.symm.trans hf')
  rw [hm] at huses
  exact ⟨huses .maker, huses .literal, huses .hook, constructorOutput_of hcheck ▸ hgives⟩

/-- **A plan with plain parts is guarded.** -/
theorem guarded_make (h : (make fields t policy).PlainParts) {hook : Option Hook}
    (hcheck : (make fields t policy).check = .of hook) : (make fields t policy).Guarded hook where
  functions := functions_perm _
  inside := count_text_functions h
  once := (count_text_eq h .hook).trans (count_hook hook hcheck)
  new := by
    have hmem := constructor_mem_iff.mpr (rfl : _ = (make fields t policy).check)
    have hf := functionsFor_constructor (make fields t policy) hook
    obtain ⟨f, hf', huses⟩ := exists_function h (phrases_constructor hook ▸ List.cons_ne_nil _ _)
    obtain rfl := List.singleton_inj.mp (hf'.symm.trans hf)
    rw [phrases_constructor] at huses
    rw [hcheck] at hmem ⊢
    refine ⟨_, mem_functions hmem (hf ▸ List.mem_singleton_self _), hf, rfl, ?_, rfl, ?_, ?_, ?_⟩
    · rw [constructorOutput_of hcheck]
    all_goals
      rw [huses]
      cases hook.isSome <;> rfl
  literals := by
    intro m hm f hf hpos
    have hle := uses_le_phrases h hf .literal
    have hmem : .literal ∈ m.phrases := List.count_pos_iff.mp (by omega)
    rcases Member.of_literal_mem hmem with ⟨check, rfl⟩ | hcopy
    · exact .inl (congrArg _ (constructor_mem_iff.mp hm))
    · exact .inr hcopy
  makers := by
    intro m hm f hf hpos
    have hle := uses_le_phrases h hf .maker
    have hmem : .maker ∈ m.phrases := List.count_pos_iff.mp (by omega)
    exact Member.of_maker_mem hmem
  conversion := by
    obtain ⟨f, hf, -, hgives, howner, herror⟩ := functionsFor_fromStorage (make fields t policy)
    rw [hcheck, error?_of] at howner
    refine ⟨f, mem_functions fromStorage_mem (hf ▸ List.mem_singleton_self f), hf,
      rewraps_of h hcheck rfl hf hgives, howner, fun e he => herror e ?_⟩
    rw [hcheck, error?_of, he]
  operators := by
    intro op hmem
    obtain ⟨f, hf, -, hgives⟩ := functionsFor_operator (make fields t policy) op
    exact ⟨f, mem_functions hmem (hf ▸ List.mem_singleton_self f), hf,
      rewraps_of h hcheck rfl hf hgives⟩
  generation := by
    intro hmem
    obtain ⟨f, hf, -, hgives⟩ := functionsFor_generate (make fields t policy)
    exact ⟨f, mem_functions hmem (hf ▸ List.mem_singleton_self f), hf,
      rewraps_of h hcheck rfl hf hgives⟩

end Plan

/-! ### Wrappers that are read from arguments -/

/-- The texts that are filled in for a target: its name, the error of its hook, and the types
of its fields. -/
def embedded (fields : List Field) (t : Target) : List String :=
  t.name :: ((t.hook.bind (·.error)).toList ++ fields.map (·.type.text))

/-- The names of the accessors need no condition: they are identifiers. -/
theorem plainParts_of {fields : List Field} (hfit : FieldsFit fields) (o : Options) {t : Target}
    (hplain : ∀ s ∈ embedded fields t, Plain s) : (Plan.of ⟨fields, o⟩ t).PlainParts where
  name := hplain _ List.mem_cons_self
  slots := by
    intro s hs
    obtain ⟨f, hf, rfl⟩ := List.mem_map.mp hs
    have hidentifier := hfit.identifier f hf
    refine ⟨plain_of_notMem (notMem_of_isIdentifier rfl rfl hidentifier)
      (notMem_of_isIdentifier rfl rfl hidentifier), hplain _ ?_⟩
    exact List.mem_cons_of_mem _ (List.mem_append_right _ (List.mem_map.mpr ⟨f, hf, rfl⟩))
  error := by
    intro e he
    have hcheck : (Plan.of ⟨fields, o⟩ t).check = .of t.hook := rfl
    rw [hcheck, Plan.error?_of] at he
    refine hplain _ (List.mem_cons_of_mem _ (List.mem_append_left _ ?_))
    rw [he]
    exact List.mem_singleton_self e

/-- **The hook guards every construction.**  This holds for all fields that are read from
arguments, with whatever options and for whatever target, as long as no name or type holds
one of the phrases itself. -/
theorem construction_guarded {resolve : TypeExpr → Kind} {args : List Argument}
    {spec : Specification} (h : Specification.ofArguments resolve args = .ok spec) (o : Options)
    (t : Target) (hplain : ∀ s ∈ embedded spec.fields t, Plain s) :
    (Plan.of ⟨spec.fields, o⟩ t).Guarded t.hook :=
  Plan.guarded_make (plainParts_of (fieldsFit_of_ofArguments h) o hplain) rfl

/-- A number whose hook may give an error. -/
def ranged : Target := { name := "Ranged", hook := some ⟨some "RangeError"⟩ }

/-- Its operators give wrappers again, so they may give that error too. -/
theorem construction_guarded_ranged : ∃ spec,
    Specification.ofArguments (fun _ => .primitive .i32)
        [⟨.type (.named ⟨false, ["i32"]⟩), .start⟩] = .ok spec ∧
      (∀ s ∈ embedded spec.fields ranged, Plain s) ∧
      .arithmetic .add .wrapper ∈ (Plan.of ⟨spec.fields, {}⟩ ranged).members ∧
      (Plan.of ⟨spec.fields, {}⟩ ranged).Guarded (some ⟨some "RangeError"⟩) := by
  have hspec : Specification.ofArguments (fun _ => .primitive .i32)
      [⟨.type (.named ⟨false, ["i32"]⟩), .start⟩] =
        .ok ⟨[⟨"Value", .named ⟨false, ["i32"]⟩, .primitive .i32⟩], {}⟩ := by
    rfl
  have hplain : ∀ s ∈ ["Ranged", "RangeError", "i32"], Plain s := by
    intro s hs
    simp only [List.mem_cons, List.not_mem_nil, or_false] at hs
    rcases hs with rfl | rfl | rfl <;> exact fun w => count_plain w (by decide)
  exact ⟨_, hspec, hplain, by decide +kernel, construction_guarded hspec {} ranged hplain⟩

end Newtype
