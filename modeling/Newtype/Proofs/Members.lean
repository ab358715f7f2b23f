import Newtype.Proofs.Graph

/-!
# Members do not clash

The members of a wrapper have to live in one type: no member may be there twice, and the
functions in the block of the type itself need different names.  The accessors are named
after the fields, so this rests on what is asked of field names, on the choice of the
members and on the text that is written for them.

* `further_sublist`, `nodup_members` — **no member is planned twice.**
* `display_mem_iff`, `debug_mem_iff` — text forms that the author has written are left out.
* `Layout.functionName?`, `Plan.inherentFunctions` — the functions in a text.
* `inherentFunctions_make`, `nodup_inherentFunctions` — **the functions of the type itself.**
* `FieldsFit`, `fieldsFit_of_ofArguments` — what reading arguments ensures about the names
  of fields.
* `editionWords` — the words that are no names where a text is read.
* `members_do_not_clash` — **the members of a wrapper do not clash.**
-/

namespace Newtype

/-! ### The list of members -/

namespace Plan

theorem when_sublist {α : Type} (b : Bool) (xs : List α) : (when b xs).Sublist xs := by
  cases b with
  | false => exact List.nil_sublist xs
  | true => exact List.Sublist.refl xs

theorem mem_when {α : Type} {b : Bool} {xs : List α} {x : α} :
    x ∈ when b xs ↔ b = true ∧ x ∈ xs := by
  cases b <;> simp [when]

/-- The members of a wrapper behind its accessors. -/
def further (fields : List Field) (t : Target) (p : Policy) : List Member :=
  let traits := (Storage.ofFields fields).traits
  equalityMembers traits t.readOnly ++ (orderMembers traits p.comparison ++
    (mathMembers p.category p.math ++ ([Member.fromStorage, Member.intoInner] ++
      (when p.implicit [Member.intoStorage] ++
        (when (!t.userDisplay && traits.display) [Member.display] ++
          (when (!t.userDebug) [Member.debug] ++ (formatMembers p.category p.single ++
            when (p.single && p.category = .identifier) [Member.generate])))))))

theorem members_make (fields : List Field) (t : Target) (p : Policy) :
    (make fields t p).members =
      [.constructor (if p.validation then Check.of t.hook else .none),
        .copyConstructor t.readOnly] ++
        ((List.range fields.length).map .accessor ++ further fields t p) := by
  have hslots : (Storage.ofFields fields).slots.length = fields.length := List.length_map _
  simp only [make, further, List.append_assoc, hslots]

/-- All members that may stand behind the accessors.  `total` says whether the order is
total, and `output` what the operators give. -/
def allFurther (total : Bool) (output : ArithmeticOutput) : List Member :=
  ([Member.equality] ++ [Member.totalEquality] ++ [Member.hash] ++ [Member.storageEquality] ++
      [Member.byRefEquality]) ++
    (([Member.compareTo total] ++ ([Member.relationalOperators total] ++ [Member.totalOrder])) ++
      (BinaryOp.all.map (Member.arithmetic · output) ++
        ([Member.fromStorage, Member.intoInner] ++ ([Member.intoStorage] ++ ([Member.display] ++
          ([Member.debug] ++ ((NumberFormat.integral.map Member.numericFormat ++
            [Member.tryFormat]) ++ [Member.generate])))))))

theorem nodup_allFurther (total : Bool) (output : ArithmeticOutput) :
    (allFurther total output).Nodup := by
  cases total <;> cases output <;> decide

/-- None of them is an accessor or makes a wrapper. -/
theorem ne_of_mem_allFurther {m : Member} {total : Bool} {output : ArithmeticOutput}
    (hm : m ∈ allFurther total output) :
    (∀ check, m ≠ .constructor check) ∧ (∀ bitwise, m ≠ .copyConstructor bitwise) ∧
      ∀ i, m ≠ .accessor i := by
  refine ⟨?_, ?_, ?_⟩ <;> rintro _ rfl <;>
    simp [allFurther, BinaryOp.all, NumberFormat.integral] at hm

theorem equalityMembers_sublist (t : TraitSet) (readOnly : Bool) :
    (equalityMembers t readOnly).Sublist
      ([Member.equality] ++ [Member.totalEquality] ++ [Member.hash] ++
        [Member.storageEquality] ++ [Member.byRefEquality]) := by
  refine .append (.append ?_ (.refl _)) (when_sublist _ _)
  exact .append (.append (.refl _) (when_sublist _ _)) (when_sublist _ _)

theorem orderMembers_sublist (t : TraitSet) (operators : Bool) :
    (orderMembers t operators).Sublist
      ([Member.compareTo t.ord] ++
        ([Member.relationalOperators t.ord] ++ [Member.totalOrder])) := by
  refine .append (when_sublist _ _) ((when_sublist _ _).trans ?_)
  exact .append (.refl _) (when_sublist _ _)

theorem formatMembers_sublist (c : Category) (single : Bool) :
    (formatMembers c single).Sublist
      (NumberFormat.integral.map .numericFormat ++ [.tryFormat]) := by
  -- fractional numbers have some of the forms of integers
  have hforms : (if c.isIntegral then NumberFormat.integral else NumberFormat.fractional).Sublist
      NumberFormat.integral := by
    split
    · exact .refl _
    · decide
  exact (when_sublist _ _).trans (.append (hforms.map _) (.refl _))

/-- Members are only ever left out, and their order is kept. -/
theorem further_sublist (fields : List Field) (t : Target) (p : Policy) :
    ∃ total output, (further fields t p).Sublist (allFurther total output) := by
  refine ⟨(Storage.ofFields fields).traits.ord,
    if p.category = .byteWide then .widened else .wrapper, ?_⟩
  refine .append (equalityMembers_sublist _ _) (.append (orderMembers_sublist _ _) ?_)
  refine .append (when_sublist _ _) (.append (.refl _) (.append (when_sublist _ _) ?_))
  refine .append (when_sublist _ _) (.append (when_sublist _ _) ?_)
  exact .append (formatMembers_sublist _ _) (when_sublist _ _)

/-- **No member is planned twice.** -/
theorem nodup_members (fields : List Field) (t : Target) (p : Policy) :
    (make fields t p).members.Nodup := by
  obtain ⟨total, output, hsub⟩ := further_sublist fields t p
  have haccessors : ((List.range fields.length).map Member.accessor).Nodup :=
    List.nodup_range.map fun _ _ h => Member.accessor.inj h
  have hother := fun m (hm : m ∈ further fields t p) => ne_of_mem_allFurther (hsub.subset hm)
  rw [members_make, List.nodup_append, List.nodup_append]
  refine ⟨by simp, ⟨haccessors, (nodup_allFurther total output).sublist hsub, ?_⟩, ?_⟩
  · rintro m hm _ hm' rfl
    obtain ⟨i, -, rfl⟩ := List.mem_map.mp hm
    exact (hother _ hm').2.2 i rfl
  · rintro m hm _ hm' rfl
    rcases List.mem_append.mp hm' with hm' | hm'
    · obtain ⟨i, -, rfl⟩ := List.mem_map.mp hm'
      simp at hm
    · simp only [List.mem_cons, List.not_mem_nil, or_false] at hm
      rcases hm with rfl | rfl
      · exact (hother _ hm').1 _ rfl
      · exact (hother _ hm').2.1 _ rfl

/-! ### Text forms -/

/-- The ordinary text form is left out if the author has written it. -/
theorem display_mem_iff {fields : List Field} {t : Target} {p : Policy} :
    .display ∈ (make fields t p).members ↔
      t.userDisplay = false ∧ (Storage.ofFields fields).traits.display = true := by
  simp [make, mem_when, equalityMembers, orderMembers, mathMembers, formatMembers]

/-- So is the one for debugging. -/
theorem debug_mem_iff {fields : List Field} {t : Target} {p : Policy} :
    .debug ∈ (make fields t p).members ↔ t.userDebug = false := by
  simp [make, mem_when, equalityMembers, orderMembers, mathMembers, formatMembers]

end Plan

/-! ### Functions in a text -/

namespace Layout

/-- The words in front of the name of a function. -/
def functionStart : String := "pub fn "

/-- The name of the function that a block is, up to the parameters.  A block that is no
function counts with its whole head. -/
def functionName? : Layout → Option String
  | .block head _ =>
    if functionStart.toList.isPrefixOf head.toList then
      some (String.ofList ((head.toList.drop functionStart.length).takeWhile (· != '(')))
    else some head
  | _ => none

/-- A head with a name and a parenthesis behind it is that of a function. -/
theorem functionName?_block {start name : String} (rest type : String) (body : List Layout)
    (hstart : start = functionStart ++ name ++ ("(" ++ rest)) (hname : '(' ∉ name.toList) :
    functionName? (.block (start ++ type) body) = some name := by
  have hhead : (start ++ type).toList =
      functionStart.toList ++ (name.toList ++ '(' :: (rest.toList ++ type.toList)) := by
    simp only [hstart, String.toList_append, List.append_assoc]
    rfl
  have hwords : functionStart.toList.isPrefixOf (start ++ type).toList = true := by
    rw [hhead, List.isPrefixOf_iff_prefix]
    exact List.prefix_append _ _
  have hchars : ∀ c ∈ name.toList, (c != '(') = true := by
    intro c hc
    rw [bne_iff_ne]
    exact fun heq => hname (heq ▸ hc)
  rw [functionName?, if_pos hwords, hhead, ← String.length_toList, List.drop_left,
    List.takeWhile_append_of_pos hchars, List.takeWhile_cons_of_neg (by simp), List.append_nil,
    String.ofList_toList]

end Layout

namespace Plan

open Layout

/-- The functions in the block of the type itself. -/
def inherentFunctions (p : Plan) : List String :=
  match p.layout with
  | .block _ body :: _ => body.filterMap functionName?
  | _ => []

/-- Blank lines between pieces do not matter to what leaves them out. -/
theorem filterMap_spaced {α : Type} {g : Layout → Option α} (hg : g .blank = none) :
    ∀ bs : List (List Layout), (spaced bs).filterMap g = bs.flatMap (·.filterMap g)
  | [] => rfl
  | [b] => by simp [spaced]
  | b :: b' :: bs => by
    have ih := filterMap_spaced hg (b' :: bs)
    have hspaced : spaced (b :: b' :: bs) = b ++ .blank :: spaced (b' :: bs) := rfl
    rw [hspaced, List.filterMap_append, List.filterMap_cons_none hg, ih]
    rfl

/-- A trait has no text in the block of the type itself. -/
theorem inherentMember_of_not_isInherent (p : Plan) {m : Member} (hm : isInherent m = false) :
    p.inherentMember m = [] := by
  cases m with
  | constructor | accessor | compareTo | intoInner | tryFormat | generate => cases hm
  | _ => rfl

theorem traitImpl_of_isInherent (p : Plan) {m : Member} (hm : isInherent m = true) :
    p.traitImpl m = [] := by
  cases m with
  | constructor | accessor | compareTo | intoInner | tryFormat | generate => rfl
  | _ => cases hm

/-- The functions that stand for a member. -/
def functionsOf (p : Plan) (m : Member) : List String :=
  (p.inherentMember m).filterMap functionName?

theorem functionsOf_of_not_isInherent (p : Plan) {m : Member} (hm : ¬isInherent m = true) :
    p.functionsOf m = [] := by
  rw [functionsOf, inherentMember_of_not_isInherent p (Bool.not_eq_true _ ▸ hm), List.filterMap_nil]

theorem inherentFunctions_eq (p : Plan) : p.inherentFunctions = p.members.flatMap p.functionsOf := by
  have hskip : ∀ ms : List Member, (ms.filter isInherent).flatMap p.functionsOf =
      ms.flatMap p.functionsOf := by
    intro ms
    induction ms with
    | nil => rfl
    | cons m ms ih =>
      by_cases hm : isInherent m = true
      · rw [List.filter_cons_of_pos hm, List.flatMap_cons, List.flatMap_cons, ih]
      · rw [List.filter_cons_of_neg hm, List.flatMap_cons, functionsOf_of_not_isInherent p hm, ih,
          List.nil_append]
  rw [inherentFunctions, layout]
  have hblank : functionName? .blank = none := rfl
  simp only [filterMap_spaced hblank, List.flatMap_map]
  exact hskip p.members

/-- The name of the function that a member is, for the members whose names do not depend
on the fields; the constructor stands apart. -/
def fixedName? : Member → Option String
  | .compareTo _ => some "compare_to"
  | .intoInner => some "into_inner"
  | .tryFormat => some "try_format"
  | .generate => some "generate"
  | _ => none

theorem functionsOf_constructor (p : Plan) (check : Check) :
    p.functionsOf (.constructor check) = ["new"] := by
  have hname : ∀ body, functionName?
      (.block ("pub fn new(" ++ p.parameters ++ ") -> " ++ p.constructorOutput) body) =
        some "new" := by
    intro body
    rw [String.append_assoc, String.append_assoc]
    exact functionName?_block "" _ body rfl (by decide)
  rw [functionsOf, inherentMember]
  unfold constructorLayout
  rw [List.filterMap_append, List.filterMap_append, List.filterMap_cons_some (hname _)]
  split <;> rfl

theorem functionsOf_accessor {p : Plan} {i : Nat} {s : Slot} (hs : p.storage.slots[i]? = some s)
    (hname : '(' ∉ s.accessor.toList) : p.functionsOf (.accessor i) = [s.accessor] := by
  have hplain : ∀ body, functionName?
      (.block ("pub fn " ++ s.accessor ++ "(&self) -> " ++ s.type) body) = some s.accessor :=
    fun body => functionName?_block "&self) -> " s.type body rfl hname
  have hborrowed : ∀ body, functionName?
      (.block ("pub fn " ++ s.accessor ++ "(&self) -> &" ++ s.type) body) = some s.accessor :=
    fun body => functionName?_block "&self) -> &" s.type body rfl hname
  rw [functionsOf, inherentMember, accessorLayout, hs]
  simp only
  split
  · rw [List.filterMap_cons_none rfl, List.filterMap_cons_some (hplain _), List.filterMap_nil]
  · rw [List.filterMap_cons_none rfl, List.filterMap_cons_some (hborrowed _), List.filterMap_nil]

theorem functionsOf_further {m : Member} {total : Bool} {output : ArithmeticOutput} (p : Plan)
    (hm : m ∈ allFurther total output) : p.functionsOf m = (fixedName? m).toList := by
  obtain ⟨hconstructor, -, haccessor⟩ := ne_of_mem_allFurther hm
  cases m with
  | constructor check => exact absurd rfl (hconstructor check)
  | accessor i => exact absurd rfl (haccessor i)
  | compareTo total => cases total <;> rfl
  | intoInner =>
    have hname : ∀ body, functionName?
        (.block ("pub fn into_inner(self) -> " ++ p.storage.type) body) = some "into_inner" :=
      fun body => functionName?_block "self) -> " _ body rfl (by decide)
    rw [functionsOf, inherentMember, List.filterMap_cons_none rfl, List.filterMap_cons_none rfl,
      List.filterMap_cons_some (hname _)]
    rfl
  | generate =>
    have hname : ∀ body, functionName?
        (.block ("pub fn generate() -> " ++ p.constructorOutput) body) = some "generate" :=
      fun body => functionName?_block ") -> " _ body rfl (by decide)
    rw [functionsOf, inherentMember, List.filterMap_cons_none rfl,
      List.filterMap_cons_some (hname _)]
    rfl
  | _ => rfl

end Plan

/-! ### Names of fields -/

/-- The fields can be read by functions of the type itself: each has an accessor of its
own, which is an identifier that no other member needs. -/
structure FieldsFit (fields : List Field) : Prop where
  distinct : (fields.map Field.accessor).Nodup
  identifier : ∀ f ∈ fields, isIdentifier f.accessor = true
  free : ∀ f ∈ fields, f.accessor ∉ reservedNames

/-- A sign that can neither start nor continue an identifier is in none. -/
theorem notMem_of_isIdentifier {s : String} {c : Char} (hstart : Text.isIdentStart c = false)
    (hcontinue : Text.isIdentContinue c = false) (h : isIdentifier s = true) : c ∉ s.toList := by
  intro hmem
  unfold isIdentifier at h
  cases hs : s.toList with
  | nil => rw [hs] at hmem; exact absurd hmem List.not_mem_nil
  | cons c cs =>
    simp only [hs, Bool.and_eq_true, List.all_eq_true] at h hmem
    rcases List.mem_cons.mp hmem with rfl | hmem
    · rw [hstart] at h
      exact absurd h.1.1 Bool.false_ne_true
    · have hc := h.1.2 _ hmem
      rw [hcontinue] at hc
      exact absurd hc Bool.false_ne_true

/-- A keyword is no identifier. -/
theorem notMem_keywords_of_isIdentifier {s : String} (h : isIdentifier s = true) :
    s ∉ keywords := by
  unfold isIdentifier at h
  split at h
  · exact absurd h Bool.false_ne_true
  · simpa [isName] using (Bool.and_eq_true_iff.mp h).2

/-- The name of a field that is not named fits. -/
theorem accessor_defaultName : Text.snakeCase Field.defaultName = "value" := by
  decide +kernel

/-- The name in front of a type is one of the names in the list, or the default name. -/
theorem name_of_mem_namedTypes : ∀ (fs : List ArgumentForm) (waiting : Option String)
    (f : String × TypeExpr), f ∈ namedTypes waiting fs →
      f.1 = Field.defaultName ∨ waiting = some f.1 ∨ .name f.1 ∈ fs := by
  intro fs
  induction fs with
  | nil => intro waiting f hf; exact absurd hf List.not_mem_nil
  | cons a fs ih =>
    intro waiting f hf
    cases a with
    | name n =>
      rcases ih (some n) f hf with h | h | h
      · exact .inl h
      · exact .inr (.inr (Option.some.inj h ▸ List.mem_cons_self))
      · exact .inr (.inr (List.mem_cons_of_mem _ h))
    | type t =>
      rcases List.mem_cons.mp hf with rfl | hf
      · cases waiting with
        | none => exact .inl rfl
        | some n => exact .inr (.inl rfl)
      · rcases ih none f hf with h | h | h
        · exact .inl h
        · exact absurd h (by simp)
        · exact .inr (.inr (List.mem_cons_of_mem _ h))
    | option n v pos =>
      rcases ih waiting f hf with h | h | h
      · exact .inl h
      · exact .inr (.inl h)
      · exact .inr (.inr (List.mem_cons_of_mem _ h))

/-- **Fields that are read from arguments fit.** -/
theorem fieldsFit_of_ofArguments {resolve : TypeExpr → Kind} {args : List Argument}
    {spec : Specification} (h : Specification.ofArguments resolve args = .ok spec) :
    FieldsFit spec.fields := by
  obtain ⟨hadm, rfl⟩ := Specification.ofArguments_eq_ok_iff.mp h
  have hdefault : isIdentifier (Text.snakeCase Field.defaultName) = true ∧
      Text.snakeCase Field.defaultName ∉ reservedNames := by
    rw [accessor_defaultName]
    decide +kernel
  have hname : ∀ f ∈ namedTypes none (formsOf args),
      isIdentifier (Text.snakeCase f.1) = true ∧ Text.snakeCase f.1 ∉ reservedNames := by
    intro f hf
    rcases name_of_mem_namedTypes _ _ f hf with hdef | hnone | hmem
    · rw [hdef]
      exact hdefault
    · exact absurd hnone (by simp)
    · exact ⟨(hadm.names _ hmem).accessor, (hadm.names _ hmem).free⟩
  simp only [Specification.ofForms, fieldsFor]
  split
  · refine ⟨List.nodup_singleton _, ?_, ?_⟩ <;> intro f hf <;> rw [List.mem_singleton.mp hf]
    · exact hdefault.1
    · exact hdefault.2
  · refine ⟨?_, ?_, ?_⟩
    · rw [List.map_map]
      exact hadm.distinct
    · intro f hf
      obtain ⟨a, ha, rfl⟩ := List.mem_map.mp hf
      exact (hname a ha).1
    · intro f hf
      obtain ⟨a, ha, rfl⟩ := List.mem_map.mp hf
      exact (hname a ha).2

/-! ### The functions of the type itself -/

namespace Plan

/-- The accessors of some fields, in order. -/
theorem flatMap_accessor {fields : List Field} (hfields : FieldsFit fields) (t : Target)
    (p : Policy) : ((List.range fields.length).map Member.accessor).flatMap
      (make fields t p).functionsOf = fields.map Field.accessor := by
  have hfunction : ∀ i ∈ List.range fields.length, (make fields t p).functionsOf (.accessor i) =
      (fields[i]?.map Field.accessor).toList := by
    intro i hi
    have hi := List.mem_range.mp hi
    have hslot : (make fields t p).storage.slots[i]? = some (.ofField fields[i]) := by
      simp [make, Storage.ofFields, hi]
    have hparen : '(' ∉ (fields[i].accessor).toList :=
      notMem_of_isIdentifier rfl rfl (hfields.identifier fields[i] (List.getElem_mem hi))
    rw [functionsOf_accessor hslot hparen, List.getElem?_eq_getElem hi]
    rfl
  rw [List.flatMap_map, List.flatMap_congr hfunction, ← List.filterMap_eq_flatMap_toList,
    ← List.map_filterMap, filterMap_getElem?_range]

/-- Only the further members have names that do not depend on the fields. -/
theorem filterMap_fixedName? (fields : List Field) (t : Target) (p : Policy) :
    (make fields t p).members.filterMap fixedName? =
      (further fields t p).filterMap fixedName? := by
  have hnone : ((List.range fields.length).map Member.accessor).filterMap fixedName? = [] := by
    rw [List.filterMap_map]
    exact List.filterMap_eq_nil_iff.mpr fun _ _ => rfl
  rw [members_make, List.filterMap_append, List.filterMap_append, hnone]
  rfl

/-- **The functions of the type itself**: one that makes a wrapper, one for each field, and
those whose names do not depend on the fields. -/
theorem inherentFunctions_make {fields : List Field} (hfields : FieldsFit fields) (t : Target)
    (p : Policy) : (make fields t p).inherentFunctions =
      "new" :: (fields.map Field.accessor ++ (make fields t p).members.filterMap fixedName?) := by
  obtain ⟨total, output, hsub⟩ := further_sublist fields t p
  have hfurther : (further fields t p).flatMap (make fields t p).functionsOf =
      (further fields t p).filterMap fixedName? := by
    rw [List.filterMap_eq_flatMap_toList]
    exact List.flatMap_congr fun m hm => functionsOf_further _ (hsub.subset hm)
  rw [inherentFunctions_eq, filterMap_fixedName?, members_make]
  simp only [List.flatMap_append, List.flatMap_cons, List.flatMap_nil, functionsOf_constructor,
    flatMap_accessor hfields, hfurther]
  rfl

/-- The functions whose names do not depend on the fields. -/
theorem fixedNames_sublist (fields : List Field) (t : Target) (p : Policy) :
    ((make fields t p).members.filterMap fixedName?).Sublist
      ["compare_to", "into_inner", "try_format", "generate"] := by
  obtain ⟨total, output, hsub⟩ := further_sublist fields t p
  have hall : (allFurther total output).filterMap fixedName? =
      ["compare_to", "into_inner", "try_format", "generate"] := by
    cases total <;> cases output <;> rfl
  rw [filterMap_fixedName?, ← hall]
  exact hsub.filterMap _

/-- They have names that no field may have. -/
theorem nodup_inherentFunctions {fields : List Field} (hfields : FieldsFit fields) (t : Target)
    (p : Policy) : (make fields t p).inherentFunctions.Nodup := by
  have hfixed := fixedNames_sublist fields t p
  have hreserved : ∀ w ∈ (make fields t p).members.filterMap fixedName?, w ∈ reservedNames :=
    fun w hw => (by decide : ∀ w ∈ ["compare_to", "into_inner", "try_format", "generate"],
      w ∈ reservedNames) w (hfixed.subset hw)
  have haccessor : ∀ w ∈ fields.map Field.accessor, w ∉ reservedNames := by
    intro w hw
    obtain ⟨f, hf, rfl⟩ := List.mem_map.mp hw
    exact hfields.free f hf
  rw [inherentFunctions_make hfields, List.nodup_cons, List.nodup_append, List.mem_append]
  refine ⟨?_, hfields.distinct, List.Nodup.sublist hfixed (by decide), ?_⟩
  · rintro (h | h)
    · exact haccessor _ h (by decide)
    · exact absurd (hfixed.subset h) (by decide)
  · rintro w hw _ hw' rfl
    exact haccessor w hw (hreserved w hw')

/-- The hook of the author keeps its name. -/
theorem validate_notMem_inherentFunctions {fields : List Field} (hfields : FieldsFit fields)
    (t : Target) (p : Policy) : "validate" ∉ (make fields t p).inherentFunctions := by
  rw [inherentFunctions_make hfields, List.mem_cons, List.mem_append]
  rintro (h | h | h)
  · exact absurd h (by decide)
  · obtain ⟨f, hf, heq⟩ := List.mem_map.mp h
    exact hfields.free f hf (heq ▸ by decide)
  · exact absurd ((fixedNames_sublist fields t p).subset h) (by decide)

end Plan

/-- The words that are no names in the 2024 edition, in which the texts of wrappers are read.  The
check of a field name knows all of them but the last. -/
def editionWords : List String := keywords ++ ["gen"]

theorem mem_editionWords_iff {w : String} (h : isIdentifier w = true) :
    w ∈ editionWords ↔ w = "gen" := by
  have hkeyword := notMem_keywords_of_isIdentifier h
  rw [editionWords, List.mem_append, List.mem_singleton]
  exact or_iff_right hkeyword

/-- **The members of a wrapper do not clash.**  This holds for all fields that are read from
arguments, with whatever options and for whatever target.  The accessors are identifiers, and
one of them is a word that the edition has taken exactly if it is `gen`. -/
theorem members_do_not_clash {resolve : TypeExpr → Kind} {args : List Argument}
    {spec : Specification} (h : Specification.ofArguments resolve args = .ok spec) (o : Options)
    (t : Target) :
    (Plan.of ⟨spec.fields, o⟩ t).members.Nodup ∧
      (t.userDisplay = true → .display ∉ (Plan.of ⟨spec.fields, o⟩ t).members) ∧
      (t.userDebug = true → .debug ∉ (Plan.of ⟨spec.fields, o⟩ t).members) ∧
      (Plan.of ⟨spec.fields, o⟩ t).inherentFunctions =
        "new" :: (spec.fields.map Field.accessor ++
          (Plan.of ⟨spec.fields, o⟩ t).members.filterMap Plan.fixedName?) ∧
      (Plan.of ⟨spec.fields, o⟩ t).inherentFunctions.Nodup ∧
      (∀ f ∈ spec.fields, isIdentifier f.accessor = true ∧ f.accessor ∉ keywords ∧
        (f.accessor ∈ editionWords ↔ f.accessor = "gen")) ∧
      "validate" ∉ (Plan.of ⟨spec.fields, o⟩ t).inherentFunctions := by
  have hfields := fieldsFit_of_ofArguments h
  refine ⟨Plan.nodup_members _ _ _, ?_, ?_, Plan.inherentFunctions_make hfields _ _,
    Plan.nodup_inherentFunctions hfields _ _, ?_,
    Plan.validate_notMem_inherentFunctions hfields _ _⟩
  · intro hdisplay hmem
    exact absurd (Plan.display_mem_iff.mp hmem).1 (by simp [hdisplay])
  · intro hdebug hmem
    exact absurd (Plan.debug_mem_iff.mp hmem) (by simp [hdebug])
  · intro f hf
    have hidentifier := hfields.identifier f hf
    exact ⟨hidentifier, notMem_keywords_of_isIdentifier hidentifier,
      mem_editionWords_iff hidentifier⟩

/-- Two counts, with a name for each. -/
def matchResult : List Argument :=
  [⟨.name "HomeGoals", .start⟩, ⟨.type (.named ⟨false, ["u8"]⟩), .start⟩,
    ⟨.name "away", .start⟩, ⟨.type (.named ⟨false, ["u8"]⟩), .start⟩]

/-- The author of the type has written its text form for debugging. -/
theorem members_do_not_clash_matchResult : ∃ spec,
    Specification.ofArguments (fun _ => .primitive .u8) matchResult = .ok spec ∧
      spec.fields.map Field.accessor = ["home_goals", "away"] ∧
      Member.debug ∉ (Plan.of ⟨spec.fields, {}⟩ { name := "Score", userDebug := true }).members ∧
      (Plan.of ⟨spec.fields, {}⟩ { name := "Score", userDebug := true }).inherentFunctions.Nodup := by
  have hspec : Specification.ofArguments (fun _ => .primitive .u8) matchResult =
      .ok ⟨[⟨"HomeGoals", .named ⟨false, ["u8"]⟩, .primitive .u8⟩,
        ⟨"away", .named ⟨false, ["u8"]⟩, .primitive .u8⟩], {}⟩ := by
    rfl
  have hclash := members_do_not_clash hspec {} { name := "Score", userDebug := true }
  exact ⟨_, hspec, by decide +kernel, hclash.2.2.1 rfl, hclash.2.2.2.2.1⟩

/-- A field of this name is read, and the block of the type gets a function with a name that the
edition has taken. -/
theorem accessor_mem_editionWords : ∃ spec f,
    Specification.ofArguments (fun _ => .primitive .i32)
      [⟨.name "Gen", .start⟩, ⟨.type (.named ⟨false, ["i32"]⟩), .start⟩,
        ⟨.name "Max", .start⟩, ⟨.type (.named ⟨false, ["i32"]⟩), .start⟩] = .ok spec ∧
      f ∈ spec.fields ∧ f.accessor ∈ editionWords ∧
      f.accessor ∈ (Plan.of spec { name := "Gene" }).inherentFunctions := by
  refine ⟨⟨[⟨"Gen", .named ⟨false, ["i32"]⟩, .primitive .i32⟩,
    ⟨"Max", .named ⟨false, ["i32"]⟩, .primitive .i32⟩], {}⟩, _, rfl, List.mem_cons_self, ?_, ?_⟩
  · decide +kernel
  · decide +kernel

end Newtype
