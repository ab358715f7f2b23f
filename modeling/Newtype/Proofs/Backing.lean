import Newtype.Proofs.Members

/-!
# Members that every field can back

A wrapper gets a trait only if the types of all its fields have it.  The traits of the
storage are a fold over the fields, whatever traits these have, so each flag of the result
says something about all fields; the members are then chosen by these flags.  An accessor
looks only at its own field.

* `TraitSet.common`, `traits_ofFields` — **the traits of the storage are those that all
  fields have.**
* `totalEquality_mem_iff` … `copyConstructor_mem_iff` — the flag behind each member.
* `accessors_make` — one accessor for each field, in order.
* `accessorLayout_eq_byValue_iff`, `text_accessor` — how an accessor is written.
* `of_perm` — **in another order the fields give the same members.**
* `members_backed` — **the members of a wrapper are those that all fields back.**
-/

namespace Newtype

/-! ### Traits of the storage -/

/-- The traits that all sets of a list have. -/
def TraitSet.common (ts : List TraitSet) : TraitSet where
  copy := ts.all (·.copy)
  eq := ts.all (·.eq)
  hash := ts.all (·.hash)
  ord := ts.all (·.ord)
  partialOrd := ts.all (·.partialOrd)
  display := ts.all (·.display)

theorem common_cons (t : TraitSet) (ts : List TraitSet) :
    TraitSet.common (t :: ts) = t.inter (.common ts) := rfl

theorem inter_assoc (s t u : TraitSet) : (s.inter t).inter u = s.inter (t.inter u) := by
  simp [TraitSet.inter, Bool.and_assoc]

/-- The fold over a list finds the traits that all sets have. -/
theorem foldl_inter (ts : List TraitSet) : ∀ s : TraitSet,
    ts.foldl TraitSet.inter s = s.inter (.common ts) := by
  induction ts with
  | nil => intro s; simp [TraitSet.inter, TraitSet.common]
  | cons t ts ih =>
    intro s
    rw [List.foldl_cons, ih, common_cons, inter_assoc]

/-- **The traits of the storage are those that all fields have.** -/
theorem traits_ofFields {fields : List Field} (hne : fields ≠ []) :
    (Storage.ofFields fields).traits = .common (fields.map (·.kind.traits)) := by
  cases fields with
  | nil => exact absurd rfl hne
  | cons f fs => exact foldl_inter _ _

/-- The order of the sets does not matter. -/
theorem common_perm {ts us : List TraitSet} (h : ts.Perm us) :
    TraitSet.common ts = .common us := by
  have hall : ∀ flag : TraitSet → Bool, ts.all flag = us.all flag := by
    intro flag
    rw [Bool.eq_iff_iff, List.all_eq_true, List.all_eq_true]
    exact forall_congr' fun t => imp_congr_left h.mem_iff
  simp only [TraitSet.common, hall]

namespace Plan

variable {fields : List Field} {t : Target} {p : Policy}

/-! ### Members and flags -/

theorem totalEquality_mem_iff : .totalEquality ∈ (make fields t p).members ↔
    (Storage.ofFields fields).traits.eq = true := by
  simp [make, mem_when, equalityMembers, orderMembers, mathMembers, formatMembers]

theorem hash_mem_iff : .hash ∈ (make fields t p).members ↔
    (Storage.ofFields fields).traits.hash = true := by
  simp [make, mem_when, equalityMembers, orderMembers, mathMembers, formatMembers]

theorem compareTo_mem_iff {total : Bool} : .compareTo total ∈ (make fields t p).members ↔
    (Storage.ofFields fields).traits.partialOrd = true ∧
      total = (Storage.ofFields fields).traits.ord := by
  simp [make, mem_when, equalityMembers, orderMembers, mathMembers, formatMembers]

theorem byRefEquality_mem_iff : .byRefEquality ∈ (make fields t p).members ↔
    t.readOnly = true := by
  simp [make, mem_when, equalityMembers, orderMembers, mathMembers, formatMembers]

theorem copyConstructor_mem_iff {bitwise : Bool} :
    .copyConstructor bitwise ∈ (make fields t p).members ↔ bitwise = t.readOnly := by
  simp [make, mem_when, equalityMembers, orderMembers, mathMembers, formatMembers]

/-! ### Accessors -/

/-- The slot that a member reads. -/
def accessorSlot? : Member → Option Nat
  | .accessor i => some i
  | _ => none

/-- **There is one accessor for each field, in order.** -/
theorem accessors_make (fields : List Field) (t : Target) (p : Policy) :
    (make fields t p).members.filterMap accessorSlot? = List.range fields.length := by
  obtain ⟨total, output, hsub⟩ := further_sublist fields t p
  have hfurther : (further fields t p).filterMap accessorSlot? = [] := by
    refine List.filterMap_eq_nil_iff.mpr fun m hm => ?_
    have hother := (ne_of_mem_allFurther (hsub.subset hm)).2.2
    cases m with
    | accessor i => exact absurd rfl (hother i)
    | _ => rfl
  have haccessors : ((List.range fields.length).map Member.accessor).filterMap accessorSlot? =
      List.range fields.length := by
    rw [List.filterMap_map]
    exact List.filterMap_some
  rw [members_make, List.filterMap_append, List.filterMap_append, haccessors, hfurther,
    List.append_nil]
  rfl

theorem accessor_mem {i : Nat} (hi : i < fields.length) :
    .accessor i ∈ (make fields t p).members := by
  rw [members_make]
  exact List.mem_append_right _ (List.mem_append_left _ (List.mem_map_of_mem (by simpa using hi)))

/-- A function that gives a slot itself. -/
def byValue (slot : Slot) (expr : String) : List Layout :=
  [.line "#[inline]",
    .block ("pub fn " ++ slot.accessor ++ "(&self) -> " ++ slot.type) [.line expr]]

/-- A function that gives a reference to a slot. -/
def byReference (slot : Slot) (expr : String) : List Layout :=
  [.line "#[inline]",
    .block ("pub fn " ++ slot.accessor ++ "(&self) -> &" ++ slot.type) [.line ("&" ++ expr)]]

/-- The two forms can be told apart. -/
theorem byValue_ne_byReference (slot : Slot) (expr : String) :
    byValue slot expr ≠ byReference slot expr := by
  intro h
  simp only [byValue, byReference, List.cons.injEq, Layout.block.injEq, Layout.line.injEq,
    and_true, true_and] at h
  have hlength := congrArg (fun s => s.toList.length) h.2
  simp only [String.toList_append, List.length_append] at hlength
  have hsign : "&".toList.length = 1 := rfl
  omega

variable {plan : Plan} {i : Nat} {slot : Slot}

theorem accessorLayout_eq (h : plan.storage.slots[i]? = some slot) : plan.accessorLayout i =
    if slot.copy then byValue slot (plan.storage.slotExpr "self" i)
    else byReference slot (plan.storage.slotExpr "self" i) := by
  rw [accessorLayout, h]
  rfl

/-- **An accessor gives the value itself exactly if the type of its field is copied.** -/
theorem accessorLayout_eq_byValue_iff (h : plan.storage.slots[i]? = some slot) :
    (plan.accessorLayout i = byValue slot (plan.storage.slotExpr "self" i) ↔ slot.copy = true) ∧
      (plan.accessorLayout i = byReference slot (plan.storage.slotExpr "self" i) ↔
        slot.copy = false) := by
  have hne := byValue_ne_byReference slot (plan.storage.slotExpr "self" i)
  rw [accessorLayout_eq h]
  cases slot.copy with
  | true => exact ⟨by simp, by simpa using hne⟩
  | false => exact ⟨by simpa using hne.symm, by simp⟩

/-! ### Pieces of a text -/

/-- Pieces with blank lines between them hold each piece as it is. -/
theorem exists_spaced_eq {b : List Layout} : ∀ {bs : List (List Layout)}, b ∈ bs →
    ∃ front back, spaced bs = front ++ b ++ back
  | [c], h => ⟨[], [], by rw [List.mem_singleton.mp h]; simp [spaced]⟩
  | c :: c' :: bs, h => by
    have hspaced : spaced (c :: c' :: bs) = c ++ .blank :: spaced (c' :: bs) := rfl
    rcases List.mem_cons.mp h with rfl | h
    · exact ⟨[], .blank :: spaced (c' :: bs), by rw [hspaced, List.nil_append]⟩
    · obtain ⟨front, back, heq⟩ := exists_spaced_eq h
      exact ⟨c ++ .blank :: front, back, by rw [hspaced, heq]; simp⟩

theorem renderAll_append (depth : Nat) (ls ms : List Layout) :
    Layout.renderAll depth (ls ++ ms) = Layout.renderAll depth ls ++ Layout.renderAll depth ms := by
  induction ls with
  | nil => rw [List.nil_append, Layout.renderAll, String.empty_append]
  | cons l ls ih => rw [List.cons_append, Layout.renderAll, Layout.renderAll, ih, String.append_assoc]

/-- The text of a plan holds its accessors as they are written. -/
theorem text_accessor (h : .accessor i ∈ plan.members) : ∃ front back, plan.text =
    front ++ Layout.renderAll 1 (plan.accessorLayout i) ++ back := by
  have hmem : plan.accessorLayout i ∈ (plan.members.filter isInherent).map plan.inherentMember :=
    List.mem_map.mpr ⟨.accessor i, List.mem_filter.mpr ⟨h, rfl⟩, rfl⟩
  obtain ⟨front, back, heq⟩ := exists_spaced_eq hmem
  rw [text, layout, Layout.text, Layout.renderAll, Layout.render, heq, renderAll_append,
    renderAll_append]
  exact ⟨_ ++ Layout.renderAll 1 front, Layout.renderAll 1 back ++ _, by
    simp only [String.append_assoc]; rfl⟩

/-! ### Fields in another order -/

/-- The category of several fields is that of none of them. -/
theorem categoryOf_perm {fields fields' : List Field} (h : fields.Perm fields') :
    Policy.categoryOf fields = Policy.categoryOf fields' := by
  match fields, fields' with
  | [], _ => rw [h.nil_eq]
  | [f], _ => rw [List.singleton_perm.mp h]
  | f :: g :: fs, fields' =>
    match fields', h.length_eq with
    | f' :: g' :: fs', _ => rfl

/-- The decisions about the members do not depend on the order of the fields. -/
theorem policy_perm {fields fields' : List Field} (h : fields.Perm fields') (o : Options)
    (t : Target) : Policy.of fields' o t = Policy.of fields o t := by
  simp only [Policy.of, categoryOf_perm h, h.length_eq]

theorem traits_perm {fields fields' : List Field} (h : fields.Perm fields') :
    (Storage.ofFields fields').traits = (Storage.ofFields fields).traits := by
  by_cases hne : fields = []
  · subst hne
    rw [h.nil_eq]
  · have hne' : fields' ≠ [] := fun heq => hne (by simpa [heq] using h)
    rw [traits_ofFields hne, traits_ofFields hne', common_perm (h.map _)]

/-- **In another order the fields give the same plan**, but for the order of the slots. -/
theorem of_perm {fields fields' : List Field} (h : fields.Perm fields') (o : Options)
    (t : Target) : of ⟨fields', o⟩ t = { of ⟨fields, o⟩ t with
      storage := ⟨fields'.map .ofField, (of ⟨fields, o⟩ t).storage.traits⟩ } := by
  have hstorage : Storage.ofFields fields' =
      ⟨fields'.map .ofField, (Storage.ofFields fields).traits⟩ :=
    congrArg (Storage.mk _) (traits_perm h)
  have hlength : (fields'.map Slot.ofField).length = (fields.map Slot.ofField).length := by
    simp [h.length_eq]
  simp only [of, policy_perm h, make, hstorage, hlength]
  rfl

end Plan

/-! ### The members of a wrapper -/

/-- The members of a plan are those that all fields of a wrapper can back. -/
structure Backed (fields : List Field) (t : Target) (plan : Plan) : Prop where
  totalEquality : .totalEquality ∈ plan.members ↔ ∀ f ∈ fields, f.kind.traits.eq = true
  hash : .hash ∈ plan.members ↔ ∀ f ∈ fields, f.kind.traits.hash = true
  compareTo : ∀ total, .compareTo total ∈ plan.members ↔
    (∀ f ∈ fields, f.kind.traits.partialOrd = true) ∧
      (total = true ↔ ∀ f ∈ fields, f.kind.traits.ord = true)
  display : .display ∈ plan.members ↔
    (∀ f ∈ fields, f.kind.traits.display = true) ∧ t.userDisplay = false
  byRefEquality : .byRefEquality ∈ plan.members ↔ t.readOnly = true
  copyConstructor : ∀ bitwise, .copyConstructor bitwise ∈ plan.members ↔ bitwise = t.readOnly
  slots : plan.storage.slots = fields.map .ofField
  /-- there is one accessor for each slot, in order -/
  accessors : plan.members.filterMap Plan.accessorSlot? = List.range plan.storage.slots.length
  /-- the text of each accessor is in the text of the wrapper, and gives the value or a
  reference to it -/
  written : ∀ i f, fields[i]? = some f →
    (∃ front back, plan.text =
      front ++ Layout.renderAll 1 (plan.inherentMember (.accessor i)) ++ back) ∧
    (plan.inherentMember (.accessor i) =
      Plan.byValue (.ofField f) (plan.storage.slotExpr "self" i) ↔ f.kind.traits.copy = true) ∧
    (plan.inherentMember (.accessor i) =
      Plan.byReference (.ofField f) (plan.storage.slotExpr "self" i) ↔
        f.kind.traits.copy = false)

/-- **The members of a wrapper are those that all its fields can back**, whatever traits the
fields have, for all options and targets.  In another order the fields give the same
members: the plan differs only by the order of the slots, which is that of the fields. -/
theorem members_backed {fields : List Field} (hne : fields ≠ []) (o : Options) (t : Target) :
    Backed fields t (Plan.of ⟨fields, o⟩ t) ∧
      ∀ fields', fields.Perm fields' → Plan.of ⟨fields', o⟩ t =
        { Plan.of ⟨fields, o⟩ t with
          storage := ⟨fields'.map .ofField, (Plan.of ⟨fields, o⟩ t).storage.traits⟩ } := by
  have hall : ∀ flag : TraitSet → Bool, (fields.map (·.kind.traits)).all flag = true ↔
      ∀ f ∈ fields, flag f.kind.traits = true := by
    intro flag
    simp
  have hslots : (Plan.of ⟨fields, o⟩ t).storage.slots = fields.map .ofField := rfl
  refine ⟨⟨?_, ?_, ?_, ?_, Plan.byRefEquality_mem_iff, fun _ => Plan.copyConstructor_mem_iff,
    hslots, ?_, ?_⟩, fun fields' h => Plan.of_perm h o t⟩
  · rw [Plan.of, Plan.totalEquality_mem_iff, traits_ofFields hne]
    exact hall (·.eq)
  · rw [Plan.of, Plan.hash_mem_iff, traits_ofFields hne]
    exact hall (·.hash)
  · intro total
    rw [Plan.of, Plan.compareTo_mem_iff, traits_ofFields hne]
    refine and_congr (hall (·.partialOrd)) ?_
    rw [Bool.eq_iff_iff]
    exact iff_congr Iff.rfl (hall (·.ord))
  · rw [Plan.of, Plan.display_mem_iff, traits_ofFields hne, and_comm]
    exact and_congr_left' (hall (·.display))
  · rw [hslots, List.length_map]
    exact Plan.accessors_make fields t _
  · intro i f hf
    have hslot : (Plan.of ⟨fields, o⟩ t).storage.slots[i]? = some (.ofField f) := by
      rw [hslots, List.getElem?_map, hf, Option.map_some]
    have hi : i < fields.length := (List.getElem?_eq_some_iff.mp hf).1
    exact ⟨Plan.text_accessor (Plan.accessor_mem hi), Plan.accessorLayout_eq_byValue_iff hslot⟩

/-- A text, a number without a total order, and a type that is said to have an order but no
equality. -/
def unevenFields : List Field :=
  [⟨"Label", .named ⟨false, ["String"]⟩, .string⟩,
    ⟨"Weight", .named ⟨false, ["f64"]⟩, .primitive .f64⟩,
    ⟨"Rank", .named ⟨false, ["Rank"]⟩, .named { TraitSet.value with eq := false }⟩]

/-- They back an order that is not total and a text form, but neither equality nor hash, and
so they do in another order. -/
theorem members_backed_unevenFields : unevenFields ≠ [] ∧
    Backed unevenFields { name := "Entry", readOnly := true }
      (Plan.of ⟨unevenFields, {}⟩ { name := "Entry", readOnly := true }) ∧
    Member.totalEquality ∉
      (Plan.of ⟨unevenFields.reverse, {}⟩ { name := "Entry", readOnly := true }).members ∧
    Member.compareTo false ∈
      (Plan.of ⟨unevenFields.reverse, {}⟩ { name := "Entry", readOnly := true }).members := by
  have hne : unevenFields ≠ [] := List.cons_ne_nil _ _
  obtain ⟨hbacked, hperm⟩ := members_backed hne {} { name := "Entry", readOnly := true }
  rw [hperm _ (List.reverse_perm _).symm]
  refine ⟨hne, hbacked, ?_, (hbacked.compareTo false).mpr ?_⟩
  · exact fun hmem => absurd (hbacked.totalEquality.mp hmem) (by decide)
  · decide

end Newtype
