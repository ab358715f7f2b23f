import Newtype.Proofs.Phrases

/-!
# Phrases in the text of a wrapper

What the members of a wrapper do to make wrappers, as far as their text shows it.  Most
members have none of the phrases; the constructor has a struct literal and maybe a call of
the hook, and some others call the constructor.

* `Plan.PlainParts` — names and types that are filled in hold no phrase themselves.
* `Plan.guardedBody` — the body of the constructor.
* `Member.phrases` — the phrases in the text of a member.
* `countAll_inherentMember`, `countAll_traitImpl` — **each text has the phrases of its member.**
* `Plan.count_text_eq` — the phrases of a whole text.
-/

namespace Newtype

open Layout

/-! ### What is filled in -/

/-- The parts of a plan that are filled into its text do not make wrappers themselves. -/
structure Plan.PlainParts (p : Plan) : Prop where
  name : Plain p.typeName
  slots : ∀ s ∈ p.storage.slots, Plain s.accessor ∧ Plain s.type
  error : ∀ e, p.check.error? = some e → Plain e

theorem plain_slotExpr {receiver : String} (hreceiver : Plain receiver) (s : Storage) (i : Nat) :
    Plain (s.slotExpr receiver i) := by
  intro w
  unfold Storage.slotExpr
  split <;> simp +decide [hreceiver]

@[simp] theorem plain_slotExpr_self (s : Storage) (i : Nat) : Plain (s.slotExpr "self" i) :=
  plain_slotExpr (fun w => count_plain w (by decide)) s i

theorem plain_binaryOp (op : BinaryOp) :
    Plain op.traitName ∧ Plain op.method ∧ Plain op.symbol := by
  cases op <;> refine ⟨?_, ?_, ?_⟩ <;> intro w <;>
    simp +decide [BinaryOp.traitName, BinaryOp.method, BinaryOp.symbol]

@[simp] theorem plain_numberFormat (format : NumberFormat) : Plain format.traitName := by
  cases format <;> intro w <;> simp +decide [NumberFormat.traitName]

@[simp] theorem plain_validateArguments (p : Plan) : Plain p.validateArguments := by
  refine plain_intercalate fun s hs => ?_
  obtain ⟨i, -, rfl⟩ := List.mem_map.mp hs
  have hthis : Plain "this" := fun w => count_plain w (by decide)
  intro w
  simp +decide [plain_slotExpr hthis]

namespace Plan.PlainParts

variable {p : Plan} (h : p.PlainParts)

include h

theorem slotNames : Plain p.slotNames := by
  refine plain_intercalate fun s hs => ?_
  obtain ⟨slot, hslot, rfl⟩ := List.mem_map.mp hs
  exact (h.slots slot hslot).1

theorem parameters : Plain p.parameters := by
  refine plain_intercalate fun s hs => ?_
  obtain ⟨slot, hslot, rfl⟩ := List.mem_map.mp hs
  obtain ⟨haccessor, htype⟩ := h.slots slot hslot
  intro w
  simp +decide [haccessor, htype]

theorem storageType : Plain p.storage.type := by
  unfold Storage.type
  split
  · next slot hslots => exact (h.slots slot (hslots ▸ List.mem_singleton_self slot)).2
  · have htypes : Plain (", ".intercalate (p.storage.slots.map (·.type))) := by
      refine plain_intercalate fun s hs => ?_
      obtain ⟨slot, hslot, rfl⟩ := List.mem_map.mp hs
      exact (h.slots slot hslot).2
    intro w
    simp +decide [htypes]

theorem constructorOutput : Plain p.constructorOutput := by
  intro w
  unfold Plan.constructorOutput
  split
  · next e he => simp +decide [h.error e he]
  · exact count_plain w (by decide)

end Plan.PlainParts

attribute [simp] Plan.PlainParts.name Plan.PlainParts.slotNames Plan.PlainParts.parameters
  Plan.PlainParts.storageType Plan.PlainParts.constructorOutput

/-! ### Texts that make no wrappers -/

namespace Plan

section Plain

variable {p : Plan} (w : Phrase)

-- Here and below a text is taken apart at its literals.  What is asked of a literal is decided on
-- its characters, and what is filled in between is known to be plain.
@[simp] theorem countAll_inlined (head : String) (body : List Layout) :
    countAll w (inlined head body) = w.count head + countAll w body := by
  simp +decide [inlined]

@[simp] theorem count_formatHead : w.count formatHead = 0 := by simp +decide [formatHead]

@[simp] theorem countAll_compareTo (total : Bool) : countAll w (compareToLayout total) = 0 := by
  cases total <;> simp +decide [compareToLayout]

@[simp] theorem countAll_tryFormat : countAll w tryFormatLayout = 0 := by
  simp +decide [tryFormatLayout]

theorem of_mem_displayLines {l : Layout} (h : l ∈ p.displayLines) :
    l = .line "f.write_str(\", \")?;" ∨ ∃ i, l = p.displayLine i := by
  obtain ⟨i, -, hl⟩ := List.mem_flatMap.mp h
  rcases List.mem_append.mp hl with hcomma | hvalue
  · split at hcomma
    · exact absurd hcomma List.not_mem_nil
    · exact .inl (List.mem_singleton.mp hcomma)
  · exact .inr ⟨i, List.mem_singleton.mp hvalue⟩

@[simp] theorem countAll_displayBody : countAll w p.displayBody = 0 := by
  have hlines : countAll w p.displayLines = 0 := by
    refine countAll_eq_zero fun l hl => ?_
    rcases of_mem_displayLines hl with rfl | ⟨i, rfl⟩ <;> simp +decide [displayLine]
  unfold displayBody
  split <;> simp +decide [hlines]

variable (h : p.PlainParts)

include h

@[simp] theorem countAll_accessor (i : Nat) : countAll w (p.accessorLayout i) = 0 := by
  cases hs : p.storage.slots[i]? with
  | none => simp [accessorLayout, hs]
  | some slot =>
    obtain ⟨haccessor, htype⟩ := h.slots slot (List.mem_of_getElem? hs)
    cases hcopy : slot.copy <;> simp +decide [accessorLayout, hs, hcopy, haccessor, htype]

@[simp] theorem count_relational (total : Bool) : count w (p.relationalLayout total) = 0 := by
  cases total <;> simp +decide [relationalLayout, relations, h]

@[simp] theorem countAll_debugBody : countAll w p.debugBody = 0 := by
  have hlines : countAll w (p.storage.slots.mapIdx p.debugLine) = 0 := by
    refine countAll_eq_zero fun l hl => ?_
    obtain ⟨i, hi, rfl⟩ := List.mem_mapIdx.mp hl
    simp +decide [debugLine, (h.slots _ (List.getElem_mem hi)).1]
  unfold debugBody
  split <;> simp +decide [hlines, h]

@[simp] theorem count_widened (op : BinaryOp) : count w (p.arithmeticLayout op .widened) = 0 := by
  simp +decide [arithmeticLayout, plain_binaryOp op, h]

end Plain

/-! ### Texts that make wrappers -/

/-- What making a wrapper gives: the wrapper, or a result if the hook may give an error. -/
def outputOf : Option Hook → String
  | some ⟨some e⟩ => "::core::result::Result<Self, " ++ e ++ ">"
  | _ => "Self"

/-- The body of the constructor.  With a hook the value is built, then the hook is called,
and then the value is given; an error of the hook leaves the function before that. -/
def guardedBody (p : Plan) : Option Hook → List Layout
  | none => [.line p.literal]
  | some hook =>
    [.line ("let this = " ++ p.literal ++ ";"),
      .line ("Self::validate(" ++ p.validateArguments ++
        (if hook.error.isSome then ")?;" else ");")),
      .line (if hook.error.isSome then "::core::result::Result::Ok(this)" else "this")]

section Making

variable {p : Plan} (w : Phrase)

@[simp] theorem countAll_operatorBody (op : BinaryOp) :
    countAll w (operatorBody op) = [Phrase.maker].count w := by
  have hmaker : w.count "Self::new(self.value " = [Phrase.maker].count w :=
    count_piece w (by decide)
  simp +decide [operatorBody, hmaker, plain_binaryOp op]

/-- The copy of a wrapper is a struct literal. -/
theorem count_cloned :
    w.count "Self \x7b value: ::core::clone::Clone::clone(&other.value) \x7d" =
      [Phrase.literal].count w :=
  count_piece w (by decide)

variable (h : p.PlainParts)

include h

/-- The wrapper made from the parameters is a struct literal. -/
@[simp] theorem count_literal : w.count p.literal = [Phrase.literal].count w := by
  unfold literal
  split
  · next slot hslots =>
    have hslot := (h.slots slot (hslots ▸ List.mem_singleton_self slot)).1
    have hopening : w.count "Self \x7b value: " = [Phrase.literal].count w :=
      count_piece w (by decide)
    split
    · exact count_piece w (by decide)
    · simp +decide [hopening, hslot]
  · have hopening : w.count "Self \x7b value: (" = [Phrase.literal].count w :=
      count_piece w (by decide)
    simp +decide [hopening, h]

@[simp] theorem countAll_unpackedBody : countAll w p.unpackedBody = [Phrase.maker].count w := by
  have hmaker : w.count "Self::new(" = [Phrase.maker].count w := count_piece w (by decide)
  have hvalue : w.count "Self::new(value)" = [Phrase.maker].count w := count_piece w (by decide)
  unfold unpackedBody
  split <;> simp +decide [hmaker, hvalue, h]

@[simp] theorem countAll_generateBody : countAll w p.generateBody = [Phrase.maker].count w := by
  have hmaker : w.count "Self::new(<" = [Phrase.maker].count w := count_piece w (by decide)
  simp +decide [generateBody, hmaker, h]

theorem countAll_guardedBody (hook : Option Hook) : countAll w (p.guardedBody hook) =
    (Phrase.literal :: if hook.isSome then [Phrase.hook] else []).count w := by
  cases hook with
  | none => simp [guardedBody, h]
  | some hook =>
    have hcall : w.count "Self::validate(" = [Phrase.hook].count w := count_piece w (by decide)
    have hlines : countAll w (p.guardedBody (some hook)) =
        [Phrase.literal].count w + [Phrase.hook].count w := by
      cases he : hook.error.isSome <;> simp +decide [guardedBody, he, hcall, h]
    rw [hlines, ← List.count_append]
    rfl

end Making

end Plan

/-! ### The text of a member -/

/-- The phrases in the text of a member. -/
def Member.phrases : Member → List Phrase
  | .constructor check => .literal :: if check = .none then [] else [.hook]
  | .copyConstructor bitwise => if bitwise then [] else [.literal]
  | .arithmetic _ .wrapper | .fromStorage | .generate => [.maker]
  | _ => []

/-- Every check is that of a hook. -/
theorem Check.exists_of (check : Check) : ∃ hook, check = .of hook := by
  cases check with
  | none => exact ⟨Option.none, rfl⟩
  | fallible e => exact ⟨some ⟨some e⟩, rfl⟩
  | panicking => exact ⟨some ⟨Option.none⟩, rfl⟩

theorem phrases_constructor (hook : Option Hook) : (Member.constructor (.of hook)).phrases =
    .literal :: if hook.isSome then [.hook] else [] := by
  rcases hook with - | ⟨- | e⟩ <;> rfl

namespace Plan

theorem constructorLayout_of (p : Plan) (hook : Option Hook) :
    p.constructorLayout (.of hook) = [.line ("/// Creates a new `" ++ p.typeName ++ "`.")] ++
      (if hook.isSome then [] else [.line "#[inline]"]) ++
        [.block ("pub fn new(" ++ p.parameters ++ ") -> " ++ p.constructorOutput)
          (p.guardedBody hook)] := by
  rcases hook with - | ⟨- | e⟩ <;> rfl

section Pieces

variable {p : Plan} (w : Phrase) (h : p.PlainParts)

include h

@[simp] theorem countAll_constructor (check : Check) :
    countAll w (p.constructorLayout check) = (Member.constructor check).phrases.count w := by
  obtain ⟨hook, rfl⟩ := check.exists_of
  rw [constructorLayout_of, phrases_constructor, ← countAll_guardedBody w h hook]
  cases hook.isSome <;> simp +decide [h]

@[simp] theorem count_fromStorage :
    count w p.fromStorageLayout = [Phrase.maker].count w := by
  unfold fromStorageLayout
  cases he : p.check.error? with
  | some e => simp +decide [h.error e he, h]
  | none => simp +decide [h]

/-- The phrases in the text of a member of the type itself. -/
theorem countAll_inherentMember {m : Member} (hm : isInherent m = true) :
    countAll w (p.inherentMember m) = m.phrases.count w := by
  cases m with
  | constructor check => exact countAll_constructor w h check
  | accessor i => exact countAll_accessor w h i
  | compareTo total => exact countAll_compareTo w total
  | tryFormat => exact countAll_tryFormat w
  | intoInner | generate => simp +decide [inherentMember, Member.phrases, h]
  | _ => cases hm

/-- The phrases in the text of a trait. -/
theorem countAll_traitImpl {m : Member} (hm : isInherent m = false) :
    countAll w (p.traitImpl m) = m.phrases.count w := by
  cases m with
  | copyConstructor bitwise =>
    cases bitwise <;> simp +decide [traitImpl, Member.phrases, count_cloned, h]
  | arithmetic op output =>
    cases output with
    | widened => simp [traitImpl, Member.phrases, h]
    | wrapper =>
      simp +decide [traitImpl, arithmeticLayout, Member.phrases, plain_binaryOp op, h]
  | display | debug => simp +decide [traitImpl, displayLayout, debugLayout, Member.phrases, h]
  | relationalOperators | fromStorage => simp [traitImpl, Member.phrases, h]
  | equality | totalEquality | hash | storageEquality | byRefEquality | totalOrder | intoStorage
  | numericFormat => simp +decide [traitImpl, Member.phrases, h]
  | _ => cases hm

end Pieces

/-- Outside of the members a text has no phrases. -/
theorem count_text_eq {p : Plan} (h : p.PlainParts) (w : Phrase) :
    w.count p.text = (p.members.flatMap Member.phrases).count w := by
  have hown : countAll w (spaced ((p.members.filter isInherent).map p.inherentMember)) =
      ((p.members.filter isInherent).flatMap Member.phrases).count w := by
    rw [countAll_spaced, ← List.flatMap_def]
    exact countAll_flatMap fun m hm => countAll_inherentMember w h (List.mem_filter.mp hm).2
  have htraits : countAll w ((p.members.filter (!isInherent ·)).flatMap fun m =>
      .blank :: .line "#[automatically_derived]" :: p.traitImpl m) =
        ((p.members.filter (!isInherent ·)).flatMap Member.phrases).count w := by
    refine countAll_flatMap fun m hm => ?_
    have hm : isInherent m = false := by simpa using (List.mem_filter.mp hm).2
    simp +decide [countAll_traitImpl w h hm]
  have hhead : w.count ("impl " ++ p.typeName) = 0 := by simp +decide [h]
  have hperm := (List.filter_append_perm isInherent p.members).flatMap_right Member.phrases
  rw [← hperm.count_eq w, List.flatMap_append, List.count_append, ← hown, ← htraits, text,
    Layout.count_text, layout, countAll, count, hhead, Nat.zero_add]

end Plan
end Newtype
