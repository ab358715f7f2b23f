import Newtype.Proofs.Backing
import Newtype.Proofs.MemberPhrases

/-!
# Texts are well nested

The text of a wrapper is read by a compiler that counts braces.  A text is put together from
lines and blocks, and it is well nested if each of its lines is and no head of a block has a
brace.  This depends on the pieces alone, so it holds for the members in any order, however
often they are repeated, and for accessors of slots that are not there.

* `braceStep`, `depthAfter`, `outline` — the depth of braces behind a text, and what stands at
  depth zero.
* `Layout.Nested`, `Layout.wellNested_render` — **a text is as well nested as its lines.**
* `Layout.outline_block` — at depth zero a block is its head and a pair of braces.
* `Plan.Braceless` — what is filled into a text has no braces.
* `Plan.nested_inherentMember`, `Plan.nestedAll_traitImpl` — the text of each member.
* `Plan.implementation?`, `Plan.exists_block` — each trait is one block.
* `text_wellNested` — **the text of every plan is well nested.**
-/

namespace Newtype

open Layout

/-! ### Depth of braces -/

/-- The depth of braces behind a character.  There is none if it closes a brace that was not
opened. -/
def braceStep (d : Nat) (c : Char) : Option Nat :=
  if c = '\x7b' then some (d + 1)
  else if c = '\x7d' then if d = 0 then none else some (d - 1)
  else some d

/-- The depth of braces behind a text that starts at a depth. -/
def depthAfter : Nat → List Char → Option Nat
  | d, [] => some d
  | d, c :: cs => (braceStep d c).bind (depthAfter · cs)

/-- What stands at depth zero in a text that starts at a depth, up to a brace that was not
opened.  The outermost braces stand at depth zero on one of their sides. -/
def outline : Nat → List Char → List Char
  | _, [] => []
  | d, c :: cs =>
    match braceStep d c with
    | some e => (if d = 0 ∨ e = 0 then [c] else []) ++ outline e cs
    | none => []

/-- What a character does to the depth. -/
theorem braceStep_cases {d e : Nat} {c : Char} (h : braceStep d c = some e) :
    c = '\x7b' ∧ e = d + 1 ∨ c = '\x7d' ∧ d = e + 1 ∨ c ≠ '\x7b' ∧ c ≠ '\x7d' ∧ e = d := by
  unfold braceStep at h
  split at h
  · next hopen => exact .inl ⟨hopen, (Option.some.inj h).symm⟩
  · next hopen =>
    split at h
    · next hclose =>
      split at h
      · cases h
      · have := Option.some.inj h
        exact .inr (.inl ⟨hclose, by omega⟩)
    · next hclose => exact .inr (.inr ⟨hopen, hclose, (Option.some.inj h).symm⟩)

/-- A character does the same at any greater depth. -/
theorem braceStep_add {d e : Nat} {c : Char} (h : braceStep d c = some e) (k : Nat) :
    braceStep (d + k) c = some (e + k) := by
  rcases braceStep_cases h with ⟨rfl, rfl⟩ | ⟨rfl, rfl⟩ | ⟨hopen, hclose, rfl⟩
  · rw [braceStep, if_pos rfl, Nat.add_right_comm]
  · have hpos : e + 1 + k ≠ 0 := by omega
    have hpred : e + 1 + k - 1 = e + k := by omega
    rw [braceStep, if_neg (by decide), if_pos rfl, if_neg hpos, hpred]
  · rw [braceStep, if_neg hopen, if_neg hclose]

theorem depthAfter_cons_eq_some {d e : Nat} {c : Char} {cs : List Char}
    (h : depthAfter d (c :: cs) = some e) :
    ∃ e', braceStep d c = some e' ∧ depthAfter e' cs = some e :=
  Option.bind_eq_some_iff.mp h

/-- How the depth goes on behind a text. -/
theorem depthAfter_append (a b : List Char) : ∀ d,
    depthAfter d (a ++ b) = (depthAfter d a).bind (depthAfter · b) := by
  induction a with
  | nil => intro d; rfl
  | cons c a ih =>
    intro d
    rw [List.cons_append, depthAfter, depthAfter, Option.bind_assoc]
    exact congrArg _ (funext ih)

/-- A text that starts deeper ends deeper. -/
theorem depthAfter_add {a : List Char} : ∀ {d e : Nat}, depthAfter d a = some e → ∀ k,
    depthAfter (d + k) a = some (e + k) := by
  induction a with
  | nil =>
    intro d e h k
    rw [← Option.some.inj h, depthAfter]
  | cons c a ih =>
    intro d e h k
    obtain ⟨e', hstep, hrest⟩ := depthAfter_cons_eq_some h
    rw [depthAfter, braceStep_add hstep k]
    exact ih hrest k

/-- The depth is what has been opened and not closed. -/
theorem count_of_depthAfter {a : List Char} : ∀ {d e : Nat}, depthAfter d a = some e →
    d + a.count '\x7b' = e + a.count '\x7d' := by
  induction a with
  | nil =>
    intro d e h
    rw [← Option.some.inj h]
    rfl
  | cons c a ih =>
    intro d e h
    obtain ⟨e', hstep, hrest⟩ := depthAfter_cons_eq_some h
    have hcount := ih hrest
    rcases braceStep_cases hstep with ⟨rfl, rfl⟩ | ⟨rfl, rfl⟩ | ⟨hopen, hclose, rfl⟩
    · rw [List.count_cons_self, List.count_cons_of_ne (by decide)]
      omega
    · rw [List.count_cons_self, List.count_cons_of_ne (by decide)]
      omega
    · rw [List.count_cons_of_ne hopen, List.count_cons_of_ne hclose]
      exact hcount

/-- No start of a text closes more than it opens. -/
theorem count_le_of_prefix {a b : List Char} {e : Nat} (h : depthAfter 0 b = some e)
    (hab : a <+: b) : a.count '\x7d' ≤ a.count '\x7b' := by
  obtain ⟨rest, rfl⟩ := hab
  rw [depthAfter_append] at h
  obtain ⟨d, hd, -⟩ := Option.bind_eq_some_iff.mp h
  have hcount := count_of_depthAfter hd
  omega

/-- The outline of a text goes on where its first part ends. -/
theorem outline_append {a : List Char} (b : List Char) : ∀ {d e : Nat},
    depthAfter d a = some e → outline d (a ++ b) = outline d a ++ outline e b := by
  induction a with
  | nil =>
    intro d e h
    rw [← Option.some.inj h]
    rfl
  | cons c a ih =>
    intro d e h
    obtain ⟨e', hstep, hrest⟩ := depthAfter_cons_eq_some h
    rw [List.cons_append, outline, outline, hstep]
    show _ ++ outline e' (a ++ b) = _ ++ outline e' a ++ outline e b
    rw [ih hrest, List.append_assoc]

/-- Inside of braces nothing stands at depth zero. -/
theorem outline_inside {a : List Char} : ∀ {d e : Nat}, depthAfter d a = some e →
    outline (d + 1) a = [] := by
  induction a with
  | nil => intro d e _; rfl
  | cons c a ih =>
    intro d e h
    obtain ⟨e', hstep, hrest⟩ := depthAfter_cons_eq_some h
    have hdeep : ¬(d + 1 = 0 ∨ e' + 1 = 0) := by omega
    rw [outline, braceStep_add hstep 1]
    show (if d + 1 = 0 ∨ e' + 1 = 0 then [c] else []) ++ outline (e' + 1) a = []
    rw [if_neg hdeep, ih hrest, List.nil_append]

/-! ### Lines -/

/-- There is no brace in a text. -/
def braceless (s : String) : Bool := s.toList.all fun c => c != '\x7b' && c != '\x7d'

/-- A text closes the braces that it opens. -/
def wellNested (s : String) : Bool := depthAfter 0 s.toList = some 0

theorem braceless_iff {s : String} :
    braceless s = true ↔ '\x7b' ∉ s.toList ∧ '\x7d' ∉ s.toList := by
  simp only [braceless, List.all_eq_true, Bool.and_eq_true, bne_iff_ne]
  constructor
  · exact fun h => ⟨fun hopen => (h _ hopen).1 rfl, fun hclose => (h _ hclose).2 rfl⟩
  · rintro ⟨hopen, hclose⟩ c hc
    exact ⟨fun heq => hopen (heq ▸ hc), fun heq => hclose (heq ▸ hc)⟩

instance {s : String} {l : List Char} [h : Spelled s (String.ofList l)] :
    Decidable (braceless s = true) :=
  decidable_of_iff ((l.all fun c => c != '\x7b' && c != '\x7d') = true)
    (by rw [braceless, h.toList_eq])

@[simp] theorem braceless_append (a b : String) :
    braceless (a ++ b) = (braceless a && braceless b) := by
  rw [braceless, String.toList_append, List.all_append]
  rfl

theorem braceless_intercalate : ∀ {ss : List String}, (∀ s ∈ ss, braceless s = true) →
    braceless (", ".intercalate ss) = true
  | [], _ => by rw [String.intercalate_nil]; rfl
  | [s], h => by
    rw [String.intercalate_singleton]
    exact h s List.mem_cons_self
  | s :: s' :: ss, h => by
    have hrest := braceless_intercalate fun r hr => h r (List.mem_cons_of_mem s hr)
    rw [String.intercalate_cons_cons, braceless_append, braceless_append, hrest,
      h s List.mem_cons_self]
    decide

@[simp] theorem braceless_repr (n : Nat) : braceless n.repr = true :=
  braceless_iff.mpr ⟨notMem_toString rfl n, notMem_toString rfl n⟩

theorem braceStep_of_ne {c : Char} (hopen : c ≠ '\x7b') (hclose : c ≠ '\x7d') (d : Nat) :
    braceStep d c = some d := by
  rw [braceStep, if_neg hopen, if_neg hclose]

/-- Without braces the depth stays, and at depth zero nothing is left out. -/
theorem depthAfter_of_notMem {a : List Char} : '\x7b' ∉ a → '\x7d' ∉ a →
    (∀ d, depthAfter d a = some d) ∧ outline 0 a = a := by
  induction a with
  | nil => exact fun _ _ => ⟨fun _ => rfl, rfl⟩
  | cons c a ih =>
    intro hopen hclose
    obtain ⟨hdepth, houtline⟩ := ih (fun h => hopen (List.mem_cons_of_mem c h))
      fun h => hclose (List.mem_cons_of_mem c h)
    have hstep := braceStep_of_ne (fun h => hopen (h ▸ List.mem_cons_self))
      fun h => hclose (h ▸ List.mem_cons_self)
    constructor
    · intro d
      rw [depthAfter, hstep]
      exact hdepth d
    · rw [outline, hstep]
      show (if 0 = 0 ∨ 0 = 0 then [c] else []) ++ outline 0 a = c :: a
      rw [houtline]
      rfl

theorem depthAfter_of_braceless {s : String} (h : braceless s = true) (d : Nat) :
    depthAfter d s.toList = some d :=
  (depthAfter_of_notMem (braceless_iff.mp h).1 (braceless_iff.mp h).2).1 d

theorem outline_of_braceless {s : String} (h : braceless s = true) :
    outline 0 s.toList = s.toList :=
  (depthAfter_of_notMem (braceless_iff.mp h).1 (braceless_iff.mp h).2).2

theorem wellNested_iff {s : String} :
    wellNested s = true ↔ ∀ d, depthAfter d s.toList = some d := by
  rw [wellNested, decide_eq_true_iff]
  constructor
  · intro h d
    have hadd := depthAfter_add h d
    rwa [Nat.zero_add] at hadd
  · exact fun h => h 0

instance {s : String} {l : List Char} [h : Spelled s (String.ofList l)] :
    Decidable (wellNested s = true) :=
  decidable_of_iff (depthAfter 0 l = some 0)
    (by rw [wellNested, h.toList_eq, decide_eq_true_iff])

@[simp] theorem wellNested_of_braceless {s : String} (h : braceless s = true) :
    wellNested s = true :=
  wellNested_iff.mpr (depthAfter_of_braceless h)

theorem wellNested_append {a b : String} (ha : wellNested a = true) (hb : wellNested b = true) :
    wellNested (a ++ b) = true := by
  rw [wellNested_iff] at ha hb ⊢
  intro d
  rw [String.toList_append, depthAfter_append, ha d]
  exact hb d

/-! ### Layouts -/

namespace Layout

mutual

/-- The lines of a piece are well nested, and the heads of its blocks have no braces. -/
@[simp] def Nested : Layout → Prop
  | .line s => wellNested s = true
  | .blank => True
  | .block head body => braceless head = true ∧ NestedAll body
  | .indented body => NestedAll body

/-- The same of all pieces. -/
@[simp] def NestedAll : List Layout → Prop
  | [] => True
  | l :: ls => Nested l ∧ NestedAll ls

end

@[simp] theorem nestedAll_append (ls ms : List Layout) :
    NestedAll (ls ++ ms) ↔ NestedAll ls ∧ NestedAll ms := by
  induction ls with
  | nil => simp
  | cons l ls ih => simp [ih, and_assoc]

theorem nestedAll_of_forall : ∀ {ls : List Layout}, (∀ l ∈ ls, Nested l) → NestedAll ls := by
  intro ls
  induction ls with
  | nil => intro _; trivial
  | cons l ls ih =>
    intro h
    exact ⟨h l List.mem_cons_self, ih fun l' hl' => h l' (List.mem_cons_of_mem l hl')⟩

theorem nestedAll_spaced : ∀ {bs : List (List Layout)}, (∀ b ∈ bs, NestedAll b) →
    NestedAll (Plan.spaced bs)
  | [], _ => trivial
  | [b], h => h b List.mem_cons_self
  | b :: b' :: bs, h => by
    have hrest := nestedAll_spaced fun c hc => h c (List.mem_cons_of_mem b hc)
    have hspaced : Plan.spaced (b :: b' :: bs) = b ++ .blank :: Plan.spaced (b' :: bs) := rfl
    rw [hspaced, nestedAll_append]
    exact ⟨h b List.mem_cons_self, trivial, hrest⟩

theorem braceless_margin : ∀ depth : Nat, braceless (margin depth) = true := by
  intro depth
  induction depth with
  | zero => rfl
  | succ depth ih =>
    rw [margin, braceless_append, ih]
    decide

theorem wellNested_renderLine (depth : Nat) {s : String} (h : wellNested s = true) :
    wellNested (renderLine depth s) = true := by
  unfold renderLine
  split
  · rfl
  · exact wellNested_append (wellNested_append
      (wellNested_of_braceless (braceless_margin depth)) h) rfl

/-- A line that ends with a fixed piece is not empty. -/
theorem renderLine_ending (depth : Nat) (s : String) {ending : String} (h : ending ≠ "") :
    renderLine depth (s ++ ending) = margin depth ++ (s ++ (ending ++ "\n")) := by
  rw [renderLine, if_neg (by simp [h]), String.append_assoc, String.append_assoc]

/-- The line that opens a block goes one deeper. -/
theorem depthAfter_opening (depth : Nat) {head : String} (h : braceless head = true) (d : Nat) :
    depthAfter d (renderLine depth (head ++ " \x7b")).toList = some (d + 1) := by
  rw [renderLine_ending depth head (by decide), String.toList_append, String.toList_append,
    depthAfter_append, depthAfter_of_braceless (braceless_margin depth), Option.bind_some,
    depthAfter_append, depthAfter_of_braceless h]
  rfl

theorem depthAfter_closing (depth : Nat) (d : Nat) :
    depthAfter (d + 1) (renderLine depth "\x7d").toList = some d := by
  have hline : renderLine depth "\x7d" = margin depth ++ "\x7d\n" := by
    rw [← String.empty_append (s := "\x7d"), renderLine_ending depth "" (by decide),
      String.empty_append]
    rfl
  rw [hline, String.toList_append, depthAfter_append,
    depthAfter_of_braceless (braceless_margin depth)]
  rfl

mutual

/-- **A text is as well nested as its lines.** -/
theorem wellNested_render : ∀ (l : Layout) (depth : Nat), Nested l →
    wellNested (render depth l) = true
  | .line s, depth, h => by
    rw [render]
    exact wellNested_renderLine depth h
  | .blank, depth, _ => by
    rw [render]
    rfl
  | .block head body, depth, h => by
    -- the body is well nested at every depth, so also inside of the braces of the block
    have hbody := wellNested_iff.mp (wellNested_renderAll body (depth + 1) h.2)
    rw [wellNested_iff]
    intro d
    rw [render, String.toList_append, String.toList_append, depthAfter_append, depthAfter_append,
      depthAfter_opening depth h.1, Option.bind_some, hbody, Option.bind_some,
      depthAfter_closing]
  | .indented body, depth, h => by
    rw [render]
    exact wellNested_renderAll body (depth + 1) h

theorem wellNested_renderAll : ∀ (ls : List Layout) (depth : Nat), NestedAll ls →
    wellNested (renderAll depth ls) = true
  | [], depth, _ => rfl
  | l :: ls, depth, h => by
    rw [renderAll]
    exact wellNested_append (wellNested_render l depth h.1) (wellNested_renderAll ls depth h.2)

end

/-- At depth zero a block is its head and a pair of braces. -/
theorem outline_block {head : String} {body : List Layout} (hhead : braceless head = true)
    (hbody : NestedAll body) :
    outline 0 (render 0 (.block head body)).toList = (head ++ " \x7b\x7d\n").toList := by
  have hopening : renderLine 0 (head ++ " \x7b") = head ++ " \x7b\n" :=
    (renderLine_ending 0 head (by decide)).trans (String.empty_append ..)
  have hdepth := depthAfter_of_braceless hhead 0
  have hinside := wellNested_iff.mp (wellNested_renderAll body 1 hbody)
  -- the line that opens the block ends behind its brace, and the one that closes it starts there
  have hfirst : outline 0 (head ++ " \x7b\n").toList = head.toList ++ [' ', '\x7b'] := by
    rw [String.toList_append, outline_append _ hdepth, outline_of_braceless hhead]
    rfl
  have hlast : outline 1 (renderLine 0 "\x7d").toList = ['\x7d', '\n'] := rfl
  have hopen : depthAfter 0 (head ++ " \x7b\n").toList = some 1 := by
    rw [String.toList_append, depthAfter_append, hdepth]
    rfl
  rw [render, hopening, String.append_assoc, String.toList_append, outline_append _ hopen, hfirst,
    String.toList_append]
  rw [outline_append (d := 1) _ (hinside 1), outline_inside (hinside 0), hlast,
    String.toList_append, List.append_assoc]
  rfl

end Layout

/-! ### What is filled in -/

namespace Plan

/-- The parts of a plan that are filled into its text have no braces. -/
structure Braceless (p : Plan) : Prop where
  name : braceless p.typeName = true
  slots : ∀ s ∈ p.storage.slots, braceless s.accessor = true ∧ braceless s.type = true
  error : ∀ e, p.check.error? = some e → braceless e = true

@[simp] theorem braceless_slotExpr {receiver : String} (h : braceless receiver = true)
    (s : Storage) (i : Nat) : braceless (s.slotExpr receiver i) = true := by
  unfold Storage.slotExpr
  split <;> simp +decide [h]

@[simp] theorem braceless_validateArguments (p : Plan) :
    braceless p.validateArguments = true := by
  refine braceless_intercalate fun s hs => ?_
  obtain ⟨i, -, rfl⟩ := List.mem_map.mp hs
  simp +decide

theorem braceless_binaryOp (op : BinaryOp) : braceless op.traitName = true ∧
    braceless op.method = true ∧ braceless op.symbol = true := by
  cases op <;> decide

@[simp] theorem braceless_numberFormat (format : NumberFormat) :
    braceless format.traitName = true := by
  cases format <;> decide

namespace Braceless

variable {p : Plan} (h : p.Braceless)

include h

theorem slotNames : braceless p.slotNames = true := by
  refine braceless_intercalate fun s hs => ?_
  obtain ⟨slot, hslot, rfl⟩ := List.mem_map.mp hs
  exact (h.slots slot hslot).1

theorem parameters : braceless p.parameters = true := by
  refine braceless_intercalate fun s hs => ?_
  obtain ⟨slot, hslot, rfl⟩ := List.mem_map.mp hs
  obtain ⟨haccessor, htype⟩ := h.slots slot hslot
  simp +decide [haccessor, htype]

theorem storageType : braceless p.storage.type = true := by
  unfold Storage.type
  split
  · next slot hslots => exact (h.slots slot (hslots ▸ List.mem_singleton_self slot)).2
  · have htypes : braceless (", ".intercalate (p.storage.slots.map (·.type))) = true := by
      refine braceless_intercalate fun s hs => ?_
      obtain ⟨slot, hslot, rfl⟩ := List.mem_map.mp hs
      exact (h.slots slot hslot).2
    simp +decide [htypes]

theorem constructorOutput : braceless p.constructorOutput = true := by
  unfold Plan.constructorOutput
  split
  · next e he => simp +decide [h.error e he]
  · decide

/-- The braces of the wrapper made from the parameters are closed again. -/
theorem literal : wellNested p.literal = true := by
  have hwrap : ∀ opening names closing : String, braceless names = true →
      depthAfter 0 opening.toList = some 1 → depthAfter 1 closing.toList = some 0 →
        wellNested (opening ++ names ++ closing) = true := by
    intro opening names closing hnames hopening hclosing
    rw [wellNested, decide_eq_true_iff, String.toList_append, String.toList_append,
      depthAfter_append, depthAfter_append, hopening, Option.bind_some,
      depthAfter_of_braceless hnames, Option.bind_some, hclosing]
  unfold Plan.literal
  split
  · next slot hslots =>
    split
    · decide
    · exact hwrap _ _ _ (h.slots slot (hslots ▸ List.mem_singleton_self slot)).1 rfl rfl
  · exact hwrap _ _ _ h.slotNames rfl rfl

end Braceless

attribute [simp] Braceless.name Braceless.slotNames Braceless.parameters Braceless.storageType
  Braceless.constructorOutput Braceless.literal

/-! ### The text of a member -/

section Members

variable {p : Plan}

-- Each line is decided on its own, on the characters of its literals; what is filled in has no
-- braces.
@[simp] theorem nestedAll_inlined (head : String) (body : List Layout) :
    NestedAll (inlined head body) ↔ braceless head = true ∧ NestedAll body := by
  simp +decide [inlined]

@[simp] theorem braceless_formatHead : braceless formatHead = true := by
  rw [formatHead]
  decide

theorem nestedAll_compareTo (total : Bool) : NestedAll (compareToLayout total) := by
  cases total <;> simp +decide [compareToLayout]

theorem nestedAll_tryFormat : NestedAll tryFormatLayout := by
  simp +decide [tryFormatLayout]

variable (h : p.Braceless)

include h

theorem nestedAll_accessor (i : Nat) : NestedAll (p.accessorLayout i) := by
  cases hs : p.storage.slots[i]? with
  | none => simp [accessorLayout, hs]
  | some slot =>
    obtain ⟨haccessor, htype⟩ := h.slots slot (List.mem_of_getElem? hs)
    cases hcopy : slot.copy <;> simp +decide [accessorLayout, hs, hcopy, haccessor, htype]

@[simp] theorem nestedAll_guardedBody (hook : Option Hook) :
    NestedAll (p.guardedBody hook) := by
  have hbuilt : wellNested ("let this = " ++ p.literal ++ ";") = true :=
    wellNested_append (wellNested_append (by decide) h.literal) (by decide)
  cases hook with
  | none => simp [guardedBody, h]
  | some hook => cases he : hook.error.isSome <;> simp +decide [guardedBody, he, hbuilt]

theorem nestedAll_constructor (check : Check) : NestedAll (p.constructorLayout check) := by
  obtain ⟨hook, rfl⟩ := check.exists_of
  rw [constructorLayout_of]
  cases hook.isSome <;> simp +decide [h]

/-- The text of a member of the type itself is well nested; an accessor of a slot that is not
there has no text. -/
theorem nested_inherentMember (m : Member) : NestedAll (p.inherentMember m) := by
  cases m with
  | constructor check => exact nestedAll_constructor h check
  | accessor i => exact nestedAll_accessor h i
  | compareTo total => exact nestedAll_compareTo total
  | tryFormat => exact nestedAll_tryFormat
  | intoInner | generate => simp +decide [inherentMember, generateBody, h]
  | _ => trivial

end Members

/-! ### The text of a trait -/

/-- A trait and the type that gets it. -/
structure Implementation where
  trait : String
  type : String

/-- The head of the block that gives the trait to the type. -/
def Implementation.head (i : Implementation) : String := "impl " ++ i.trait ++ " for " ++ i.type

/-- What a member implements; members of the type itself implement nothing. -/
def implementation? (p : Plan) : Member → Option Implementation
  | .copyConstructor _ => some ⟨"::core::convert::From<&" ++ p.typeName ++ ">", p.typeName⟩
  | .equality => some ⟨"::core::cmp::PartialEq", p.typeName⟩
  | .totalEquality => some ⟨"::core::cmp::Eq", p.typeName⟩
  | .hash => some ⟨"::core::hash::Hash", p.typeName⟩
  | .storageEquality => some ⟨"::core::cmp::PartialEq<" ++ p.storage.type ++ ">", p.typeName⟩
  | .byRefEquality => some ⟨"::core::cmp::PartialEq<&" ++ p.typeName ++ ">", p.typeName⟩
  | .relationalOperators _ => some ⟨"::core::cmp::PartialOrd", p.typeName⟩
  | .totalOrder => some ⟨"::core::cmp::Ord", p.typeName⟩
  | .arithmetic op _ => some ⟨"::core::ops::" ++ op.traitName, p.typeName⟩
  | .fromStorage => some ⟨(if p.check.error?.isSome then "::core::convert::TryFrom<"
      else "::core::convert::From<") ++ p.storage.type ++ ">", p.typeName⟩
  | .intoStorage => some ⟨"::core::convert::From<" ++ p.typeName ++ ">", p.storage.type⟩
  | .display => some ⟨"::core::fmt::Display", p.typeName⟩
  | .debug => some ⟨"::core::fmt::Debug", p.typeName⟩
  | .numericFormat format => some ⟨"::core::fmt::" ++ format.traitName, p.typeName⟩
  | .constructor _ | .accessor _ | .compareTo _ | .intoInner | .tryFormat | .generate => none

theorem implementation?_isSome (p : Plan) (m : Member) :
    (p.implementation? m).isSome = !isInherent m := by
  cases m <;> rfl

/-- What is written for a trait: one block, or one line if the block is empty. -/
theorem exists_block (p : Plan) {m : Member} {i : Implementation}
    (hi : p.implementation? m = some i) :
    (p.traitImpl m = [.line (i.head ++ " \x7b\x7d")] ∧ i = ⟨"::core::cmp::Eq", p.typeName⟩) ∨
      ∃ head body, p.traitImpl m = [.block head body] ∧ head = i.head := by
  cases m with
  | constructor | accessor | compareTo | intoInner | tryFormat | generate => cases hi
  | totalEquality =>
    cases hi
    exact .inl ⟨rfl, rfl⟩
  | fromStorage =>
    cases hi
    unfold traitImpl fromStorageLayout
    cases p.check.error? <;>
      exact .inr ⟨_, _, rfl, String.toList_inj.mp (by simp [Implementation.head])⟩
  | _ =>
    cases hi
    exact .inr ⟨_, _, rfl, String.toList_inj.mp (by simp [Implementation.head])⟩

section Traits

variable {p : Plan}

@[simp] theorem nestedAll_displayBody : NestedAll p.displayBody := by
  have hlines : NestedAll p.displayLines := by
    refine nestedAll_of_forall fun l hl => ?_
    rcases of_mem_displayLines hl with rfl | ⟨i, rfl⟩ <;> simp +decide [displayLine]
  unfold displayBody
  split <;> simp +decide [hlines]

variable (h : p.Braceless)

include h

@[simp] theorem nestedAll_debugBody : NestedAll p.debugBody := by
  have hlines : NestedAll (p.storage.slots.mapIdx p.debugLine) := by
    refine nestedAll_of_forall fun l hl => ?_
    obtain ⟨i, hi, rfl⟩ := List.mem_mapIdx.mp hl
    simp +decide [debugLine, (h.slots _ (List.getElem_mem hi)).1]
  unfold debugBody
  split <;> simp +decide [hlines, h]

@[simp] theorem nestedAll_unpackedBody : NestedAll p.unpackedBody := by
  unfold unpackedBody
  split <;> simp +decide [h]

theorem nested_relational (total : Bool) : Nested (p.relationalLayout total) := by
  cases total <;> simp +decide [relationalLayout, relations, h]

theorem nested_arithmetic (op : BinaryOp) (output : ArithmeticOutput) :
    Nested (p.arithmeticLayout op output) := by
  cases output <;> simp +decide [arithmeticLayout, operatorBody, braceless_binaryOp op, h]

theorem nested_fromStorage : Nested p.fromStorageLayout := by
  unfold fromStorageLayout
  cases he : p.check.error? with
  | some e => simp +decide [h.error e he, h]
  | none => simp +decide [h]

/-- The text of a trait is well nested. -/
theorem nestedAll_traitImpl (m : Member) : NestedAll (p.traitImpl m) := by
  cases m with
  | copyConstructor bitwise => cases bitwise <;> simp +decide [traitImpl, h]
  | totalEquality =>
    -- the only line with a name in it that has braces too
    have hline := wellNested_append (wellNested_append
      (by decide : wellNested "impl ::core::cmp::Eq for " = true)
      (wellNested_of_braceless h.name)) (by decide : wellNested " \x7b\x7d" = true)
    simp [traitImpl, hline]
  | relationalOperators total => simp [traitImpl, nested_relational h]
  | arithmetic op output => simp [traitImpl, nested_arithmetic h]
  | fromStorage => simp [traitImpl, nested_fromStorage h]
  | display | debug => simp +decide [traitImpl, displayLayout, debugLayout, h]
  | equality | hash | storageEquality | byRefEquality | totalOrder | intoStorage
  | numericFormat => simp +decide [traitImpl, h]
  | constructor | accessor | compareTo | intoInner | tryFormat | generate => trivial

end Traits

/-! ### Whole texts -/

/-- A text is well nested, has a shape at depth zero, and ends behind a brace that is closed. -/
structure Shaped (text shape : String) : Prop where
  nested : wellNested text = true
  outline : outline 0 text.toList = shape.toList
  last : ∃ front, text = front ++ "\x7d\n"

namespace Shaped

theorem append {a b a' b' : String} (ha : Shaped a a') (hb : Shaped b b') :
    Shaped (a ++ b) (a' ++ b') where
  nested := wellNested_append ha.nested hb.nested
  outline := by
    rw [String.toList_append, outline_append _ (wellNested_iff.mp ha.nested 0), ha.outline,
      hb.outline, String.toList_append]
  last := by
    obtain ⟨front, rfl⟩ := hb.last
    exact ⟨a ++ front, String.append_assoc.symm⟩

/-- A text without braces is there at depth zero. -/
theorem behind {a b b' : String} (ha : braceless a = true) (hb : Shaped b b') :
    Shaped (a ++ b) (a ++ b') where
  nested := wellNested_append (wellNested_of_braceless ha) hb.nested
  outline := by
    rw [String.toList_append, outline_append _ (depthAfter_of_braceless ha 0),
      outline_of_braceless ha, hb.outline, String.toList_append]
  last := by
    obtain ⟨front, rfl⟩ := hb.last
    exact ⟨a ++ front, String.append_assoc.symm⟩

theorem block {head : String} {body : List Layout} (hblock : Layout.Nested (.block head body)) :
    Shaped (render 0 (.block head body)) (head ++ " \x7b\x7d\n") where
  nested := wellNested_render _ 0 hblock
  outline := outline_block hblock.1 hblock.2
  last := ⟨renderLine 0 (head ++ " \x7b") ++ renderAll 1 body, by rw [render]; rfl⟩

end Shaped

/-- What stands at depth zero for a trait. -/
def Implementation.shape (i : Implementation) : String :=
  "\n#[automatically_derived]\n" ++ (i.head ++ " \x7b\x7d\n")

/-- What is written for a trait, with the lines in front of it. -/
def derivation (p : Plan) (m : Member) : List Layout :=
  .blank :: .line "#[automatically_derived]" :: p.traitImpl m

theorem renderAll_derivation (p : Plan) (m : Member) :
    renderAll 0 (p.derivation m) = "\n#[automatically_derived]\n" ++ renderAll 0 (p.traitImpl m) := by
  have hlines : render 0 .blank ++ render 0 (.line "#[automatically_derived]") =
      "\n#[automatically_derived]\n" := rfl
  rw [derivation, renderAll, renderAll, ← String.append_assoc, hlines]

section Texts

variable {p : Plan} (h : p.Braceless)

include h

/-- One trait. -/
theorem shaped_derivation {m : Member} {i : Implementation}
    (hi : p.implementation? m = some i) : Shaped (renderAll 0 (p.derivation m)) i.shape := by
  have hnested := nestedAll_traitImpl h m
  rw [renderAll_derivation]
  refine .behind (by decide) ?_
  rcases exists_block p hi with ⟨himpl, rfl⟩ | ⟨head, body, himpl, rfl⟩
  · have hhead : braceless ("impl ::core::cmp::Eq for " ++ p.typeName) = true := by
      simp +decide [h]
    have hline : renderAll 0 (p.traitImpl m) =
        "impl ::core::cmp::Eq for " ++ p.typeName ++ " \x7b\x7d\n" := by
      rw [himpl, renderAll, renderAll, String.append_empty, render]
      exact (renderLine_ending 0 _ (by decide)).trans (String.empty_append ..)
    rw [hline]
    exact .behind hhead ⟨rfl, rfl, " \x7b", rfl⟩
  · rw [himpl] at hnested
    rw [himpl, renderAll, renderAll, String.append_empty]
    exact .block hnested.1

/-- All traits, behind what stands in front of them. -/
theorem shaped_derivations (ms : List Member) : ∀ {start shape : String}, Shaped start shape →
    Shaped (start ++ renderAll 0 ((ms.filter (!isInherent ·)).flatMap p.derivation))
      (shape ++ String.join ((ms.filterMap p.implementation?).map (·.shape))) := by
  induction ms with
  | nil =>
    intro start shape hstart
    rw [List.filter_nil, List.flatMap_nil, renderAll, List.filterMap_nil, List.map_nil,
      String.join_nil, String.append_empty, String.append_empty]
    exact hstart
  | cons m ms ih =>
    intro start shape hstart
    have hsome := implementation?_isSome p m
    -- what implements nothing stands in the block of the type itself and is left out here
    cases hi : p.implementation? m with
    | none =>
      rw [hi] at hsome
      rw [List.filter_cons_of_neg (by rw [← hsome]; decide), List.filterMap_cons_none hi]
      exact ih hstart
    | some i =>
      rw [hi] at hsome
      rw [List.filter_cons_of_pos (by rw [← hsome]; rfl), List.filterMap_cons_some hi,
        List.flatMap_cons, renderAll_append, ← String.append_assoc, List.map_cons, String.join_cons,
        ← String.append_assoc]
      exact ih (hstart.append (shaped_derivation h hi))

end Texts

/-- The text of a plan is well nested.

* `prefixes`, `closed` — no brace is closed before it is opened, and each is closed.
* `shape`, `traits` — at depth zero there are the block of the type itself and one for each member
  outside of it, in their order.
* `last` — one line feed ends the text.
* `interleaving` — members of the type itself and traits may be mixed in any way. -/
structure WellNested (p : Plan) : Prop where
  prefixes : ∀ front, front <+: p.text.toList → front.count '\x7d' ≤ front.count '\x7b'
  closed : p.text.toList.count '\x7d' = p.text.toList.count '\x7b'
  shape : String.ofList (outline 0 p.text.toList) = "impl " ++ p.typeName ++ " \x7b\x7d\n" ++
    String.join ((p.members.filterMap p.implementation?).map (·.shape))
  traits : ∀ m, (p.implementation? m).isSome = !isInherent m
  last : ∃ front, p.text = front ++ "\n" ∧ ¬['\n'] <:+ front.toList
  interleaving : ∀ ms : List Member, ms.filter isInherent = p.members.filter isInherent →
    ms.filter (!isInherent ·) = p.members.filter (!isInherent ·) →
      { p with members := ms }.text = p.text

theorem shaped_text {p : Plan} (h : p.Braceless) :
    Shaped p.text ("impl " ++ p.typeName ++ " \x7b\x7d\n" ++
      String.join ((p.members.filterMap p.implementation?).map (·.shape))) := by
  have hown : NestedAll (spaced ((p.members.filter isInherent).map p.inherentMember)) := by
    refine nestedAll_spaced fun b hb => ?_
    obtain ⟨m, -, rfl⟩ := List.mem_map.mp hb
    exact nested_inherentMember h m
  have hblock : Nested (.block ("impl " ++ p.typeName)
      (spaced ((p.members.filter isInherent).map p.inherentMember))) := by
    simp +decide [hown, h]
  exact shaped_derivations h p.members (.block hblock)

theorem text_eq_of_filter {p : Plan} {ms : List Member}
    (hown : ms.filter isInherent = p.members.filter isInherent)
    (htraits : ms.filter (!isInherent ·) = p.members.filter (!isInherent ·)) :
    { p with members := ms }.text = p.text := by
  -- the text of a member does not depend on the others
  have hinherent : { p with members := ms }.inherentMember = p.inherentMember := by
    funext m
    cases m <;> rfl
  have himpl : { p with members := ms }.traitImpl = p.traitImpl := by
    funext m
    cases m <;> rfl
  rw [text, text, layout, layout, hown, htraits, hinherent, himpl]

end Plan

/-- **The text of every plan is well nested**: of any members in any order, if nothing that is
filled in has a brace. -/
theorem text_wellNested (p : Plan) (h : p.Braceless) : p.WellNested := by
  have hshaped := Plan.shaped_text h
  have hdepth := wellNested_iff.mp hshaped.nested 0
  refine ⟨fun front hfront => count_le_of_prefix hdepth hfront, ?_, ?_,
    p.implementation?_isSome, ?_, fun ms => Plan.text_eq_of_filter⟩
  · have hcount := count_of_depthAfter hdepth
    omega
  · rw [hshaped.outline, String.ofList_toList]
  · obtain ⟨front, hfront⟩ := hshaped.last
    have hends : "\x7d\n" = "\x7d" ++ "\n" := rfl
    refine ⟨front ++ "\x7d", by rw [hfront, hends, String.append_assoc], ?_⟩
    rintro ⟨rest, hrest⟩
    have hlast := congrArg List.getLast? hrest
    simp at hlast

/-- Members in no order, some of them twice, with an accessor of a slot that is not there. -/
def scrambledPlan : Plan where
  typeName := "Pair"
  storage := ⟨[⟨"left", "u8", true⟩, ⟨"right", "String", false⟩], TraitSet.value⟩
  check := .fallible "PairError"
  category := .other
  members := [.totalEquality, .accessor 7, .display, .accessor 0, .totalEquality, .accessor 0,
    .tryFormat, .fromStorage, .constructor .panicking, .copyConstructor false, .debug]

theorem scrambledPlan_wellNested : scrambledPlan.Braceless ∧ scrambledPlan.WellNested := by
  have h : scrambledPlan.Braceless :=
    ⟨by decide, by decide, fun e he => by cases he; decide⟩
  exact ⟨h, text_wellNested scrambledPlan h⟩

end Newtype
