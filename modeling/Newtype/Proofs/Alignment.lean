import Newtype.Proofs.Construction
import Newtype.Proofs.Operators

/-!
# Positions in a text

A wrapper of several values keeps them in a tuple, and its text names each of them in several
ways: by the parameter of the constructor, by its place in the tuple, by a variable when the
tuple is taken apart.  Values of one type could be swapped on any of these ways without a
complaint of the compiler, so the positions have to agree.

* `commaParts`, `commaParts_intercalate` — lists are read as they were written.
* `places`, `valueOf`, `map_valueOf` — expressions for values, and which value each stands for.
* `Plan.exists_text_eq` — **the functions of a text stand in it.**
* `Plan.calls_bodies` — **only members that make wrappers call the constructor.**
* `Plan.Aligned` — each value keeps its position.
* `positions_aligned` — **the positions of all values agree.**
-/

namespace Newtype

open Layout

/-! ### Lists in a text -/

/-- The characters between the separators `, ` of a list, part by part. -/
def partsOf : List Char → List (List Char)
  | [] => [[]]
  | ',' :: ' ' :: cs => [] :: partsOf cs
  | c :: cs => (partsOf cs).modifyHead (c :: ·)

/-- The parts of a text between commas. -/
def commaParts (s : String) : List String := (partsOf s.toList).map String.ofList

/-- A part without commas goes on until a comma. -/
theorem partsOf_append {a : List Char} (ha : ',' ∉ a) (b : List Char) :
    partsOf (a ++ b) = (partsOf b).modifyHead (a ++ ·) := by
  induction a with
  | nil =>
    rw [List.nil_append]
    cases partsOf b <;> rfl
  | cons c a ih =>
    have hc : c ≠ ',' := fun h => ha (h ▸ List.mem_cons_self)
    rw [List.cons_append, partsOf, ih fun h => ha (List.mem_cons_of_mem c h), List.modifyHead_modifyHead]
    · rfl
    · exact fun _ h _ => hc h

theorem commaParts_of_notMem {s : String} (h : ',' ∉ s.toList) : commaParts s = [s] := by
  have hparts := partsOf_append h []
  rw [List.append_nil] at hparts
  rw [commaParts, hparts]
  show [String.ofList (s.toList ++ [])] = [s]
  rw [List.append_nil, String.ofList_toList]

/-- **Parts are read as they were joined.** -/
theorem commaParts_intercalate : ∀ {ss : List String}, ss ≠ [] → (∀ s ∈ ss, ',' ∉ s.toList) →
    commaParts (", ".intercalate ss) = ss
  | [s], _, h => by
    rw [String.intercalate_singleton]
    exact commaParts_of_notMem (h s List.mem_cons_self)
  | s :: s' :: ss, _, h => by
    have hrest := commaParts_intercalate (List.cons_ne_nil s' ss)
      fun r hr => h r (List.mem_cons_of_mem s hr)
    rw [commaParts] at hrest
    rw [String.intercalate_cons_cons, String.append_assoc, commaParts, String.toList_append,
      partsOf_append (h s List.mem_cons_self), String.toList_append]
    have hcomma : partsOf (", ".toList ++ (", ".intercalate (s' :: ss)).toList) =
        [] :: partsOf (", ".intercalate (s' :: ss)).toList := rfl
    rw [hcomma, List.modifyHead_cons, List.map_cons, hrest, List.append_nil, String.ofList_toList]

/-! ### Values and where they lie -/

/-- The value of an expression, where some expressions stand for values. -/
def valueOf {α : Type} (exprs : List String) (vs : List α) (e : String) : Option α :=
  (exprs.zip vs).lookup e

/-- Expressions that differ stand for the values at their positions. -/
theorem map_valueOf {α : Type} : ∀ {exprs : List String} {vs : List α}, exprs.Nodup →
    vs.length = exprs.length → exprs.map (valueOf exprs vs) = vs.map some
  | [], [], _, _ => rfl
  | e :: exprs, v :: vs, hnodup, hlength => by
    obtain ⟨hnew, hrest⟩ := List.nodup_cons.mp hnodup
    have hfirst : valueOf (e :: exprs) (v :: vs) e = some v := by
      rw [valueOf, List.zip_cons_cons, List.lookup_cons_self]
    -- no other expression is the first one
    have hothers : exprs.map (valueOf (e :: exprs) (v :: vs)) = exprs.map (valueOf exprs vs) := by
      refine List.map_congr_left fun x hx => ?_
      have hne : (x == e) = false := by
        rw [beq_eq_false_iff_ne]
        exact fun h => hnew (h ▸ hx)
      rw [valueOf, List.zip_cons_cons, List.lookup_cons, hne]
      rfl
    rw [List.map_cons, List.map_cons, hfirst, hothers,
      map_valueOf hrest (Nat.succ.inj hlength)]

/-- The expression for a value that a wrapper of so many values holds. -/
def place (receiver : String) (count i : Nat) : String :=
  if count = 1 then receiver ++ ".value" else receiver ++ ".value." ++ toString i

/-- The expressions for all of them. -/
def places (receiver : String) (count : Nat) : List String :=
  (List.range count).map (place receiver count)

theorem nodup_places (receiver : String) (count : Nat) : (places receiver count).Nodup := by
  by_cases hone : count = 1
  · subst hone
    exact List.nodup_singleton _
  · refine List.nodup_range.map_on ?_
    intro i _ j _ h
    rw [place, place, if_neg hone, if_neg hone, String.append_right_inj] at h
    -- the digits of a number can be read again
    have hdigits := congrArg (fun s : String => Nat.ofDigitChars 10 s.toList 0) h
    simpa [Nat.toString_eq_repr, Nat.ofDigitChars_toDigits] using hdigits

/-! ### Where functions stand -/

namespace Layout

/-- A piece of a text stands in it as it is written. -/
theorem exists_renderAll_eq (depth : Nat) {l : Layout} {ls : List Layout} (h : l ∈ ls) :
    ∃ front back, renderAll depth ls = front ++ render depth l ++ back := by
  obtain ⟨before, behind, rfl⟩ := List.append_of_mem h
  refine ⟨renderAll depth before, renderAll depth behind, ?_⟩
  rw [Plan.renderAll_append, renderAll, String.append_assoc]

theorem of_mem_functions {l : Layout} {f : FunctionText} (h : f ∈ l.functions) :
    ∃ body, l = .block f.owner body ∧ .block f.head f.body ∈ body := by
  cases l with
  | block owner body =>
    obtain ⟨l', hl', hfunction⟩ := List.mem_filterMap.mp h
    cases l' with
    | block head inner =>
      cases hfunction
      exact ⟨body, rfl, hl'⟩
    | line | blank | indented => cases hfunction
  | line | blank | indented => exact absurd h List.not_mem_nil

/-- What stands in a block. -/
def inside : Layout → List Layout
  | .block _ body => body
  | _ => []

end Layout

/-- What an accessor puts in front of its value and its type if it does not give a copy. -/
def Slot.mark (s : Slot) : String := if s.copy then "" else "&"

namespace Plan

/-- **The functions of a text stand in it.** -/
theorem exists_text_eq {p : Plan} {f : FunctionText} (h : f ∈ p.functions) :
    ∃ front back, p.text = front ++ render 1 (.block f.head f.body) ++ back := by
  obtain ⟨l, hl, hf⟩ := List.mem_flatMap.mp h
  obtain ⟨body, rfl, hmem⟩ := of_mem_functions hf
  obtain ⟨front, back, houter⟩ := exists_renderAll_eq 0 hl
  obtain ⟨front', back', hinner⟩ := exists_renderAll_eq 1 hmem
  refine ⟨front ++ renderLine 0 (f.owner ++ " \x7b") ++ front',
    back' ++ renderLine 0 "\x7d" ++ back, ?_⟩
  rw [text, Layout.text, houter, render, hinner]
  simp only [String.append_assoc]

/-! ### Calls of the constructor -/

/-- A line that calls the constructor. -/
def isCall : Layout → Bool
  | .line s => Phrase.maker.word.isPrefixOf s.toList
  | _ => false

/-- The number of lines that call the constructor. -/
def calls (ls : List Layout) : Nat := ls.countP isCall

/-- A text differs from a call from the start. -/
def Differs (s : String) : Prop :=
  ¬Phrase.maker.word <+: s.toList ∧ ¬s.toList <+: Phrase.maker.word

instance {s : String} {l : List Char} [h : Spelled s (String.ofList l)] :
    Decidable (Differs s) :=
  decidable_of_iff (¬Phrase.maker.word <+: l ∧ ¬l <+: Phrase.maker.word)
    (by rw [Differs, h.toList_eq])

/-- What is filled in behind a text that differs from a call does not matter. -/
@[simp] theorem Differs.append {a : String} (h : Differs a) (b : String) : Differs (a ++ b) := by
  rw [Differs, String.toList_append]
  constructor
  · intro hcall
    rcases List.prefix_or_prefix_of_prefix hcall (List.prefix_append a.toList b.toList) with
      hin | hout
    · exact h.1 hin
    · exact h.2 hout
  · exact fun hcall => h.2 ((List.prefix_append a.toList b.toList).trans hcall)

@[simp] theorem Differs.fill {a : String} (h : Differs a) (b c : String) :
    Differs (a ++ b ++ c) := (h.append b).append c

theorem isCall_line {s : String} (h : Differs s) : isCall (.line s) = false := by
  rw [isCall, Bool.eq_false_iff, Ne, List.isPrefixOf_iff_prefix]
  exact h.1

@[simp] theorem calls_append (ls ms : List Layout) : calls (ls ++ ms) = calls ls + calls ms :=
  List.countP_append

@[simp] theorem calls_cons_line {s : String} (h : Differs s) (ls : List Layout) :
    calls (.line s :: ls) = calls ls :=
  List.countP_cons_of_neg (by rw [isCall_line h]; exact Bool.false_ne_true)

@[simp] theorem calls_cons_block (head : String) (body ls : List Layout) :
    calls (.block head body :: ls) = calls ls := rfl

@[simp] theorem calls_cons_blank (ls : List Layout) : calls (.blank :: ls) = calls ls := rfl

@[simp] theorem calls_cons_indented (body ls : List Layout) :
    calls (.indented body :: ls) = calls ls := rfl

@[simp] theorem calls_nil : calls [] = 0 := rfl

theorem isCall_call (inside : String) : isCall (.line ("Self::new(" ++ inside ++ ")")) = true := by
  rw [isCall, String.append_assoc, String.toList_append]
  rfl

theorem calls_call (inside : String) : calls [.line ("Self::new(" ++ inside ++ ")")] = 1 :=
  List.countP_cons_of_pos (isCall_call inside)

theorem operatorBody_eq (op : BinaryOp) : operatorBody op =
    [.line ("Self::new(" ++ ("self.value " ++ op.symbol ++ " rhs.value") ++ ")")] := by
  cases op <;> rfl

theorem generateBody_eq (p : Plan) : p.generateBody =
    [.line ("Self::new(" ++ ("<" ++ p.storage.type ++ ">::new_v4()") ++ ")")] := by
  have hopening : "Self::new(<" = "Self::new(" ++ "<" := rfl
  have hclosing : ">::new_v4())" = ">::new_v4()" ++ ")" := rfl
  simp only [generateBody, hopening, hclosing, String.append_assoc]

section Bodies

variable (p : Plan)

/-- The bodies of the functions of a member. -/
def bodies (m : Member) : List Layout := (p.functionsFor m).flatMap (·.body)

theorem flatMap_body_within (owner : String) (block ls : List Layout) :
    (ls.filterMap (FunctionText.within owner block)).flatMap (·.body) = ls.flatMap inside := by
  induction ls with
  | nil => rfl
  | cons l ls ih => cases l <;> simp [List.filterMap_cons, FunctionText.within, inside, ih]

theorem flatMap_body_functions (l : Layout) :
    l.functions.flatMap (·.body) = l.inside.flatMap inside := by
  cases l with
  | block owner body => exact flatMap_body_within owner body body
  | line | blank | indented => rfl

/-- The functions of the type itself stand in its block, and those of a trait in one of their
own. -/
theorem bodies_eq (m : Member) : p.bodies m = (p.inherentMember m).flatMap inside ++
    ((p.traitImpl m).flatMap inside).flatMap inside := by
  rw [bodies, functionsFor, List.flatMap_append, flatMap_body_within, List.flatMap_assoc,
    List.flatMap_assoc]
  simp only [flatMap_body_functions]

@[simp] theorem flatMap_inside_inlined (head : String) (body : List Layout) :
    (inlined head body).flatMap inside = body := by
  simp [inlined, inside]

theorem calls_literal : calls [.line p.literal] = 0 := by
  unfold literal
  split
  · split <;> simp +decide
  · simp +decide

@[simp] theorem calls_guardedBody (hook : Option Hook) : calls (p.guardedBody hook) = 0 := by
  cases hook with
  | none => exact p.calls_literal
  | some hook => cases he : hook.error.isSome <;> simp +decide [guardedBody, he]

theorem isCall_let (names : String) :
    isCall (.line ("let (" ++ names ++ ") = value;")) = false :=
  isCall_line (by simp +decide)

@[simp] theorem calls_unpackedBody : calls p.unpackedBody = 1 := by
  unfold unpackedBody
  split
  · exact (List.countP_cons_of_neg (Bool.eq_false_iff.mp (isCall_let _))).trans (calls_call _)
  · exact calls_call "value"

@[simp] theorem calls_operatorBody (op : BinaryOp) : calls (operatorBody op) = 1 := by
  rw [operatorBody_eq]
  exact calls_call _

@[simp] theorem calls_generateBody : calls p.generateBody = 1 := by
  rw [generateBody_eq]
  exact calls_call _

@[simp] theorem differs_slotExpr_self (s : Storage) (i : Nat) : Differs (s.slotExpr "self" i) := by
  unfold Storage.slotExpr
  split <;> simp +decide

theorem functionsFor_accessor {p : Plan} {i : Nat} {slot : Slot}
    (h : p.storage.slots[i]? = some slot) :
    ∃ f, p.functionsFor (.accessor i) = [f] ∧
      f.head = "pub fn " ++ slot.accessor ++ "(&self) -> " ++ slot.mark ++ slot.type ∧
        f.body = [.line (slot.mark ++ p.storage.slotExpr "self" i)] := by
  have hfunctions : p.functionsFor (.accessor i) = (p.accessorLayout i).filterMap
      (FunctionText.within ("impl " ++ p.typeName) p.inherentBody) := List.append_nil _
  rw [hfunctions, accessorLayout_eq h, Slot.mark]
  cases slot.copy with
  | true => exact ⟨_, rfl, by simp, by simp⟩
  | false =>
    have hmark : "(&self) -> &" = "(&self) -> " ++ "&" := rfl
    exact ⟨_, rfl, by simp only [hmark, String.append_assoc]; rfl, rfl⟩

theorem functionsFor_display : ∃ f, p.functionsFor .display = [f] ∧ f.head = formatHead ∧
    f.body = p.displayBody := ⟨_, rfl, rfl, rfl⟩

theorem functionsFor_debug : ∃ f, p.functionsFor .debug = [f] ∧ f.head = formatHead ∧
    f.body = p.debugBody := ⟨_, rfl, rfl, rfl⟩

@[simp] theorem calls_displayBody : calls p.displayBody = 0 := by
  have hlines : calls p.displayLines = 0 := by
    refine List.countP_eq_zero.mpr fun l hl => Bool.eq_false_iff.mp ?_
    rcases of_mem_displayLines hl with rfl | ⟨i, rfl⟩ <;> exact isCall_line (by simp +decide)
  unfold displayBody
  split <;> simp +decide [hlines]

@[simp] theorem calls_debugBody : calls p.debugBody = 0 := by
  unfold debugBody
  split <;> simp +decide

/-- **Only members that make wrappers call the constructor**, each once. -/
theorem calls_bodies (m : Member) : calls (p.bodies m) = m.phrases.count .maker := by
  rw [bodies_eq]
  cases m with
  | constructor check =>
    obtain ⟨hook, rfl⟩ := check.exists_of
    rw [phrases_constructor, inherentMember, constructorLayout_of, traitImpl]
    cases hook.isSome <;> simp [inside]
  | accessor i =>
    cases hs : p.storage.slots[i]? with
    | none => simp [inherentMember, accessorLayout, traitImpl, Member.phrases, hs]
    | some slot =>
      cases hcopy : slot.copy <;>
        simp +decide [inherentMember, accessorLayout, traitImpl, Member.phrases, inside, hs, hcopy]
  | fromStorage =>
    cases he : p.check.error? <;>
      simp [inherentMember, traitImpl, fromStorageLayout, Member.phrases, inside, he]
  | arithmetic op output =>
    cases output <;>
      simp +decide [inherentMember, traitImpl, arithmeticLayout, Member.phrases, inside]
  | display | debug | generate =>
    simp [inherentMember, traitImpl, displayLayout, debugLayout, Member.phrases, inside]
  -- the other members have fixed lines
  | copyConstructor flag | compareTo flag | relationalOperators flag =>
    cases flag <;> simp +decide [inherentMember, traitImpl, compareToLayout, relationalLayout,
      relations, Member.phrases, inside]
  | equality | totalEquality | hash | storageEquality | byRefEquality | totalOrder | intoInner
  | intoStorage | numericFormat | tryFormat =>
    simp +decide [inherentMember, traitImpl, tryFormatLayout, Member.phrases, inside]

end Bodies

/-- A line of a function that calls the constructor belongs to a member that makes wrappers. -/
theorem of_isCall {p : Plan} {f : FunctionText} (hf : f ∈ p.functions) {l : Layout}
    (hl : l ∈ f.body) (hcall : isCall l = true) :
    ∃ m ∈ p.members, f ∈ p.functionsFor m ∧
      (m = .fromStorage ∨ m = .generate ∨ ∃ op, m = .arithmetic op .wrapper) := by
  obtain ⟨m, hm, hfm⟩ := List.mem_flatMap.mp (p.functions_perm.mem_iff.mp hf)
  have hmem : l ∈ p.bodies m := List.mem_flatMap.mpr ⟨f, hfm, hl⟩
  have hpos : 0 < calls (p.bodies m) := List.countP_pos_iff.mpr ⟨l, hmem, hcall⟩
  rw [calls_bodies] at hpos
  exact ⟨m, hm, hfm, Member.of_maker_mem (List.count_pos_iff.mp hpos)⟩

/-- **The calls of a text are lines of its functions.** -/
theorem count_maker_text {p : Plan} (h : p.PlainParts) :
    Phrase.maker.count p.text = calls (p.functions.flatMap (·.body)) := by
  have hbodies := (p.functions_perm.flatMap_right (·.body)).countP_eq isCall
  rw [List.flatMap_assoc] at hbodies
  rw [count_text_eq h, calls, hbodies, List.countP_flatMap, List.count_flatMap]
  exact congrArg List.sum (List.map_congr_left fun m _ => (p.calls_bodies m).symm)

end Plan

/-! ### Literals -/

/-- The components of a struct literal: those of a tuple, or one value.  A value with the name
of the field is written once. -/
inductive IsLiteral : String → List String → Prop where
  | short : IsLiteral "Self \x7b value \x7d" ["value"]
  | single {a : String} (h : '(' ∉ a.toList) : IsLiteral ("Self \x7b value: " ++ a ++ " \x7d") [a]
  | tuple (inside : String) :
    IsLiteral ("Self \x7b value: (" ++ inside ++ ") \x7d") (commaParts inside)

/-! ### Aligned positions -/

namespace Plan

/-- In the text of a plan the value of each field keeps its position. -/
structure Aligned (p : Plan) (fields : List Field) : Prop where
  /-- The functions named below stand in the text. -/
  written : ∀ f ∈ p.functions, ∃ front back,
    p.text = front ++ render 1 (.block f.head f.body) ++ back
  /-- A name stands for the value of its own field only, and so does a place in a wrapper. -/
  names : (fields.map (·.accessor)).Nodup
  bound : ∀ {α : Type} (vs : List α), vs.length = fields.length →
    (fields.map (·.accessor)).map (valueOf (fields.map (·.accessor)) vs) = vs.map some ∧
      ∀ receiver, (places receiver fields.length).map
        (valueOf (places receiver fields.length) vs) = vs.map some
  /-- One type as it is, several as a tuple. -/
  type : fields.map (·.type.text) = [p.storage.type] ∨ fields.length ≠ 1 ∧
    p.storage.type = "(" ++ ", ".intercalate (fields.map (·.type.text)) ++ ")"
  /-- The constructor builds the wrapper from its parameters in their order, and so the hook
  gets its arguments. -/
  new : ∃ f ∈ p.functions, p.functionsFor (.constructor p.check) = [f] ∧
    f.head = "pub fn new(" ++ ", ".intercalate
      (fields.map fun f => f.accessor ++ ": " ++ f.type.text) ++ ") -> " ++ p.constructorOutput ∧
    ∃ literal, IsLiteral literal (fields.map (·.accessor)) ∧
      (p.check = .none ∧ f.body = [.line literal] ∨
        ∃ inside ending last, f.body = [.line ("let this = " ++ literal ++ ";"),
            .line ("Self::validate(" ++ inside ++ ending), .line last] ∧
          (ending = ");" ∨ ending = ")?;") ∧
          commaParts inside = (places "this" fields.length).map ("&" ++ ·))
  /-- Each field has a function that reads its place. -/
  accessors : ∀ i (hi : i < fields.length), ∃ f ∈ p.functions,
    p.functionsFor (.accessor i) = [f] ∧
      ∃ mark, mark = (if fields[i].kind.traits.copy then "" else "&") ∧
        f.head = "pub fn " ++ fields[i].accessor ++ "(&self) -> " ++ mark ++
          fields[i].type.text ∧
        f.body = [.line (mark ++ place "self" fields.length i)]
  /-- A plain value is taken apart and passed on in the same order. -/
  fromStorage : ∃ f ∈ p.functions, p.functionsFor .fromStorage = [f] ∧
    f.head = "fn " ++ (if p.check.error?.isSome then "try_from" else "from") ++ "(value: " ++
      p.storage.type ++ ") -> " ++ p.constructorOutput ∧
    (fields.length = 1 ∧ f.body = [.line "Self::new(value)"] ∨
      fields.length ≠ 1 ∧ ∃ inside, commaParts inside = fields.map (·.accessor) ∧
        f.body = [.line ("let (" ++ inside ++ ") = value;"), .line ("Self::new(" ++ inside ++ ")")])
  /-- The values are shown in their order. -/
  display : .display ∈ p.members → ∃ f ∈ p.functions, p.functionsFor .display = [f] ∧
    (fields.length = 1 ∧ f.body = [.line "::core::fmt::Display::fmt(&self.value, f)"] ∨
      fields.length ≠ 1 ∧ f.body = [.line "f.write_str(\"(\")?;"] ++
        ((places "self" fields.length).map fun e =>
          .line ("::core::fmt::Display::fmt(&" ++ e ++ ", f)?;")).intersperse
            (.line "f.write_str(\", \")?;") ++ [.line "f.write_str(\")\")"])
  debug : .debug ∈ p.members → ∃ f ∈ p.functions, p.functionsFor .debug = [f] ∧
    (fields.length = 1 ∧ f.body =
        [.line ("f.debug_tuple(\"" ++ p.typeName ++ "\").field(&self.value).finish()")] ∨
      fields.length ≠ 1 ∧ f.body = [.line ("f.debug_struct(\"" ++ p.typeName ++ "\")"),
        .indented (List.zipWith (fun name e => .line (".field(\"" ++ name ++ "\", &" ++ e ++ ")"))
          (fields.map (·.accessor)) (places "self" fields.length) ++ [.line ".finish()"])])
  /-- Every call of the constructor has an argument for each field; a new identifier is one. -/
  calls : ∀ f ∈ p.functions, ∀ l ∈ f.body, isCall l = true →
    ∃ inside, l = .line ("Self::new(" ++ inside ++ ")") ∧
      (fields.length = 1 ∧ inside = "<" ++ p.storage.type ++ ">::new_v4()" ∨
        (commaParts inside).length = fields.length)
  /-- There are no other calls, unless a name or type that is filled in has one. -/
  everyCall : p.PlainParts →
    Phrase.maker.count p.text = Plan.calls (p.functions.flatMap (·.body))

/-- The plan is about the values of some fields. -/
def Holds (p : Plan) (fields : List Field) : Prop := p.storage.slots = fields.map .ofField

section Filled

variable {p : Plan} {fields : List Field}

theorem exists_guardedBody (hook : Option Hook) :
    hook = none ∧ p.guardedBody hook = [.line p.literal] ∨
      ∃ ending last, p.guardedBody hook = [.line ("let this = " ++ p.literal ++ ";"),
          .line ("Self::validate(" ++ p.validateArguments ++ ending), .line last] ∧
        (ending = ");" ∨ ending = ")?;") := by
  rcases hook with - | ⟨- | e⟩
  · exact .inl ⟨rfl, rfl⟩
  · exact .inr ⟨_, _, rfl, .inl rfl⟩
  · exact .inr ⟨_, _, rfl, .inr rfl⟩

theorem head_fromStorage (p : Plan) : ∃ f, p.functionsFor .fromStorage = [f] ∧
    f.head = "fn " ++ (if p.check.error?.isSome then "try_from" else "from") ++ "(value: " ++
      p.storage.type ++ ") -> " ++ p.constructorOutput := by
  have hfunctions : p.functionsFor .fromStorage = p.fromStorageLayout.functions :=
    List.append_nil _
  rw [hfunctions]
  unfold fromStorageLayout constructorOutput
  cases p.check.error? with
  | some e => exact ⟨_, rfl, by simp only [String.append_assoc]; rfl⟩
  | none =>
    have hlast : ") -> Self" = ") -> " ++ "Self" := rfl
    exact ⟨_, rfl, by simp only [hlast, String.append_assoc]; rfl⟩

/-- What is shown between parentheses has commas between the values. -/
theorem flatMap_eq_intersperse {α : Type} (g : Nat → α) (sep : α) : ∀ n : Nat,
    (List.range n).flatMap (fun i => (if i = 0 then [] else [sep]) ++ [g i]) =
      ((List.range n).map g).intersperse sep := by
  -- behind the first value each one comes with a comma
  have hrest : ∀ (is : List Nat) (a : α), (∀ i ∈ is, i ≠ 0) →
      a :: is.flatMap (fun i => (if i = 0 then [] else [sep]) ++ [g i]) =
        (a :: is.map g).intersperse sep := by
    intro is
    induction is with
    | nil => intro a _; rfl
    | cons i is ih =>
      intro a h
      have hmore := ih (g i) fun j hj => h j (List.mem_cons_of_mem i hj)
      rw [List.map_cons, List.intersperse_cons_cons, ← hmore, List.flatMap_cons,
        if_neg (h i List.mem_cons_self)]
      rfl
  intro n
  cases n with
  | zero => rfl
  | succ n =>
    rw [List.range_succ_eq_map, List.map_cons, ← hrest _ (g 0) fun i hi => ?_]
    · rfl
    · obtain ⟨j, -, rfl⟩ := List.mem_map.mp hi
      exact Nat.succ_ne_zero j

variable (hp : p.Holds fields)

include hp

theorem length_slots : p.storage.slots.length = fields.length := by
  rw [hp, List.length_map]

theorem slotNames_eq : p.slotNames = ", ".intercalate (fields.map (·.accessor)) := by
  rw [slotNames, hp, List.map_map]
  rfl

theorem parameters_eq : p.parameters =
    ", ".intercalate (fields.map fun f => f.accessor ++ ": " ++ f.type.text) := by
  rw [parameters, hp, List.map_map]
  rfl

theorem type_eq : fields.map (·.type.text) = [p.storage.type] ∨ fields.length ≠ 1 ∧
    p.storage.type = "(" ++ ", ".intercalate (fields.map (·.type.text)) ++ ")" := by
  unfold Holds at hp
  match fields with
  | [f] =>
    rw [Storage.type, hp]
    exact .inl rfl
  | [] =>
    rw [Storage.type, hp]
    exact .inr ⟨Nat.zero_ne_one, rfl⟩
  | f :: f' :: fs =>
    rw [Storage.type, hp]
    refine .inr ⟨by simp, ?_⟩
    show "(" ++ ", ".intercalate (((f :: f' :: fs).map Slot.ofField).map (·.type)) ++ ")" = _
    rw [List.map_map]
    rfl

/-- The names are identifiers, so they have no commas. -/
theorem commaParts_slotNames (hfit : FieldsFit fields) (hne : fields ≠ []) :
    commaParts p.slotNames = fields.map (·.accessor) := by
  rw [slotNames_eq hp]
  refine commaParts_intercalate (fun h => hne (List.map_eq_nil_iff.mp h)) fun s hs => ?_
  obtain ⟨f, hf, rfl⟩ := List.mem_map.mp hs
  exact notMem_of_isIdentifier rfl rfl (hfit.identifier f hf)

theorem isLiteral_literal (hfit : FieldsFit fields) (hne : fields ≠ []) :
    IsLiteral p.literal (fields.map (·.accessor)) := by
  have hparts := commaParts_slotNames hp hfit hne
  unfold Holds at hp
  match fields with
  | [f] =>
    have hparen : '(' ∉ f.accessor.toList :=
      notMem_of_isIdentifier rfl rfl (hfit.identifier f List.mem_cons_self)
    rw [literal, hp]
    show IsLiteral (if f.accessor = "value" then _ else _) [f.accessor]
    split
    · next hvalue =>
      rw [hvalue]
      exact .short
    · exact .single hparen
  | f :: f' :: fs =>
    rw [literal, hp, ← hparts]
    exact .tuple p.slotNames

variable (hne : fields ≠ [])

include hne

theorem isCompound_eq : p.storage.isCompound = decide (fields.length ≠ 1) := by
  have hpos := List.length_pos_iff.mpr hne
  rw [Storage.isCompound, length_slots hp]
  exact decide_eq_decide.mpr (by omega)

theorem slotExpr_eq (receiver : String) (i : Nat) :
    p.storage.slotExpr receiver i = place receiver fields.length i := by
  rw [Storage.slotExpr, isCompound_eq hp hne, place]
  by_cases hone : fields.length = 1
  · rw [if_pos hone, if_neg (by simp [hone])]
  · rw [if_neg hone, if_pos (decide_eq_true hone)]

theorem commaParts_validateArguments :
    commaParts p.validateArguments = (places "this" fields.length).map ("&" ++ ·) := by
  have hlist : p.validateArguments =
      ", ".intercalate ((places "this" fields.length).map ("&" ++ ·)) := by
    rw [validateArguments, length_slots hp, places, List.map_map]
    simp only [slotExpr_eq hp hne]
    rfl
  rw [hlist]
  refine commaParts_intercalate ?_ fun s hs => ?_
  · intro h
    rw [List.map_eq_nil_iff, places, List.map_eq_nil_iff, List.range_eq_nil] at h
    exact hne (List.eq_nil_of_length_eq_zero h)
  · obtain ⟨e, he, rfl⟩ := List.mem_map.mp hs
    obtain ⟨i, -, rfl⟩ := List.mem_map.mp he
    have hdigits := notMem_toString (c := ',') rfl i
    rw [place]
    split
    · decide
    · simpa using hdigits

theorem displayBody_eq (h : fields.length ≠ 1) : p.displayBody =
    [.line "f.write_str(\"(\")?;"] ++ ((places "self" fields.length).map fun e =>
      .line ("::core::fmt::Display::fmt(&" ++ e ++ ", f)?;")).intersperse
        (.line "f.write_str(\", \")?;") ++ [.line "f.write_str(\")\")"] := by
  have hline : p.displayLine = fun i =>
      .line ("::core::fmt::Display::fmt(&" ++ place "self" fields.length i ++ ", f)?;") := by
    funext i
    rw [displayLine, slotExpr_eq hp hne]
  rw [displayBody, isCompound_eq hp hne, if_pos (decide_eq_true h), displayLines, length_slots hp,
    flatMap_eq_intersperse, hline, places, List.map_map]
  rfl

theorem debugBody_eq (h : fields.length ≠ 1) : p.debugBody =
    [.line ("f.debug_struct(\"" ++ p.typeName ++ "\")"),
      .indented (List.zipWith (fun name e => .line (".field(\"" ++ name ++ "\", &" ++ e ++ ")"))
        (fields.map (·.accessor)) (places "self" fields.length) ++ [.line ".finish()"])] := by
  have hlines : p.storage.slots.mapIdx p.debugLine =
      List.zipWith (fun name e => .line (".field(\"" ++ name ++ "\", &" ++ e ++ ")"))
        (fields.map (·.accessor)) (places "self" fields.length) := by
    rw [hp]
    refine List.ext_getElem ?_ fun i hi hi' => ?_
    · simp [places]
    · simp [debugLine, slotExpr_eq hp hne, places, Slot.ofField]
  rw [debugBody, isCompound_eq hp hne, if_pos (decide_eq_true h), hlines]

theorem unpackedBody_eq : fields.length = 1 ∧ p.unpackedBody = [.line "Self::new(value)"] ∨
    fields.length ≠ 1 ∧ p.unpackedBody = [.line ("let (" ++ p.slotNames ++ ") = value;"),
      .line ("Self::new(" ++ p.slotNames ++ ")")] := by
  rw [unpackedBody, isCompound_eq hp hne]
  by_cases hone : fields.length = 1
  · exact .inl ⟨hone, if_neg (by simp [hone])⟩
  · exact .inr ⟨hone, if_pos (decide_eq_true hone)⟩

end Filled

section Given

variable {fields : List Field} {o : Options} {t : Target}

theorem length_of_arithmetic {op : BinaryOp} {output : ArithmeticOutput}
    (h : .arithmetic op output ∈ (Plan.of ⟨fields, o⟩ t).members) : fields.length = 1 := by
  rw [arithmetic_mem_iff, Plan.of, operators_make, mem_when] at h
  obtain ⟨f, rfl, -⟩ := (math_of_iff.mp h.1).1
  rfl

theorem length_of_generate (h : .generate ∈ (Plan.of ⟨fields, o⟩ t).members) :
    fields.length = 1 :=
  beq_iff_eq.mp (generate_mem_iff.mp h).1

/-- A call of the constructor passes a value for each field. -/
theorem argument_count (hfit : FieldsFit fields) (hne : fields ≠ []) {f : FunctionText}
    (hf : f ∈ (Plan.of ⟨fields, o⟩ t).functions) {l : Layout} (hl : l ∈ f.body)
    (hcall : isCall l = true) : ∃ inside, l = .line ("Self::new(" ++ inside ++ ")") ∧
      (fields.length = 1 ∧
          inside = "<" ++ (Plan.of ⟨fields, o⟩ t).storage.type ++ ">::new_v4()" ∨
        (commaParts inside).length = fields.length) := by
  obtain ⟨m, hm, hfm, rfl | rfl | ⟨op, rfl⟩⟩ := of_isCall hf hl hcall
  -- a plain value is passed on by its parts; the other two members are there for one field only
  · obtain ⟨f', hf', hbody, -⟩ := functionsFor_fromStorage (Plan.of ⟨fields, o⟩ t)
    rw [hf', List.mem_singleton] at hfm
    rw [hfm, hbody] at hl
    have hparts := commaParts_slotNames (p := Plan.of ⟨fields, o⟩ t) rfl hfit hne
    rcases unpackedBody_eq (p := Plan.of ⟨fields, o⟩ t) rfl hne with ⟨hone, h⟩ | ⟨-, h⟩
    · rw [h, List.mem_singleton] at hl
      exact ⟨"value", hl, .inr (by rw [hone]; rfl)⟩
    · rw [h, List.mem_pair] at hl
      rcases hl with rfl | rfl
      · rw [isCall_let] at hcall
        exact absurd hcall Bool.false_ne_true
      · refine ⟨_, rfl, .inr ?_⟩
        rw [hparts, List.length_map]
  · obtain ⟨f', hf', hbody, -⟩ := functionsFor_generate (Plan.of ⟨fields, o⟩ t)
    rw [hf', List.mem_singleton] at hfm
    rw [hfm, hbody, generateBody_eq, List.mem_singleton] at hl
    exact ⟨_, hl, .inl ⟨length_of_generate hm, rfl⟩⟩
  · obtain ⟨f', hf', hbody, -⟩ := functionsFor_operator (Plan.of ⟨fields, o⟩ t) op
    rw [hf', List.mem_singleton] at hfm
    rw [hfm, hbody, operatorBody_eq, List.mem_singleton] at hl
    refine ⟨_, hl, .inr ?_⟩
    rw [length_of_arithmetic hm]
    cases op <;> rfl

theorem aligned_of (hfit : FieldsFit fields) (hne : fields ≠ []) :
    (Plan.of ⟨fields, o⟩ t).Aligned fields := by
  have hp : (Plan.of ⟨fields, o⟩ t).Holds fields := rfl
  constructor
  case written => exact fun f hf => exists_text_eq hf
  case names => exact hfit.distinct
  case bound =>
    intro α vs hlength
    refine ⟨map_valueOf hfit.distinct (by rw [hlength, List.length_map]), fun receiver => ?_⟩
    refine map_valueOf (nodup_places receiver _) ?_
    rw [hlength, places, List.length_map, List.length_range]
  case type => exact type_eq hp
  case new =>
    have hmem := constructor_mem_iff.mpr (rfl : _ = (Plan.of ⟨fields, o⟩ t).check)
    have hf := functionsFor_constructor (Plan.of ⟨fields, o⟩ t) t.hook
    refine ⟨_, mem_functions hmem (hf ▸ List.mem_singleton_self _), hf, ?_, _,
      isLiteral_literal hp hfit hne, ?_⟩
    · rw [parameters_eq hp]
    · rcases exists_guardedBody (p := Plan.of ⟨fields, o⟩ t) t.hook with
        ⟨hnone, hbody⟩ | ⟨ending, last, hbody, hending⟩
      · refine .inl ⟨?_, hbody⟩
        show Check.of t.hook = .none
        rw [hnone]
        rfl
      · exact .inr ⟨_, ending, last, hbody, hending, commaParts_validateArguments hp hne⟩
  case accessors =>
    intro i hi
    have hslot : (Plan.of ⟨fields, o⟩ t).storage.slots[i]? = some (.ofField fields[i]) := by
      rw [hp, List.getElem?_map, List.getElem?_eq_getElem hi]
      rfl
    obtain ⟨f, hf, hhead, hbody⟩ := functionsFor_accessor hslot
    rw [slotExpr_eq hp hne] at hbody
    exact ⟨f, mem_functions (accessor_mem hi) (hf ▸ List.mem_singleton_self f), hf, _, rfl,
      hhead, hbody⟩
  case fromStorage =>
    obtain ⟨f, hf, hbody, -⟩ := functionsFor_fromStorage (Plan.of ⟨fields, o⟩ t)
    -- both lemmas are about the one function of the member
    obtain ⟨f', hf', hhead⟩ := head_fromStorage (Plan.of ⟨fields, o⟩ t)
    obtain rfl := List.singleton_inj.mp (hf'.symm.trans hf)
    refine ⟨f', mem_functions fromStorage_mem (hf ▸ List.mem_singleton_self f'), hf, hhead, ?_⟩
    rw [hbody]
    rcases unpackedBody_eq hp hne with hone | ⟨hmany, h⟩
    · exact .inl hone
    · exact .inr ⟨hmany, _, commaParts_slotNames hp hfit hne, h⟩
  case display =>
    intro hmem
    obtain ⟨f, hf, -, hbody⟩ := (Plan.of ⟨fields, o⟩ t).functionsFor_display
    refine ⟨f, mem_functions hmem (hf ▸ List.mem_singleton_self f), hf, ?_⟩
    by_cases hone : fields.length = 1
    · refine .inl ⟨hone, ?_⟩
      rw [hbody, displayBody, isCompound_eq hp hne, if_neg (by simp [hone])]
    · exact .inr ⟨hone, hbody.trans (displayBody_eq hp hne hone)⟩
  case debug =>
    intro hmem
    obtain ⟨f, hf, -, hbody⟩ := (Plan.of ⟨fields, o⟩ t).functionsFor_debug
    refine ⟨f, mem_functions hmem (hf ▸ List.mem_singleton_self f), hf, ?_⟩
    by_cases hone : fields.length = 1
    · refine .inl ⟨hone, ?_⟩
      rw [hbody, debugBody, isCompound_eq hp hne, if_neg (by simp [hone])]
    · exact .inr ⟨hone, hbody.trans (debugBody_eq hp hne hone)⟩
  case calls => exact fun f hf l hl hcall => argument_count hfit hne hf hl hcall
  case everyCall => exact count_maker_text

end Given

end Plan

/-- Reading arguments gives at least one field. -/
theorem fields_ne_nil {resolve : TypeExpr → Kind} {args : List Argument}
    {spec : Specification} (h : Specification.ofArguments resolve args = .ok spec) :
    spec.fields ≠ [] := by
  obtain ⟨-, rfl⟩ := Specification.ofArguments_eq_ok_iff.mp h
  simp only [Specification.ofForms, fieldsFor]
  split
  · exact List.cons_ne_nil _ _
  · next hsome => exact fun hnil => hsome (by rw [List.map_eq_nil_iff.mp hnil]; rfl)

/-- **The positions of all values agree** in the text of every wrapper that is read from
arguments, with whatever options and for whatever target. -/
theorem positions_aligned {resolve : TypeExpr → Kind} {args : List Argument}
    {spec : Specification} (h : Specification.ofArguments resolve args = .ok spec) (o : Options)
    (t : Target) : (Plan.of ⟨spec.fields, o⟩ t).Aligned spec.fields :=
  Plan.aligned_of (fieldsFit_of_ofArguments h) (fields_ne_nil h)

/-- Two counts of one type, which a hook may refuse. -/
theorem positions_aligned_matchResult : ∃ spec,
    Specification.ofArguments (fun _ => .primitive .u8) matchResult = .ok spec ∧
      spec.fields.map Field.accessor = ["home_goals", "away"] ∧
      (Plan.of ⟨spec.fields, {}⟩
        { name := "Score", hook := some ⟨some "ScoreError"⟩ }).Aligned spec.fields := by
  have hspec : Specification.ofArguments (fun _ => .primitive .u8) matchResult =
      .ok ⟨[⟨"HomeGoals", .named ⟨false, ["u8"]⟩, .primitive .u8⟩,
        ⟨"away", .named ⟨false, ["u8"]⟩, .primitive .u8⟩], {}⟩ := by
    rfl
  exact ⟨_, hspec, by decide +kernel, positions_aligned hspec {} _⟩

end Newtype
