import Newtype.Proofs.Lexemes
import Newtype.Proofs.Reading

/-!
# Which tokens are read as plain paths

A plain path is a type that a reader tries late: parentheses, function types and `for<…>` come
first, and a path may still turn out to be a macro call, a sum of bounds or a path with
arguments.  Both directions are shown here.  The tokens of a path that can be written are read
as that path, and whatever is read as a plain path can be written.

* `Path.WellSpelled` — a path that can be written.
* `PathTrees`, `ListTrees` — the tokens of a path, and of paths with commas between them.
* `reads_typeReader_path` — **the tokens of a path are read as the path.**
* `reads_typeReader_tuple` — **those of paths in parentheses are read as their tuple.**
* `PathSoFar`, `PathSoFar.push` — what is known of a path while its segments are read, and that
  one more segment keeps it.
* `of_typeForm_eq_ok` — no other form of type gives a plain path.
* `wellSpelled_of_typeReader` — **a plain path that is read can be written.**
-/

namespace Newtype

open Lexer Reader PathReader TypeReader

/-! ### Paths as they are spelled -/

/-- The words besides names that a path may have as a segment. -/
def segmentWords : List String := ["super", "self", "Self", "crate", "try"]

/-- A word that may be a segment of a path. -/
def IsSegment (w : String) : Prop :=
  IsSpelledWord w.toList ∧ (isName w = true ∨ w ∈ segmentWords)

instance (w : String) : Decidable (IsSegment w) := inferInstanceAs (Decidable (_ ∧ _))

/-- A path that can be written: it has a segment, every segment is a word for one, and `try`
stands first only behind a `::`. -/
structure Path.WellSpelled (p : Path) : Prop where
  ne_nil : p.segments ≠ []
  segment : ∀ w ∈ p.segments, IsSegment w
  first : p.global = false → p.segments.head? ≠ some "try"

/-- The tokens of segments with a `::` before each, wherever they stand. -/
inductive SegmentTrees : List String → List Tree → Prop where
  | nil : SegmentTrees [] []
  | cons {w : String} {ws : List String} {ts : List Tree} (p q r : Position)
      (h : SegmentTrees ws ts) :
      SegmentTrees (w :: ws) (.punct ':' true p :: .punct ':' false q :: .word w r :: ts)

/-- The tokens of a path, wherever they stand. -/
inductive PathTrees : Path → List Tree → Prop where
  | global {w : String} {ws : List String} {ts : List Tree} (h : SegmentTrees (w :: ws) ts) :
      PathTrees ⟨true, w :: ws⟩ ts
  | plain {w : String} {ws : List String} {ts : List Tree} (p : Position)
      (h : SegmentTrees ws ts) : PathTrees ⟨false, w :: ws⟩ (.word w p :: ts)

/-- A path ends before this: there is nothing, or a comma. -/
inductive EndsPath : List Tree → Prop where
  | nil : EndsPath []
  | comma (joint : Bool) (p : Position) (ts : List Tree) : EndsPath (.punct ',' joint p :: ts)

/-! ### Reading a path -/

/-- What follows a segment without arguments. -/
structure NoArguments (rest : List Tree) : Prop where
  angle : punctAhead "<" rest = false
  colons : (punctAhead "::" rest && punctAhead "<" (skipTree (skipTree rest))) = false

theorem reads_segment (g : Grammar) {w : String} (hw : isName w = true ∨ w ∈ segmentWords)
    (pos : Position) {rest : List Tree} (hrest : NoArguments rest) :
    Reads (PathReader.segment g false) (.word w pos :: rest) rest (· = (w, none)) := by
  have hend : Reads (do
      if ← peek fun ts =>
          (!false && punctAhead "<" ts && !punctAhead "<=" ts && !punctAhead "<<=" ts) ||
            (punctAhead "::" ts && punctAhead "<" (skipTree (skipTree ts))) then
        return (w, some (← angleArguments g))
      else return (w, none)) rest rest (· = (w, none)) :=
    .ite_false (by simp [hrest.angle, hrest.colons]) (.pure rfl)
  unfold PathReader.segment
  by_cases hword : w = "super" ∨ w = "self" ∨ w = "crate" ∨ w = "try"
  · refine .ite_true (by simpa [wordAhead, or_assoc] using hword) ?_
    refine (Reads.anyWord w pos rest).bind_eq ?_
    exact .pure rfl
  · refine .ite_false (by simpa [wordAhead, and_assoc] using hword) ?_
    by_cases hself : w = "Self"
    · refine .ite_true (by simp [wordAhead, hself]) ?_
      refine (Reads.anyWord w pos rest).bind_eq ?_
      exact hend
    · refine .ite_false (by simp [wordAhead, hself]) ?_
      have hname : isName w = true := by
        refine hw.resolve_right fun hmem => ?_
        simp only [segmentWords, List.mem_cons, List.not_mem_nil, or_false] at hmem
        tauto
      refine (Reads.name pos rest hname).bind_eq ?_
      exact hend

/-- Only a comma lies ahead at the end of a path. -/
theorem EndsPath.punctAhead_eq_false {rest : List Tree} (h : EndsPath rest) {s : String} {c : Char}
    {cs : List Char} (hs : s.toList = c :: cs) (hc : c ≠ ',') : punctAhead s rest = false := by
  rw [punctAhead, hs]
  cases h with
  | nil => cases cs <;> rfl
  | comma joint p ts => cases joint <;> cases cs <;> simp [dropPunct, hc]

theorem EndsPath.noArguments {rest : List Tree} (h : EndsPath rest) : NoArguments rest :=
  ⟨h.punctAhead_eq_false rfl (by decide),
    by rw [h.punctAhead_eq_false rfl (by decide), Bool.false_and]⟩

theorem SegmentTrees.noArguments {ws : List String} {ts rest : List Tree} (h : SegmentTrees ws ts)
    (hrest : EndsPath rest) : NoArguments (ts ++ rest) := by
  cases h with
  | nil => exact hrest.noArguments
  | cons => exact ⟨rfl, rfl⟩

theorem SegmentTrees.length_le {ws : List String} {ts : List Tree} (h : SegmentTrees ws ts) :
    ws.length ≤ ts.length := by
  induction h with
  | nil => rfl
  | cons _ _ _ _ ih =>
    simp only [List.length_cons]
    omega

/-- A path without arguments, as it is read. -/
def plainPath (global : Bool) (names : List String) : RawPath := ⟨false, global, names, true, none⟩

theorem reads_moreSegments (g : Grammar) (global : Bool) {ws : List String} {ts rest : List Tree}
    (h : SegmentTrees ws ts) (hws : ∀ w ∈ ws, isName w = true ∨ w ∈ segmentWords)
    (hrest : EndsPath rest) (names : List String) :
    Reads (moreSegments g false (plainPath global names)) (ts ++ rest) rest
      (· = plainPath global (names ++ ws)) := by
  unfold moreSegments repeatUntil
  refine (Reads.ahead _).bind_eq ?_
  -- The number of steps that are allowed is generalised; each segment needs one.
  generalize hn : (ts ++ rest).length = n
  have hbound : ws.length ≤ n := by
    have := h.length_le
    rw [List.length_append] at hn
    omega
  clear hn
  induction h generalizing names n with
  | nil =>
    refine .repeat_last n (.ite_false ?_ (.pure ⟨_, rfl, by rw [List.append_nil]⟩))
    rw [List.nil_append, hrest.punctAhead_eq_false rfl (by decide), Bool.false_and]
  | @cons w ws ts p q r h ih =>
    cases n with
    | zero => simp at hbound
    | succ n =>
    obtain ⟨hw, hws⟩ := List.forall_mem_cons.mp hws
    have hmore := ih hws (names ++ [w]) n (Nat.le_of_succ_le_succ hbound)
    rw [List.append_assoc] at hmore
    refine .repeat_more (.ite_true rfl ((Reads.punct rfl).bind fun _ _ => ?_)) hmore
    refine (reads_segment g hw r (h.noArguments hrest)).bind_eq ?_
    exact .pure rfl

theorem reads_qualifiedPath (g : Grammar) {p : Path} {ts rest : List Tree} (h : PathTrees p ts)
    (hp : ∀ w ∈ p.segments, isName w = true ∨ w ∈ segmentWords) (hrest : EndsPath rest) :
    Reads (qualifiedPath g false) (ts ++ rest) rest (· = plainPath p.global p.segments) := by
  unfold qualifiedPath simplePath
  cases h with
  | global h =>
    cases h with
    | cons p q r h =>
      obtain ⟨hw, hws⟩ := List.forall_mem_cons.mp hp
      refine (Reads.optPunct_absent rfl).bind_eq ?_
      refine (Reads.optPunct rfl).bind_eq ?_
      refine (reads_segment g hw r (h.noArguments hrest)).bind_eq ?_
      exact reads_moreSegments g true h hws hrest [_]
  | plain p h =>
    obtain ⟨hw, hws⟩ := List.forall_mem_cons.mp hp
    refine (Reads.optPunct_absent rfl).bind_eq ?_
    refine (Reads.optPunct_absent rfl).bind_eq ?_
    refine (reads_segment g hw p (h.noArguments hrest)).bind_eq ?_
    exact reads_moreSegments g false h hws hrest [_]

theorem reads_pathType (g : Grammar) (plus : Bool) {p : Path} {ts rest : List Tree}
    (h : PathTrees p ts) (hp : ∀ w ∈ p.segments, isName w = true ∨ w ∈ segmentWords)
    (hrest : EndsPath rest) :
    Reads (pathType g plus []) (ts ++ rest) rest (· = .named p) := by
  have hbang : bangAhead rest = false := by
    rw [bangAhead, hrest.punctAhead_eq_false rfl (by decide), Bool.false_and]
  have hplus : (!List.isEmpty ([] : List Tree) || plus && punctAhead "+" rest) = false := by
    rw [hrest.punctAhead_eq_false rfl (by decide), Bool.and_false]
    rfl
  unfold pathType
  refine (reads_qualifiedPath g h hp hrest).taken.bind ?_
  rintro ⟨_, spelling⟩ rfl
  refine (Reads.peek bangAhead rest).bind_eq ?_
  rw [hbang]
  refine (Reads.peek (punctAhead "+") rest).bind_eq ?_
  rw [hplus]
  exact (Reads.emit _ _).bind fun _ _ => .pure rfl

/-- A type of some other form does not start like a path. -/
theorem ne_of_segmentWord {w k : String} (hw : isName w = true ∨ w ∈ segmentWords)
    (hname : isName k = false) (hword : k ∉ segmentWords) : w ≠ k := by
  rintro rfl
  rcases hw with h | h
  · exact absurd (h.symm.trans hname) (by decide)
  · exact hword h

/-- What tells that a path lies ahead. -/
structure PathAhead (ts : List Tree) : Prop where
  noGroup : groupAhead .paren ts = false
  noBinder : wordAhead "for" ts = false
  noFunction : (wordAhead "fn" ts || wordAhead "unsafe" ts || wordAhead "extern" ts) = false
  noBuiltin : builtinAhead ts = false
  starts : (pathWordAhead ts || punctAhead "::" ts || punctAhead "<" ts) = true

theorem PathTrees.ahead {p : Path} {ts rest : List Tree} (h : PathTrees p ts) (hp : p.WellSpelled)
    (hrest : EndsPath rest) : PathAhead (ts ++ rest) := by
  cases h with
  | global h =>
    cases h with
    | cons => exact ⟨rfl, rfl, rfl, rfl, rfl⟩
  | @plain w ws ts pos h =>
    obtain ⟨-, hw⟩ := hp.segment w List.mem_cons_self
    have hne : ∀ {k : String}, isName k = false → k ∉ segmentWords → (w == k) = false :=
      fun hname hword => beq_eq_false_iff_ne.mpr (ne_of_segmentWord hw hname hword)
    have hmark : punctAhead "#" (ts ++ rest) = false := by
      cases h with
      | nil => exact hrest.punctAhead_eq_false rfl (by decide)
      | cons => rfl
    have htry : w ≠ "try" := fun htry => hp.first rfl (congrArg some htry)
    refine ⟨rfl, hne (by decide) (by decide), ?_, ?_, ?_⟩
    · simp only [List.cons_append, wordAhead, hne (show isName "fn" = false by decide) (by decide),
        hne (show isName "unsafe" = false by decide) (by decide),
        hne (show isName "extern" = false by decide) (by decide), Bool.or_self]
    · simp only [builtinAhead, List.cons_append, skipTree, hmark, Bool.and_false]
    · simp only [pathWordAhead, List.cons_append, nameAhead, wordAhead]
      simp only [segmentWords, List.mem_cons, List.not_mem_nil, or_false] at hw
      rcases hw with h | rfl | rfl | rfl | rfl | rfl
      · rw [h]; rfl
      · rfl
      · rfl
      · rfl
      · rfl
      · exact absurd rfl htry

/-- **A plain path is read as the type it is.** -/
theorem reads_typeReader_path (g : Grammar) (plus : Bool) {p : Path} {ts rest : List Tree}
    (h : PathTrees p ts) (hp : p.WellSpelled) (hrest : EndsPath rest) :
    Reads (typeReader g plus) (ts ++ rest) rest (· = .named p) := by
  have hahead := h.ahead hp hrest
  have hpath := reads_pathType g plus h (fun w hw => (hp.segment w hw).2) hrest
  have hform : Reads (boundTypeForm g plus) (ts ++ rest) rest (· = some (.named p)) := by
    refine .ite_false hahead.noBinder ?_
    refine (Reads.ahead _).bind_eq ?_
    refine (Reads.here _).bind fun _ _ => ?_
    simp only [hahead.noGroup, hahead.noFunction, hahead.noBuiltin, hahead.starts, if_true,
      Bool.false_eq_true, if_false]
    refine hpath.bind_eq ?_
    exact .pure rfl
  refine (Reads.ahead _).bind fun _ _ => hform.taken.bind ?_
  rintro ⟨_, spelling⟩ rfl
  exact (Reads.emit _ _).bind fun _ _ => .pure rfl

/-! ### Reading a tuple of paths -/

/-- The tokens of paths with commas between them, wherever they stand. -/
inductive ListTrees : List Path → List Tree → Prop where
  | one {p : Path} {ts : List Tree} (h : PathTrees p ts) : ListTrees [p] ts
  | cons {p : Path} {ps : List Path} {ts us : List Tree} (joint : Bool) (pos : Position)
      (h : PathTrees p ts) (hmore : ListTrees ps us) :
      ListTrees (p :: ps) (ts ++ .punct ',' joint pos :: us)

theorem PathTrees.ne_nil {p : Path} {ts : List Tree} (h : PathTrees p ts) : ts ≠ [] := by
  cases h with
  | global h => cases h; exact List.cons_ne_nil _ _
  | plain => exact List.cons_ne_nil _ _

theorem ListTrees.length_le {ps : List Path} {ts : List Tree} (h : ListTrees ps ts) :
    ps.length ≤ ts.length := by
  induction h with
  | one h => exact List.length_pos_iff.mpr h.ne_nil
  | cons joint pos h hmore ih =>
    simp only [List.length_cons, List.length_append]
    omega

/-- Types with commas between them are read one by one. -/
theorem reads_commaList (g : Grammar) {ps : List Path} {ts : List Tree} (h : ListTrees ps ts)
    (hps : ∀ p ∈ ps, p.WellSpelled) :
    Reads (commaList (typeReader g true)) ts [] (· = ps.map .named) := by
  unfold commaList separated repeatUntil
  refine (Reads.ahead _).bind_eq ?_
  -- The types read so far and the number of steps that are allowed are generalised.
  suffices hall : ∀ (done : List TypeExpr) (n : Nat), ps.length ≤ n → Reads
      (repeatAtMost (fun done => do
        if ← peek List.isEmpty then return .inr done.reverse
        let a ← typeReader g true
        if ← peek List.isEmpty then return .inr (a :: done).reverse
        punct ","
        return .inl (a :: done)) (n + 1) done) ts [] (· = done.reverse ++ ps.map .named) from
    hall [] _ h.length_le
  induction h with
  | @one p ts h =>
    intro done n _
    have hp := hps p List.mem_cons_self
    have hread := reads_typeReader_path g true h hp .nil
    rw [List.append_nil] at hread
    refine .repeat_last n (.ite_false (by simpa using h.ne_nil) (hread.bind_eq ?_))
    exact .ite_true rfl (.pure ⟨_, rfl, by simp⟩)
  | @cons p ps ts us joint pos h hmore ih =>
    intro done n hn
    obtain ⟨hp, hps⟩ := List.forall_mem_cons.mp hps
    cases n with
    | zero => simp at hn
    | succ n =>
    have hread := reads_typeReader_path g true h hp (.comma joint pos us)
    have hnext := ih hps (.named p :: done) n (Nat.le_of_succ_le_succ hn)
    rw [List.reverse_cons, List.append_assoc] at hnext
    refine .repeat_more (.ite_false (by simp) (hread.bind_eq ?_)) hnext
    refine .ite_false rfl ((Reads.punct ?_).bind fun _ _ => .pure rfl)
    cases joint <;> rfl

theorem PathTrees.noLifetime {p : Path} {ts : List Tree} (h : PathTrees p ts) (rest : List Tree) :
    lifetimeAhead (ts ++ rest) = false ∧ punctAhead "?" (ts ++ rest) = false := by
  cases h with
  | global h => cases h; exact ⟨rfl, rfl⟩
  | plain => exact ⟨rfl, rfl⟩

theorem reads_parenContent {g inner : Grammar} (hg : g.type true = typeReader inner true)
    {p : Path} {ps : List Path} {ts us : List Tree} (joint : Bool) (pos : Position)
    (h : PathTrees p ts) (hmore : ListTrees ps us) (hps : ∀ r ∈ p :: ps, r.WellSpelled) :
    Reads (parenContent g) (ts ++ .punct ',' joint pos :: us) []
      (· = .tuple ((p :: ps).map .named)) := by
  obtain ⟨hp, hps⟩ := List.forall_mem_cons.mp hps
  obtain ⟨hlifetime, hmaybe⟩ := h.noLifetime (.punct ',' joint pos :: us)
  have hfirst := reads_typeReader_path inner true h hp (.comma joint pos us)
  have hlist := reads_commaList inner hmore hps
  have hcomma : dropPunct ",".toList (.punct ',' joint pos :: us) = some us := by
    cases joint <;> rfl
  unfold parenContent
  rw [hg]
  refine .ite_false (by simp) (.ite_false hlifetime (.ite_false hmaybe (hfirst.bind_eq ?_)))
  refine .ite_true (by rw [punctAhead, hcomma]; rfl) ((Reads.punct hcomma).bind fun _ _ => ?_)
  refine hlist.bind_eq ?_
  exact .pure rfl

/-- **Paths in parentheses with commas between them are read as their tuple.** -/
theorem reads_typeReader_tuple {g inner : Grammar} (hg : g.type true = typeReader inner true)
    {p : Path} {ps : List Path} {ts us : List Tree} (joint : Bool) (pos : Position)
    (h : PathTrees p ts) (hmore : ListTrees ps us) (hps : ∀ r ∈ p :: ps, r.WellSpelled)
    (left right : Position) :
    Reads (typeReader g true) [.group .paren (ts ++ .punct ',' joint pos :: us) left right] []
      fun t => ∃ spelling, t = .tuple ((p :: ps).map .named) spelling := by
  have hcontent := reads_parenContent hg joint pos h hmore hps
  have hparen : Reads (parenType g true)
      [.group .paren (ts ++ .punct ',' joint pos :: us) left right] []
      fun t => ∃ spelling, t = .tuple ((p :: ps).map .named) spelling := by
    refine (Reads.here _).bind fun _ _ => (hcontent.captured.grouped left right []).taken.bind ?_
    rintro ⟨⟨_, inner⟩, spelling⟩ rfl
    exact (Reads.emit _ _).bind fun _ _ => .pure ⟨spelling, rfl⟩
  have hform : Reads (boundTypeForm g true)
      [.group .paren (ts ++ .punct ',' joint pos :: us) left right] []
      fun t => ∃ spelling, t = some (.tuple ((p :: ps).map .named) spelling) := by
    refine .ite_false rfl ((Reads.ahead _).bind_eq ?_)
    refine (Reads.here _).bind fun _ _ => hparen.bind ?_
    rintro _ ⟨spelling, rfl⟩
    exact .pure ⟨spelling, rfl⟩
  refine (Reads.ahead _).bind fun _ _ => hform.taken.bind ?_
  rintro ⟨_, _⟩ ⟨spelling, rfl⟩
  exact (Reads.emit _ _).bind fun _ _ => .pure ⟨spelling, rfl⟩

/-! ### What a path is read from -/

/-- Every word among these tokens is spelled as one. -/
def WordsSpelled (ts : List Tree) : Prop := ∀ w pos, .word w pos ∈ ts → IsSpelledWord w.toList

theorem WordsSpelled.of_suffix {ts rest : List Tree} (h : WordsSpelled ts) (hrest : rest <:+ ts) :
    WordsSpelled rest := fun w pos hw => h w pos (hrest.subset hw)

variable {c c' : Cursor}

theorem of_segment_eq_ok {g : Grammar} {inExpr : Bool} {w : String}
    (h : PathReader.segment g inExpr c = .ok ((w, none), c')) :
    ∃ pos, c.rest = .word w pos :: c'.rest ∧ (isName w = true ∨ w ∈ segmentWords) := by
  unfold PathReader.segment at h
  rcases of_ite_peek_eq_ok h with ⟨hkey, h⟩ | ⟨-, h⟩
  · obtain ⟨v, c₁, hword, h⟩ := of_bind_eq_ok h
    obtain ⟨pos, hrest⟩ := of_anyWord_eq_ok hword
    cases h
    rw [hrest] at hkey
    refine ⟨pos, hrest, .inr ?_⟩
    simp only [wordAhead, Bool.or_eq_true, beq_iff_eq] at hkey
    simp only [segmentWords, List.mem_cons, List.not_mem_nil, or_false]
    tauto
  · rcases of_ite_peek_eq_ok h with ⟨hself, h⟩ | ⟨-, h⟩
    · obtain ⟨v, c₁, hword, h⟩ := of_bind_eq_ok h
      obtain ⟨pos, hrest⟩ := of_anyWord_eq_ok hword
      rcases of_ite_peek_eq_ok h with ⟨-, h⟩ | ⟨-, h⟩
      · obtain ⟨args, c₂, -, h⟩ := of_bind_eq_ok h
        cases h
      · cases h
        rw [hrest] at hself
        exact ⟨pos, hrest, .inr (beq_iff_eq.mp hself ▸ by decide)⟩
    · obtain ⟨v, c₁, hword, h⟩ := of_bind_eq_ok h
      obtain ⟨pos, hrest, hname⟩ := of_name_eq_ok hword
      rcases of_ite_peek_eq_ok h with ⟨-, h⟩ | ⟨-, h⟩
      · obtain ⟨args, c₂, -, h⟩ := of_bind_eq_ok h
        cases h
      · cases h
        exact ⟨pos, hrest, .inl hname⟩

theorem isSegment_of_segment_eq_ok {g : Grammar} {inExpr : Bool} {w : String}
    (hwords : WordsSpelled c.rest) (h : PathReader.segment g inExpr c = .ok ((w, none), c')) :
    IsSegment w ∧ WordsSpelled c'.rest := by
  obtain ⟨pos, hrest, hw⟩ := of_segment_eq_ok h
  rw [hrest] at hwords
  exact ⟨⟨hwords w pos List.mem_cons_self, hw⟩, hwords.of_suffix (List.suffix_cons _ _)⟩

/-- What is known of a path while it is read from `start`, as long as no segment has
arguments. -/
structure PathSoFar (start : List Tree) (q : RawPath) (c : Cursor) : Prop where
  qualified : q.qualified = false
  first : q.plain = true → ∃ w, q.names.head? = some w ∧
    (q.global = false → ∃ pos ts, start = .word w pos :: ts)
  segments : q.plain = true → ∀ w ∈ q.names, IsSegment w
  words : q.plain = true → WordsSpelled c.rest

/-- The step: one more segment. -/
theorem PathSoFar.push {start : List Tree} {q : RawPath} (hq : PathSoFar start q c) {g : Grammar}
    {inExpr : Bool} {w : String} {arguments : Option SegmentArguments} {c₁ : Cursor}
    (hpunct : punct "::" c = .ok ((), c₁))
    (hsegment : PathReader.segment g inExpr c₁ = .ok ((w, arguments), c')) :
    PathSoFar start (q.push (w, arguments)) c' := by
  have hboth : (q.push (w, arguments)).plain = true →
      q.plain = true ∧ IsSegment w ∧ WordsSpelled c'.rest := by
    intro hplain
    obtain ⟨hbefore, hnone⟩ : q.plain = true ∧ arguments.isNone = true :=
      Bool.and_eq_true_iff.mp hplain
    obtain rfl := Option.isNone_iff_eq_none.mp hnone
    have hsuffix := dropPunct_suffix (of_punct_eq_ok hpunct).1
    exact ⟨hbefore, isSegment_of_segment_eq_ok ((hq.words hbefore).of_suffix hsuffix) hsegment⟩
  refine ⟨hq.qualified, fun hplain => ?_, fun hplain => ?_, fun hplain => (hboth hplain).2.2⟩
  · obtain ⟨v, hv, hstart⟩ := hq.first (hboth hplain).1
    exact ⟨v, by rw [RawPath.push, List.head?_append, hv, Option.some_or], hstart⟩
  · refine List.forall_mem_append.mpr ⟨hq.segments (hboth hplain).1, ?_⟩
    exact List.forall_mem_singleton.mpr (hboth hplain).2.1

/-- The run: all segments behind the first. -/
theorem pathSoFar_moreSegments {g : Grammar} {inExpr : Bool} {start : List Tree} {q r : RawPath}
    (hq : PathSoFar start q c) (h : moreSegments g inExpr q c = .ok (r, c')) :
    PathSoFar start r c' := by
  refine of_repeatUntil_eq_ok (I := PathSoFar start) (Q := PathSoFar start) ?_ ?_ hq h
  · intro q c q' c' hq h
    rcases of_ite_peek_eq_ok h with ⟨-, h⟩ | ⟨-, h⟩
    · obtain ⟨_, c₁, hpunct, h⟩ := of_bind_eq_ok h
      obtain ⟨s, c₂, hsegment, h⟩ := of_bind_eq_ok h
      cases h
      exact hq.push hpunct hsegment
    · cases h
  · intro q c r c' hq h
    rcases of_ite_peek_eq_ok h with ⟨-, h⟩ | ⟨-, h⟩
    · obtain ⟨_, c₁, hpunct, h⟩ := of_bind_eq_ok h
      obtain ⟨s, c₂, hsegment, h⟩ := of_bind_eq_ok h
      cases h
    · cases h
      exact hq

theorem pathSoFar_simplePath {g : Grammar} {inExpr : Bool} {q : RawPath}
    (hwords : WordsSpelled c.rest) (h : simplePath g inExpr c = .ok (q, c')) :
    PathSoFar c.rest q c' := by
  obtain ⟨global, c₁, hopt, h⟩ := of_bind_eq_ok h
  obtain ⟨⟨w, arguments⟩, c₂, hsegment, h⟩ := of_bind_eq_ok h
  refine pathSoFar_moreSegments ?_ h
  have hwords₁ : WordsSpelled c₁.rest := by
    rcases of_optPunct_eq_ok hopt with ⟨-, hdrop⟩ | ⟨-, -, rfl⟩
    · exact hwords.of_suffix (dropPunct_suffix hdrop)
    · exact hwords
  refine ⟨rfl, fun hplain => ⟨w, rfl, fun hglobal => ?_⟩, fun hplain => ?_, fun hplain => ?_⟩
  all_goals obtain rfl := Option.isNone_iff_eq_none.mp (show arguments.isNone = true from hplain)
  · -- Without a `::` the first segment is read where the path starts.
    rcases of_optPunct_eq_ok hopt with ⟨rfl, -⟩ | ⟨-, -, rfl⟩
    · cases hglobal
    · obtain ⟨pos, hrest, -⟩ := of_segment_eq_ok hsegment
      exact ⟨pos, _, hrest⟩
  · exact List.forall_mem_singleton.mpr (isSegment_of_segment_eq_ok hwords₁ hsegment).1
  · exact (isSegment_of_segment_eq_ok hwords₁ hsegment).2

/-- A path behind a qualified self type keeps it. -/
theorem qualified_of_qualifiedRest {g : Grammar} {inExpr : Bool} {p q : RawPath}
    (hp : p.qualified = true) (h : qualifiedRest g inExpr p c = .ok (q, c')) :
    q.qualified = true := by
  refine of_repeatUntil_eq_ok (I := fun q _ => q.qualified = true)
    (Q := fun q _ => q.qualified = true) ?_ ?_ hp h
  all_goals
    intro p c q c' hp h
    obtain ⟨s, c₁, -, h⟩ := of_bind_eq_ok h
    obtain ⟨b, c₂, -, h⟩ := of_bind_eq_ok h
    cases b <;> cases h
    exact hp

/-- A path without a self type is read as one from its start. -/
theorem pathSoFar_qualifiedPath {g : Grammar} {inExpr : Bool} {q : RawPath}
    (hwords : WordsSpelled c.rest) (hq : q.qualified = false)
    (h : qualifiedPath g inExpr c = .ok (q, c')) : PathSoFar c.rest q c' := by
  obtain ⟨b, c₁, hopt, hpath⟩ := of_bind_eq_ok h
  rcases of_optPunct_eq_ok hopt with ⟨rfl, -⟩ | ⟨rfl, -, rfl⟩
  · -- Behind `<` the path has a self type.
    have hbehind (start : RawPath) (hstart : start.qualified = true) (c₁ : Cursor)
        (h : (do punct ">"; punct "::"; qualifiedRest g inExpr start) c₁ = .ok (q, c')) :
        PathSoFar c.rest q c' := by
      obtain ⟨_, c₂, -, h⟩ := of_bind_eq_ok h
      obtain ⟨_, c₃, -, h⟩ := of_bind_eq_ok h
      rw [qualified_of_qualifiedRest hstart h] at hq
      cases hq
    obtain ⟨_, c₂, -, hpath⟩ := of_bind_eq_ok hpath
    obtain ⟨_, c₃, -, hpath⟩ := of_bind_eq_ok hpath
    rcases of_ite_eq_ok hpath with ⟨-, hpath⟩ | ⟨-, hpath⟩
    · obtain ⟨_, c₄, -, hpath⟩ := of_bind_eq_ok hpath
      exact hbehind _ rfl _ hpath
    · exact hbehind _ rfl _ hpath
  · exact pathSoFar_simplePath hwords hpath

/-- Only a path without arguments and self type is kept as a plain path. -/
theorem toType_eq_named {q : RawPath} {spelling : List Tree} {p : Path}
    (h : q.toType spelling = .named p) :
    q.plain = true ∧ q.qualified = false ∧ p = ⟨q.global, q.names⟩ := by
  rw [RawPath.toType] at h
  split at h
  next hplain =>
    rw [Bool.and_eq_true, Bool.not_eq_true'] at hplain
    exact ⟨hplain.1, hplain.2, (TypeExpr.named.inj h).symm⟩
  next => cases h

/-- A path type that is a plain path is no macro call, no sum and has nothing in front. -/
theorem of_pathType_eq_ok {g : Grammar} {plus : Bool} {binding : List Tree} {p : Path}
    (h : pathType g plus binding c = .ok (.named p, c')) :
    binding = [] ∧ ∃ q c₁, qualifiedPath g false { c with spelled := [] } = .ok (q, c₁) ∧
      q.plain = true ∧ q.qualified = false ∧ p = ⟨q.global, q.names⟩ := by
  obtain ⟨⟨q, spelling⟩, c₁, htaken, h⟩ := of_bind_eq_ok h
  obtain ⟨c₂, hpath, -, -⟩ := of_taken_eq_ok htaken
  rcases of_ite_eq_ok h with ⟨hq, h⟩ | ⟨-, h⟩
  · obtain ⟨_, c₃, -, h⟩ := of_bind_eq_ok h
    have hnot := (toType_eq_named (of_pure_eq_ok h).1.symm).2.1
    exact absurd hq (by simp [hnot])
  · obtain ⟨_, c₃, -, h⟩ := of_bind_eq_ok h
    rcases of_ite_eq_ok h with ⟨-, h⟩ | ⟨-, h⟩
    · obtain ⟨_, c₄, -, h⟩ := of_bind_eq_ok h
      obtain ⟨_, c₅, -, h⟩ := of_bind_eq_ok h
      cases (of_pure_eq_ok h).1
    · obtain ⟨_, c₄, -, h⟩ := of_bind_eq_ok h
      rcases of_ite_eq_ok h with ⟨-, h⟩ | ⟨hbinding, h⟩
      · obtain ⟨_, c₅, -, h⟩ := of_bind_eq_ok h
        obtain ⟨⟨_, more⟩, c₆, -, h⟩ := of_bind_eq_ok h
        cases more <;> cases (of_pure_eq_ok h).1
      · obtain ⟨_, c₅, -, h⟩ := of_bind_eq_ok h
        rw [Bool.not_eq_true, Bool.or_eq_false_iff, Bool.not_eq_false'] at hbinding
        exact ⟨List.isEmpty_iff.mp hbinding.1, q, c₂, hpath,
          toType_eq_named (of_pure_eq_ok h).1.symm⟩

/-- A type that starts with parentheses is never a plain path. -/
theorem parenType_gives (g : Grammar) (plus : Bool) :
    Gives (parenType g plus) fun t => ∀ p, t ≠ .named p := by
  refine .bind fun left => .bind ?_
  rintro ⟨⟨content, inner⟩, spelling⟩
  cases content with
  | tuple elements => exact .bind fun _ => .pure nofun
  | bound tokens =>
    refine .bind fun _ => .bind ?_
    rintro ⟨_, more⟩
    refine .pure ?_
    cases more <;> exact nofun
  | one t =>
    dsimp only
    cases summand? t inner with
    | none => exact .bind fun _ => .pure nofun
    | some tokens =>
      refine .bind fun _ => .ite ?_ ?_
      · exact .bind fun _ => .bind fun _ => .pure nofun
      · exact .bind fun _ => .pure nofun

theorem plainType_gives (r : Reader Unit) : Gives (plainType r) fun t => ∀ p, t ≠ some (.named p) :=
  .bind fun _ => .pure nofun

/-- Only the reader of path types gives a plain path. -/
theorem of_typeForm_eq_ok {g : Grammar} {plus : Bool} {binding : List Tree} {p : Path}
    (h : typeForm g plus binding c = .ok (some (.named p), c')) :
    (pathWordAhead c.rest || punctAhead "::" c.rest || punctAhead "<" c.rest) = true ∧
      pathType g plus binding c = .ok (.named p, c') := by
  replace h := of_bind_ahead_eq_ok h
  obtain ⟨pos, c₂, hhere, h⟩ := of_bind_eq_ok h
  obtain rfl := of_here_eq_ok hhere
  -- The forms in the order in which they are tried, up to the paths.
  rcases of_ite_eq_ok h with ⟨-, h⟩ | ⟨-, h⟩
  · obtain ⟨t, c₃, hparen, h⟩ := of_bind_eq_ok h
    obtain ⟨⟨⟩, -⟩ := of_pure_eq_ok h
    exact absurd rfl (parenType_gives g plus _ _ _ hparen p)
  rcases of_ite_eq_ok h with ⟨-, h⟩ | ⟨-, h⟩
  · exact absurd rfl (plainType_gives _ _ _ _ h p)
  rcases of_ite_eq_ok h with ⟨-, h⟩ | ⟨-, h⟩
  · obtain ⟨_, c₃, -, h⟩ := of_bind_eq_ok h
    cases (of_pure_eq_ok h).1
  rcases of_ite_eq_ok h with ⟨hpath, h⟩ | ⟨-, h⟩
  · obtain ⟨t, c₃, hread, h⟩ := of_bind_eq_ok h
    obtain ⟨⟨⟩, rfl⟩ := of_pure_eq_ok h
    exact ⟨hpath, hread⟩
  · -- Every form that is tried later is kept as its spelling.
    refine absurd rfl ((?_ : Gives _ fun t => ∀ p, t ≠ some (.named p)) _ _ _ h p)
    refine .ite (.bind fun _ => .bind fun _ => .ite ?_ ?_) ?_
    · exact .bind fun _ => .pure nofun
    · exact .bind fun _ => .pure nofun
    · iterate 7 refine .ite (plainType_gives _) ?_
      exact .bind fun _ => .fault

/-- A `for<…>` is never empty. -/
theorem spelled_ne_nil_of_binder {g : Grammar} (h : BoundReader.binder g c = .ok ((), c')) :
    c'.spelled ≠ [] := by
  obtain ⟨_, c₁, -, h⟩ := of_bind_eq_ok h
  obtain ⟨_, c₂, -, h⟩ := of_bind_eq_ok h
  obtain ⟨_, c₃, -, h⟩ := of_bind_eq_ok h
  obtain ⟨pos, hspelled⟩ := (of_punct_eq_ok h).2
  rw [hspelled]
  exact List.cons_ne_nil _ _

/-- Nothing stands in front of a plain path. -/
theorem of_boundTypeForm_eq_ok {g : Grammar} {plus : Bool} {p : Path}
    (h : boundTypeForm g plus c = .ok (some (.named p), c')) :
    typeForm g plus [] c = .ok (some (.named p), c') := by
  rcases of_ite_peek_eq_ok h with ⟨-, h⟩ | ⟨-, h⟩
  · -- A path behind a `for<…>` is a bound, as the spelling of the `for<…>` is not empty.
    obtain ⟨⟨_, binding⟩, c₁, htaken, h⟩ := of_bind_eq_ok h
    obtain ⟨c₂, hbinder, hbinding, -⟩ := of_taken_eq_ok htaken
    rcases of_ite_peek_eq_ok h with ⟨-, h⟩ | ⟨-, h⟩
    · obtain ⟨rfl, -⟩ := of_pathType_eq_ok (of_typeForm_eq_ok h).2
      exact absurd (List.reverse_eq_nil_iff.mp hbinding.symm) (spelled_ne_nil_of_binder hbinder)
    · obtain ⟨_, c₃, -, h⟩ := of_bind_eq_ok h
      exact absurd h fault_ne_ok
  · exact h

/-- No type starts with `try`. -/
theorem not_typeAhead_try (pos : Position) (ts : List Tree) :
    (pathWordAhead (.word "try" pos :: ts) || punctAhead "::" (.word "try" pos :: ts) ||
      punctAhead "<" (.word "try" pos :: ts)) = false := by
  rfl

/-- A type that is read as a plain path is one that can be written. -/
theorem wellSpelled_of_typeReader {g : Grammar} {plus : Bool} {p : Path}
    (hwords : WordsSpelled c.rest) (h : typeReader g plus c = .ok (.named p, c')) :
    p.WellSpelled := by
  replace h := of_bind_ahead_eq_ok h
  obtain ⟨⟨t, spelling⟩, c₂, htaken, h⟩ := of_bind_eq_ok h
  obtain ⟨c₃, hform, -⟩ := of_taken_eq_ok htaken
  cases t with
  | none =>
    obtain ⟨_, c₄, -, h⟩ := of_bind_eq_ok h
    obtain ⟨_, c₅, -, h⟩ := of_bind_eq_ok h
    cases (of_pure_eq_ok h).1
  | some t =>
    obtain ⟨_, c₄, -, h⟩ := of_bind_eq_ok h
    obtain ⟨⟨⟩, -⟩ := of_pure_eq_ok h
    obtain ⟨hahead, hpathType⟩ := of_typeForm_eq_ok (of_boundTypeForm_eq_ok hform)
    obtain ⟨-, q, c₅, hpath, hplain, hq, rfl⟩ := of_pathType_eq_ok hpathType
    have hread := pathSoFar_qualifiedPath (c := { c with spelled := [] }) hwords hq hpath
    obtain ⟨w, hw, hstart⟩ := hread.first hplain
    refine ⟨fun hnil => ?_, hread.segments hplain, fun hglobal htry => ?_⟩
    · rw [show q.names = [] from hnil] at hw
      cases hw
    · obtain rfl : w = "try" := Option.some.inj (hw.symm.trans htry)
      obtain ⟨pos, ts, hrest⟩ := hstart hglobal
      rw [show c.rest = _ from hrest, not_typeAhead_try pos ts] at hahead
      cases hahead

end Newtype
