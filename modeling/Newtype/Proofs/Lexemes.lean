import Mathlib.Data.List.Infix
import Mathlib.Data.List.TakeWhile
import Newtype.Proofs.Quoting
import Newtype.Token.Lexer

/-!
# Lexemes that are found again

The lexer takes the first lexeme off a text and goes on with the rest, so a text that is put
together from lexemes is cut into them again if each of them ends where it should: a word
before a character that cannot go on with it, a literal in quotes before something that is
no suffix.

* `IsSpelledWord` — the words, raw ones included.
* `Calm` — no quote or number sign touches the word a text starts with.
* `nextPiece_word`, `nextPiece_punct`, `nextPiece_quoted` — **one lexeme is found again.**
* `Cuts` — a text is cut into these marks; `Cuts.word` and others add one lexeme in front.
* `tokenize_of_cuts`, `nest_trees` — from the marks to the trees.
* `isSpelledWord_of_mem_tokenize` — **the lexer gives no other words.**
-/

namespace Newtype
namespace Lexer

open Text

/-! ### Words -/

/-- A word without a raw mark. -/
def IsBareWord : List Char → Prop
  | [] => False
  | c :: cs => isIdentStart c = true ∧ ∀ d ∈ cs, isIdentContinue d = true

/-- A word, raw or not. -/
def IsSpelledWord (cs : List Char) : Prop :=
  IsBareWord cs ∨
    ['r', '#'] <+: cs ∧ IsBareWord (cs.drop 2) ∧ String.ofList (cs.drop 2) ∉ rawless

instance : DecidablePred IsBareWord
  | [] => inferInstanceAs (Decidable False)
  | c :: cs => decidable_of_iff ((isIdentStart c && cs.all isIdentContinue) = true) (by
      simp [IsBareWord])

instance : DecidablePred IsSpelledWord := fun _ => inferInstanceAs (Decidable (_ ∨ _))

theorem ne_of_isIdentStart {c d : Char} (hc : isIdentStart c = true)
    (hd : isIdentStart d = false) : c ≠ d := by
  rintro rfl
  exact absurd (hc.symm.trans hd) (by decide)

/-- The gaps between tokens, by their numbers. -/
def gapNumbers : List Nat :=
  [9, 10, 11, 12, 13, 32, 133, 160, 5760, 8192, 8193, 8194, 8195, 8196, 8197, 8198, 8199, 8200,
    8201, 8202, 8206, 8207, 8232, 8233, 8239, 8287, 12288]

theorem toNat_mem_gapNumbers {c : Char} (h : isGap c = true) : c.toNat ∈ gapNumbers := by
  simp only [isGap, isBlank, Bool.or_eq_true, Bool.and_eq_true, decide_eq_true_eq,
    beq_iff_eq] at h
  simp only [gapNumbers, List.mem_cons, List.not_mem_nil, or_false]
  omega

theorem isIdentStart_ofNat_gap : ∀ n ∈ gapNumbers, isIdentStart (Char.ofNat n) = false := by
  decide +kernel

/-- No gap starts a word. -/
theorem isGap_of_isIdentStart {c : Char} (hc : isIdentStart c = true) : isGap c = false := by
  by_contra h
  have hgap := isIdentStart_ofNat_gap _ (toNat_mem_gapNumbers (Bool.not_eq_false _ ▸ h))
  rw [Char.ofNat_toNat] at hgap
  exact absurd (hc.symm.trans hgap) (by decide)

theorem isIdentStart_of_mem_punctuation : ∀ c ∈ punctuation, isIdentStart c = false :=
  List.all_iff_forall_prop.mp (by decide +kernel)

theorem punctFollows_of_notMem {c : Char} (hc : c ∉ punctuation) (cs : List Char) :
    punctFollows (c :: cs) = false := by
  unfold punctFollows
  split
  · rfl
  · rfl
  · rename_i h
    rw [← (List.cons.inj h).1]
    simpa using hc
  · rfl

/-- No punctuation starts like a word. -/
theorem punctFollows_of_isIdentStart {c : Char} (hc : isIdentStart c = true) (cs : List Char) :
    punctFollows (c :: cs) = false :=
  punctFollows_of_notMem (fun h => ne_of_isIdentStart hc (isIdentStart_of_mem_punctuation c h) rfl)
    cs

/-! ### Where a word ends -/

/-- No quote or number sign follows the characters that go on with a word. -/
def Calm (cs : List Char) : Prop :=
  ∀ c ∈ (cs.dropWhile isIdentContinue).head?, c ∉ ['"', '\x27', '#']

instance (cs : List Char) : Decidable (Calm cs) :=
  (cs.dropWhile isIdentContinue).head?.decidableForallMem

/-- A word may end before this text. -/
def Stops (cs : List Char) : Prop :=
  ∀ c ∈ cs.head?, isIdentContinue c = false ∧ c ∉ ['"', '\x27', '#']

theorem stops_nil : Stops [] := by simp [Stops]

theorem stops_cons {c : Char} (cs : List Char) (hc : isIdentContinue c = false)
    (hquote : c ∉ ['"', '\x27', '#']) : Stops (c :: cs) := by
  intro d hd
  obtain rfl : c = d := by simpa using hd
  exact ⟨hc, hquote⟩

theorem Stops.dropWhile_eq {cs : List Char} (h : Stops cs) : cs.dropWhile isIdentContinue = cs := by
  cases cs with
  | nil => rfl
  | cons c cs => rw [List.dropWhile_cons_of_neg (by simp [(h c rfl).1])]

theorem Stops.takeWhile_eq {cs : List Char} (h : Stops cs) : cs.takeWhile isIdentContinue = [] := by
  cases cs with
  | nil => rfl
  | cons c cs => rw [List.takeWhile_cons_of_neg (by simp [(h c rfl).1])]

theorem Stops.calm {w rest : List Char} (h : Stops rest) (hw : ∀ c ∈ w, isIdentContinue c = true) :
    Calm (w ++ rest) := by
  intro c hc
  rw [List.dropWhile_append_of_pos hw, h.dropWhile_eq] at hc
  exact (h c hc).2

theorem Calm.of_prefix {cs p : List Char} (h : Calm cs) (hp : p <+: cs) : Calm p := by
  obtain ⟨rest, rfl⟩ := hp
  intro c hc
  refine h c ?_
  rw [List.dropWhile_append]
  cases hd : p.dropWhile isIdentContinue with
  | nil => rw [hd] at hc; simp at hc
  | cons d ds => rw [hd] at hc; simpa using hc

theorem Calm.tail {c : Char} {cs : List Char} (hc : isIdentContinue c = true)
    (h : Calm (c :: cs)) : Calm cs := by
  rwa [Calm, List.dropWhile_cons_of_pos hc] at h

theorem isIdentContinue_of_mem_quotes : ∀ c ∈ ['"', '\x27', '#'], isIdentContinue c = false :=
  List.all_iff_forall_prop.mp (by decide)

/-- What a calm text does not start with. -/
theorem Calm.head_ne {c d : Char} {cs : List Char} (h : Calm (c :: cs))
    (hd : d ∈ ['"', '\x27', '#']) : c ≠ d := by
  rintro rfl
  have hc := isIdentContinue_of_mem_quotes c hd
  refine h c ?_ hd
  rw [List.dropWhile_cons_of_neg (by simp [hc])]
  rfl

/-! ### Words are no literals -/

theorem scanRawQuoted_of_calm (f : QuoteFlavour) {cs : List Char} (h : Calm cs) :
    scanRawQuoted f cs = none := by
  cases cs with
  | nil => rfl
  | cons c cs =>
    have hmark : (c == '#') = false := by simpa using h.head_ne (d := '#') (by decide)
    have hquote : c ≠ '"' := h.head_ne (by decide)
    simp only [scanRawQuoted, List.takeWhile_cons, hmark, Bool.false_eq_true, if_false,
      List.length_nil, List.drop_zero]
    split
    · rename_i heq
      exact absurd (List.cons.inj heq).1 hquote
    · rfl

theorem scanQuoted_of_calm {c : Char} {cs : List Char} (hc : isIdentStart c = true)
    (h : Calm cs) : scanQuoted (c :: cs) = none := by
  unfold scanQuoted
  split
  · rename_i heq
    exact absurd (List.cons.inj heq).1 (ne_of_isIdentStart hc (by decide))
  · rename_i heq
    rw [← (List.cons.inj heq).2, scanRawQuoted_of_calm .text h]
    rfl
  · rename_i heq
    rw [(List.cons.inj heq).2] at h
    exact absurd rfl (h.head_ne (by decide))
  · rename_i heq
    rw [(List.cons.inj heq).2] at h
    rw [scanRawQuoted_of_calm .bytes (h.tail (by decide))]
    rfl
  · rename_i heq
    rw [(List.cons.inj heq).2] at h
    exact absurd rfl (h.head_ne (by decide))
  · rename_i heq
    rw [(List.cons.inj heq).2] at h
    rw [scanRawQuoted_of_calm .zeroFree (h.tail (by decide))]
    rfl
  · rfl

theorem scanChar_of_calm {c : Char} {cs : List Char} (hc : isIdentStart c = true)
    (h : Calm cs) : scanChar (c :: cs) = none := by
  unfold scanChar
  split
  · rename_i heq
    exact absurd (List.cons.inj heq).1 (ne_of_isIdentStart hc (by decide))
  · rename_i heq
    rw [(List.cons.inj heq).2] at h
    exact absurd rfl (h.head_ne (by decide))
  · rfl

/-- What does not start with a digit is no number: nothing is read, or an underscore is
first. -/
theorem scanBased_of_not_isDigit {c : Char} (hc : c.isDigit = false) (cs : List Char) :
    scanBased [] 10 (c :: cs) = none := by
  have hdigit : ∀ d, hexValue c = some d → ¬ d < 10 := by
    intro d hd hlt
    unfold hexValue at hd
    split_ifs at hd with h0 ha hA
    · exact absurd (Char.isDigit_iff_toNat.mpr h0) (by simp [hc])
    · have := Option.some.inj hd
      omega
    · have := Option.some.inj hd
      omega
  rw [scanBased, scanDigits]
  by_cases hline : (c == '_') = true
  · cases scanDigits 10 cs with
    | none => simp [hline]
    | some r => simp [beq_iff_eq.mp hline]
  · cases hhex : hexValue c with
    | none => simp [hline]
    | some d => simp [hline, hdigit d hhex, hc]

theorem scanNumber_of_not_isDigit {c : Char} (hc : c.isDigit = false) (cs : List Char) :
    scanNumber (c :: cs) = none := by
  have hwhole : scanWhole (c :: cs) = scanBased [] 10 (c :: cs) := by
    unfold scanWhole
    split
    · rename_i heq
      rw [(List.cons.inj heq).1] at hc
      exact absurd hc (by decide)
    · rename_i heq
      rw [(List.cons.inj heq).1] at hc
      exact absurd hc (by decide)
    · rename_i heq
      rw [(List.cons.inj heq).1] at hc
      exact absurd hc (by decide)
    · rfl
  simp [scanNumber, scanFraction, hc, hwhole, scanBased_of_not_isDigit hc]

theorem scanLiteral_of_calm {c : Char} {cs : List Char} (hc : isIdentStart c = true)
    (h : Calm cs) : scanLiteral (c :: cs) = none := by
  have hdigit : c.isDigit = false := by
    by_contra hdigit
    obtain ⟨hlow, hhigh⟩ := Char.isDigit_iff_toNat.mp (Bool.not_eq_false _ ▸ hdigit)
    have hnone : ∀ n ≤ 57, 48 ≤ n → isIdentStart (Char.ofNat n) = false := by decide
    have hstart := hnone c.toNat hhigh hlow
    rw [Char.ofNat_toNat] at hstart
    exact absurd (hc.symm.trans hstart) (by decide)
  simp [scanLiteral, scanQuoted_of_calm hc h, scanChar_of_calm hc h,
    scanNumber_of_not_isDigit hdigit]

/-- The starts of literals in quotes are not calm. -/
theorem not_calm_of_quote : ∀ lead ∈
    ["r\"", "r#\"", "r##", "b\"", "b'", "br\"", "br#", "c\"", "cr\"", "cr#"],
      ¬ Calm (lead.toList.drop 1) := by
  decide +kernel

theorem opensQuote_of_calm {c : Char} {cs : List Char} (h : Calm cs) :
    opensQuote (c :: cs) = false := by
  rw [opensQuote, List.any_eq_false]
  intro lead hlead hprefix
  have htail : lead.toList.drop 1 <+: cs :=
    List.IsPrefix.drop (List.isPrefixOf_iff_prefix.mp hprefix) 1
  exact not_calm_of_quote lead hlead (h.of_prefix htail)

/-! ### Words are found again -/

theorem scanWord_append {c : Char} {cs rest : List Char} (h : IsBareWord (c :: cs))
    (hrest : Stops rest) : scanWord (c :: cs ++ rest) = some (c :: cs, rest) := by
  rw [List.cons_append, scanWord, if_pos h.1, List.takeWhile_append_of_pos h.2,
    List.dropWhile_append_of_pos h.2, hrest.takeWhile_eq, hrest.dropWhile_eq, List.append_nil]

theorem scanName_bare {c : Char} {cs rest : List Char} (h : IsBareWord (c :: cs))
    (hrest : Stops rest) : scanName (c :: cs ++ rest) = some (c :: cs, rest) := by
  have hcalm : Calm (cs ++ rest) := hrest.calm h.2
  unfold scanName
  split
  · rename_i heq
    rw [List.cons_append, List.cons.injEq] at heq
    rw [heq.2] at hcalm
    exact absurd rfl (hcalm.head_ne (by decide))
  · exact scanWord_append h hrest

theorem scanName_raw {cs rest : List Char} (h : IsBareWord cs) (hfree : String.ofList cs ∉ rawless)
    (hrest : Stops rest) :
    scanName ('r' :: '#' :: (cs ++ rest)) = some ('r' :: '#' :: cs, rest) := by
  cases cs with
  | nil => exact absurd h id
  | cons c cs => simp only [scanName, scanWord_append h hrest, if_neg hfree]

theorem nextToken_of_isIdentStart {c : Char} {cs : List Char} (hc : isIdentStart c = true)
    (hliteral : scanLiteral (c :: cs) = none) (hquote : opensQuote (c :: cs) = false) :
    nextToken (c :: cs) = (scanName (c :: cs)).map fun r => (.word, r.1, r.2) := by
  simp [nextToken, hliteral, punctFollows_of_isIdentStart hc, hquote]

/-- Only an opening parenthesis starts the mark of a failure. -/
theorem failureMark_isPrefixOf {c : Char} (hc : c ≠ '(') (cs : List Char) :
    failureMark.isPrefixOf (c :: cs) = false := by
  have hmark : failureMark = '(' :: failureMark.drop 1 := by decide +kernel
  rw [hmark, List.isPrefixOf_cons_cons, beq_eq_false_iff_ne.mpr hc.symm, Bool.false_and]

/-- The signs at which the lexer turns to something else than a token. -/
def signs : List Char := ['(', '[', '\x7b', ')', ']', '\x7d', '/']

theorem isIdentStart_of_mem_signs : ∀ c ∈ signs, isIdentStart c = false :=
  List.all_iff_forall_prop.mp (by decide)

theorem isGap_of_mem_signs : ∀ c ∈ signs, isGap c = false :=
  List.all_iff_forall_prop.mp (by decide)

theorem nextPiece_of_notMem_signs {c : Char} (hc : c ∉ signs) (cs : List Char) :
    nextPiece (c :: cs) = if isGap c then some (.blank, [c], cs) else nextToken (c :: cs) := by
  simp only [signs, List.mem_cons, List.not_mem_nil, or_false, not_or] at hc
  obtain ⟨h₁, h₂, h₃, h₄, h₅, h₆, h₇⟩ := hc
  unfold nextPiece
  rw [failureMark_isPrefixOf h₁, if_neg Bool.false_ne_true]
  split
  · exact absurd ‹_› (List.cons_ne_nil _ _)
  · exact absurd (List.cons.inj ‹_›).1 h₁
  · exact absurd (List.cons.inj ‹_›).1 h₂
  · exact absurd (List.cons.inj ‹_›).1 h₃
  · exact absurd (List.cons.inj ‹_›).1 h₄
  · exact absurd (List.cons.inj ‹_›).1 h₅
  · exact absurd (List.cons.inj ‹_›).1 h₆
  · exact absurd (List.cons.inj ‹_›).1 h₇
  · exact absurd (List.cons.inj ‹_›).1 h₇
  · rename_i heq
    obtain ⟨rfl, rfl⟩ := List.cons.inj heq
    rfl

theorem nextPiece_of_isIdentStart {c : Char} (hc : isIdentStart c = true) (cs : List Char) :
    nextPiece (c :: cs) = nextToken (c :: cs) := by
  have hsigns : c ∉ signs := fun hmem =>
    ne_of_isIdentStart hc (isIdentStart_of_mem_signs c hmem) rfl
  rw [nextPiece_of_notMem_signs hsigns, isGap_of_isIdentStart hc, if_neg Bool.false_ne_true]

/-- The raw mark is no start of raw text. -/
theorem nextPiece_raw {cs rest : List Char} (h : IsBareWord cs)
    (hfree : String.ofList cs ∉ rawless) (hrest : Stops rest) :
    nextPiece ('r' :: '#' :: (cs ++ rest)) = some (.word, 'r' :: '#' :: cs, rest) := by
  have hname := scanName_raw h hfree hrest
  cases cs with
  | nil => exact absurd h id
  | cons c cs =>
    have hmark : c ≠ '#' := ne_of_isIdentStart h.1 (by decide)
    have hquote : c ≠ '"' := ne_of_isIdentStart h.1 (by decide)
    rw [List.cons_append] at hname ⊢
    have hraw : scanRawQuoted .text ('#' :: c :: (cs ++ rest)) = none := by
      simp [scanRawQuoted, hmark, hquote]
    have hliteral : scanLiteral ('r' :: '#' :: c :: (cs ++ rest)) = none := by
      have hnumber := scanNumber_of_not_isDigit (c := 'r') (by decide) ('#' :: c :: (cs ++ rest))
      simp [scanLiteral, scanQuoted, hraw, scanChar, hnumber]
    have hopen : opensQuote ('r' :: '#' :: c :: (cs ++ rest)) = false := by
      simp [opensQuote, List.isPrefixOf_cons_cons, hmark.symm, hquote.symm]
    rw [nextPiece_of_isIdentStart (by decide), nextToken_of_isIdentStart (by decide) hliteral hopen,
      hname]
    rfl

/-- **A word is found again** if it ends there. -/
theorem nextPiece_word {w rest : List Char} (hw : IsSpelledWord w) (hrest : Stops rest) :
    nextPiece (w ++ rest) = some (.word, w, rest) := by
  rcases hw with hbare | ⟨⟨cs, rfl⟩, hbare, hfree⟩
  · cases w with
    | nil => exact absurd hbare id
    | cons c cs =>
      have hcalm : Calm (cs ++ rest) := hrest.calm hbare.2
      have hname := scanName_bare hbare hrest
      rw [List.cons_append] at hname ⊢
      rw [nextPiece_of_isIdentStart hbare.1, nextToken_of_isIdentStart hbare.1
        (scanLiteral_of_calm hbare.1 hcalm) (opensQuote_of_calm hcalm), hname]
      rfl
  · exact nextPiece_raw hbare hfree hrest

theorem IsSpelledWord.exists_cons {w : List Char} (hw : IsSpelledWord w) :
    ∃ c cs, w = c :: cs ∧ isIdentStart c = true := by
  rcases hw with hbare | ⟨⟨cs, rfl⟩, -⟩
  · cases w with
    | nil => exact absurd hbare id
    | cons c cs => exact ⟨c, cs, rfl, hbare.1⟩
  · exact ⟨'r', '#' :: cs, rfl, by decide⟩

/-! ### Other lexemes are found again -/

/-- What the punctuation characters are not, one for comments and one for characters
excepted. -/
theorem of_mem_punctuation : ∀ c ∈ punctuation, c ≠ '/' → c ≠ '\x27' →
    c ∉ signs ∧ isGap c = false ∧ c.isDigit = false ∧ c ∉ ['"', 'r', 'b', 'c'] :=
  List.all_iff_forall_prop.mp (by decide +kernel)

/-- **A punctuation character is found again.** -/
theorem nextPiece_punct {c : Char} (hc : c ∈ punctuation) (hslash : c ≠ '/') (hquote : c ≠ '\x27')
    (rest : List Char) :
    nextPiece (c :: rest) = some (.punct c (punctFollows rest), [c], rest) := by
  obtain ⟨hsigns, hgap, hdigit, hletters⟩ := of_mem_punctuation c hc hslash hquote
  simp only [List.mem_cons, List.not_mem_nil, or_false, not_or] at hletters
  have hquoted : scanQuoted (c :: rest) = none := by
    simp [scanQuoted, hletters]
  have hchar : scanChar (c :: rest) = none := by
    simp [scanChar, hletters, hquote]
  have hfollows : punctFollows (c :: rest) = true := by
    simp [punctFollows, hslash, hc]
  rw [nextPiece_of_notMem_signs hsigns, hgap, if_neg Bool.false_ne_true]
  simp [nextToken, scanLiteral, hquoted, hchar, scanNumber_of_not_isDigit hdigit, hfollows, hquote]

theorem nextPiece_gap {c : Char} (hc : isGap c = true) (rest : List Char) :
    nextPiece (c :: rest) = some (.blank, [c], rest) := by
  have hsigns : c ∉ signs := fun hmem =>
    absurd (hc.symm.trans (isGap_of_mem_signs c hmem)) (by decide)
  rw [nextPiece_of_notMem_signs hsigns, if_pos hc]

/-- A parenthesis opens a group, unless it starts the mark of a failure. -/
theorem nextPiece_paren {rest : List Char} (h : rest.head? ≠ some '/') :
    nextPiece ('(' :: rest) = some (.opening .paren, ['('], rest) := by
  have hmark : failureMark.isPrefixOf ('(' :: rest) = false := by
    have hsplit : failureMark = '(' :: '/' :: failureMark.drop 2 := by decide +kernel
    rw [hsplit, List.isPrefixOf_cons_cons]
    cases rest with
    | nil => rfl
    | cons c cs =>
      have hc : '/' ≠ c := fun hc => h (by rw [hc]; rfl)
      rw [List.isPrefixOf_cons_cons, beq_eq_false_iff_ne.mpr hc, Bool.false_and, Bool.and_false]
  unfold nextPiece
  rw [hmark]
  rfl

theorem nextPiece_closing (d : Delimiter) (rest : List Char) :
    nextPiece (d.closing :: rest) = some (.closing d, [d.closing], rest) := by
  unfold nextPiece
  cases d <;> rw [failureMark_isPrefixOf (by decide)] <;> rfl

/-- **A literal in quotes is found again** if no suffix follows. -/
theorem nextPiece_quoted (s : String) {rest : List Char} (hrest : scanWord rest = none) :
    nextPiece ((Text.quoted s).toList ++ rest) = some (.literal, (Text.quoted s).toList, rest) := by
  rw [toList_quoted, List.cons_append, nextPiece_of_notMem_signs (by decide), if_neg (by decide)]
  simp [nextToken, scanLiteral, scanQuoted, QuoteState.scan_escape, withSuffix, hrest]

/-! ### Whole texts -/

/-- A text that stands at a place is cut into these marks. -/
def Cuts (pos : Position) (cs : List Char) (ms : List Mark) : Prop :=
  ∀ n, cs.length ≤ n → marks n pos cs = some ms

theorem cuts_nil (pos : Position) : Cuts pos [] [] := by
  intro n _
  cases n <;> rfl

/-- One lexeme in front of a text. -/
theorem Cuts.cons {pos : Position} {lexeme rest : List Char} {ms : List Mark} {piece : Piece}
    (hpiece : nextPiece (lexeme ++ rest) = some (piece, lexeme, rest)) (hne : lexeme ≠ [])
    (hrest : Cuts (pos.advance lexeme) rest ms) :
    Cuts pos (lexeme ++ rest) (piece.marks lexeme pos ++ ms) := by
  obtain ⟨c, cs, rfl⟩ := List.exists_cons_of_ne_nil hne
  intro n hn
  cases n with
  | zero => simp at hn
  | succ n =>
    have hshort : rest.length ≤ n := by
      simp only [List.cons_append, List.length_cons, List.length_append] at hn
      omega
    rw [List.cons_append] at hpiece ⊢
    simp only [marks, hpiece, hrest n hshort, Option.map_some]

section

variable {pos : Position} {rest : List Char} {ms : List Mark}

theorem Cuts.word {w : String} (hw : IsSpelledWord w.toList) (hstop : Stops rest)
    (h : Cuts (pos.advance w.toList) rest ms) :
    Cuts pos (w.toList ++ rest) (.tree (.word w pos) :: ms) := by
  obtain ⟨c, cs, hcs, -⟩ := hw.exists_cons
  have hcut := Cuts.cons (nextPiece_word hw hstop) (hcs ▸ List.cons_ne_nil _ _) h
  rwa [Piece.marks, String.ofList_toList] at hcut

/-- A lexeme of one character. -/
theorem Cuts.char {c : Char} {piece : Piece}
    (hpiece : nextPiece (c :: rest) = some (piece, [c], rest)) (h : Cuts (pos.step c) rest ms) :
    Cuts pos (c :: rest) (piece.marks [c] pos ++ ms) :=
  .cons (show nextPiece ([c] ++ rest) = _ from hpiece) (List.cons_ne_nil c []) h

theorem Cuts.punct {c : Char} {joint : Bool} (hc : c ∈ punctuation) (hslash : c ≠ '/')
    (hquote : c ≠ '\x27') (hjoint : punctFollows rest = joint) (h : Cuts (pos.step c) rest ms) :
    Cuts pos (c :: rest) (.tree (.punct c joint pos) :: ms) := by
  subst hjoint
  exact .char (nextPiece_punct hc hslash hquote rest) h

/-- The two characters of `::`, before something that is no punctuation. -/
theorem Cuts.colons (hrest : punctFollows rest = false)
    (h : Cuts (pos.advance [':', ':']) rest ms) :
    Cuts pos (':' :: ':' :: rest)
      (.tree (.punct ':' true pos) :: .tree (.punct ':' false (pos.step ':')) :: ms) := by
  have hmem : ':' ∈ punctuation := by decide +kernel
  have hjoint : punctFollows (':' :: rest) = true := by simp [punctFollows, hmem]
  have hlast := Cuts.punct hmem (by decide) (by decide) hrest h
  exact .punct hmem (by decide) (by decide) hjoint hlast

theorem Cuts.gap {c : Char} (hc : isGap c = true) (h : Cuts (pos.step c) rest ms) :
    Cuts pos (c :: rest) ms :=
  .char (nextPiece_gap hc rest) h

theorem Cuts.paren (hrest : rest.head? ≠ some '/') (h : Cuts (pos.step '(') rest ms) :
    Cuts pos ('(' :: rest) (.opening .paren pos :: ms) :=
  .char (nextPiece_paren hrest) h

theorem Cuts.closing (d : Delimiter) (h : Cuts (pos.step d.closing) rest ms) :
    Cuts pos (d.closing :: rest) (.closing d pos :: ms) :=
  .char (nextPiece_closing d rest) h

theorem Cuts.quoted (s : String) (hrest : scanWord rest = none)
    (h : Cuts (pos.advance (Text.quoted s).toList) rest ms) :
    Cuts pos ((Text.quoted s).toList ++ rest) (.tree (.literal (Text.quoted s) pos) :: ms) := by
  have hne : (Text.quoted s).toList ≠ [] := by simp [toList_quoted]
  have hcut := Cuts.cons (nextPiece_quoted s hrest) hne h
  rwa [Piece.marks, String.ofList_toList] at hcut

end

theorem nest_trees (stack : List OpenGroup) (done ts : List Tree) (ms : List Mark) :
    nest stack done (ts.map .tree ++ ms) = nest stack (ts.reverse ++ done) ms := by
  induction ts generalizing done with
  | nil => rfl
  | cons t ts ih =>
    rw [List.map_cons, List.cons_append, nest, ih, List.reverse_cons, List.append_assoc]
    rfl

/-- The trees of a text that is cut into marks. -/
theorem tokenize_of_cuts {text : String} {c : Char} {cs : List Char} {ms : List Mark}
    (htext : text.toList = c :: cs) (hc : c.toNat ≠ 0xfeff) (h : Cuts .start (c :: cs) ms) :
    tokenize text = nest [] [] ms := by
  simp only [tokenize, htext, if_neg hc, tokenizeChars, h _ (Nat.le_refl _), Option.bind_some]

/-! ### The lexer gives no other words -/

theorem isBareWord_of_scanWord {cs w rest : List Char} (h : scanWord cs = some (w, rest)) :
    IsBareWord w := by
  cases cs with
  | nil => exact absurd h (by simp [scanWord])
  | cons c cs =>
    rw [scanWord] at h
    split_ifs at h with hc
    rw [← (Prod.mk.inj (Option.some.inj h)).1]
    exact ⟨hc, fun d hd => List.mem_takeWhile_imp hd⟩

theorem isSpelledWord_of_scanName {cs w rest : List Char} (h : scanName cs = some (w, rest)) :
    IsSpelledWord w := by
  unfold scanName at h
  split at h
  · split at h
    · rename_i hword
      split_ifs at h with hfree
      rw [← (Prod.mk.inj (Option.some.inj h)).1]
      exact .inr ⟨⟨_, rfl⟩, isBareWord_of_scanWord hword, hfree⟩
    · exact absurd h (by simp)
  · exact .inl (isBareWord_of_scanWord h)

theorem ne_word_of_scanRemark {cs lexeme rest : List Char} {piece : Piece}
    (h : scanRemark cs = some (piece, lexeme, rest)) : piece ≠ .word := by
  rintro rfl
  unfold scanRemark at h
  grind

theorem scanName_of_nextToken {cs w rest : List Char}
    (h : nextToken cs = some (.word, w, rest)) : scanName cs = some (w, rest) := by
  unfold nextToken at h
  grind [Option.map_eq_some_iff]

theorem isSpelledWord_of_nextPiece {cs w rest : List Char}
    (h : nextPiece cs = some (.word, w, rest)) : IsSpelledWord w := by
  unfold nextPiece at h
  split at h
  · exact absurd h (by simp)
  split at h
  · exact absurd h (by simp)
  · exact absurd h (by simp)
  · exact absurd h (by simp)
  · exact absurd h (by simp)
  · exact absurd h (by simp)
  · exact absurd h (by simp)
  · exact absurd h (by simp)
  · exact absurd rfl (ne_word_of_scanRemark h)
  · exact absurd rfl (ne_word_of_scanRemark h)
  · split at h
    · exact absurd h (by simp)
    · exact isSpelledWord_of_scanName (scanName_of_nextToken h)

theorem isSpelledWord_of_mem_marks {n : Nat} {pos : Position} {cs : List Char} {ms : List Mark}
    (h : marks n pos cs = some ms) {w : String} {p : Position} (hw : .tree (.word w p) ∈ ms) :
    IsSpelledWord w.toList := by
  induction n generalizing pos cs ms with
  | zero =>
    cases cs with
    | nil => rw [← Option.some.inj h] at hw; exact absurd hw List.not_mem_nil
    | cons c cs => exact absurd h (by simp [marks])
  | succ n ih =>
    cases cs with
    | nil => rw [← Option.some.inj h] at hw; exact absurd hw List.not_mem_nil
    | cons c cs =>
      rw [marks] at h
      split at h
      · exact absurd h (by simp)
      · rename_i piece lexeme rest hpiece
        obtain ⟨ms', hms', rfl⟩ := Option.map_eq_some_iff.mp h
        rcases List.mem_append.mp hw with hw | hw
        · cases piece with
          | word =>
            obtain ⟨rfl, -⟩ : w = String.ofList lexeme ∧ p = pos := by simpa [Piece.marks] using hw
            rw [String.toList_ofList]
            exact isSpelledWord_of_nextPiece hpiece
          | doc inside text => cases inside <;> simp [Piece.marks] at hw
          | _ => simp [Piece.marks] at hw
        · exact ih hms' hw

/-- Matching brackets adds groups to the trees and nothing else. -/
theorem of_mem_nest {P : Tree → Prop} (hgroup : ∀ d inner left right, P (.group d inner left right))
    {stack : List OpenGroup} {done : List Tree} {ms : List Mark} {ts : List Tree}
    (h : nest stack done ms = some ts) (hstack : ∀ g ∈ stack, ∀ t ∈ g.before, P t)
    (hdone : ∀ t ∈ done, P t) (hms : ∀ t, .tree t ∈ ms → P t) : ∀ t ∈ ts, P t := by
  fun_induction nest stack done ms with
  | case1 done =>
    rw [← Option.some.inj h]
    simpa using hdone
  | case2 => exact absurd h (by simp)
  | case3 stack done t ms ih =>
    refine ih h hstack (List.forall_mem_cons.mpr ⟨hms t List.mem_cons_self, hdone⟩) ?_
    exact fun t' ht' => hms t' (List.mem_cons_of_mem _ ht')
  | case4 stack done d pos ms ih =>
    refine ih h (List.forall_mem_cons.mpr ⟨hdone, hstack⟩) (by simp) ?_
    exact fun t' ht' => hms t' (List.mem_cons_of_mem _ ht')
  | case5 => exact absurd h (by simp)
  | case6 g stack done pos ms ih =>
    obtain ⟨hbefore, hstack⟩ := List.forall_mem_cons.mp hstack
    refine ih h hstack (List.forall_mem_cons.mpr ⟨hgroup _ _ _ _, hbefore⟩) ?_
    exact fun t' ht' => hms t' (List.mem_cons_of_mem _ ht')
  | case7 => exact absurd h (by simp)

/-- **The lexer gives no other words.** -/
theorem isSpelledWord_of_mem_tokenize {text : String} {ts : List Tree}
    (h : tokenize text = some ts) {w : String} {pos : Position} (hw : .word w pos ∈ ts) :
    IsSpelledWord w.toList := by
  obtain ⟨cs, hcs⟩ : ∃ cs, tokenizeChars cs = some ts := by
    unfold tokenize at h
    split at h
    · exact ⟨_, h⟩
    · exact ⟨_, h⟩
  obtain ⟨ms, hms, hts⟩ := Option.bind_eq_some_iff.mp hcs
  refine of_mem_nest (P := fun t => ∀ v q, t = .word v q → IsSpelledWord v.toList) ?_ hts
    (by simp) (by simp) ?_ _ hw w pos rfl
  · exact fun _ _ _ _ _ _ heq => Tree.noConfusion heq
  · rintro t ht v q rfl
    exact isSpelledWord_of_mem_marks hms ht

end Lexer
end Newtype
