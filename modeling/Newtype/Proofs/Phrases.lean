import Mathlib.Data.List.Infix
import Newtype.Proofs.Members

/-!
# Phrases in generated texts

How often a phrase stands in a text that is put together from fixed pieces and from pieces
that are filled in.  A phrase might also arise where two pieces meet, so the fixed ones have
to keep it apart: no end of a phrase may start such a piece, and no start of a phrase may
end it.  Both can be computed, so what is filled in does not matter as long as it holds no
phrase itself.

* `occurrences`, `occurrences_append` — occurrences of a word, and when they add up.
* `Spelled` — the characters of a literal, on which checks are computed.
* `Phrase`, `Phrase.count` — the phrases that make wrappers.
* `Plain` — texts without them.
* `Piece`, `count_append`, `count_fill` — fixed pieces of a text and what is filled in.
* `Layout.count`, `count_text` — **the phrases of a text are those of its lines.**
-/

namespace Newtype

/-! ### Occurrences of a word -/

/-- The number of places at which a word stands in a text. -/
def occurrences (w : List Char) : List Char → Nat
  | [] => 0
  | c :: cs => (if w.isPrefixOf (c :: cs) then 1 else 0) + occurrences w cs

/-- A word does not start in a text and end in the one behind it. -/
def Apart (w a b : List Char) : Prop :=
  ∀ k, 0 < k → k < w.length → w.take k <:+ a → ¬w.drop k <+: b

theorem Apart.tail {w a b : List Char} {c : Char} (h : Apart w (c :: a) b) : Apart w a b :=
  fun k hpos hlt hstart => h k hpos hlt (hstart.trans (List.suffix_cons c a))

/-- A word that starts at the start of a text and does not run beyond it stands in it. -/
theorem prefix_append_iff_of_apart {w a b : List Char} (ha : a ≠ []) (h : Apart w a b) :
    w <+: a ++ b ↔ w <+: a := by
  constructor
  · intro hw
    rcases List.prefix_or_prefix_of_prefix hw (List.prefix_append a b) with hin | hout
    · exact hin
    · obtain ⟨v, rfl⟩ := hout
      have hv : v <+: b := (List.prefix_append_right_inj a).mp hw
      cases v with
      | nil => rw [List.append_nil]
      | cons c v =>
        have hapart := h a.length (List.length_pos_iff.mpr ha) (by simp)
        rw [List.take_left, List.drop_left] at hapart
        exact absurd hv (hapart List.suffix_rfl)
  · intro hw
    exact hw.trans (List.prefix_append a b)

/-- **Occurrences add up** where the word does not run from one text into the other. -/
theorem occurrences_append {w : List Char} : ∀ {a b : List Char}, Apart w a b →
    occurrences w (a ++ b) = occurrences w a + occurrences w b := by
  intro a
  induction a with
  | nil => intro b _; simp [occurrences]
  | cons c a ih =>
    intro b h
    have hhere : w.isPrefixOf (c :: (a ++ b)) = w.isPrefixOf (c :: a) := by
      rw [Bool.eq_iff_iff, List.isPrefixOf_iff_prefix, List.isPrefixOf_iff_prefix,
        ← List.cons_append]
      exact prefix_append_iff_of_apart (List.cons_ne_nil c a) h
    rw [List.cons_append, occurrences, occurrences, hhere, ih h.tail, Nat.add_assoc]

/-- A word does not stand in a text without one of its characters. -/
theorem occurrences_eq_zero {w : List Char} {c : Char} (hc : c ∈ w) : ∀ {a : List Char}, c ∉ a →
    occurrences w a = 0 := by
  intro a
  induction a with
  | nil => intro _; rfl
  | cons d a ih =>
    intro ha
    have hhere : w.isPrefixOf (d :: a) = false := by
      rw [← Bool.not_eq_true, List.isPrefixOf_iff_prefix]
      exact fun hw => ha (hw.subset hc)
    rw [occurrences, hhere, ih fun hmem => ha (List.mem_cons_of_mem _ hmem)]
    rfl

/-! ### Pieces that keep a word apart -/

/-- No end of a word is bad; the word itself does not count. -/
def noEnd (bad : List Char → Bool) : List Char → Bool
  | [] => true
  | _ :: w => (w.isEmpty || !bad w) && noEnd bad w

theorem drop_of_noEnd {bad : List Char → Bool} : ∀ {w : List Char}, noEnd bad w = true →
    ∀ k, 0 < k → k < w.length → bad (w.drop k) = false := by
  intro w
  induction w with
  | nil => intro _ k _ hlt; exact absurd hlt (Nat.not_lt_zero k)
  | cons c w ih =>
    intro h k hpos hlt
    obtain ⟨hhere, hrest⟩ := Bool.and_eq_true_iff.mp h
    cases k with
    | zero => omega
    | succ k =>
      have hlt : k < w.length := Nat.lt_of_succ_lt_succ hlt
      rw [List.drop_succ_cons]
      by_cases hk : k = 0
      · have hne : w.isEmpty = false := by
          cases w with
          | nil => simp at hlt
          | cons _ _ => rfl
        rw [hne, Bool.false_or, Bool.not_eq_true'] at hhere
        rw [hk, List.drop_zero]
        exact hhere
      · exact ih hrest k (by omega) hlt

/-- No end of a word starts a text. -/
def sealsStart (w l : List Char) : Bool := noEnd (·.isPrefixOf l) w

/-- No start of a word ends a text, nor does the text end a start of the word; both are read
backwards. -/
def sealsEnd (w l : List Char) : Bool :=
  noEnd (fun v => v.isPrefixOf l.reverse || l.reverse.isPrefixOf v) w.reverse

theorem apart_of_sealsStart {w l : List Char} (h : sealsStart w l = true) (a : List Char) :
    Apart w a l := by
  intro k hpos hlt _
  have hk := drop_of_noEnd h k hpos hlt
  rwa [← Bool.not_eq_true, List.isPrefixOf_iff_prefix] at hk

theorem apart_of_sealsEnd {w l : List Char} (h : sealsEnd w l = true) (a b : List Char) :
    Apart w (a ++ l) b := by
  intro k hpos hlt hstart
  have hk := drop_of_noEnd h (w.length - k) (by omega) (by rw [List.length_reverse]; omega)
  have hlen : w.length - (w.length - k) = k := by omega
  rw [List.drop_reverse, hlen, Bool.or_eq_false_iff, ← Bool.not_eq_true, ← Bool.not_eq_true,
    List.isPrefixOf_iff_prefix, List.isPrefixOf_iff_prefix, List.reverse_prefix,
    List.reverse_prefix] at hk
  -- of two ends of one text, one ends the other
  rcases List.suffix_or_suffix_of_suffix hstart (List.suffix_append a l) with hin | hout
  · exact absurd hin hk.1
  · exact absurd hout hk.2

/-! ### Literals -/

/-- A text and another spelling of it.  If the other one is to be made of characters, those of a
literal are found, and what is asked of the literal is computed on them. -/
class Spelled (s : String) (t : outParam String) : Prop where
  eq : s = t

-- A literal is `String.ofList` of its characters by definition, while `String.toList` has to
-- decode bytes; so the characters are found here and not by evaluation.
instance (s : String) : Spelled s s := ⟨rfl⟩

theorem Spelled.toList_eq {s : String} {l : List Char} (h : Spelled s (String.ofList l)) :
    s.toList = l := by
  rw [h.eq, String.toList_ofList]

instance {s t : String} {l m : List Char} [hs : Spelled s (String.ofList l)]
    [ht : Spelled t (String.ofList m)] : Spelled (s ++ t) (String.ofList (l ++ m)) :=
  ⟨by rw [String.ofList_append, ← hs.eq, ← ht.eq]⟩

/-! ### Phrases -/

/-- What a text does to make a wrapper. -/
inductive Phrase where
  /-- a call of the hook -/
  | hook
  /-- a call of the constructor -/
  | maker
  /-- a struct literal, which sets the field right behind its brace -/
  | literal
  deriving DecidableEq

namespace Phrase

/-- The words of a phrase. -/
def text : Phrase → String
  | hook => "Self::validate"
  | maker => "Self::new"
  | literal => "\x7b value"

/-- The number of places at which a phrase stands in a text. -/
def count (w : Phrase) (s : String) : Nat := occurrences w.text.toList s.toList

/-- The characters of a phrase. -/
def word : Phrase → List Char
  | hook => ['S', 'e', 'l', 'f', ':', ':', 'v', 'a', 'l', 'i', 'd', 'a', 't', 'e']
  | maker => ['S', 'e', 'l', 'f', ':', ':', 'n', 'e', 'w']
  | literal => ['\x7b', ' ', 'v', 'a', 'l', 'u', 'e']

theorem toList_text (w : Phrase) : w.text.toList = w.word := by
  cases w <;> exact String.toList_ofList

/-- All phrases. -/
def all : List Phrase := [hook, maker, literal]

theorem mem_all (w : Phrase) : w ∈ all := by cases w <;> decide

end Phrase

/-- What is asked of a fixed piece of text. -/
inductive Demand where
  /-- it has these phrases, each as often as it is named -/
  | holds (phrases : List Phrase)
  /-- it may stand behind any text: it has no phrase, and none runs into it -/
  | behind
  /-- any text may stand behind it: no phrase runs out of it -/
  | ahead

/-- A piece does what is asked of it. -/
def Demand.check (d : Demand) (l : List Char) : Bool :=
  Phrase.all.all fun w => match d with
    | holds phrases => occurrences w.word l == phrases.count w
    | behind => sealsStart w.word l && occurrences w.word l == 0
    | ahead => sealsEnd w.word l

/-- A fixed piece of text that does what is asked of it. -/
def Piece (d : Demand) (l : String) : Prop := d.check l.toList = true

instance {d : Demand} {s : String} {l : List Char} [h : Spelled s (String.ofList l)] :
    Decidable (Piece d s) :=
  decidable_of_iff (d.check l = true) (by rw [Piece, h.toList_eq])

/-- No phrase stands in a text. -/
def Plain (s : String) : Prop := ∀ w : Phrase, w.count s = 0

@[simp] theorem count_of_plain {s : String} (h : Plain s) (w : Phrase) : w.count s = 0 := h w

section Pieces

variable {l : String} (w : Phrase) (s e : String)

theorem Piece.sealsEnd (h : Piece .ahead l) : sealsEnd w.text.toList l.toList = true := by
  rw [w.toList_text]
  exact List.all_eq_true.mp h w w.mem_all

theorem Piece.sealsStart (h : Piece .behind l) : sealsStart w.text.toList l.toList = true := by
  rw [w.toList_text]
  exact (Bool.and_eq_true_iff.mp (List.all_eq_true.mp h w w.mem_all)).1

/-- A fixed piece on its own. -/
theorem count_piece {ps : List Phrase} (h : Piece (.holds ps) l) : w.count l = ps.count w := by
  rw [Phrase.count, w.toList_text]
  exact beq_iff_eq.mp (List.all_eq_true.mp h w w.mem_all)

@[simp] theorem count_plain (h : Piece (.holds []) l) : w.count l = 0 := count_piece w h

theorem Piece.holds_nil (h : Piece .behind l) : Piece (.holds []) l := by
  rw [Piece, Demand.check, List.all_eq_true] at h ⊢
  intro w hw
  exact (Bool.and_eq_true_iff.mp (h w hw)).2

/-- A fixed piece behind any text. -/
@[simp] theorem count_append (h : Piece .behind l) : w.count (s ++ l) = w.count s := by
  have hapart := apart_of_sealsStart (h.sealsStart w) s.toList
  rw [Phrase.count, String.toList_append, occurrences_append hapart]
  exact (congrArg (_ + ·) (count_plain w h.holds_nil)).trans (Nat.add_zero _)

/-- Any text behind a fixed piece. -/
@[simp] theorem count_fill (h : Piece .ahead l) : w.count (s ++ l ++ e) = w.count (s ++ l) + w.count e := by
  rw [Phrase.count, String.toList_append]
  refine occurrences_append ?_
  rw [String.toList_append]
  exact apart_of_sealsEnd (h.sealsEnd w) _ _

@[simp] theorem count_first_fill (h : Piece .ahead l) : w.count (l ++ e) = w.count l + w.count e := by
  have hfill := count_fill w "" e h
  rwa [String.empty_append] at hfill

end Pieces

/-- Texts with commas between them. -/
theorem plain_intercalate : ∀ {ss : List String}, (∀ s ∈ ss, Plain s) →
    Plain (", ".intercalate ss)
  | [], _ => by
    rw [String.intercalate_nil]
    exact fun w => count_plain w (by decide)
  | [s], h => by
    rw [String.intercalate_singleton]
    exact h s List.mem_cons_self
  | s :: s' :: ss, h => by
    have hrest : Plain (", ".intercalate (s' :: ss)) :=
      plain_intercalate fun r hr => h r (List.mem_cons_of_mem _ hr)
    intro w
    rw [String.intercalate_cons_cons, count_fill w _ _ (by decide),
      count_append w _ (by decide), h s List.mem_cons_self w, hrest w]

/-- Every phrase has a colon or a brace. -/
theorem plain_of_notMem {s : String} (hcolon : ':' ∉ s.toList) (hbrace : '\x7b' ∉ s.toList) :
    Plain s := by
  intro w
  rw [Phrase.count, w.toList_text]
  cases w with
  | hook => exact occurrences_eq_zero (by decide) hcolon
  | maker => exact occurrences_eq_zero (by decide) hcolon
  | literal => exact occurrences_eq_zero (by decide) hbrace

theorem notMem_toString {c : Char} (hc : c.isDigit = false) (n : Nat) :
    c ∉ (toString n).toList := by
  intro hmem
  rw [Nat.toString_eq_repr, Nat.toList_repr] at hmem
  have hdigit := Nat.isDigit_of_mem_toDigits (by decide) (by decide) hmem
  rw [hc] at hdigit
  exact Bool.false_ne_true hdigit

@[simp] theorem plain_repr (n : Nat) : Plain n.repr :=
  plain_of_notMem (notMem_toString rfl n) (notMem_toString rfl n)

/-! ### Phrases in a layout -/

namespace Layout

mutual

/-- The number of places at which a phrase stands in the lines of a piece. -/
@[simp] def count (w : Phrase) : Layout → Nat
  | .line s => w.count s
  | .blank => 0
  | .block head body => w.count head + countAll w body
  | .indented body => countAll w body

/-- The number of places at which a phrase stands in the lines of pieces. -/
@[simp] def countAll (w : Phrase) : List Layout → Nat
  | [] => 0
  | l :: ls => count w l + countAll w ls

end

@[simp] theorem countAll_append (w : Phrase) (ls ls' : List Layout) :
    countAll w (ls ++ ls') = countAll w ls + countAll w ls' := by
  induction ls with
  | nil => rw [List.nil_append, countAll, Nat.zero_add]
  | cons l ls ih => rw [List.cons_append, countAll, countAll, ih, Nat.add_assoc]

theorem countAll_eq_zero {w : Phrase} : ∀ {ls : List Layout}, (∀ l ∈ ls, count w l = 0) →
    countAll w ls = 0 := by
  intro ls
  induction ls with
  | nil => intro _; rfl
  | cons l ls ih =>
    intro h
    rw [countAll, h l List.mem_cons_self, ih fun l' hl' => h l' (List.mem_cons_of_mem _ hl')]

/-- The order of pieces does not matter. -/
theorem countAll_perm (w : Phrase) {ls ls' : List Layout} (h : ls.Perm ls') :
    countAll w ls = countAll w ls' := by
  induction h with
  | nil => rfl
  | cons l _ ih => rw [countAll, countAll, ih]
  | swap l l' ls =>
    simp only [countAll]
    omega
  | trans _ _ ih ih' => rw [ih, ih']

/-- If the phrases of each part are known, so are those of all parts together. -/
theorem countAll_flatMap {α : Type} {w : Phrase} {pieces : α → List Layout}
    {phrases : α → List Phrase} : ∀ {as : List α},
    (∀ a ∈ as, countAll w (pieces a) = (phrases a).count w) →
      countAll w (as.flatMap pieces) = (as.flatMap phrases).count w := by
  intro as
  induction as with
  | nil => intro _; rfl
  | cons a as ih =>
    intro h
    rw [List.flatMap_cons, List.flatMap_cons, countAll_append, List.count_append,
      h a List.mem_cons_self, ih fun a' ha' => h a' (List.mem_cons_of_mem _ ha')]

/-- Blank lines between pieces add nothing. -/
theorem countAll_spaced (w : Phrase) : ∀ bs : List (List Layout),
    countAll w (Plan.spaced bs) = countAll w bs.flatten
  | [] => rfl
  | [b] => by simp [Plan.spaced]
  | b :: b' :: bs => by
    have hspaced : Plan.spaced (b :: b' :: bs) = b ++ .blank :: Plan.spaced (b' :: bs) := rfl
    have hflatten : (b :: b' :: bs).flatten = b ++ (b' :: bs).flatten := rfl
    rw [hspaced, hflatten, countAll_append, countAll_append, countAll, count,
      countAll_spaced w (b' :: bs), Nat.zero_add]

/-- The start of a line adds nothing. -/
theorem count_margin_append (w : Phrase) (s : String) : ∀ depth : Nat,
    w.count (margin depth ++ s) = w.count s := by
  intro depth
  induction depth with
  | zero => rw [margin, String.empty_append]
  | succ depth ih =>
    have hmargin : w.count "    " = 0 := count_plain w (by decide)
    rw [margin, String.append_assoc, count_first_fill w _ (by decide),
      hmargin, ih, Nat.zero_add]

/-- No phrase runs over the end of a line. -/
theorem count_feed_append (w : Phrase) (s rest : String) :
    w.count (s ++ "\n" ++ rest) = w.count s + w.count rest := by
  rw [count_fill w s rest (by decide),
    count_append w s (by decide)]

theorem count_empty (w : Phrase) : w.count "" = 0 :=
  count_plain w (by decide)

theorem count_renderLine_append (w : Phrase) (depth : Nat) (s rest : String) :
    w.count (renderLine depth s ++ rest) = w.count s + w.count rest := by
  unfold renderLine
  split
  · next hempty =>
    have hfeed := count_feed_append w "" rest
    rw [String.empty_append] at hfeed
    rw [String.isEmpty_iff.mp hempty, hfeed]
  · rw [count_feed_append, count_margin_append]

mutual

/-- The phrases of a piece are those of its lines, whatever text follows. -/
theorem count_render_append (w : Phrase) (rest : String) : ∀ (l : Layout) (depth : Nat),
    w.count (render depth l ++ rest) = count w l + w.count rest
  | .line s, depth => by rw [render, count_renderLine_append, count]
  | .blank, depth => by
    have hfeed := count_feed_append w "" rest
    rw [String.empty_append, count_empty] at hfeed
    rw [render, count, hfeed]
  | .block head body, depth => by
    have hopen : w.count (head ++ " \x7b") = w.count head :=
      count_append w head (by decide)
    have hclose : w.count "\x7d" = 0 := count_plain w (by decide)
    rw [render, count, String.append_assoc, String.append_assoc, count_renderLine_append,
      count_renderAll_append, count_renderLine_append, hopen, hclose, Nat.zero_add, Nat.add_assoc]
  | .indented body, depth => by rw [render, count, count_renderAll_append]

theorem count_renderAll_append (w : Phrase) (rest : String) : ∀ (ls : List Layout) (depth : Nat),
    w.count (renderAll depth ls ++ rest) = countAll w ls + w.count rest
  | [], depth => by rw [renderAll, countAll, String.empty_append, Nat.zero_add]
  | l :: ls, depth => by
    rw [renderAll, countAll, String.append_assoc, count_render_append, count_renderAll_append,
      Nat.add_assoc]

end

theorem count_renderAll (w : Phrase) (depth : Nat) (ls : List Layout) :
    w.count (renderAll depth ls) = countAll w ls := by
  have h := count_renderAll_append w "" ls depth
  rwa [String.append_empty, count_empty, Nat.add_zero] at h

/-- **The phrases of a text are those of its lines.** -/
theorem count_text (w : Phrase) (ls : List Layout) : w.count (Layout.text ls) = countAll w ls :=
  count_renderAll w 0 ls

end Layout
end Newtype
