import Mathlib.Data.Bool.AllAny
import Mathlib.Data.List.Basic
import Newtype.Text.Quoted
import Newtype.Token.Literal

/-!
# Quoted text is read back

A text between double quotes is written character by character, some characters as they
stand and some as an escape, and is read by a machine that takes one character at a time.
Each written character brings the machine back to where it was, with that character given;
so the whole text is given back, and the closing quote is the first one the machine sees.

* `QuoteState.Runs` — the machine goes over some characters and gives others.
* `runs_hexDigits` — a number of up to six digits is added up.
* `runs_escapeChar`, `runs_escape` — **what is written is given back.**
* `scan_escape` — the literal ends at its own closing quote.
* `textValue_quoted`, `quoted_injective` — **quoting is undone by reading.**
* `isShown_of_mem_quoted` — only characters with a glyph are written.
-/

namespace Newtype
namespace QuoteState

open Text

/-! ### Runs of the machine -/

/-- The machine goes from one state to another over some characters and gives `out`. -/
inductive Runs (f : QuoteFlavour) : QuoteState → List Char → QuoteState → List Char → Prop where
  | nil (s : QuoteState) : Runs f s [] s []
  | cons {s s' t : QuoteState} {c : Char} {cs out outs : List Char}
      (hstep : s.step f c = .next s' out) (hrest : Runs f s' cs t outs) :
      Runs f s (c :: cs) t (out ++ outs)

variable {f : QuoteFlavour} {s t u : QuoteState} {cs ds out outs : List Char}

theorem Runs.one {c : Char} (h : s.step f c = .next t out) : Runs f s [c] t out := by
  simpa using Runs.cons h (.nil t)

/-- A step that gives nothing. -/
theorem Runs.silent {c : Char} (hstep : s.step f c = .next t []) (h : Runs f t cs u out) :
    Runs f s (c :: cs) u out :=
  .cons hstep h

theorem Runs.append (h : Runs f s cs t out) (h' : Runs f t ds u outs) :
    Runs f s (cs ++ ds) u (out ++ outs) := by
  induction h with
  | nil => exact h'
  | cons hstep _ ih =>
    rw [List.cons_append, List.append_assoc]
    exact .cons hstep (ih h')

/-- Looking for the end of a literal goes on behind a run. -/
theorem Runs.scan_append (h : Runs f s cs t out) (rest : List Char) :
    s.scan f (cs ++ rest) = (t.scan f rest).map fun r => (cs ++ r.1, r.2) := by
  induction h with
  | nil => simp
  | cons hstep _ ih =>
    rw [List.cons_append, scan, hstep]
    simp only [ih, Option.map_map, Function.comp_def, List.cons_append]

/-- The value of a literal goes on behind a run. -/
theorem Runs.value_append (h : Runs f s cs t out) (rest : List Char) :
    s.value f (cs ++ rest) = (t.value f rest).map (out ++ ·) := by
  induction h with
  | nil => simp
  | cons hstep _ ih =>
    rw [List.cons_append, value, hstep]
    simp only [ih, Option.map_map, Function.comp_def, List.append_assoc]

/-! ### Characters by their number -/

theorem hexValue_digitChar : ∀ d < 16, hexValue d.digitChar = some d := by
  decide

theorem step_digits_digitChar {d count : Nat} (value : Nat) (hd : d < 16) (hcount : count ≠ 6) :
    (digits count value).step f d.digitChar = .next (digits (count + 1) (16 * value + d)) [] := by
  simp only [step, stepDigits, hexValue_digitChar d hd, if_neg hcount]

/-- **A number of up to six digits is added up**, the highest digit first. -/
theorem runs_hexDigits (n : Nat) (hlen : (hexDigits n).length ≤ 6) :
    Runs f (digits 0 0) (hexDigits n) (digits (hexDigits n).length n) [] := by
  -- The digits before the last one are those of the quotient.
  induction n using Nat.strongRecOn with
  | ind n ih =>
    by_cases hn : n < 16
    · have hone : hexDigits n = [n.digitChar] := Nat.toDigits_of_lt_base hn
      have hstep := step_digits_digitChar (f := f) 0 hn (show 0 ≠ 6 by decide)
      rw [hone]
      simpa using Runs.one hstep
    · have hsplit : hexDigits n = hexDigits (n / 16) ++ [(n % 16).digitChar] :=
        Nat.toDigits_of_base_le (by decide) (Nat.le_of_not_lt hn)
      rw [hsplit, List.length_append, List.length_singleton] at hlen ⊢
      have hfront := ih (n / 16) (by omega) (by omega)
      have hstep := step_digits_digitChar (f := f) (n / 16) (Nat.mod_lt n (by decide : 16 > 0))
        (show (hexDigits (n / 16)).length ≠ 6 by omega)
      rw [Nat.div_add_mod] at hstep
      exact hfront.append (.one hstep)

theorem charOfNumber_toNat (c : Char) : charOfNumber c.toNat = some c :=
  dif_pos c.valid

theorem length_hexDigits_toNat (c : Char) : (hexDigits c.toNat).length ≤ 6 := by
  refine (Nat.length_toDigits_le_iff (by decide) (by decide)).mpr ?_
  rcases c.valid with h | h
  · exact Nat.lt_trans h (by decide)
  · exact Nat.lt_trans h.2 (by decide)

theorem runs_escapeNumber (c : Char) : Runs .text plain (escapeNumber c) plain [c] := by
  have hopen : Runs .text plain ['\\', 'u', '\x7b'] (digits 0 0) [] :=
    .silent rfl (.silent rfl (.one rfl))
  have hdigits := runs_hexDigits (f := .text) c.toNat (length_hexDigits_toNat c)
  have hpos : (hexDigits c.toNat).length ≠ 0 := Nat.ne_of_gt Nat.length_toDigits_pos
  have hclose : (digits (hexDigits c.toNat).length c.toNat).step .text '\x7d' =
      .next plain [c] := by
    simp [step, stepDigits, emit, charOfNumber_toNat, hpos, show hexValue '\x7d' = none from rfl]
  exact (hopen.append hdigits).append (.one hclose)

/-! ### Whole texts -/

/-- **A written character is given back.** -/
theorem runs_escapeChar (c : Char) : Runs .text plain (escapeChar c) plain [c] := by
  unfold escapeChar
  split_ifs with h0 ht hr hn hb hq
  · subst h0; exact .silent rfl (.one rfl)
  · subst ht; exact .silent rfl (.one rfl)
  · subst hr; exact .silent rfl (.one rfl)
  · subst hn; exact .silent rfl (.one rfl)
  · subst hb; exact .silent rfl (.one rfl)
  · subst hq; exact .silent rfl (.one rfl)
  · exact runs_escapeNumber c
  · exact .one (by simp [step, stepPlain, hr, hb, hq])

/-- **A written text is given back.** -/
theorem runs_escape (cs : List Char) : Runs .text plain (escape cs) plain cs := by
  induction cs with
  | nil => exact .nil _
  | cons c cs ih => exact (runs_escapeChar c).append ih

/-- The literal ends at its own closing quote. -/
theorem scan_escape (cs rest : List Char) :
    plain.scan .text (escape cs ++ '"' :: rest) = some (escape cs ++ ['"'], rest) := by
  rw [(runs_escape cs).scan_append]
  rfl

theorem value_escape (cs rest : List Char) :
    plain.value .text (escape cs ++ '"' :: rest) = some cs := by
  rw [(runs_escape cs).value_append]
  exact congrArg some (List.append_nil cs)

end QuoteState

namespace Text

theorem toList_quoted (s : String) : (quoted s).toList = '"' :: (escape s.toList ++ ['"']) :=
  String.toList_ofList

/-- **Reading undoes quoting.** -/
theorem textValue_quoted (s : String) : textValue (quoted s) = some s := by
  rw [textValue, toList_quoted]
  simp only [QuoteState.value_escape, Option.map_some, String.ofList_toList]

theorem ofSpelling_quoted (s : String) : LiteralForm.ofSpelling (quoted s) = .text := by
  simp only [LiteralForm.ofSpelling, toList_quoted]

theorem quoted_injective {s t : String} (h : quoted s = quoted t) : s = t := by
  have hvalue := congrArg textValue h
  rwa [textValue_quoted, textValue_quoted, Option.some_inj] at hvalue

/-! ### Glyphs -/

/-- A character that is shown as it stands, by itself. -/
def IsShown (c : Char) : Prop := isPrintable c = true ∧ isAttaching c = false

instance (c : Char) : Decidable (IsShown c) := inferInstanceAs (Decidable (_ ∧ _))

theorem isShown_digitChar : ∀ d < 16, IsShown d.digitChar := by
  decide

theorem isShown_of_mem_hexDigits (n : Nat) : ∀ c ∈ hexDigits n, IsShown c := by
  induction n using Nat.strongRecOn with
  | ind n ih =>
    intro c hc
    by_cases hn : n < 16
    · rw [hexDigits, Nat.toDigits_of_lt_base hn, List.mem_singleton] at hc
      exact hc ▸ isShown_digitChar n hn
    · rw [hexDigits, Nat.toDigits_of_base_le (by decide) (Nat.le_of_not_lt hn), List.mem_append,
        List.mem_singleton] at hc
      rcases hc with hc | rfl
      · exact ih (n / 16) (by omega) c hc
      · exact isShown_digitChar _ (Nat.mod_lt n (by decide))

theorem isShown_of_mem_escapeNumber {c d : Char} (h : d ∈ escapeNumber c) : IsShown d := by
  rw [escapeNumber, List.mem_append, List.mem_append] at h
  rcases h with (h | h) | h
  · exact List.all_iff_forall_prop.mp (by decide) d h
  · exact isShown_of_mem_hexDigits _ d h
  · exact List.all_iff_forall_prop.mp (by decide) d h

theorem isShown_of_mem_escapeChar {c d : Char} (h : d ∈ escapeChar c) : IsShown d := by
  unfold escapeChar at h
  split_ifs at h with h0 ht hr hn hb hq hshown
  · exact List.all_iff_forall_prop.mp (by decide) d h
  · exact List.all_iff_forall_prop.mp (by decide) d h
  · exact List.all_iff_forall_prop.mp (by decide) d h
  · exact List.all_iff_forall_prop.mp (by decide) d h
  · exact List.all_iff_forall_prop.mp (by decide) d h
  · exact List.all_iff_forall_prop.mp (by decide) d h
  · exact isShown_of_mem_escapeNumber h
  · rw [List.mem_singleton.mp h]
    simpa [IsShown, and_comm] using hshown

/-- **Only characters with a glyph are written**, so a quoted text stays in its line. -/
theorem isShown_of_mem_quoted {s : String} {c : Char} (h : c ∈ (quoted s).toList) :
    IsShown c := by
  have hquote : IsShown '"' := by decide
  rw [toList_quoted, List.mem_cons, List.mem_append, List.mem_singleton] at h
  rcases h with rfl | h | rfl
  · exact hquote
  · obtain ⟨d, _, hd⟩ := List.mem_flatMap.mp h
    exact isShown_of_mem_escapeChar hd
  · exact hquote

end Text
end Newtype
