import Newtype.Member.Text
import Newtype.Proofs.Lexemes

/-!
# The text in place of a wrapper

A declaration that is refused gets a text that stops the compiler with the reason.  The
reason holds whatever the author has written into the arguments, so it is put into the text
as a literal.  The text is always the same call around that literal, and the literal stands
for the code and the message: no message closes it, and none adds anything to the call.

* `compileError` — the call, as token trees.
* `tokenize_call` — **the text is that call.**
* `rejectionText_inj` — **different reports have different texts.**
* `rejectionText_carries` — both, with what is written and what is read.
-/

namespace Newtype

open Lexer

/-! ### The call -/

/-- The call that stops the compiler with a literal. -/
def compileError (literal : String) : List Tree :=
  [.punct ':' true ⟨1, 0⟩, .punct ':' false ⟨1, 1⟩, .word "core" ⟨1, 2⟩,
    .punct ':' true ⟨1, 6⟩, .punct ':' false ⟨1, 7⟩, .word "compile_error" ⟨1, 8⟩,
    .punct '!' false ⟨1, 21⟩,
    .group .paren [.literal literal ⟨1, 23⟩] ⟨1, 22⟩ ⟨1, 23 + literal.length⟩,
    .punct ';' false ⟨1, 24 + literal.length⟩]

theorem Position.advance_of_notMem {cs : List Char} (h : '\n' ∉ cs) (p : Position) :
    p.advance cs = ⟨p.line, p.column + cs.length⟩ := by
  induction cs generalizing p with
  | nil => rfl
  | cons c cs ih =>
    rw [List.mem_cons, not_or] at h
    rw [advance_cons, ih h.2, step, if_neg (Ne.symm h.1), List.length_cons, Nat.add_assoc,
      Nat.add_comm 1]

theorem newline_notMem_quoted (s : String) : '\n' ∉ (Text.quoted s).toList := fun h =>
  absurd (Text.isShown_of_mem_quoted h) (by decide)

/-- The marks of the argument and of what follows it. -/
theorem cuts_argument (s : String) :
    Cuts ⟨1, 23⟩ ((Text.quoted s).toList ++ [')', ';', '\n'])
      [.tree (.literal (Text.quoted s) ⟨1, 23⟩), .closing .paren ⟨1, 23 + (Text.quoted s).length⟩,
        .tree (.punct ';' false ⟨1, 24 + (Text.quoted s).length⟩)] := by
  have hend : Cuts ⟨1, 24 + (Text.quoted s).length⟩ [';', '\n']
      [.tree (.punct ';' false ⟨1, 24 + (Text.quoted s).length⟩)] :=
    .punct (by decide +kernel) (by decide) (by decide) (by decide +kernel)
      (.gap (by decide) (cuts_nil _))
  have hclose : Cuts ⟨1, 23 + (Text.quoted s).length⟩ [')', ';', '\n'] _ :=
    .closing .paren (by simpa [Position.step, Delimiter.closing, Nat.add_right_comm] using hend)
  refine .quoted s (by decide) ?_
  rwa [Position.advance_of_notMem (newline_notMem_quoted s), String.length_toList]

/-- The marks of the call up to its argument. -/
theorem cuts_call {rest : List Char} {ms : List Mark} (hrest : rest.head? ≠ some '/')
    (h : Cuts ⟨1, 23⟩ rest ms) :
    Cuts .start ("::core::compile_error!(".toList ++ rest)
      (.tree (.punct ':' true ⟨1, 0⟩) :: .tree (.punct ':' false ⟨1, 1⟩) ::
        .tree (.word "core" ⟨1, 2⟩) ::
        .tree (.punct ':' true ⟨1, 6⟩) :: .tree (.punct ':' false ⟨1, 7⟩) ::
        .tree (.word "compile_error" ⟨1, 8⟩) :: .tree (.punct '!' false ⟨1, 21⟩) ::
        .opening .paren ⟨1, 22⟩ :: ms) := by
  -- The marks are put together from the last one on.
  have hopen : Cuts ⟨1, 22⟩ ('(' :: rest) (.opening .paren ⟨1, 22⟩ :: ms) := .paren hrest h
  have hbang : Cuts ⟨1, 21⟩ ('!' :: '(' :: rest) (.tree (.punct '!' false ⟨1, 21⟩) :: _) :=
    .punct (by decide +kernel) (by decide) (by decide)
      (punctFollows_of_notMem (by decide +kernel) _) hopen
  have hname : Cuts ⟨1, 8⟩ ("compile_error".toList ++ '!' :: '(' :: rest)
      (.tree (.word "compile_error" ⟨1, 8⟩) :: _) :=
    .word (by decide +kernel) (stops_cons _ (by decide) (by decide)) hbang
  have hinner : Cuts ⟨1, 6⟩ (':' :: ':' :: ("compile_error".toList ++ '!' :: '(' :: rest)) _ :=
    .colons (punctFollows_of_isIdentStart (by decide) _) hname
  have hcore : Cuts ⟨1, 2⟩ ("core".toList ++ ':' :: ':' :: ("compile_error".toList ++
      '!' :: '(' :: rest)) (.tree (.word "core" ⟨1, 2⟩) :: _) :=
    .word (by decide +kernel) (stops_cons _ (by decide) (by decide)) hinner
  exact .colons (punctFollows_of_isIdentStart (by decide) _) hcore

/-- **The text is one call with one literal.** -/
theorem tokenize_call (s : String) :
    tokenize ("::core::compile_error!(" ++ Text.quoted s ++ ");\n") =
      some (compileError (Text.quoted s)) := by
  have hcuts := cuts_call (by simp [Text.toList_quoted]) (cuts_argument s)
  have htext : ("::core::compile_error!(" ++ Text.quoted s ++ ");\n").toList =
      ':' :: (":core::compile_error!(".toList ++ ((Text.quoted s).toList ++ [')', ';', '\n'])) := by
    simp only [String.toList_append, List.append_assoc]
    rfl
  rw [tokenize_of_cuts htext (by decide) hcuts]
  rfl

/-! ### Reports -/

theorem length_codeText (c : DiagnosticCode) : c.text.toList.length = 6 := by
  cases c <;> rfl

theorem codeText_injective {c e : DiagnosticCode} (h : c.text = e.text) : c = e := by
  cases c <;> cases e <;> first | rfl | exact absurd h (by decide)

/-- Codes have one length, so the code and the message can be told from what is read. -/
theorem reason_inj {c e : DiagnosticCode} {m n : String}
    (h : c.text ++ ": " ++ m = e.text ++ ": " ++ n) : c = e ∧ m = n := by
  have hchars := congrArg String.toList h
  simp only [String.toList_append, List.append_assoc] at hchars
  obtain ⟨hcode, hrest⟩ := List.append_inj hchars (by rw [length_codeText, length_codeText])
  exact ⟨codeText_injective (String.toList_inj.mp hcode),
    String.toList_inj.mp (List.append_cancel_left hrest)⟩

/-- **Different reports have different texts.** -/
theorem rejectionText_inj {d e : Diagnostic} (h : rejectionText d = rejectionText e) :
    d.code = e.code ∧ d.message = e.message := by
  unfold rejectionText at h
  have hcall := (String.append_left_inj _).mp h
  have hquoted := (String.append_right_inj _).mp hcall
  exact reason_inj (Text.quoted_injective hquoted)

/-- **A rejected wrapper's text carries its report.**  It is one line that calls the compiler
with one literal.  The literal holds nothing but characters with a glyph, and stands for the
code and the message, whatever they are; so the text tells the two. -/
theorem rejectionText_carries (d : Diagnostic) :
    (∃ literal : String,
      rejectionText d = "::core::compile_error!(" ++ literal ++ ");\n" ∧
        (∀ c ∈ literal.toList, c ≠ '\n' ∧ Text.IsShown c) ∧
        tokenize (rejectionText d) = some (compileError literal) ∧
        LiteralForm.ofSpelling literal = .text ∧
        textValue literal = some (d.code.text ++ ": " ++ d.message)) ∧
      ∀ e : Diagnostic,
        rejectionText d = rejectionText e ↔ d.code = e.code ∧ d.message = e.message := by
  constructor
  · refine ⟨Text.quoted (d.code.text ++ ": " ++ d.message), rfl, ?_, tokenize_call _,
      Text.ofSpelling_quoted _, Text.textValue_quoted _⟩
    intro c hc
    exact ⟨fun h => newline_notMem_quoted _ (h ▸ hc), Text.isShown_of_mem_quoted hc⟩
  · refine fun e => ⟨rejectionText_inj, ?_⟩
    rintro ⟨hcode, hmessage⟩
    unfold rejectionText
    rw [hcode, hmessage]

end Newtype
