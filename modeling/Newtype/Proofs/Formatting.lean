import Newtype.Catalog.Buffer
import Newtype.Catalog.Samples
import Newtype.Proofs.Encoding

/-!
# Texts in buffers

A text comes to a buffer in pieces: a sign, some digits, padding, cut in any way.  A piece is
written behind the earlier ones or not at all, so at every moment the buffer holds the pieces
so far and behind them the bytes that were there before.  Where the cuts are does not matter
for a text that fits; for one that does not, they tell only how much of it is left behind.

* `Buffer.filled` — a buffer into which some bytes have been written.
* `Buffer.write_filled`, `Buffer.write_filled_of_lt` — **one piece.**
* `Buffer.writeAll_filled`, `Buffer.writeAll_filled_of_lt` — **any number of pieces.**
* `tryFormat_of_le`, `tryFormat_of_lt` — a text that fits, and one that does not.
* `tryFormat_display` — **the text of a wrapped value in any pieces and any buffer.**
-/

namespace Newtype
namespace Buffer

/-- The buffer that held some bytes at first, after a text has been written into it. -/
def filled (bytes text : List UInt8) : Buffer := ⟨text ++ bytes.drop text.length, text.length⟩

variable {bytes text : List UInt8}

theorem length_filled (h : text.length ≤ bytes.length) :
    (filled bytes text).bytes.length = bytes.length := by
  simp only [filled, List.length_append, List.length_drop]
  omega

/-- A piece that fits goes behind the earlier ones. -/
theorem write_filled {piece : List UInt8} (h : text.length + piece.length ≤ bytes.length) :
    (filled bytes text).write piece = some (filled bytes (text ++ piece)) := by
  have htext : text.length ≤ bytes.length := by omega
  have hfits : (filled bytes text).written + piece.length ≤ (filled bytes text).bytes.length := by
    rw [length_filled htext]
    exact h
  rw [write, if_pos hfits]
  simp [filled, List.drop_append, List.drop_drop, List.append_assoc]

/-- A piece that does not fit is refused. -/
theorem write_filled_of_lt {piece : List UInt8} (htext : text.length ≤ bytes.length)
    (h : bytes.length < text.length + piece.length) : (filled bytes text).write piece = none := by
  rw [write, if_neg]
  rw [length_filled htext]
  exact Nat.not_le.mpr h

/-- **Pieces that fit together are all written.**  The induction is on the pieces, with the
text so far as a parameter. -/
theorem writeAll_filled {pieces : List (List UInt8)}
    (h : text.length + pieces.flatten.length ≤ bytes.length) :
    (filled bytes text).writeAll pieces = (filled bytes (text ++ pieces.flatten), true) := by
  induction pieces generalizing text with
  | nil => rw [writeAll, List.flatten_nil, List.append_nil]
  | cons piece pieces ih =>
    rw [List.flatten_cons, List.length_append] at h
    have hnext : (text ++ piece).length + pieces.flatten.length ≤ bytes.length := by
      rw [List.length_append]
      omega
    rw [writeAll, write_filled (by omega), List.flatten_cons, ← List.append_assoc]
    exact ih hnext

/-- **Of pieces that do not fit together, those before the first that is too long are
written.** -/
theorem writeAll_filled_of_lt {pieces : List (List UInt8)} (htext : text.length ≤ bytes.length)
    (h : bytes.length < text.length + pieces.flatten.length) :
    ∃ front piece rest, pieces = front ++ piece :: rest ∧
      (text ++ front.flatten).length ≤ bytes.length ∧
      bytes.length < (text ++ front.flatten).length + piece.length ∧
      (filled bytes text).writeAll pieces = (filled bytes (text ++ front.flatten), false) := by
  induction pieces generalizing text with
  | nil =>
    rw [List.flatten_nil, List.length_nil] at h
    omega
  | cons first pieces ih =>
    by_cases hfirst : text.length + first.length ≤ bytes.length
    · rw [List.flatten_cons, List.length_append, ← Nat.add_assoc, ← List.length_append] at h
      obtain ⟨front, piece, rest, rfl, hfront, hpiece, hall⟩ :=
        ih (List.length_append ▸ hfirst) h
      rw [List.append_assoc, ← List.flatten_cons] at hfront hpiece hall
      refine ⟨first :: front, piece, rest, rfl, hfront, hpiece, ?_⟩
      rw [writeAll, write_filled hfirst]
      exact hall
    · refine ⟨[], first, pieces, rfl, ?_⟩
      rw [List.flatten_nil, List.append_nil]
      refine ⟨htext, Nat.not_le.mp hfirst, ?_⟩
      rw [writeAll, write_filled_of_lt htext (Nat.not_le.mp hfirst)]

end Buffer

/-! ### Whole texts -/

section

variable {pieces : List String} {bytes : List UInt8}

theorem tryFormat_eq (pieces : List String) (bytes : List UInt8) :
    tryFormat pieces bytes =
      let (b, fits) := (Buffer.filled bytes []).writeAll (pieces.map utf8)
      (if fits then some b.written else none, b.bytes) := rfl

/-- A text that fits is written, wherever it is cut. -/
theorem tryFormat_of_le (h : (utf8 (String.join pieces)).length ≤ bytes.length) :
    tryFormat pieces bytes = (some (utf8 (String.join pieces)).length,
      utf8 (String.join pieces) ++ bytes.drop (utf8 (String.join pieces)).length) := by
  rw [utf8_join] at h ⊢
  rw [tryFormat_eq, Buffer.writeAll_filled (by simpa using h)]
  rfl

/-- Of a text that does not fit, some bytes at its start are written. -/
theorem tryFormat_of_lt (h : bytes.length < (utf8 (String.join pieces)).length) :
    ∃ k ≤ bytes.length, tryFormat pieces bytes =
      (none, (utf8 (String.join pieces)).take k ++ bytes.drop k) := by
  rw [utf8_join] at h ⊢
  have hempty : ([] : List UInt8).length ≤ bytes.length := Nat.zero_le _
  have hlt : bytes.length < ([] : List UInt8).length + (pieces.map utf8).flatten.length := by
    rwa [List.length_nil, Nat.zero_add]
  obtain ⟨front, piece, rest, hsplit, hfits, -, hall⟩ := Buffer.writeAll_filled_of_lt hempty hlt
  rw [List.nil_append] at hfits hall
  have hfront : (pieces.map utf8).flatten.take front.flatten.length = front.flatten := by
    rw [hsplit, List.flatten_append, List.take_left]
  refine ⟨front.flatten.length, hfits, ?_⟩
  rw [tryFormat_eq, hall, hfront]
  rfl

end

/-- **The text of a wrapped value in any pieces and any buffer.**  The value has some text
form, as numbers have theirs, and its ordinary text comes to the buffer in pieces.  It is
written if the buffer has as many bytes as the text, and no byte behind it changes.
Otherwise it is refused, and all that has changed is that some bytes at the start of the
buffer are now those at the start of the text. -/
theorem tryFormat_display {α : Type} {w : Wrapper α} (display : Style → α → String)
    (x : Wrapped w) (pieces : List String) (hpieces : String.join pieces = display {} x.value)
    (bytes : List UInt8) :
    let text := utf8 (display {} x.value)
    ((∃ n, (tryFormat pieces bytes).1 = some n) ↔ text.length ≤ bytes.length) ∧
    (text.length ≤ bytes.length →
      tryFormat pieces bytes = (some text.length, text ++ bytes.drop text.length)) ∧
    (bytes.length < text.length →
      ∃ k, k < text.length ∧ k ≤ bytes.length ∧
        tryFormat pieces bytes = (none, text.take k ++ bytes.drop k)) := by
  intro text
  have htext : utf8 (String.join pieces) = text := congrArg utf8 hpieces
  have hfits : text.length ≤ bytes.length →
      tryFormat pieces bytes = (some text.length, text ++ bytes.drop text.length) := by
    rw [← htext]
    exact tryFormat_of_le
  have hrefused : bytes.length < text.length → ∃ k, k < text.length ∧ k ≤ bytes.length ∧
      tryFormat pieces bytes = (none, text.take k ++ bytes.drop k) := by
    rw [← htext]
    intro hlt
    obtain ⟨k, hk, hafter⟩ := tryFormat_of_lt hlt
    exact ⟨k, Nat.lt_of_le_of_lt hk hlt, hk, hafter⟩
  refine ⟨⟨?_, fun hle => ⟨text.length, by rw [hfits hle]⟩⟩, hfits, hrefused⟩
  rintro ⟨n, hn⟩
  refine Nat.not_lt.mp fun hlt => ?_
  obtain ⟨k, -, -, hafter⟩ := hrefused hlt
  rw [hafter] at hn
  cases hn

/-- A sign and two digits, with a byte to spare, with none, and with one too few. -/
theorem tryFormat_display_negative :
    String.join ["-", "42"] = IntType.display {} (-42) ∧
    tryFormat ["-", "42"] [0, 0, 0, 9] = (some 3, [45, 52, 50, 9]) ∧
    tryFormat ["-", "42"] [0, 0, 0] = (some 3, [45, 52, 50]) ∧
    ∃ k, k < 3 ∧ k ≤ 2 ∧
      tryFormat ["-", "42"] [0, 0] = (none, [45, 52, 50].take k ++ [0, 0].drop k) := by
  have hpieces : String.join ["-", "42"] = IntType.display {} (-42) := by decide
  have hutf8 : utf8 (IntType.display {} (-42)) = [45, 52, 50] := by
    rw [utf8_eq]
    decide
  have hspec := tryFormat_display IntType.display (w := Catalog.scoreId) ⟨-42⟩ _ hpieces
  simp only [hutf8] at hspec
  exact ⟨hpieces, (hspec [0, 0, 0, 9]).2.1 (by decide), (hspec [0, 0, 0]).2.1 (by decide),
    (hspec [0, 0]).2.2 (by decide)⟩

end Newtype
