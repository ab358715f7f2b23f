/-!
# Writing into a buffer

A text is written piece by piece into a buffer of fixed size. A piece that does not
fit is refused and leaves the buffer as it is.

* `Buffer` — the bytes, and how many of them have been written.
* `Buffer.write`, `Buffer.writeAll` — writing pieces.
* `tryFormat` — a whole text.
-/

namespace Newtype

/-- A buffer that is filled from its start. -/
structure Buffer where
  bytes : List UInt8
  written : Nat
  deriving DecidableEq

namespace Buffer

/-- Writes a piece, if it fits. -/
def write (b : Buffer) (piece : List UInt8) : Option Buffer :=
  let stop := b.written + piece.length
  if stop ≤ b.bytes.length then
    some ⟨b.bytes.take b.written ++ piece ++ b.bytes.drop stop, stop⟩
  else none

/-- Writes pieces up to the first that does not fit, and tells whether all do. -/
def writeAll (b : Buffer) : List (List UInt8) → Buffer × Bool
  | [] => (b, true)
  | p :: ps =>
    match b.write p with
    | some b' => b'.writeAll ps
    | none => (b, false)

end Buffer

/-- Writes a text in pieces: the number of bytes written if it fits, and the bytes of
the buffer afterwards. -/
def tryFormat (pieces : List String) (bytes : List UInt8) : Option Nat × List UInt8 :=
  let (b, fits) := Buffer.writeAll ⟨bytes, 0⟩ (pieces.map fun s => s.toUTF8.toList)
  (if fits then some b.written else none, b.bytes)

end Newtype
