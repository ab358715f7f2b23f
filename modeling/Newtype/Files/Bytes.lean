/-!
# Bytes as text

Reading bytes as UTF-8. Where bytes are no text, each longest piece that starts like
a character but cannot be continued is shown as one replacement character.

* `scanUtf8` — the first character of some bytes, or how many bytes cannot be read.
* `decodeLossy` — bytes as text, with replacement characters.
* `decode?` — bytes as text, if all of them are.
-/

namespace Newtype
namespace Files

/-- The bounds of the second byte behind a first byte, and the number of bytes behind
the first; nothing if no character starts with it. -/
def secondByte (b : Nat) : Option (Nat × Nat × Nat) :=
  if 0xc2 ≤ b && b ≤ 0xdf then some (0x80, 0xbf, 1)
  else if b == 0xe0 then some (0xa0, 0xbf, 2)
  else if b == 0xed then some (0x80, 0x9f, 2)
  else if 0xe1 ≤ b && b ≤ 0xef then some (0x80, 0xbf, 2)
  else if b == 0xf0 then some (0x90, 0xbf, 3)
  else if b == 0xf4 then some (0x80, 0x8f, 3)
  else if 0xf1 ≤ b && b ≤ 0xf3 then some (0x80, 0xbf, 3)
  else none

/-- The part of a character's number in its first byte. -/
def leadBits (b : Nat) : Nat :=
  if b < 0xe0 then b % 0x20 else if b < 0xf0 then b % 0x10 else b % 0x08

/-- The bytes behind the second one, `n` of them: the number they complete, or none if
one does not fit, with the number of bytes read. -/
def scanTail : Nat → Nat → Nat → List Nat → Option Nat × Nat
  | 0, value, read, _ => (some value, read)
  | n + 1, value, read, b :: bs =>
    if 0x80 ≤ b && b ≤ 0xbf then scanTail n (value * 64 + b % 64) (read + 1) bs
    else (none, read)
  | _ + 1, _, read, [] => (none, read)

/-- The first character of some bytes, if they start with one, and how many bytes it
or the unreadable piece takes. -/
def scanUtf8 : List Nat → Option Nat × Nat
  | [] => (none, 0)
  | b :: bs =>
    if b < 0x80 then (some b, 1)
    else
      match secondByte b, bs with
      | some (lo, hi, more), c :: cs =>
        if lo ≤ c && c ≤ hi then scanTail (more - 1) (leadBits b * 64 + c % 64) 2 cs
        else (none, 1)
      | _, _ => (none, 1)

/-- The characters of some bytes, with the replacement character for what is none. -/
def decodeAtMost : Nat → List Nat → List (Option Nat)
  | 0, _ => []
  | _, [] => []
  | n + 1, bs => let r := scanUtf8 bs; r.1 :: decodeAtMost n (bs.drop r.2)

/-- Bytes as text, with replacement characters. -/
def decodeLossy (bs : List Nat) : String :=
  String.ofList ((decodeAtMost bs.length bs).map fun c => Char.ofNat (c.getD 0xfffd))

/-- Bytes as text, if all of them are. -/
def decode? (bs : List Nat) : Option String :=
  ((decodeAtMost bs.length bs).mapM id).map fun cs => String.ofList (cs.map Char.ofNat)

end Files
end Newtype
