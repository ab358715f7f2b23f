import Mathlib.Data.List.Lex
import Mathlib.Data.String.Basic

/-!
# Texts as bytes

A text is kept as the bytes of its characters, one to four for each.  The bytes of two texts
are ordered as the texts are: the first byte of a character grows with the number of its
bytes, and among characters with the same number of bytes the bytes are digits of the code,
the highest first.

* `utf8` — the bytes of a text.
* `utf8_append`, `utf8_join` — pieces of a text.
* `encodeChar_append_lt` — one character decides.
* `utf8_lt_iff` — **the order of the bytes is the order of the texts.**
-/

namespace Newtype

/-- The bytes of a text. -/
def utf8 (s : String) : List UInt8 := s.toUTF8.toList

/-! ### Characters one after the other -/

/-- Reading bytes from some place on puts them behind those read before. -/
theorem toList_loop (bs : ByteArray) (i : Nat) (read : List UInt8) :
    ByteArray.toList.loop bs i read = read.reverse ++ bs.data.toList.drop i := by
  induction i, read using ByteArray.toList.loop.induct bs with
  | case1 i read hlt ih =>
    have hnext : bs.data.toList.drop i = bs.get! i :: bs.data.toList.drop (i + 1) := by
      rw [List.drop_eq_getElem_cons (show i < bs.data.toList.length from hlt), ByteArray.get!,
        getElem!_pos bs.data i hlt, Array.getElem_toList]
    rw [ByteArray.toList.loop, if_pos hlt, ih, hnext, List.reverse_cons, List.append_assoc,
      List.singleton_append]
  | case2 i read hge =>
    have hend : bs.data.toList.length ≤ i := Nat.le_of_not_lt hge
    rw [ByteArray.toList.loop, if_neg hge, List.drop_eq_nil_of_le hend, List.append_nil]

/-- The bytes of a text are those of its characters. -/
theorem utf8_eq (s : String) : utf8 s = s.toList.flatMap String.utf8EncodeChar := by
  have hdata : utf8 s = s.toByteArray.data.toList := toList_loop _ 0 []
  have htext : s.toByteArray = s.toList.utf8Encode := by
    rw [← String.toByteArray_ofList, String.ofList_toList]
  rw [hdata, htext, List.utf8Encode, List.toList_data_toByteArray]

@[simp] theorem utf8_append (s t : String) : utf8 (s ++ t) = utf8 s ++ utf8 t := by
  simp only [utf8_eq, String.toList_append, List.flatMap_append]

theorem utf8_join (pieces : List String) :
    utf8 (String.join pieces) = (pieces.map utf8).flatten := by
  induction pieces with
  | nil => simp [utf8_eq]
  | cons p pieces ih => rw [String.join_cons, utf8_append, ih, List.map_cons, List.flatten_cons]

/-! ### The order -/

/-- **One character decides**, whatever follows it. -/
theorem encodeChar_append_lt {c d : Char} (h : c < d) (xs ys : List UInt8) :
    String.utf8EncodeChar c ++ xs < String.utf8EncodeChar d ++ ys := by
  have hval : c.val.toNat < d.val.toNat := by
    rwa [Char.lt_def, UInt32.lt_iff_toNat_lt] at h
  have hmax : d.val.toNat < 1114112 := by
    rcases d.valid with hd | hd <;> omega
  generalize hu : c.val.toNat = u at hval
  generalize hv : d.val.toNat = v at hval hmax
  -- the codes are compared digit by digit, to base 64 and from the last digit up
  have hlast : u / 64 < v / 64 ∨ u / 64 = v / 64 ∧ u % 64 < v % 64 := by omega
  have hthird : u / 64 = v / 64 ∨ u / 4096 < v / 4096 ∨
      u / 4096 = v / 4096 ∧ u / 64 % 64 < v / 64 % 64 := by omega
  have hsecond : u / 4096 = v / 4096 ∨ u / 262144 < v / 262144 ∨
      u / 262144 = v / 262144 ∧ u / 4096 % 64 < v / 4096 % 64 := by omega
  simp only [String.utf8EncodeChar, hu, hv]
  -- the numbers of bytes are the same, or the first byte tells them apart
  split_ifs <;>
    simp (disch := omega) only [List.cons_append, List.nil_append, List.cons_lt_cons_iff,
      UInt8.lt_iff_toNat_lt, ← UInt8.toNat_inj, UInt8.toNat_ofNat', Nat.mod_eq_of_lt] <;>
    omega

theorem nil_lt_encodeChar_append (c : Char) (xs : List UInt8) :
    [] < String.utf8EncodeChar c ++ xs := by
  simp only [String.utf8EncodeChar]
  split_ifs <;> exact List.nil_lt_cons _ _

/-- The first characters that differ decide. -/
theorem flatMap_encodeChar_lt {cs : List Char} : ∀ {ds : List Char}, cs < ds →
    cs.flatMap String.utf8EncodeChar < ds.flatMap String.utf8EncodeChar := by
  induction cs with
  | nil =>
    intro ds h
    cases ds with
    | nil => exact absurd h (List.not_lt_nil _)
    | cons d ds => exact nil_lt_encodeChar_append d _
  | cons c cs ih =>
    intro ds h
    cases ds with
    | nil => exact absurd h (List.not_lt_nil _)
    | cons d ds =>
      rw [List.flatMap_cons, List.flatMap_cons]
      rcases List.cons_lt_cons_iff.mp h with hlt | ⟨rfl, hlt⟩
      · exact encodeChar_append_lt hlt _ _
      · exact List.append_left_lt (ih hlt)

theorem utf8_lt_of_lt {s t : String} (h : s < t) : utf8 s < utf8 t := by
  rw [utf8_eq, utf8_eq]
  exact flatMap_encodeChar_lt (String.lt_iff_toList_lt.mp h)

/-- **The order of the bytes is the order of the texts.** -/
theorem utf8_lt_iff {s t : String} : utf8 s < utf8 t ↔ s < t := by
  refine ⟨fun h => ?_, utf8_lt_of_lt⟩
  rcases lt_trichotomy s t with hlt | rfl | hgt
  · exact hlt
  · exact absurd h (List.lt_irrefl _)
  · exact absurd h (List.lt_asymm (utf8_lt_of_lt hgt))

end Newtype
