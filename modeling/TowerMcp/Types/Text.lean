import Mathlib.Algebra.Group.Nat.Defs
import Mathlib.Data.List.DropRight
import Mathlib.Tactic.Common

/-!
# Texts

What the code uses of the string functions of the standard library: white space as Unicode has it,
trimming, prefixes and the parsing of decimal integers.
-/

namespace TowerMcp

def isWhitespace (c : Char) : Bool :=
  let code := c.toNat
  decide (0x9 ≤ code ∧ code ≤ 0xd) || decide (0x2000 ≤ code ∧ code ≤ 0x200a) ||
    [0x20, 0x85, 0xa0, 0x1680, 0x2028, 0x2029, 0x202f, 0x205f, 0x3000].contains code

def trim (text : List Char) : List Char :=
  (text.dropWhile isWhitespace).rdropWhile isWhitespace

def trimEndMatches (text : List Char) (c : Char) : List Char :=
  text.rdropWhile fun d => d == c

def stripPrefix (text start : List Char) : Option (List Char) :=
  if start.isPrefixOf text then some (text.drop start.length) else none

def bom : Char := Char.ofNat 0xfeff

def stripBom (text : List Char) : List Char :=
  (stripPrefix text [bom]).getD text

def parseDigits (digits : List Char) : Option ℕ :=
  if digits ≠ [] ∧ digits.all Char.isDigit then
    some (digits.foldl (fun n digit => 10 * n + (digit.toNat - '0'.toNat)) 0)
  else none

def parseU64 (text : List Char) : Option ℕ :=
  let digits := if text.head? = some '+' then text.tail else text
  (parseDigits digits).filter fun n => n < 2 ^ 64

def parseI64 (text : List Char) : Option ℤ :=
  match text with
  | '-' :: digits => ((parseDigits digits).filter fun n => n ≤ 2 ^ 63).map fun n => -(n : ℤ)
  | '+' :: digits => ((parseDigits digits).filter fun n => n < 2 ^ 63).map (↑)
  | digits => ((parseDigits digits).filter fun n => n < 2 ^ 63).map (↑)

example : trim "\u3000 a b\r\n".toList = "a b".toList := by decide

example : parseI64 "-12".toList = some (-12) := by decide

/-! ## Trimming -/

section Trimming

variable {α : Type*} {p q : α → Bool} {l : List α}

theorem trim_sublist (p : α → Bool) (l : List α) : ((l.dropWhile p).rdropWhile p).Sublist l :=
  have hend := List.rdropWhile_prefix p (l.dropWhile p)
  hend.sublist.trans (List.dropWhile_suffix p).sublist

theorem trim_eq_self_iff : (l.dropWhile p).rdropWhile p = l ↔
    l.dropWhile p = l ∧ l.rdropWhile p = l := by
  constructor
  · intro h
    have hinner : (l.dropWhile p).rdropWhile p = l.dropWhile p := by
      have hprefix := List.rdropWhile_prefix p (l.dropWhile p)
      refine hprefix.sublist.eq_of_length_le ?_
      rw [h]
      exact (List.dropWhile_suffix p).sublist.length_le
    have hstart : l.dropWhile p = l := hinner.symm.trans h
    rw [hstart] at hinner
    exact ⟨hstart, hinner⟩
  · rintro ⟨hstart, hend⟩
    rw [hstart, hend]

theorem trim_eq_self_of_le (hle : ∀ a, q a = true → p a = true)
    (h : (l.dropWhile p).rdropWhile p = l) : (l.dropWhile q).rdropWhile q = l := by
  obtain ⟨hstart, hend⟩ := trim_eq_self_iff.1 h
  refine trim_eq_self_iff.2 ⟨List.dropWhile_eq_self_iff.2 ?_, List.rdropWhile_eq_self_iff.2 ?_⟩
  · intro hl hq
    exact List.dropWhile_eq_self_iff.1 hstart hl (hle _ hq)
  · intro hl hq
    exact List.rdropWhile_eq_self_iff.1 hend hl (hle _ hq)

end Trimming

/-! ## The bytes of a text -/

def utf8Bytes (text : String) : List UInt8 :=
  text.toByteArray.data.toList

def fromUtf8 (bytes : List UInt8) : Option String :=
  String.fromUTF8? ⟨bytes.toArray⟩

theorem from_utf8_utf8_bytes (text : String) : fromUtf8 (utf8Bytes text) = some text := by
  have hbytes : (⟨(utf8Bytes text).toArray⟩ : ByteArray) = text.toByteArray := by
    rw [utf8Bytes, Array.toArray_toList]
  unfold fromUtf8 String.fromUTF8?
  rw [hbytes, dif_pos text.isValidUTF8]
  rfl

theorem length_le_size_utf8_encode (text : List Char) : text.length ≤ text.utf8Encode.size := by
  induction text with
  | nil => exact Nat.zero_le _
  | cons c rest ih =>
    have hsize : [c].utf8Encode.size = c.utf8Size := by
      rw [List.utf8Encode_singleton, List.size_toByteArray, String.length_utf8EncodeChar]
    have hpositive := c.utf8Size_pos
    rw [List.utf8Encode_cons, ByteArray.size_append, List.length_cons]
    omega

theorem length_le_of_from_utf8 {bytes : List UInt8} {text : String} (h : fromUtf8 bytes = some text) :
    text.toList.length ≤ bytes.length := by
  unfold fromUtf8 String.fromUTF8? at h
  split at h
  next hvalid =>
    cases h
    have hsize : (String.fromUTF8 ⟨bytes.toArray⟩ hvalid).toList.utf8Encode.size = bytes.length := by
      rw [String.utf8Encode_toList]
      rfl
    rw [← hsize]
    exact length_le_size_utf8_encode _
  next => cases h

end TowerMcp
