import TowerMcp.Lib.Percent
import TowerMcp.Types.Text

/-!
# Components of a query

`decode_query_component` of `resource.rs`, with its loop over indices.
-/

namespace TowerMcp.QueryComponents

open Percent

def decodeLoop (bytes out : List UInt8) (i : ℕ) : Option (List UInt8) :=
  if i < bytes.length then
    bytes[i]?.bind fun byte =>
      if byte = 43 then decodeLoop bytes (out ++ [32]) (i + 1)
      else if byte = 37 ∧ i + 2 < bytes.length then
        bytes[i + 1]?.bind fun high => bytes[i + 2]?.bind fun low =>
          match escape high low with
          | some decoded => decodeLoop bytes (out ++ [decoded]) (i + 3)
          | none => decodeLoop bytes (out ++ [byte]) (i + 1)
      else decodeLoop bytes (out ++ [byte]) (i + 1)
  else some out
termination_by bytes.length - i

def decodeQueryComponent (value : String) : Option String :=
  (decodeLoop (utf8Bytes value) [] 0).map fun out => (fromUtf8 out).getD value

theorem decode_percent (rest : List UInt8) :
    decode true (37 :: rest) =
      match escapeOf rest with
      | some decoded => decoded :: decode true (rest.drop 2)
      | none => 37 :: decode true rest := by
  match rest with
  | [] => rfl
  | [_] => rfl
  | high :: low :: rest =>
    rw [decode, decodeFrom, if_pos rfl]
    rfl

theorem decode_loop_eq (bytes out : List UInt8) (i : ℕ) :
    decodeLoop bytes out i = some (out ++ decode true (bytes.drop i)) := by
  fun_induction decodeLoop bytes out i with
  | case1 out i hi ihPlus ihEscape ihMalformed ihLiteral =>
    rw [List.getElem?_eq_getElem hi, Option.bind_some, List.drop_eq_getElem_cons hi]
    generalize bytes[i] = byte at *
    by_cases hplus : byte = 43
    · rw [if_pos hplus, ihPlus, hplus, decode_cons_of_ne (by decide), if_pos ⟨rfl, rfl⟩]
      simp
    · rw [if_neg hplus]
      by_cases hpercent : byte = 37
      · rw [hpercent, decode_percent]
        by_cases hlong : i + 2 < bytes.length
        · have hhigh := List.drop_eq_getElem_cons (Nat.lt_of_succ_lt hlong)
          rw [if_pos ⟨rfl, hlong⟩, List.getElem?_eq_getElem (Nat.lt_of_succ_lt hlong),
            List.getElem?_eq_getElem hlong, hhigh, List.drop_eq_getElem_cons hlong, escapeOf]
          dsimp only [Option.bind_some]
          cases escape bytes[i + 1] bytes[i + 2] with
          | some decoded => simp [ihEscape 37 ⟨rfl, hlong⟩]
          | none =>
            rw [ihLiteral, hhigh, List.drop_eq_getElem_cons hlong, List.append_assoc]
            rfl
        · have hnone : escapeOf (bytes.drop (i + 1)) = none := by
            have hlength : (bytes.drop (i + 1)).length < 2 := by
              rw [List.length_drop]
              omega
            generalize bytes.drop (i + 1) = rest at hlength ⊢
            rcases rest with _ | ⟨first, _ | ⟨second, rest⟩⟩
            · rfl
            · rfl
            · simp only [List.length_cons] at hlength
              omega
          rw [if_neg fun h => hlong h.2, ihLiteral, hnone]
          simp
      · rw [if_neg fun h => hpercent h.1, ihLiteral, decode_cons_of_ne hpercent,
          if_neg fun h => hplus h.2]
        simp
  | case2 out i hi =>
    rw [List.drop_eq_nil_of_le (Nat.le_of_not_lt hi)]
    simp [decode, decodeFrom]

/-! ## Characters that take more than one byte -/

theorem utf8_bytes_append (first second : String) :
    utf8Bytes (first ++ second) = utf8Bytes first ++ utf8Bytes second := by
  unfold utf8Bytes
  rw [String.toByteArray_append, ByteArray.data_append, Array.toList_append]

theorem utf8_bytes_singleton (c : Char) :
    utf8Bytes (String.singleton c) = String.utf8EncodeChar c := by
  unfold utf8Bytes
  rw [String.toByteArray_singleton, List.utf8Encode_singleton, List.data_toByteArray]

theorem high_bytes {c : Char} (h : 128 ≤ c.toNat) :
    ∀ byte ∈ String.utf8EncodeChar c, 128 ≤ byte.toNat := by
  intro byte hbyte
  have hvalue : 128 ≤ c.val.toNat := h
  have hrange : c.val.toNat < 1114112 := by
    rcases c.valid with hlow | ⟨-, hless⟩
    · exact hlow.trans (by decide)
    · exact hless
  have hhigh : ∀ n, 128 ≤ n → n < 256 → 128 ≤ (UInt8.ofNat n).toNat := fun n hlow hless => by
    rw [UInt8.toNat_ofNat', Nat.mod_eq_of_lt hless]
    exact hlow
  unfold String.utf8EncodeChar at hbyte
  dsimp only at hbyte
  split at hbyte
  next => omega
  next =>
    split at hbyte
    next =>
      simp only [List.mem_cons, List.not_mem_nil, or_false] at hbyte
      rcases hbyte with rfl | rfl <;> exact hhigh _ (by omega) (by omega)
    next =>
      split at hbyte
      next =>
        simp only [List.mem_cons, List.not_mem_nil, or_false] at hbyte
        rcases hbyte with rfl | rfl | rfl <;> exact hhigh _ (by omega) (by omega)
      next =>
        simp only [List.mem_cons, List.not_mem_nil, or_false] at hbyte
        rcases hbyte with rfl | rfl | rfl | rfl <;> exact hhigh _ (by omega) (by omega)

theorem hex_value_of_high {byte : UInt8} (h : 128 ≤ byte.toNat) : hexValue byte = none := by
  unfold hexValue
  dsimp only
  rw [if_neg (by omega), if_neg (by omega), if_neg (by omega)]

theorem decode_high {high : List UInt8} (h : ∀ byte ∈ high, 128 ≤ byte.toNat)
    (before rest : List UInt8) (hnonempty : high ≠ []) :
    decode true (before ++ high ++ rest) = decode true before ++ high ++ decode true rest := by
  have hread (high : List UInt8) (h : ∀ byte ∈ high, 128 ≤ byte.toNat) :
      decode true (high ++ rest) = high ++ decode true rest := by
    induction high with
    | nil => rfl
    | cons byte more ih =>
      have hbyte := h byte List.mem_cons_self
      have hplain : byte ≠ 37 ∧ byte ≠ 43 := by
        constructor
        · rintro rfl
          exact absurd hbyte (by decide)
        · rintro rfl
          exact absurd hbyte (by decide)
      rw [List.cons_append, decode_cons_of_ne hplain.1, if_neg fun h => hplain.2 h.2,
        ih fun byte hmem => h byte (List.mem_cons_of_mem _ hmem), List.cons_append]
  cases high with
  | nil => exact absurd rfl hnonempty
  | cons byte more =>
    rw [List.append_assoc, List.cons_append,
      decode_append_cons (hex_value_of_high (h byte List.mem_cons_self)), ← List.cons_append,
      hread _ h, List.append_assoc]

/-- Every form encoding of a text is read back. On any input the loop ends and reads no byte behind
the text. What is not UTF-8 stays as it is written, a malformed escape stays where it stands, and a
character of several bytes is neither changed nor taken into an escape. -/
theorem query_component_decoded (value : String) :
    (∀ text, Encoded true (utf8Bytes text) (utf8Bytes value) →
        decodeQueryComponent value = some text) ∧
      decodeQueryComponent value =
        some ((fromUtf8 (decode true (utf8Bytes value))).getD value) ∧
      (∀ before rest, utf8Bytes value = before ++ 37 :: rest → escapeOf rest = none →
        decode true (utf8Bytes value) = decode true before ++ 37 :: decode true rest) ∧
      ∀ before c rest, value = before ++ String.singleton c ++ rest → 128 ≤ c.toNat →
        decode true (utf8Bytes value) =
          decode true (utf8Bytes before) ++ String.utf8EncodeChar c ++
            decode true (utf8Bytes rest) := by
  have hloop : decodeQueryComponent value =
      some ((fromUtf8 (decode true (utf8Bytes value))).getD value) := by
    unfold decodeQueryComponent
    rw [decode_loop_eq, List.nil_append, List.drop_zero]
    rfl
  refine ⟨fun text hencoded => ?_, hloop, fun before rest hvalue hmalformed => ?_,
    fun before c rest hvalue hwide => ?_⟩
  · rw [hloop, decode_of_encoded hencoded, from_utf8_utf8_bytes]
    rfl
  · rw [hvalue, decode_append_cons rfl, decode_percent, hmalformed]
  · rw [hvalue, utf8_bytes_append, utf8_bytes_append, utf8_bytes_singleton]
    refine decode_high (high_bytes hwide) _ _ fun hempty => ?_
    have hsize := congrArg List.length hempty
    rw [String.length_utf8EncodeChar] at hsize
    exact absurd hsize c.utf8Size_pos.ne'

end TowerMcp.QueryComponents
