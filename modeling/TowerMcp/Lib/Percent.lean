import Mathlib.Data.Nat.Notation
import Mathlib.Tactic.Common

/-!
# Percent encoding

Bytes written as themselves, as `%` and two hexadecimal digits or, in form encoding, a space as `+`.
`decode_of_encoded` says that every such writing is read back, and `decode_eq_self_iff` which bytes
are read as themselves.
-/

namespace Percent

/-- The value of a hexadecimal digit in either case. -/
def hexValue (byte : UInt8) : Option ℕ :=
  let code := byte.toNat
  if 48 ≤ code ∧ code ≤ 57 then some (code - 48)
  else if 65 ≤ code ∧ code ≤ 70 then some (code - 55)
  else if 97 ≤ code ∧ code ≤ 102 then some (code - 87)
  else none

/-- The byte that two digits stand for. -/
def escape (high low : UInt8) : Option UInt8 :=
  match hexValue high, hexValue low with
  | some high, some low => some (UInt8.ofNat (high * 16 + low))
  | _, _ => none

/-- The byte that the next two digits stand for. -/
def escapeOf : List UInt8 → Option UInt8
  | high :: low :: _ => escape high low
  | _ => none

/-- Read back the bytes after `skip` more that an escape has taken. -/
def decodeFrom (plus : Bool) : ℕ → List UInt8 → List UInt8
  | _, [] => []
  | skip + 1, _ :: rest => decodeFrom plus skip rest
  | 0, byte :: rest =>
    match if byte = 37 then escapeOf rest else none with
    | some decoded => decoded :: decodeFrom plus 2 rest
    | none => (if plus = true ∧ byte = 43 then 32 else byte) :: decodeFrom plus 0 rest

/-- Read back escapes and, when `plus` is set, `+` as a space. A malformed escape stands for itself. -/
def decode (plus : Bool) (text : List UInt8) : List UInt8 :=
  decodeFrom plus 0 text

/-- The ways to write a byte. -/
inductive EncodedByte (plus : Bool) (byte : UInt8) : List UInt8 → Prop
  | literal (hpercent : byte ≠ 37) (hplus : plus = true → byte ≠ 43) : EncodedByte plus byte [byte]
  | escaped {high low : UInt8} (hescape : escape high low = some byte) :
      EncodedByte plus byte [37, high, low]
  | space (hplus : plus = true) (hbyte : byte = 32) : EncodedByte plus byte [43]

/-- The ways to write bytes. -/
inductive Encoded (plus : Bool) : List UInt8 → List UInt8 → Prop
  | nil : Encoded plus [] []
  | cons {byte : UInt8} {rest first more : List UInt8} (hfirst : EncodedByte plus byte first)
      (hmore : Encoded plus rest more) : Encoded plus (byte :: rest) (first ++ more)

variable {plus : Bool} {bytes text : List UInt8}

theorem decode_cons_of_ne {byte : UInt8} (h : byte ≠ 37) (rest : List UInt8) :
    decode plus (byte :: rest) =
      (if plus = true ∧ byte = 43 then 32 else byte) :: decode plus rest := by
  rw [decode, decodeFrom, if_neg h]
  rfl

theorem decode_escape {high low decoded : UInt8} (h : escape high low = some decoded)
    (rest : List UInt8) : decode plus (37 :: high :: low :: rest) = decoded :: decode plus rest := by
  rw [decode, decodeFrom, if_pos rfl, escapeOf, h]
  rfl

theorem decode_of_encoded (h : Encoded plus bytes text) : decode plus text = bytes := by
  induction h with
  | nil => rfl
  | cons hfirst hmore ih =>
    cases hfirst with
    | literal hpercent hplus =>
      rw [List.singleton_append, decode_cons_of_ne hpercent, if_neg fun h => hplus h.1 h.2, ih]
    | escaped hescape => exact (decode_escape hescape _).trans (congrArg _ ih)
    | space hplus hbyte =>
      rw [List.singleton_append, decode_cons_of_ne (by decide), if_pos ⟨hplus, rfl⟩, ih, hbyte]

/-- What is no digit ends the text before it. -/
theorem decode_append_cons {byte : UInt8} (h : hexValue byte = none) (before rest : List UInt8) :
    decode plus (before ++ byte :: rest) = decode plus before ++ decode plus (byte :: rest) := by
  have hskip (skip : ℕ) (hle : skip ≤ before.length) :
      decodeFrom plus skip (before ++ byte :: rest) =
        decodeFrom plus skip before ++ decode plus (byte :: rest) := by
    induction before generalizing skip with
    | nil =>
      rw [List.length_nil, Nat.le_zero] at hle
      rw [hle]
      rfl
    | cons first more ih =>
      cases skip with
      | succ skip => exact ih skip (Nat.le_of_succ_le_succ hle)
      | zero =>
        have hescape : escapeOf (more ++ byte :: rest) = escapeOf more := by
          match more with
          | [] => cases rest <;> simp [escapeOf, escape, h]
          | [high] => simp [escapeOf, escape, h]
          | high :: low :: _ => rfl
        rw [List.cons_append, decodeFrom, decodeFrom, hescape]
        split
        next hread =>
          have htwo : 2 ≤ more.length := by
            split at hread
            next =>
              match more with
              | [] => cases hread
              | [_] => cases hread
              | _ :: _ :: _ => simp
            next => cases hread
          rw [ih 2 htwo, List.cons_append]
        next => rw [ih 0 (Nat.zero_le _), List.cons_append]
  exact hskip 0 (Nat.zero_le _)

theorem ne_plus_of_escape {high low decoded : UInt8} (h : escape high low = some decoded) :
    43 ≠ high ∧ 43 ≠ low := by
  have hnone : hexValue 43 = none := rfl
  constructor
  · rintro rfl
    simp [escape, hnone] at h
  · rintro rfl
    simp [escape, hnone] at h

theorem decode_without_plus_iff (h : Encoded true bytes text) :
    decode false text = bytes ↔ (43 : UInt8) ∉ text := by
  induction h with
  | nil => simp [decode, decodeFrom]
  | cons hfirst hmore ih =>
    cases hfirst with
    | literal hpercent hplus =>
      rw [List.singleton_append, decode_cons_of_ne hpercent]
      simp [ih, Ne.symm (hplus rfl)]
    | escaped hescape =>
      have hplus := ne_plus_of_escape hescape
      rw [List.cons_append, List.cons_append, List.singleton_append, decode_escape hescape,
        List.cons.injEq, ih]
      simp [hplus]
    | space hplus hbyte =>
      rw [List.singleton_append, decode_cons_of_ne (by decide), hbyte]
      simp

/-- An upper-case hexadecimal digit. -/
def hexDigit (n : ℕ) : UInt8 :=
  UInt8.ofNat (if n < 10 then 48 + n else 55 + n)

/-- Write the bytes that are to be kept as themselves and escape the others. -/
def encode (kept : UInt8 → Bool) (bytes : List UInt8) : List UInt8 :=
  bytes.flatMap fun byte =>
    if kept byte then [byte] else [37, hexDigit (byte.toNat / 16), hexDigit (byte.toNat % 16)]

theorem hex_value_hex_digit {n : ℕ} (h : n < 16) : hexValue (hexDigit n) = some n := by
  have hall : ∀ m : Fin 16, hexValue (hexDigit m.val) = some m.val := by decide
  exact hall ⟨n, h⟩

theorem escape_hex_digits (byte : UInt8) :
    escape (hexDigit (byte.toNat / 16)) (hexDigit (byte.toNat % 16)) = some byte := by
  have hbyte := byte.toNat_lt
  have hvalue : byte.toNat / 16 * 16 + byte.toNat % 16 = byte.toNat := by omega
  unfold escape
  rw [hex_value_hex_digit (by omega), hex_value_hex_digit (by omega)]
  show some (UInt8.ofNat (byte.toNat / 16 * 16 + byte.toNat % 16)) = some byte
  rw [hvalue, UInt8.ofNat_toNat]

theorem encoded_encode {kept : UInt8 → Bool} (hpercent : kept 37 = false)
    (hplus : plus = true → kept 43 = false) (bytes : List UInt8) :
    Encoded plus bytes (encode kept bytes) := by
  induction bytes with
  | nil => exact .nil
  | cons byte rest ih =>
    show Encoded plus (byte :: rest) ((if kept byte then [byte] else
      [37, hexDigit (byte.toNat / 16), hexDigit (byte.toNat % 16)]) ++ encode kept rest)
    refine .cons ?_ ih
    split
    next hkept =>
      refine .literal ?_ fun hset => ?_
      · rintro rfl
        rw [hpercent] at hkept
        cases hkept
      · rintro rfl
        rw [hplus hset] at hkept
        cases hkept
    next => exact .escaped (escape_hex_digits byte)

theorem mem_encode {kept : UInt8 → Bool} {byte : UInt8} (h : byte ∈ encode kept bytes) :
    kept byte = true ∨ byte = 37 ∨ ∃ n < 16, byte = hexDigit n := by
  obtain ⟨source, -, hmem⟩ := List.mem_flatMap.1 h
  split at hmem
  next hkept => exact .inl (List.mem_singleton.1 hmem ▸ hkept)
  next =>
    have hsource := source.toNat_lt
    simp only [List.mem_cons, List.not_mem_nil, or_false] at hmem
    rcases hmem with rfl | rfl | rfl
    · exact .inr (.inl rfl)
    · exact .inr (.inr ⟨_, by omega, rfl⟩)
    · exact .inr (.inr ⟨_, by omega, rfl⟩)

/-- Whether an escape stands somewhere. -/
def hasEscape : List UInt8 → Bool
  | [] => false
  | byte :: rest => (byte == 37 && (escapeOf rest).isSome) || hasEscape rest

theorem length_decode_from_le (plus : Bool) (skip : ℕ) (text : List UInt8) :
    (decodeFrom plus skip text).length ≤ text.length - skip := by
  induction text generalizing skip with
  | nil => exact Nat.zero_le _
  | cons byte rest ih =>
    cases skip with
    | succ skip =>
      have hrest := ih skip
      rw [decodeFrom, List.length_cons]
      omega
    | zero =>
      have hplain := ih 0
      have hescape := ih 2
      unfold decodeFrom
      split
      next => simp only [List.length_cons]; omega
      next => simp only [List.length_cons]; omega

theorem decode_eq_self_iff : decode plus text = text ↔
    hasEscape text = false ∧ (plus = true → (43 : UInt8) ∉ text) := by
  induction text with
  | nil => simp [decode, decodeFrom, hasEscape]
  | cons byte rest ih =>
    rw [hasEscape]
    by_cases hpercent : byte = 37
    · subst hpercent
      have hplus : (43 : UInt8) ∉ 37 :: rest ↔ (43 : UInt8) ∉ rest := by simp
      rw [decode, decodeFrom, if_pos rfl, hplus]
      cases hescape : escapeOf rest with
      | some decoded =>
        refine iff_of_false (fun heq => ?_) (by simp)
        have hshort := length_decode_from_le plus 2 rest
        have hlength := congrArg List.length heq
        simp only [List.length_cons] at hlength
        cases rest with
        | nil => cases hescape
        | cons => simp only [List.length_cons] at hshort hlength; omega
      | none => simpa [decode] using ih
    · rw [decode_cons_of_ne hpercent, List.cons.injEq, ih]
      by_cases hspace : plus = true ∧ byte = 43
      · rw [if_pos hspace, hspace.2]
        exact iff_of_false (fun h => absurd h.1 (by decide))
          fun h => h.2 hspace.1 List.mem_cons_self
      · rw [if_neg hspace]
        have hother : plus = true → 43 ≠ byte := fun h heq => hspace ⟨h, heq.symm⟩
        simp only [true_and, beq_eq_false_iff_ne.2 hpercent, Bool.false_and, Bool.false_or]
        refine and_congr_right fun _ => forall_congr' fun h => ?_
        simp [hother h]

end Percent
