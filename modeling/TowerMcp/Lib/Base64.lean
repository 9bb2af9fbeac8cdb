import Mathlib.Tactic.Common

/-!
# Base64

The standard alphabet with canonical padding: three bytes are four digits, and what is left at the end
is padded. `decode_encode` is the round trip, `is_alphabet_of_mem_encode` says which characters an
encoding is made of, and `length_decode_le` that what is decoded is not longer than its encoding. The
URL-safe alphabet without padding is at the end, with `decode_url_safe_encode` and
`ne_of_mem_encode_url_safe`.
-/

namespace Base64

/-- The padding. -/
def pad : Char := '='

/-- The digit of a number below 64. -/
def digit (n : ℕ) : Char :=
  if n < 26 then Char.ofNat (0x41 + n)
  else if n < 52 then Char.ofNat (0x61 + (n - 26))
  else if n < 62 then Char.ofNat (0x30 + (n - 52))
  else if n = 62 then '+'
  else '/'

/-- The number of a digit. -/
def value (c : Char) : Option ℕ :=
  let n := c.toNat
  if 0x41 ≤ n ∧ n ≤ 0x5a then some (n - 0x41)
  else if 0x61 ≤ n ∧ n ≤ 0x7a then some (n - 0x61 + 26)
  else if 0x30 ≤ n ∧ n ≤ 0x39 then some (n - 0x30 + 52)
  else if c = '+' then some 62
  else if c = '/' then some 63
  else none

/-- The characters of an encoding. -/
def isAlphabet (c : Char) : Bool :=
  (value c).isSome || c == pad

/-- Encode bytes, three at a time. -/
def encode : List UInt8 → List Char
  | [] => []
  | [a] => [digit (a.toNat / 4), digit (a.toNat % 4 * 16), pad, pad]
  | [a, b] =>
    [digit (a.toNat / 4), digit (a.toNat % 4 * 16 + b.toNat / 16), digit (b.toNat % 16 * 4), pad]
  | a :: b :: c :: rest =>
    digit (a.toNat / 4) :: digit (a.toNat % 4 * 16 + b.toNat / 16) ::
      digit (b.toNat % 16 * 4 + c.toNat / 64) :: digit (c.toNat % 64) :: encode rest

/-- Decode digits, four at a time. The bits that the padding leaves over are zero. -/
def decode : List Char → Option (List UInt8)
  | [] => some []
  | w :: x :: y :: z :: rest =>
    if rest = [] ∧ z = pad then
      if y = pad then do
        let w ← value w
        let x ← value x
        if x % 16 = 0 then some [UInt8.ofNat (w * 4 + x / 16)] else none
      else do
        let w ← value w
        let x ← value x
        let y ← value y
        if y % 4 = 0 then
          some [UInt8.ofNat (w * 4 + x / 16), UInt8.ofNat (x % 16 * 16 + y / 4)]
        else none
    else do
      let w ← value w
      let x ← value x
      let y ← value y
      let z ← value z
      let bytes ← decode rest
      some (UInt8.ofNat (w * 4 + x / 16) :: UInt8.ofNat (x % 16 * 16 + y / 4) ::
        UInt8.ofNat (y % 4 * 64 + z) :: bytes)
  | _ => none

example : encode [0x66, 0x6f, 0x6f, 0x62, 0x61] = "Zm9vYmE=".toList := by decide

theorem value_digit {n : ℕ} (h : n < 64) : value (digit n) = some n := by
  have hall : ∀ m : Fin 64, value (digit m.val) = some m.val := by decide
  exact hall ⟨n, h⟩

theorem digit_ne_pad {n : ℕ} (h : n < 64) : digit n ≠ pad := by
  intro hpad
  have hvalue := value_digit h
  rw [hpad] at hvalue
  cases hvalue

theorem of_nat_eq (byte : UInt8) {n : ℕ} (h : n = byte.toNat) : UInt8.ofNat n = byte := by
  rw [h, UInt8.ofNat_toNat]

theorem decode_encode (bytes : List UInt8) : decode (encode bytes) = some bytes := by
  induction bytes using encode.induct with
  | case1 => rfl
  | case2 a =>
    have ha := a.toNat_lt
    rw [encode, decode, if_pos ⟨rfl, rfl⟩, if_pos rfl, value_digit (by omega),
      value_digit (by omega)]
    simp only [Option.bind_eq_bind, Option.bind_some]
    rw [if_pos (by omega), of_nat_eq a (by omega)]
  | case3 a b =>
    have ha := a.toNat_lt
    have hb := b.toNat_lt
    rw [encode, decode, if_pos ⟨rfl, rfl⟩, if_neg (digit_ne_pad (by omega)),
      value_digit (by omega), value_digit (by omega), value_digit (by omega)]
    simp only [Option.bind_eq_bind, Option.bind_some]
    rw [if_pos (by omega), of_nat_eq a (by omega), of_nat_eq b (by omega)]
  | case4 a b c rest ih =>
    have ha := a.toNat_lt
    have hb := b.toNat_lt
    have hc := c.toNat_lt
    rw [encode, decode, if_neg fun h => digit_ne_pad (by omega) h.2, value_digit (by omega),
      value_digit (by omega), value_digit (by omega), value_digit (by omega), ih]
    simp only [Option.bind_eq_bind, Option.bind_some]
    rw [of_nat_eq a (by omega), of_nat_eq b (by omega),
      of_nat_eq c (by omega)]

theorem is_alphabet_digit {n : ℕ} (h : n < 64) : isAlphabet (digit n) = true := by
  unfold isAlphabet
  rw [value_digit h]
  rfl

theorem is_alphabet_of_mem_encode {bytes : List UInt8} {c : Char} (h : c ∈ encode bytes) :
    isAlphabet c = true := by
  induction bytes using encode.induct with
  | case1 => cases h
  | case2 a =>
    have ha := a.toNat_lt
    simp only [encode, List.mem_cons, List.not_mem_nil, or_false] at h
    rcases h with rfl | rfl | rfl | rfl
    · exact is_alphabet_digit (by omega)
    · exact is_alphabet_digit (by omega)
    · rfl
    · rfl
  | case3 a b =>
    have ha := a.toNat_lt
    have hb := b.toNat_lt
    simp only [encode, List.mem_cons, List.not_mem_nil, or_false] at h
    rcases h with rfl | rfl | rfl | rfl
    · exact is_alphabet_digit (by omega)
    · exact is_alphabet_digit (by omega)
    · exact is_alphabet_digit (by omega)
    · rfl
  | case4 a b c rest ih =>
    have ha := a.toNat_lt
    have hb := b.toNat_lt
    have hc := c.toNat_lt
    simp only [encode, List.mem_cons] at h
    rcases h with rfl | rfl | rfl | rfl | hrest
    · exact is_alphabet_digit (by omega)
    · exact is_alphabet_digit (by omega)
    · exact is_alphabet_digit (by omega)
    · exact is_alphabet_digit (by omega)
    · exact ih hrest

theorem length_decode_le {text : List Char} {bytes : List UInt8} (h : decode text = some bytes) :
    bytes.length ≤ text.length := by
  match text with
  | [] => cases h; exact Nat.le_refl 0
  | [_] | [_, _] | [_, _, _] => cases h
  | w :: x :: y :: z :: rest =>
    rw [decode] at h
    simp only [List.length_cons]
    split at h
    next =>
      split at h
      next =>
        obtain ⟨_, _, hw⟩ := Option.bind_eq_some_iff.1 h
        obtain ⟨_, _, hx⟩ := Option.bind_eq_some_iff.1 hw
        obtain ⟨_, hbytes⟩ := Option.ite_none_right_eq_some.1 hx
        cases hbytes
        simp only [List.length_cons, List.length_nil]
        omega
      next =>
        obtain ⟨_, _, hw⟩ := Option.bind_eq_some_iff.1 h
        obtain ⟨_, _, hx⟩ := Option.bind_eq_some_iff.1 hw
        obtain ⟨_, _, hy⟩ := Option.bind_eq_some_iff.1 hx
        obtain ⟨_, hbytes⟩ := Option.ite_none_right_eq_some.1 hy
        cases hbytes
        simp only [List.length_cons, List.length_nil]
        omega
    next =>
      obtain ⟨_, _, hw⟩ := Option.bind_eq_some_iff.1 h
      obtain ⟨_, _, hx⟩ := Option.bind_eq_some_iff.1 hw
      obtain ⟨_, _, hy⟩ := Option.bind_eq_some_iff.1 hx
      obtain ⟨_, _, hz⟩ := Option.bind_eq_some_iff.1 hy
      obtain ⟨decoded, hdecoded, hbytes⟩ := Option.bind_eq_some_iff.1 hz
      cases hbytes
      have hrest := length_decode_le hdecoded
      simp only [List.length_cons]
      omega

/-! ## The URL-safe alphabet, without padding -/

/-- The URL-safe digit of a number below 64. -/
def digitUrlSafe (n : ℕ) : Char :=
  if n < 62 then digit n else if n = 62 then '-' else '_'

/-- The number of a URL-safe digit. -/
def valueUrlSafe (c : Char) : Option ℕ :=
  if c = '+' ∨ c = '/' then none
  else if c = '-' then some 62
  else if c = '_' then some 63
  else value c

/-- Encode bytes, three at a time. What is left at the end is not padded. -/
def encodeUrlSafe : List UInt8 → List Char
  | [] => []
  | [a] => [digitUrlSafe (a.toNat / 4), digitUrlSafe (a.toNat % 4 * 16)]
  | [a, b] =>
    [digitUrlSafe (a.toNat / 4), digitUrlSafe (a.toNat % 4 * 16 + b.toNat / 16),
      digitUrlSafe (b.toNat % 16 * 4)]
  | a :: b :: c :: rest =>
    digitUrlSafe (a.toNat / 4) :: digitUrlSafe (a.toNat % 4 * 16 + b.toNat / 16) ::
      digitUrlSafe (b.toNat % 16 * 4 + c.toNat / 64) :: digitUrlSafe (c.toNat % 64) ::
        encodeUrlSafe rest

/-- Decode digits, four at a time. The bits that are left over at the end are zero. -/
def decodeUrlSafe : List Char → Option (List UInt8)
  | [] => some []
  | [_] => none
  | [w, x] => do
    let w ← valueUrlSafe w
    let x ← valueUrlSafe x
    if x % 16 = 0 then some [UInt8.ofNat (w * 4 + x / 16)] else none
  | [w, x, y] => do
    let w ← valueUrlSafe w
    let x ← valueUrlSafe x
    let y ← valueUrlSafe y
    if y % 4 = 0 then some [UInt8.ofNat (w * 4 + x / 16), UInt8.ofNat (x % 16 * 16 + y / 4)]
    else none
  | w :: x :: y :: z :: rest => do
    let w ← valueUrlSafe w
    let x ← valueUrlSafe x
    let y ← valueUrlSafe y
    let z ← valueUrlSafe z
    let bytes ← decodeUrlSafe rest
    some (UInt8.ofNat (w * 4 + x / 16) :: UInt8.ofNat (x % 16 * 16 + y / 4) ::
      UInt8.ofNat (y % 4 * 64 + z) :: bytes)

example : encodeUrlSafe [0x66, 0x6f, 0xfe, 0xfb, 0xff] = "Zm_--_8".toList := by decide

theorem value_digit_url_safe {n : ℕ} (h : n < 64) : valueUrlSafe (digitUrlSafe n) = some n := by
  have hall : ∀ m : Fin 64, valueUrlSafe (digitUrlSafe m.val) = some m.val := by decide
  exact hall ⟨n, h⟩

theorem decode_url_safe_encode (bytes : List UInt8) :
    decodeUrlSafe (encodeUrlSafe bytes) = some bytes := by
  induction bytes using encodeUrlSafe.induct with
  | case1 => rfl
  | case2 a =>
    have ha := a.toNat_lt
    rw [encodeUrlSafe, decodeUrlSafe, value_digit_url_safe (by omega),
      value_digit_url_safe (by omega)]
    simp only [Option.bind_eq_bind, Option.bind_some]
    rw [if_pos (by omega), of_nat_eq a (by omega)]
  | case3 a b =>
    have ha := a.toNat_lt
    have hb := b.toNat_lt
    rw [encodeUrlSafe, decodeUrlSafe, value_digit_url_safe (by omega),
      value_digit_url_safe (by omega), value_digit_url_safe (by omega)]
    simp only [Option.bind_eq_bind, Option.bind_some]
    rw [if_pos (by omega), of_nat_eq a (by omega), of_nat_eq b (by omega)]
  | case4 a b c rest ih =>
    have ha := a.toNat_lt
    have hb := b.toNat_lt
    have hc := c.toNat_lt
    rw [encodeUrlSafe, decodeUrlSafe, value_digit_url_safe (by omega),
      value_digit_url_safe (by omega), value_digit_url_safe (by omega),
      value_digit_url_safe (by omega), ih]
    simp only [Option.bind_eq_bind, Option.bind_some]
    rw [of_nat_eq a (by omega), of_nat_eq b (by omega), of_nat_eq c (by omega)]

theorem exists_digit_of_mem_encode_url_safe {bytes : List UInt8} {c : Char}
    (h : c ∈ encodeUrlSafe bytes) : ∃ n < 64, c = digitUrlSafe n := by
  induction bytes using encodeUrlSafe.induct with
  | case1 => cases h
  | case2 a =>
    have ha := a.toNat_lt
    simp only [encodeUrlSafe, List.mem_cons, List.not_mem_nil, or_false] at h
    rcases h with h | h
    · exact ⟨_, by omega, h⟩
    · exact ⟨_, by omega, h⟩
  | case3 a b =>
    have ha := a.toNat_lt
    have hb := b.toNat_lt
    simp only [encodeUrlSafe, List.mem_cons, List.not_mem_nil, or_false] at h
    rcases h with h | h | h
    · exact ⟨_, by omega, h⟩
    · exact ⟨_, by omega, h⟩
    · exact ⟨_, by omega, h⟩
  | case4 a b c rest ih =>
    have ha := a.toNat_lt
    have hb := b.toNat_lt
    have hc := c.toNat_lt
    simp only [encodeUrlSafe, List.mem_cons] at h
    rcases h with h | h | h | h | hrest
    · exact ⟨_, by omega, h⟩
    · exact ⟨_, by omega, h⟩
    · exact ⟨_, by omega, h⟩
    · exact ⟨_, by omega, h⟩
    · exact ih hrest

theorem ne_of_mem_encode_url_safe {bytes : List UInt8} {c d : Char} (h : c ∈ encodeUrlSafe bytes)
    (hd : valueUrlSafe d = none) : c ≠ d := by
  obtain ⟨n, hn, rfl⟩ := exists_digit_of_mem_encode_url_safe h
  rintro rfl
  rw [value_digit_url_safe hn] at hd
  cases hd

end Base64
