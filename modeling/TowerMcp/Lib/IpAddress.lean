import Mathlib.Data.List.TakeWhile
import Mathlib.Data.Nat.Notation
import Mathlib.Tactic.Common

/-!
# Texts of IP addresses

A reader takes an address from the start of a text: four decimal numbers without leading zeros, or up
to eight hexadecimal groups, of which `::` stands for some that are zero and whose last two may be
written as four numbers. `Takes P` says that what a reader takes satisfies `P`.
-/

namespace IpAddress

/-- The value of a digit. -/
def digitValue (c : Char) : Option ℕ :=
  let code := c.toNat
  if 48 ≤ code ∧ code ≤ 57 then some (code - 48)
  else if 97 ≤ code ∧ code ≤ 102 then some (code - 87)
  else if 65 ≤ code ∧ code ≤ 70 then some (code - 55)
  else none

/-- Whether a character is a digit in a radix. -/
def isDigit (radix : ℕ) (c : Char) : Bool :=
  (digitValue c).any fun value => decide (value < radix)

/-- Take a number with at most `digits` digits, which is at most `limit`. -/
def readNumber (radix digits limit : ℕ) (leadingZeros : Bool) (text : List Char) :
    Option (ℕ × List Char) :=
  let taken := text.takeWhile (isDigit radix)
  let value := taken.foldl (fun value c => radix * value + (digitValue c).getD 0) 0
  if taken = [] ∨ digits < taken.length ∨ limit < value ∨
      leadingZeros = false ∧ taken.head? = some '0' ∧ 1 < taken.length then none
  else some (value, text.dropWhile (isDigit radix))

def readChar (c : Char) : List Char → Option (List Char)
  | [] => none
  | d :: rest => if d = c then some rest else none

def readOctet : List Char → Option (ℕ × List Char) := readNumber 10 3 255 false

def readGroup : List Char → Option (ℕ × List Char) := readNumber 16 4 65535 true

/-- Take four numbers. -/
def readIpv4 (text : List Char) : Option ((ℕ × ℕ × ℕ × ℕ) × List Char) := do
  let (a, rest) ← readOctet text
  let (b, rest) ← readOctet (← readChar '.' rest)
  let (c, rest) ← readOctet (← readChar '.' rest)
  let (d, rest) ← readOctet (← readChar '.' rest)
  return ((a, b, c, d), rest)

/-- Take at most so many groups, with whether the last two were four numbers. -/
def readGroups : ℕ → Bool → List Char → (List ℕ × Bool) × List Char
  | 0, _, text => (([], false), text)
  | left + 1, first, text =>
    let start := if first then some text else readChar ':' text
    match if left = 0 then none else start.bind readIpv4 with
    | some ((a, b, c, d), rest) => (([256 * a + b, 256 * c + d], true), rest)
    | none =>
      match start.bind readGroup with
      | none => (([], false), text)
      | some (group, rest) =>
        let read := readGroups left false rest
        ((group :: read.1.1, read.1.2), read.2)

/-- Take eight groups. -/
def readIpv6 (text : List Char) : Option (List ℕ × List Char) :=
  let ((head, ipv4), rest) := readGroups 8 true text
  if head.length = 8 then some (head, rest)
  else if ipv4 then none
  else do
    let rest ← readChar ':' (← readChar ':' rest)
    let ((tail, _), rest) := readGroups (7 - head.length) true rest
    return (head ++ List.replicate (8 - head.length - tail.length) 0 ++ tail, rest)

inductive IpAddr where
  | v4 (octets : ℕ × ℕ × ℕ × ℕ)
  | v6 (groups : List ℕ)
deriving DecidableEq

/-- The address that a whole text is. -/
def parse (text : List Char) : Option IpAddr :=
  match readIpv4 text with
  | some (octets, rest) => if rest = [] then some (.v4 octets) else none
  | none => (readIpv6 text).bind fun (groups, rest) => if rest = [] then some (.v6 groups) else none

def IpAddr.isLoopback : IpAddr → Bool
  | .v4 (a, _, _, _) => a == 127
  | .v6 groups => groups == [0, 0, 0, 0, 0, 0, 0, 1]

example : parse "::ffff:127.0.0.1".toList = some (.v6 [0, 0, 0, 0, 0, 65535, 32512, 1]) := by
  decide +kernel

/-! ## What a reader takes -/

variable {text rest more : List Char}

/-- What was taken of a text satisfies `P`. -/
def Takes (P : Char → Prop) (text rest : List Char) : Prop :=
  ∃ taken, text = taken ++ rest ∧ ∀ c ∈ taken, P c

variable {P Q : Char → Prop}

theorem Takes.refl (text : List Char) : Takes P text text := ⟨[], rfl, by simp⟩

theorem Takes.trans (hfirst : Takes P text rest) (hsecond : Takes P rest more) :
    Takes P text more := by
  obtain ⟨first, rfl, hfirst⟩ := hfirst
  obtain ⟨second, rfl, hsecond⟩ := hsecond
  exact ⟨first ++ second, (List.append_assoc ..).symm, fun c hc =>
    (List.mem_append.1 hc).elim (hfirst c) (hsecond c)⟩

theorem Takes.mono (himplies : ∀ c, P c → Q c) (h : Takes P text rest) : Takes Q text rest :=
  h.imp fun _ htaken => ⟨htaken.1, fun c hc => himplies c (htaken.2 c hc)⟩

variable {c : Char}

theorem Takes.not_mem (h : Takes P text []) (hc : ¬P c) : c ∉ text := by
  obtain ⟨taken, rfl, htaken⟩ := h
  rw [List.append_nil]
  exact fun hmem => hc (htaken c hmem)

variable {radix digits limit : ℕ} {leadingZeros : Bool}

theorem takes_number {value : ℕ}
    (h : readNumber radix digits limit leadingZeros text = some (value, rest)) :
    Takes (fun c => isDigit radix c = true) text rest := by
  unfold readNumber at h
  dsimp only at h
  split at h
  next => cases h
  next =>
    cases h
    exact ⟨_, (List.takeWhile_append_dropWhile ..).symm, fun c hc => List.mem_takeWhile_imp hc⟩

theorem takes_char (h : readChar c text = some rest) : Takes (· = c) text rest := by
  cases text with
  | nil => cases h
  | cons d more =>
    rw [readChar] at h
    split at h
    next heq =>
      cases h
      exact ⟨[d], rfl, by simpa using heq⟩
    next => cases h

variable {octets : ℕ × ℕ × ℕ × ℕ}

theorem takes_ipv4 (h : readIpv4 text = some (octets, rest)) :
    Takes (fun c => isDigit 10 c = true ∨ c = '.') text rest := by
  have hoctet {text rest : List Char} {value : ℕ} (h : readOctet text = some (value, rest)) :
      Takes (fun c => isDigit 10 c = true ∨ c = '.') text rest :=
    (takes_number h).mono fun _ => .inl
  have hdot {text rest : List Char} (h : readChar '.' text = some rest) :
      Takes (fun c => isDigit 10 c = true ∨ c = '.') text rest := (takes_char h).mono fun _ => .inr
  unfold readIpv4 at h
  obtain ⟨⟨a, rest₁⟩, ha, h⟩ := Option.bind_eq_some_iff.1 h
  obtain ⟨start₂, hstart₂, h⟩ := Option.bind_eq_some_iff.1 h
  obtain ⟨⟨b, rest₂⟩, hb, h⟩ := Option.bind_eq_some_iff.1 h
  obtain ⟨start₃, hstart₃, h⟩ := Option.bind_eq_some_iff.1 h
  obtain ⟨⟨c, rest₃⟩, hc, h⟩ := Option.bind_eq_some_iff.1 h
  obtain ⟨start₄, hstart₄, h⟩ := Option.bind_eq_some_iff.1 h
  obtain ⟨⟨d, rest₄⟩, hd, h⟩ := Option.bind_eq_some_iff.1 h
  cases h
  exact (hoctet ha).trans ((hdot hstart₂).trans ((hoctet hb).trans ((hdot hstart₃).trans
    ((hoctet hc).trans ((hdot hstart₄).trans (hoctet hd))))))

/-- Whether a character may stand in an address. -/
def isAddressChar (c : Char) : Prop := isDigit 16 c = true ∨ c = ':' ∨ c = '.'

theorem is_digit_hex (h : isDigit 10 c = true) : isDigit 16 c = true := by
  unfold isDigit at h ⊢
  cases hvalue : digitValue c with
  | none => simp [hvalue] at h
  | some value =>
    simp only [hvalue, Option.any_some, decide_eq_true_eq] at h ⊢
    omega

theorem address_char_of_ipv4 (c : Char) (h : isDigit 10 c = true ∨ c = '.') : isAddressChar c :=
  h.imp is_digit_hex .inr

theorem takes_groups (left : ℕ) (first : Bool) (text : List Char) :
    Takes isAddressChar text (readGroups left first text).2 := by
  induction left generalizing first text with
  | zero => exact .refl text
  | succ left ih =>
    have hstart {start : List Char} (h : (if first then some text else readChar ':' text) = some start) :
        Takes isAddressChar text start := by
      split at h
      next =>
        cases h
        exact .refl text
      next => exact (takes_char h).mono fun _ hc => .inr (.inl hc)
    unfold readGroups
    dsimp only
    split
    next octets rest hipv4 =>
      split at hipv4
      next => cases hipv4
      next =>
        obtain ⟨start, hstart', hread⟩ := Option.bind_eq_some_iff.1 hipv4
        exact (hstart hstart').trans ((takes_ipv4 hread).mono address_char_of_ipv4)
    next =>
      split
      next => exact .refl text
      next group rest hgroup =>
        obtain ⟨start, hstart', hread⟩ := Option.bind_eq_some_iff.1 hgroup
        exact ((hstart hstart').trans ((takes_number hread).mono fun _ => .inl)).trans (ih false rest)

theorem takes_ipv6 {groups : List ℕ} (h : readIpv6 text = some (groups, rest)) :
    Takes isAddressChar text rest := by
  have hhead := takes_groups 8 true text
  unfold readIpv6 at h
  dsimp only at h
  split at h
  next =>
    cases h
    exact hhead
  next =>
    split at h
    next => cases h
    next =>
      obtain ⟨first, hfirst, h⟩ := Option.bind_eq_some_iff.1 h
      obtain ⟨second, hsecond, h⟩ := Option.bind_eq_some_iff.1 h
      cases h
      have hcolon {text rest : List Char} (h : readChar ':' text = some rest) :
          Takes isAddressChar text rest := (takes_char h).mono fun _ hc => .inr (.inl hc)
      exact hhead.trans ((hcolon hfirst).trans ((hcolon hsecond).trans (takes_groups _ _ _)))

theorem takes_of_parse {address : IpAddr} (h : parse text = some address) :
    Takes isAddressChar text [] := by
  unfold parse at h
  split at h
  next octets rest hread =>
    split at h
    next hrest => exact hrest ▸ (takes_ipv4 hread).mono address_char_of_ipv4
    next => cases h
  next =>
    obtain ⟨⟨groups, rest⟩, hread, h⟩ := Option.bind_eq_some_iff.1 h
    dsimp only at h
    split at h
    next hrest => exact hrest ▸ takes_ipv6 hread
    next => cases h

theorem takes_of_parse_v4 (h : parse text = some (.v4 octets)) :
    Takes (fun c => isDigit 10 c = true ∨ c = '.') text [] ∧ readIpv4 text = some (octets, []) := by
  unfold parse at h
  split at h
  next octets' rest hread =>
    split at h
    next hrest =>
      cases h
      subst hrest
      exact ⟨takes_ipv4 hread, hread⟩
    next => cases h
  next =>
    obtain ⟨⟨groups, rest⟩, -, h⟩ := Option.bind_eq_some_iff.1 h
    dsimp only at h
    split at h <;> cases h

/-! ## What stands behind an address -/

theorem read_number_append {value : ℕ}
    (hc : isDigit radix c = false)
    (h : readNumber radix digits limit leadingZeros text = some (value, rest)) (more : List Char) :
    readNumber radix digits limit leadingZeros (text ++ c :: more) = some (value, rest ++ c :: more) := by
  have htake : (text ++ c :: more).takeWhile (isDigit radix) = text.takeWhile (isDigit radix) := by
    rw [List.takeWhile_append]
    split
    next hlength =>
      rw [List.takeWhile_cons_of_neg (by simp [hc]), List.append_nil]
      exact ((List.takeWhile_prefix _).eq_of_length hlength).symm
    next => rfl
  have hdrop : (text ++ c :: more).dropWhile (isDigit radix) =
      text.dropWhile (isDigit radix) ++ c :: more := by
    have hsplit := List.takeWhile_append_dropWhile (p := isDigit radix) (l := text ++ c :: more)
    rw [htake] at hsplit
    have hwhole := List.takeWhile_append_dropWhile (p := isDigit radix) (l := text)
    have hboth : text.takeWhile (isDigit radix) ++ (text ++ c :: more).dropWhile (isDigit radix) =
        text.takeWhile (isDigit radix) ++ (text.dropWhile (isDigit radix) ++ c :: more) := by
      rw [hsplit, ← List.append_assoc, hwhole]
    exact List.append_cancel_left hboth
  unfold readNumber at h ⊢
  rw [htake, hdrop]
  dsimp only at h ⊢
  split at h
  next => cases h
  next hvalid =>
    cases h
    exact if_neg hvalid

theorem read_char_append (h : readChar c text = some rest) (more : List Char) :
    readChar c (text ++ more) = some (rest ++ more) := by
  cases text with
  | nil => cases h
  | cons d tail =>
    rw [readChar] at h
    split at h
    next heq =>
      cases h
      exact if_pos heq
    next => cases h

theorem read_ipv4_append (h : readIpv4 text = some (octets, rest))
    (more : List Char) : readIpv4 (text ++ ':' :: more) = some (octets, rest ++ ':' :: more) := by
  have hoctet {text rest : List Char} {value : ℕ} (h : readOctet text = some (value, rest)) :
      readOctet (text ++ ':' :: more) = some (value, rest ++ ':' :: more) :=
    read_number_append rfl h more
  unfold readIpv4 at h ⊢
  obtain ⟨⟨a, rest₁⟩, ha, h⟩ := Option.bind_eq_some_iff.1 h
  obtain ⟨start₂, hstart₂, h⟩ := Option.bind_eq_some_iff.1 h
  obtain ⟨⟨b, rest₂⟩, hb, h⟩ := Option.bind_eq_some_iff.1 h
  obtain ⟨start₃, hstart₃, h⟩ := Option.bind_eq_some_iff.1 h
  obtain ⟨⟨c, rest₃⟩, hc, h⟩ := Option.bind_eq_some_iff.1 h
  obtain ⟨start₄, hstart₄, h⟩ := Option.bind_eq_some_iff.1 h
  obtain ⟨⟨d, rest₄⟩, hd, h⟩ := Option.bind_eq_some_iff.1 h
  cases h
  simp only [hoctet ha, hoctet hb, hoctet hc, hoctet hd, read_char_append hstart₂,
    read_char_append hstart₃, read_char_append hstart₄, Option.bind_eq_bind, Option.bind_some]
  rfl

/-! ## What is no address -/

theorem read_number_eq_none
    (h : ∀ c, text.head? = some c → isDigit radix c = false) :
    readNumber radix digits limit leadingZeros text = none := by
  have htake : text.takeWhile (isDigit radix) = [] := by
    cases text with
    | nil => rfl
    | cons c more => exact List.takeWhile_cons_of_neg (by simp [h c rfl])
  exact if_pos (.inl htake)

theorem parse_eq_none_of_head (hdigit : isDigit 16 c = false) (hcolon : c ≠ ':')
    (more : List Char) : parse (c :: more) = none := by
  have hdecimal : isDigit 10 c = false :=
    Bool.eq_false_iff.2 fun h => Bool.eq_false_iff.1 hdigit (is_digit_hex h)
  have hoctet : readOctet (c :: more) = none :=
    read_number_eq_none fun d hd => Option.some.inj hd ▸ hdecimal
  have hgroup : readGroup (c :: more) = none :=
    read_number_eq_none fun d hd => Option.some.inj hd ▸ hdigit
  have hipv4 : readIpv4 (c :: more) = none := by
    rw [readIpv4, hoctet]
    rfl
  have hgroups : readGroups 8 true (c :: more) = (([], false), c :: more) := by
    simp [readGroups, hipv4, hgroup]
  have hipv6 : readIpv6 (c :: more) = none := by
    rw [readIpv6, hgroups]
    simp [readChar, hcolon]
  rw [parse, hipv4]
  simp only [hipv6, Option.bind_none]

theorem read_char_eq_none (h : c ∉ text) : readChar c text = none := by
  cases text with
  | nil => rfl
  | cons d more => exact if_neg fun heq => h (by simp [heq])

theorem ne_v6_of_not_mem (h : ':' ∉ text) (groups : List ℕ) : parse text ≠ some (.v6 groups) := by
  intro hparse
  unfold parse at hparse
  cases hipv4 : readIpv4 text with
  | some read =>
    rw [hipv4] at hparse
    dsimp only at hparse
    split at hparse <;> cases hparse
  | none =>
    have hnone : readIpv6 text = none := by
      cases hgroup : readGroup text with
      | none =>
        have hgroups : readGroups 8 true text = (([], false), text) := by
          simp [readGroups, hipv4, hgroup]
        simp [readIpv6, hgroups, read_char_eq_none h]
      | some read =>
        obtain ⟨group, rest⟩ := read
        have hrest : ':' ∉ rest := by
          obtain ⟨taken, rfl, -⟩ := takes_number hgroup
          exact fun hmem => h (List.mem_append_right _ hmem)
        have hgroups : readGroups 8 true text = (([group], false), rest) := by
          simp [readGroups, hipv4, hgroup, read_char_eq_none hrest]
        simp [readIpv6, hgroups, read_char_eq_none hrest]
    rw [hipv4] at hparse
    simp [hnone] at hparse

end IpAddress
