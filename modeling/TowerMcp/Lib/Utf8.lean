import Mathlib.Tactic.Common

/-!
# Lossy decoding of UTF-8

The decoder that replaces each maximal part of the bytes that starts no character, or starts one and
does not go on with it, by U+FFFD. It reads a byte at a time and awaits the rest of a character it
has begun. `lossy_flatten` says that runs of bytes may be decoded apart when each ends between two
characters, and `clean_cuts_of_length_le` that otherwise the text becomes longer.
-/

namespace Utf8

/-- The character that stands for what is no character. -/
def replacement : Char := Char.ofNat 0xfffd

/-- A character that has begun: the range of its next byte, how many bytes follow that one, and the
code so far. A next byte is a continuation byte. -/
structure Begun where
  least : ℕ
  greatest : ℕ
  more : ℕ
  code : ℕ
  continuation : 0x80 ≤ least ∧ greatest ≤ 0xbf

/-- Whether a byte goes on with a character. -/
def Begun.awaits (begun : Begun) (byte : UInt8) : Bool :=
  decide (begun.least ≤ byte.toNat ∧ byte.toNat ≤ begun.greatest)

/-- A decoder between two bytes. -/
inductive State where
  | start
  | within (begun : Begun)

/-- A character of which `more` bytes follow the next, any continuation byte. -/
def anyTail (more code : ℕ) : State :=
  .within { least := 0x80, greatest := 0xbf, more, code, continuation := by decide }

/-- The first byte of a character. -/
def first (byte : UInt8) : State × List Char :=
  let b := byte.toNat
  if b < 0x80 then (.start, [Char.ofNat b])
  else if 0xc2 ≤ b ∧ b ≤ 0xdf then (anyTail 0 (b - 0xc0), [])
  else if b = 0xe0 then
    (.within { least := 0xa0, greatest := 0xbf, more := 1, code := 0, continuation := by decide }, [])
  else if b = 0xed then
    (.within { least := 0x80, greatest := 0x9f, more := 1, code := 0xd, continuation := by decide },
      [])
  else if 0xe1 ≤ b ∧ b ≤ 0xef then (anyTail 1 (b - 0xe0), [])
  else if b = 0xf0 then
    (.within { least := 0x90, greatest := 0xbf, more := 2, code := 0, continuation := by decide }, [])
  else if 0xf1 ≤ b ∧ b ≤ 0xf3 then (anyTail 2 (b - 0xf0), [])
  else if b = 0xf4 then
    (.within { least := 0x80, greatest := 0x8f, more := 2, code := 4, continuation := by decide }, [])
  else (.start, [replacement])

/-- The next byte of a character. -/
def Begun.next (begun : Begun) (byte : UInt8) : State × List Char :=
  let code := begun.code * 64 + (byte.toNat - 0x80)
  match begun.more with
  | 0 => (.start, [Char.ofNat code])
  | more + 1 => (anyTail more code, [])

/-- One byte: the decoder after it, and the characters it gives. -/
def step : State → UInt8 → State × List Char
  | .start, byte => first byte
  | .within begun, byte =>
    if begun.awaits byte then begun.next byte else ((first byte).1, replacement :: (first byte).2)

/-- What is left of a character when the bytes end. -/
def State.flush : State → List Char
  | .start => []
  | .within _ => [replacement]

/-- Whether a byte goes on with a character the decoder has begun. -/
def State.awaits : State → UInt8 → Bool
  | .start, _ => false
  | .within begun, byte => begun.awaits byte

/-- The text of the bytes that follow. -/
def decode : State → List UInt8 → List Char
  | state, [] => state.flush
  | state, byte :: rest => (step state byte).2 ++ decode (step state byte).1 rest

/-- The decoder after some bytes. -/
def after : State → List UInt8 → State
  | state, [] => state
  | state, byte :: rest => after (step state byte).1 rest

/-- The characters that some bytes give before they end. -/
def given : State → List UInt8 → List Char
  | _, [] => []
  | state, byte :: rest => (step state byte).2 ++ given (step state byte).1 rest

/-- The text of some bytes. -/
def lossy (bytes : List UInt8) : List Char :=
  decode .start bytes

example : lossy [0x61, 0xe2, 0x82, 0xac] = ['a', '€'] := by decide

example : lossy [0xe2, 0x82] ++ lossy [0xac] = [replacement, replacement] := by decide

@[simp] theorem lossy_nil : lossy [] = [] := rfl

theorem decode_append (state : State) (bytes rest : List UInt8) :
    decode state (bytes ++ rest) = given state bytes ++ decode (after state bytes) rest := by
  induction bytes generalizing state with
  | nil => rfl
  | cons byte more ih =>
    rw [List.cons_append, decode, given, after, ih, List.append_assoc]

theorem decode_eq (state : State) (bytes : List UInt8) :
    decode state bytes = given state bytes ++ (after state bytes).flush := by
  have happend := decode_append state bytes []
  rw [List.append_nil] at happend
  exact happend

variable {byte : UInt8}

theorem first_of_continuation (hleast : 0x80 ≤ byte.toNat)
    (hgreatest : byte.toNat ≤ 0xbf) : first byte = (.start, [replacement]) := by
  unfold first
  dsimp only
  rw [if_neg (by omega), if_neg (by omega), if_neg (by omega), if_neg (by omega), if_neg (by omega),
    if_neg (by omega), if_neg (by omega), if_neg (by omega)]

theorem first_of_awaits (state : State) (h : state.awaits byte = true) :
    first byte = (.start, [replacement]) := by
  cases state with
  | start => cases h
  | within begun =>
    have hrange := of_decide_eq_true h
    have hbegun := begun.continuation
    exact first_of_continuation (by omega) (by omega)

theorem decode_of_not_awaits {state : State} (h : state.awaits byte = false)
    (rest : List UInt8) : decode state (byte :: rest) = state.flush ++ lossy (byte :: rest) := by
  cases state with
  | start => rfl
  | within begun =>
    have hbegun : ¬begun.awaits byte = true := Bool.not_eq_true _ ▸ h
    rw [decode, step, if_neg hbegun]
    rfl

theorem length_next (begun : Begun) (byte : UInt8) :
    (begun.next byte).2.length + (begun.next byte).1.flush.length = 1 := by
  unfold Begun.next
  cases begun.more with
  | zero => rfl
  | succ more => rfl

theorem decode_of_awaits {begun : Begun} (h : begun.awaits byte = true)
    (rest : List UInt8) :
    decode (.within begun) (byte :: rest) =
      (begun.next byte).2 ++ decode (begun.next byte).1 rest := by
  rw [decode, step, if_pos h]

theorem apart_of_awaits {begun : Begun} (h : begun.awaits byte = true)
    (rest : List UInt8) :
    (State.within begun).flush ++ lossy (byte :: rest) =
      replacement :: replacement :: lossy rest := by
  have hstarts : first byte = (.start, [replacement]) :=
    first_of_awaits (.within begun) h
  rw [lossy, decode, step, hstarts]
  rfl

theorem length_decode_le (state : State) (rest : List UInt8) :
    (decode state rest).length ≤ (state.flush ++ lossy rest).length := by
  induction rest generalizing state with
  | nil => exact Nat.le_of_eq (by rw [decode, lossy_nil, List.append_nil])
  | cons byte rest ih =>
    cases hawaits : state.awaits byte with
    | false => exact Nat.le_of_eq (by rw [decode_of_not_awaits hawaits])
    | true =>
      cases state with
      | start => cases hawaits
      | within begun =>
        have hnext := length_next begun byte
        have hrest := ih (begun.next byte).1
        rw [decode_of_awaits hawaits, apart_of_awaits hawaits]
        simp only [List.length_append, List.length_cons] at hrest ⊢
        omega

theorem length_decode_lt {state : State} (h : state.awaits byte = true)
    (rest : List UInt8) :
    (decode state (byte :: rest)).length < (state.flush ++ lossy (byte :: rest)).length := by
  cases state with
  | start => cases h
  | within begun =>
    have hnext := length_next begun byte
    have hrest := length_decode_le (begun.next byte).1 rest
    rw [decode_of_awaits h, apart_of_awaits h]
    simp only [List.length_append, List.length_cons] at hrest ⊢
    omega

theorem length_flush_le (state : State) (rest : List UInt8) :
    state.flush.length ≤ (decode state rest).length := by
  induction rest generalizing state with
  | nil => exact Nat.le_refl _
  | cons byte rest ih =>
    cases hawaits : state.awaits byte with
    | false =>
      rw [decode_of_not_awaits hawaits, List.length_append]
      omega
    | true =>
      cases state with
      | start => cases hawaits
      | within begun =>
        have hnext := length_next begun byte
        have hrest := ih (begun.next byte).1
        rw [decode_of_awaits hawaits, List.length_append, State.flush, List.length_singleton]
        omega

theorem length_first (byte : UInt8) :
    (first byte).2.length + (first byte).1.flush.length = 1 := by
  unfold first
  dsimp only
  split_ifs <;> rfl

variable {bytes : List UInt8}

theorem lossy_eq_nil_iff : lossy bytes = [] ↔ bytes = [] := by
  cases bytes with
  | nil => exact iff_of_true rfl rfl
  | cons byte rest =>
    refine iff_of_false (fun hempty => ?_) (List.cons_ne_nil byte rest)
    have hfirst := length_first byte
    have hrest := length_flush_le (first byte).1 rest
    have hlength := congrArg List.length hempty
    rw [lossy, decode, step, List.length_append, List.length_nil] at hlength
    omega

/-! ## Bytes in several runs -/

/-- Some bytes end between two characters of the stream: the bytes that follow do not go on with a
character that has begun. -/
def CleanCut (bytes rest : List UInt8) : Prop :=
  ∀ byte ∈ rest.head?, (after .start bytes).awaits byte = false

/-- Every run of bytes ends between two characters of the stream. -/
def CleanCuts : List (List UInt8) → Prop
  | [] => True
  | bytes :: rest => CleanCut bytes rest.flatten ∧ CleanCuts rest

theorem lossy_append_eq (bytes rest : List UInt8) :
    lossy (bytes ++ rest) = given .start bytes ++ decode (after .start bytes) rest :=
  decode_append .start bytes rest

theorem lossy_append_lossy (bytes rest : List UInt8) :
    lossy bytes ++ lossy rest =
      given .start bytes ++ ((after .start bytes).flush ++ lossy rest) := by
  rw [lossy, decode_eq, List.append_assoc]

theorem length_lossy_append_le (bytes rest : List UInt8) :
    (lossy (bytes ++ rest)).length ≤ (lossy bytes ++ lossy rest).length := by
  have hrest := length_decode_le (after .start bytes) rest
  rw [lossy_append_lossy, lossy_append_eq, List.length_append, List.length_append]
  omega

theorem lossy_append {rest : List UInt8} (h : CleanCut bytes rest) :
    lossy (bytes ++ rest) = lossy bytes ++ lossy rest := by
  rw [lossy_append_lossy, lossy_append_eq]
  cases rest with
  | nil => rw [decode, lossy_nil, List.append_nil]
  | cons byte more => rw [decode_of_not_awaits (h byte rfl)]

theorem clean_cut_of_length_le {rest : List UInt8}
    (h : (lossy bytes ++ lossy rest).length ≤ (lossy (bytes ++ rest)).length) :
    CleanCut bytes rest := by
  rw [lossy_append_lossy, lossy_append_eq] at h
  intro byte hbyte
  obtain ⟨more, rfl⟩ := List.head?_eq_some_iff.1 hbyte
  refine Bool.eq_false_iff.2 fun hawaits => ?_
  have hless := length_decode_lt hawaits more
  simp only [List.length_append] at h hless
  omega

theorem head_lossy_append {c : Char} (h : (lossy bytes).head? = some c)
    (hne : c ≠ replacement) (rest : List UInt8) : (lossy (bytes ++ rest)).head? = some c := by
  rw [lossy_append_eq]
  rw [lossy, decode_eq] at h
  cases hgiven : given .start bytes with
  | nil =>
    rw [hgiven, List.nil_append] at h
    cases hafter : after .start bytes with
    | start =>
      rw [hafter] at h
      cases h
    | within begun =>
      rw [hafter] at h
      exact absurd (Option.some.inj h).symm hne
  | cons d more =>
    rw [hgiven] at h
    exact h

theorem length_lossy_flatten_le (runs : List (List UInt8)) :
    (lossy runs.flatten).length ≤ (runs.map lossy).flatten.length := by
  induction runs with
  | nil => exact Nat.le_refl 0
  | cons bytes rest ih =>
    have hfirst := length_lossy_append_le bytes rest.flatten
    rw [List.flatten_cons, List.map_cons, List.flatten_cons]
    rw [List.length_append] at hfirst ⊢
    omega

theorem lossy_flatten {runs : List (List UInt8)} (h : CleanCuts runs) :
    lossy runs.flatten = (runs.map lossy).flatten := by
  induction runs with
  | nil => rfl
  | cons bytes rest ih =>
    rw [List.flatten_cons, lossy_append h.1, ih h.2, List.map_cons, List.flatten_cons]

theorem clean_cuts_of_length_le {runs : List (List UInt8)}
    (h : (runs.map lossy).flatten.length ≤ (lossy runs.flatten).length) : CleanCuts runs := by
  induction runs with
  | nil => trivial
  | cons bytes rest ih =>
    have hfirst := length_lossy_append_le bytes rest.flatten
    have hrest := length_lossy_flatten_le rest
    rw [List.flatten_cons, List.map_cons, List.flatten_cons, List.length_append] at h
    rw [List.length_append] at hfirst
    refine ⟨clean_cut_of_length_le ?_, ih ?_⟩
    · rw [List.length_append]
      omega
    · omega

end Utf8
