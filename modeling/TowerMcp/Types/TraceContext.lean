import TowerMcp.Types.JsonRpc
import TowerMcp.Types.Text

/-!
# The trace context of a request

A `traceparent` has fixed offsets and a suffix that depends on its version. `parse_traceparent_fields`
reads a value that is cut at the offsets; which values are accepted, and that what is written of a
context is read back, is derived from it.
-/

namespace TowerMcp

structure TraceContext where
  version : UInt8
  traceId : List Char
  parentId : List Char
  traceFlags : UInt8
  tracestate : Option String
deriving DecidableEq

namespace TraceContext

def traceparentLen : ℕ := 55

def maxTracestateLen : ℕ := 512

def maxTracestateMembers : ℕ := 32

def isAscii (value : List Char) : Bool :=
  value.all fun c => c.toNat < 128

def isLowerHex (value : List Char) : Bool :=
  value.all fun c => c.isDigit || decide (97 ≤ c.toNat ∧ c.toNat ≤ 102)

def isAllZero (value : List Char) : Bool :=
  value.all fun c => c == '0'

def toDigit (c : Char) : Option ℕ :=
  let code := c.toNat
  if 48 ≤ code ∧ code ≤ 57 then some (code - 48)
  else if 97 ≤ code ∧ code ≤ 102 then some (code - 87)
  else if 65 ≤ code ∧ code ≤ 70 then some (code - 55)
  else none

/-- `u8::from_str_radix` with radix 16. A plus sign may come first. -/
def u8FromStrRadix (text : List Char) : Option UInt8 :=
  let digits := if text.head? = some '+' then text.tail else text
  if digits = [] then none
  else
    (digits.foldlM (fun n c => (toDigit c).bind fun digit =>
      if 16 * n + digit < 256 then some (16 * n + digit) else none) 0).map UInt8.ofNat

/-- `value.get(start..stop)` of an ASCII text. -/
def slice (value : List Char) (start stop : ℕ) : Option (List Char) :=
  if stop ≤ value.length then some ((value.take stop).drop start) else none

def withDash {α : Type} (value : List Char) (i : ℕ) (next : Except String (Option α)) :
    Except String (Option α) :=
  match value[i]? with
  | none => .error "index out of bounds"
  | some byte => if byte ≠ '-' then .ok none else next

/-- Split and validate a `traceparent`. Every byte of a valid value is ASCII, so a character is a byte
once that is checked. -/
def parseTraceparent (value : List Char) :
    Except String (Option (UInt8 × List Char × List Char × UInt8)) :=
  if isAscii value = false ∨ value.length < traceparentLen then .ok none
  else
    withDash value 2 <| withDash value 35 <| withDash value 52 <|
      match slice value 0 2, slice value 3 35, slice value 36 52, slice value 53 55 with
      | some version, some traceId, some parentId, some flags =>
        if isLowerHex version = false ∨ isLowerHex traceId = false ∨
            isLowerHex parentId = false ∨ isLowerHex flags = false then .ok none
        else if isAllZero traceId = true ∨ isAllZero parentId = true then .ok none
        else
          match u8FromStrRadix version with
          | none => .ok none
          | some version =>
            let fields := (u8FromStrRadix flags).map fun flags => (version, traceId, parentId, flags)
            if version = 0xff then .ok none
            -- version 00 has exactly four fields
            else if version = 0 ∧ value.length ≠ traceparentLen then .ok none
            -- a later version may append fields, each introduced by a dash
            else if traceparentLen < value.length then withDash value traceparentLen (.ok fields)
            else .ok fields
      | _, _, _, _ => .ok none

/-- A `tracestate` within the limits. -/
def validTracestate (value : String) : Option String :=
  if maxTracestateLen < value.toList.length then none
  else
    let members := ((value.toList.splitOn ',').filter fun member => trim member ≠ []).length
    if members = 0 ∨ maxTracestateMembers < members then none else some value

def parse (traceparent : String) (tracestate : Option String) :
    Except String (Option TraceContext) :=
  (parseTraceparent traceparent.toList).map fun parsed =>
    parsed.map fun (version, traceId, parentId, traceFlags) =>
      ⟨version, traceId, parentId, traceFlags, tracestate.bind validTracestate⟩

/-- Read the context of a request from its `_meta`. -/
def fromMeta (metadata : Json) : Except String (Option TraceContext) :=
  match metadata.get "traceparent" with
  | some (.string traceparent) => parse traceparent ((metadata.get "tracestate").bind Json.asStr)
  | _ => .ok none

def lowerHex (byte : UInt8) : List Char :=
  [byte.toNat / 16, byte.toNat % 16].map fun digit =>
    Char.ofNat (if digit < 10 then 48 + digit else 87 + digit)

def joined (version traceId parentId flags rest : List Char) : List Char :=
  version ++ '-' :: (traceId ++ '-' :: (parentId ++ '-' :: (flags ++ rest)))

def traceparent (context : TraceContext) : String :=
  String.ofList (joined (lowerHex context.version) context.traceId context.parentId
    (lowerHex context.traceFlags) [])

/-- The entries of `_meta` that carry a context. -/
def entries (context : TraceContext) : List (String × String) :=
  ("traceparent", context.traceparent) ::
    context.tracestate.toList.map fun state => ("tracestate", state)

/-- The fields of a well-formed `traceparent` and what follows them. -/
structure WellFormed (version traceId parentId flags rest : List Char) : Prop where
  version_digits : version.length = 2 ∧ isLowerHex version = true
  version_known : version ≠ "ff".toList
  trace_digits : traceId.length = 32 ∧ isLowerHex traceId = true
  trace_nonzero : isAllZero traceId = false
  parent_digits : parentId.length = 16 ∧ isLowerHex parentId = true
  parent_nonzero : isAllZero parentId = false
  flags_digits : flags.length = 2 ∧ isLowerHex flags = true
  suffix : rest = [] ∨ version ≠ "00".toList ∧ rest.head? = some '-'

variable {version traceId parentId flags rest : List Char}

/-! ## Digits -/

theorem exists_digit_of_is_lower_hex {c : Char} (h : isLowerHex [c] = true) :
    ∃ digit : Fin 16, c = Char.ofNat (if digit.val < 10 then 48 + digit.val else 87 + digit.val) := by
  have hall : ∀ n : Fin 128, isLowerHex [Char.ofNat n.val] = true → ∃ digit : Fin 16,
      Char.ofNat n.val = Char.ofNat (if digit.val < 10 then 48 + digit.val else 87 + digit.val) := by
    decide +kernel
  have hascii : c.toNat < 128 := by
    simp only [isLowerHex, List.all_cons, List.all_nil, Bool.and_true, Bool.or_eq_true,
      decide_eq_true_eq] at h
    rcases h with hdigit | hletter
    · simp only [Char.isDigit, Bool.and_eq_true, decide_eq_true_eq] at hdigit
      have hle : c.toNat ≤ 57 := hdigit.2
      omega
    · omega
  have hc := hall ⟨c.toNat, hascii⟩
  rw [Char.ofNat_toNat] at hc
  exact hc h

theorem u8_from_str_radix_of_digits (h : version.length = 2 ∧ isLowerHex version = true) :
    ∃ byte, u8FromStrRadix version = some byte ∧ lowerHex byte = version := by
  obtain ⟨high, low, rfl⟩ := List.length_eq_two.1 h.1
  have hsplit : isLowerHex [high] = true ∧ isLowerHex [low] = true := by
    simpa [isLowerHex] using h.2
  obtain ⟨a, rfl⟩ := exists_digit_of_is_lower_hex hsplit.1
  obtain ⟨b, rfl⟩ := exists_digit_of_is_lower_hex hsplit.2
  have hall : ∀ a b : Fin 16,
      let digits := [a, b].map fun digit =>
        Char.ofNat (if digit.val < 10 then 48 + digit.val else 87 + digit.val)
      u8FromStrRadix digits = some (UInt8.ofNat (16 * a.val + b.val)) ∧
        lowerHex (UInt8.ofNat (16 * a.val + b.val)) = digits := by
    decide +kernel
  exact ⟨_, hall a b⟩

/-! ## Parsing -/

variable {value : List Char}

theorem with_dash_eq {α : Type} {i : ℕ} {byte : Char} (h : value[i]? = some byte)
    (next : Except String (Option α)) :
    withDash value i next = if byte ≠ '-' then .ok none else next := by
  rw [withDash, h]

theorem exists_fields (h : traceparentLen ≤ value.length) :
    ∃ version first traceId second parentId third flags rest,
      value = version ++ first :: (traceId ++ second :: (parentId ++ third :: (flags ++ rest))) ∧
      version.length = 2 ∧ traceId.length = 32 ∧ parentId.length = 16 ∧ flags.length = 2 := by
  have hcut (n : ℕ) (l : List Char) (hl : n ≤ l.length) :
      ∃ front back, l = front ++ back ∧ front.length = n :=
    ⟨l.take n, l.drop n, (List.take_append_drop n l).symm, List.length_take_of_le hl⟩
  unfold traceparentLen at h
  obtain ⟨version, l, rfl, hversion⟩ := hcut 2 value (by omega)
  cases l with
  | nil => simp at h; omega
  | cons first l =>
    simp only [List.length_append, List.length_cons] at h
    obtain ⟨traceId, l, rfl, htrace⟩ := hcut 32 l (by omega)
    cases l with
    | nil => simp at h; omega
    | cons second l =>
      simp only [List.length_append, List.length_cons] at h
      obtain ⟨parentId, l, rfl, hparent⟩ := hcut 16 l (by omega)
      cases l with
      | nil => simp at h; omega
      | cons third l =>
        simp only [List.length_append, List.length_cons] at h
        obtain ⟨flags, rest, rfl, hflags⟩ := hcut 2 l (by omega)
        exact ⟨_, _, _, _, _, _, _, _, rfl, hversion, htrace, hparent, hflags⟩

theorem parse_traceparent_fields {first second third : Char} (hversion : version.length = 2)
    (htrace : traceId.length = 32) (hparent : parentId.length = 16) (hflags : flags.length = 2) :
    parseTraceparent
        (version ++ first :: (traceId ++ second :: (parentId ++ third :: (flags ++ rest)))) =
      if isAscii (version ++ first :: (traceId ++ second :: (parentId ++ third :: (flags ++ rest)))) =
          false then .ok none
      else if first ≠ '-' then .ok none
      else if second ≠ '-' then .ok none
      else if third ≠ '-' then .ok none
      else if isLowerHex version = false ∨ isLowerHex traceId = false ∨
          isLowerHex parentId = false ∨ isLowerHex flags = false then .ok none
      else if isAllZero traceId = true ∨ isAllZero parentId = true then .ok none
      else if version = "ff".toList then .ok none
      else if version = "00".toList ∧ rest ≠ [] then .ok none
      else if rest ≠ [] ∧ rest.head? ≠ some '-' then .ok none
      else .ok (Option.map₂ (fun version flags => (version, traceId, parentId, flags))
        (u8FromStrRadix version) (u8FromStrRadix flags)) := by
  generalize hvalue : version ++ first :: (traceId ++ second :: (parentId ++ third :: (flags ++ rest)))
    = value
  have hlength : value.length = 55 + rest.length := by
    rw [← hvalue]
    simp only [List.length_append, List.length_cons]
    omega
  have hindex (n : ℕ) (front : List Char) (c : Char) (back : List Char) (hfront : front.length = n)
      (heq : value = front ++ c :: back) : value[n]? = some c := by
    rw [heq, ← hfront, List.getElem?_append_right le_rfl, Nat.sub_self]
    rfl
  have hslice (start stop : ℕ) (front field back : List Char) (hfront : front.length = start)
      (hfield : (front ++ field).length = stop) (heq : value = front ++ field ++ back) :
      slice value start stop = some field := by
    rw [slice, heq, if_pos (by simp only [List.length_append] at hfield ⊢; omega), ← hfield,
      List.take_left, ← hfront, List.drop_left]
  have hfirst := hindex 2 version first _ hversion hvalue.symm
  have hsecond := hindex 35 (version ++ first :: traceId) second
    (parentId ++ third :: (flags ++ rest)) (by simp [hversion, htrace]) (by simp [← hvalue])
  have hthird := hindex 52 (version ++ first :: (traceId ++ second :: parentId)) third
    (flags ++ rest) (by simp [hversion, htrace, hparent]) (by simp [← hvalue])
  have hversion' := hslice 0 2 [] version _ rfl hversion hvalue.symm
  have htrace' := hslice 3 35 (version ++ [first]) traceId
    (second :: (parentId ++ third :: (flags ++ rest))) (by simp [hversion])
    (by simp [hversion, htrace]) (by simp [← hvalue])
  have hparent' := hslice 36 52 (version ++ first :: (traceId ++ [second])) parentId
    (third :: (flags ++ rest)) (by simp [hversion, htrace]) (by simp [hversion, htrace, hparent])
    (by simp [← hvalue])
  have hflags' := hslice 53 55 (version ++ first :: (traceId ++ second :: (parentId ++ [third])))
    flags rest (by simp [hversion, htrace, hparent]) (by simp [hversion, htrace, hparent, hflags])
    (by simp [← hvalue])
  have hlast (next : Option (UInt8 × List Char × List Char × UInt8)) :
      (if traceparentLen < value.length then withDash value traceparentLen (.ok next) else .ok next) =
        if rest ≠ [] ∧ rest.head? ≠ some '-' then .ok none else .ok next := by
    cases hrest : rest with
    | nil =>
      rw [hrest] at hlength
      rw [if_neg (by rw [hlength]; decide), if_neg (by simp)]
    | cons c more =>
      have hfour := hindex 55 (version ++ first :: (traceId ++ second :: (parentId ++ third :: flags))) c
        more (by simp [hversion, htrace, hparent, hflags]) (by simp [← hvalue, hrest])
      rw [if_pos (by rw [hlength, hrest]; simp [traceparentLen]), traceparentLen, with_dash_eq hfour]
      simp
  have hlen : (value.length ≠ traceparentLen) = (rest ≠ []) := by
    rw [hlength, traceparentLen]
    cases rest <;> simp
  unfold parseTraceparent
  rw [with_dash_eq hfirst, with_dash_eq hsecond, with_dash_eq hthird, hversion', htrace', hparent',
    hflags']
  simp only [hlast, hlen]
  have hlong : ¬value.length < traceparentLen := by rw [hlength, traceparentLen]; omega
  simp only [hlong, or_false]
  by_cases hdigits : isLowerHex version = false ∨ isLowerHex traceId = false ∨
      isLowerHex parentId = false ∨ isLowerHex flags = false
  · rw [if_pos hdigits, if_pos hdigits]
  · rw [if_neg hdigits, if_neg hdigits]
    simp only [not_or, Bool.not_eq_false] at hdigits
    obtain ⟨byte, hbyte, htext⟩ := u8_from_str_radix_of_digits ⟨hversion, hdigits.1⟩
    obtain ⟨flag, hflag, -⟩ := u8_from_str_radix_of_digits ⟨hflags, hdigits.2.2.2⟩
    have hknown (known : UInt8) (digits : List Char) (hread : u8FromStrRadix digits = some known)
        (hwritten : lowerHex known = digits) : (byte = known) = (version = digits) := by
      refine propext ⟨fun h => ?_, fun h => ?_⟩
      · rw [← htext, h, hwritten]
      · rw [h, hread] at hbyte
        exact (Option.some.inj hbyte).symm
    rw [hbyte, hflag]
    simp only [Option.map_some, Option.map₂_some_some, hknown 0xff "ff".toList rfl rfl,
      hknown 0 "00".toList rfl rfl]

theorem is_ascii_append (a b : List Char) : isAscii (a ++ b) = (isAscii a && isAscii b) :=
  List.all_append

theorem is_ascii_of_is_lower_hex (h : isLowerHex value = true) :
    isAscii value = true := by
  refine List.all_eq_true.2 fun c hc => ?_
  have hdigit : isLowerHex [c] = true := by
    rw [isLowerHex, List.all_cons, List.all_nil, Bool.and_true]
    exact List.all_eq_true.1 h c hc
  obtain ⟨digit, rfl⟩ := exists_digit_of_is_lower_hex hdigit
  clear hc hdigit
  revert digit
  decide

theorem is_ascii_joined (h : WellFormed version traceId parentId flags rest) :
    isAscii (joined version traceId parentId flags rest) = isAscii rest := by
  have hcons (l : List Char) : isAscii ('-' :: l) = isAscii l := by simp [isAscii]
  unfold joined
  simp only [is_ascii_append, hcons, is_ascii_of_is_lower_hex h.version_digits.2,
    is_ascii_of_is_lower_hex h.trace_digits.2, is_ascii_of_is_lower_hex h.parent_digits.2,
    is_ascii_of_is_lower_hex h.flags_digits.2, Bool.true_and]

theorem parse_traceparent_of_well_formed (h : WellFormed version traceId parentId flags rest)
    (hrest : isAscii rest = true) {byte flag : UInt8} (hbyte : u8FromStrRadix version = some byte)
    (hflag : u8FromStrRadix flags = some flag) :
    parseTraceparent (joined version traceId parentId flags rest) =
      .ok (some (byte, traceId, parentId, flag)) := by
  have hascii := is_ascii_joined h
  unfold joined at hascii ⊢
  rw [parse_traceparent_fields h.version_digits.1 h.trace_digits.1 h.parent_digits.1
    h.flags_digits.1, hascii, hbyte, hflag, if_neg (by simp [hrest]), if_neg (by simp),
    if_neg (by simp), if_neg (by simp), if_neg (by simp [h.version_digits.2, h.trace_digits.2,
      h.parent_digits.2, h.flags_digits.2]), if_neg (by simp [h.trace_nonzero, h.parent_nonzero]),
    if_neg h.version_known]
  rcases h.suffix with rfl | ⟨hlater, hdash⟩
  · simp
  · rw [if_neg fun hzero => hlater hzero.1, if_neg (by simp [hdash])]
    rfl

theorem parse_traceparent_ok (value : List Char) :
    ∃ parsed, parseTraceparent value = .ok parsed ∧ (parsed.isSome = true →
      ∃ version traceId parentId flags rest, WellFormed version traceId parentId flags rest ∧
        isAscii rest = true ∧ value = joined version traceId parentId flags rest) := by
  by_cases hshort : value.length < traceparentLen
  · exact ⟨none, by rw [parseTraceparent, if_pos (.inr hshort)], fun h => by cases h⟩
  · obtain ⟨version, first, traceId, second, parentId, third, flags, rest, rfl, hversion, htrace,
      hparent, hflags⟩ := exists_fields (Nat.le_of_not_lt hshort)
    rw [parse_traceparent_fields hversion htrace hparent hflags]
    by_cases hascii : isAscii
        (version ++ first :: (traceId ++ second :: (parentId ++ third :: (flags ++ rest)))) = false
    · exact ⟨none, if_pos hascii, fun h => by cases h⟩
    rw [if_neg hascii]
    by_cases hfirst : first ≠ '-'
    · exact ⟨none, if_pos hfirst, fun h => by cases h⟩
    rw [if_neg hfirst]
    by_cases hsecond : second ≠ '-'
    · exact ⟨none, if_pos hsecond, fun h => by cases h⟩
    rw [if_neg hsecond]
    by_cases hthird : third ≠ '-'
    · exact ⟨none, if_pos hthird, fun h => by cases h⟩
    rw [if_neg hthird]
    split
    next => exact ⟨none, rfl, fun h => by cases h⟩
    next hdigits =>
      split
      next => exact ⟨none, rfl, fun h => by cases h⟩
      next hzero =>
        split
        next => exact ⟨none, rfl, fun h => by cases h⟩
        next hknown =>
          split
          next => exact ⟨none, rfl, fun h => by cases h⟩
          next hlater =>
            split
            next => exact ⟨none, rfl, fun h => by cases h⟩
            next hsuffix =>
              simp only [ne_eq, not_not] at hfirst hsecond hthird
              simp only [not_or, Bool.not_eq_false, Bool.not_eq_true] at hdigits hzero
              subst hfirst hsecond hthird
              have hformed : WellFormed version traceId parentId flags rest :=
                { version_digits := ⟨hversion, hdigits.1⟩
                  version_known := hknown
                  trace_digits := ⟨htrace, hdigits.2.1⟩
                  trace_nonzero := hzero.1
                  parent_digits := ⟨hparent, hdigits.2.2.1⟩
                  parent_nonzero := hzero.2
                  flags_digits := ⟨hflags, hdigits.2.2.2⟩
                  suffix := by grind }
              refine ⟨_, rfl, fun _ => ⟨_, _, _, _, _, hformed, ?_, rfl⟩⟩
              rw [← is_ascii_joined hformed]
              simpa [joined] using hascii

theorem valid_tracestate_of_bind {tracestate : Option String} {state : String}
    (h : tracestate.bind validTracestate = some state) : validTracestate state = some state := by
  obtain ⟨value, -, hvalid⟩ := Option.bind_eq_some_iff.1 h
  have heq : value = state := by
    unfold validTracestate at hvalid
    grind
  rwa [heq] at hvalid

theorem from_meta_entries (context : TraceContext) :
    fromMeta (.object (context.entries.map fun entry => (entry.1, .string entry.2))) =
      parse context.traceparent context.tracestate := by
  cases hstate : context.tracestate <;>
    simp [fromMeta, entries, hstate, Json.get, Json.asStr]

/-- No pair of values makes the parser panic; it succeeds exactly on a well-formed `traceparent` in
ASCII; and what is written of a context that it returns is read back. -/
theorem trace_context_parse_iff (traceparent : String) (tracestate : Option String) :
    (∃ parsed, parse traceparent tracestate = .ok parsed ∧
      (parsed.isSome = true ↔ ∃ version traceId parentId flags rest,
        WellFormed version traceId parentId flags rest ∧ isAscii rest = true ∧
          traceparent.toList = joined version traceId parentId flags rest)) ∧
    ∀ context, parse traceparent tracestate = .ok (some context) →
      fromMeta (.object (context.entries.map fun entry => (entry.1, .string entry.2))) =
        .ok (some context) := by
  obtain ⟨parsed, hparsed, hformed⟩ := parse_traceparent_ok traceparent.toList
  refine ⟨⟨_, by rw [parse, hparsed]; rfl, ?_⟩, fun context hcontext => ?_⟩
  · rw [Option.isSome_map]
    refine ⟨hformed, ?_⟩
    rintro ⟨version, traceId, parentId, flags, rest, h, hrest, heq⟩
    obtain ⟨byte, hbyte, -⟩ := u8_from_str_radix_of_digits h.version_digits
    obtain ⟨flag, hflag, -⟩ := u8_from_str_radix_of_digits h.flags_digits
    have hread := parse_traceparent_of_well_formed h hrest hbyte hflag
    rw [← heq, hparsed] at hread
    rw [Except.ok.inj hread]
    rfl
  · rw [parse, hparsed] at hcontext
    cases hfields : parsed with
    | none =>
      rw [hfields] at hcontext
      cases hcontext
    | some fields =>
      rw [hfields] at hcontext hformed hparsed
      obtain ⟨version, traceId, parentId, flags, rest, h, hrest, heq⟩ := hformed rfl
      obtain ⟨byte, hbyte, hversion⟩ := u8_from_str_radix_of_digits h.version_digits
      obtain ⟨flag, hflag, hflags⟩ := u8_from_str_radix_of_digits h.flags_digits
      have hread := parse_traceparent_of_well_formed h hrest hbyte hflag
      rw [← heq, hparsed] at hread
      cases hread
      cases hcontext
      -- what follows the four fields is not kept
      have hshort : WellFormed version traceId parentId flags [] := { h with suffix := .inl rfl }
      have hstate : (tracestate.bind validTracestate).bind validTracestate =
          tracestate.bind validTracestate := by
        cases hvalid : tracestate.bind validTracestate with
        | none => rfl
        | some state => exact valid_tracestate_of_bind hvalid
      rw [from_meta_entries, parse, TraceContext.traceparent, String.toList_ofList, hversion, hflags,
        parse_traceparent_of_well_formed hshort rfl hbyte hflag]
      show Except.ok (some (TraceContext.mk byte traceId parentId flag _)) = _
      rw [hstate]

/-- A later version is refused for what is not ASCII in its suffix. -/
theorem multibyte_suffix_refused :
    ¬∀ (traceparent : String) (tracestate : Option String),
      (∃ context, parse traceparent tracestate = .ok (some context)) ↔
        ∃ version traceId parentId flags rest, WellFormed version traceId parentId flags rest ∧
          traceparent.toList = joined version traceId parentId flags rest := by
  intro h
  have hformed : WellFormed "01".toList "4bf92f3577b34da6a3ce929d0e0e4736".toList
      "00f067aa0ba902b7".toList "01".toList "-é".toList := by
    constructor <;> decide
  obtain ⟨context, hcontext⟩ := (h "01-4bf92f3577b34da6a3ce929d0e0e4736-00f067aa0ba902b7-01-é"
    none).2 ⟨_, _, _, _, _, hformed, by decide⟩
  have hrefused : parse "01-4bf92f3577b34da6a3ce929d0e0e4736-00f067aa0ba902b7-01-é" none =
      .ok none := by decide +kernel
  rw [hrefused] at hcontext
  cases hcontext

end TraceContext

end TowerMcp
