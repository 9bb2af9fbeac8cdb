import TowerMcp.Router.Capability
import TowerMcp.Transport.HttpHeaders

/-!
# Pages of a listing

Every list method cuts its listing into pages. A cursor is the offset of the next page, wrapped as
Base64, and comes back from the client as any text.
-/

namespace TowerMcp

open Fallible

/-- How a page is not given: the request is refused, the end of the page overflows in a build that
checks for overflow, or the page ends before it starts. -/
inductive PageFailure where
  | refused (error : Error)
  | overflowed
  | outOfRange

namespace Pagination

variable {α : Type} (engine : Base64Engine) (overflowChecks : Bool)

def invalidCursor : PageFailure :=
  .refused (.jsonRpc (.invalidParams "Invalid pagination cursor"))

def decodeCursor (cursor : String) : Except PageFailure ℕ :=
  match engine.decode cursor.toList with
  | .error _ => .error invalidCursor
  | .ok bytes =>
    match (fromUtf8 bytes).bind fun text => parseU64 text.toList with
    | some offset => .ok offset
    | none => .error invalidCursor

def encodeCursor (offset : ℕ) : String :=
  String.ofList (engine.encode (utf8Bytes (toString offset)))

/-- The sum of two `usize`. Without checks it wraps around. -/
def addUsize (a b : ℕ) : Except PageFailure ℕ :=
  if a + b < 2 ^ 64 then .ok (a + b)
  else if overflowChecks then .error .overflowed
  else .ok ((a + b) % 2 ^ 64)

/-- The items from `start` to `stop`. -/
def drain (items : List α) (start stop : ℕ) : Except PageFailure (List α) :=
  if start ≤ stop then .ok ((items.drop start).take (stop - start)) else .error .outOfRange

def pageAt (items : List α) (offset pageSize : ℕ) :
    Except PageFailure (List α × Option String) :=
  if offset ≥ items.length then .ok ([], none)
  else do
    let sum ← addUsize overflowChecks offset pageSize
    let stop := min sum items.length
    let nextCursor := if stop < items.length then some (encodeCursor engine stop) else none
    let page ← drain items offset stop
    pure (page, nextCursor)

def paginate (items : List α) (cursor : Option String) (pageSize : Option ℕ) :
    Except PageFailure (List α × Option String) :=
  match pageSize with
  | none => .ok (items, none)
  | some pageSize => do
    let offset ←
      match cursor with
      | some cursor => decodeCursor engine cursor
      | none => .ok 0
    pageAt engine overflowChecks items offset pageSize

def follow (items : List α) (pageSize : Option ℕ) :
    ℕ → Option String → Except PageFailure (Option (List α))
  | 0, _ => .ok none
  | pages + 1, cursor => do
    let (page, nextCursor) ← paginate engine overflowChecks items cursor pageSize
    match nextCursor with
    | none => .ok (some page)
    | some nextCursor => do
      let rest ← follow items pageSize pages (some nextCursor)
      pure (rest.map (page ++ ·))

/-- Every cursor is answered or refused, and following the cursors from the start ends and gives the
items. -/
structure Exact (items : List α) (pageSize : Option (Fin (2 ^ 64))) : Prop where
  answered : ∀ cursor failure,
    paginate engine overflowChecks items cursor (pageSize.map (·.val)) = .error failure →
      ∃ error, failure = .refused error
  complete : ∃ pages,
    follow engine overflowChecks items (pageSize.map (·.val)) pages none = .ok (some items)

/-! ## Cursors -/

variable {engine overflowChecks} {items : List α} {offset pageSize : ℕ}

theorem parse_digits_to_digits (n : ℕ) : parseDigits (Nat.toDigits 10 n) = some n := by
  have hdigits : ∀ c ∈ Nat.toDigits 10 n, c.isDigit = true := fun c hc =>
    Nat.isDigit_of_mem_toDigits (by decide) (by decide) hc
  rw [parseDigits, if_pos ⟨Nat.toDigits_ne_nil, List.all_eq_true.2 hdigits⟩,
    ← Nat.ofDigitChars_eq_foldl, Nat.ofDigitChars_ten_toDigits]

theorem parse_u64_to_digits {n : ℕ} (h : n < 2 ^ 64) : parseU64 (Nat.toDigits 10 n) = some n := by
  have hplus : (Nat.toDigits 10 n).head? ≠ some '+' := by
    intro hhead
    have hdigit := Nat.isDigit_of_mem_toDigits (b := 10) (by decide) (by decide)
      (List.mem_of_mem_head? hhead)
    exact absurd hdigit (by decide)
  rw [parseU64, if_neg hplus, parse_digits_to_digits]
  exact Option.filter_eq_some_iff.2 ⟨rfl, decide_eq_true h⟩

theorem decode_encode_cursor (h : offset < 2 ^ 64) :
    decodeCursor engine (encodeCursor engine offset) = .ok offset := by
  have htext : (toString offset).toList = Nat.toDigits 10 offset := Nat.toList_repr
  rw [decodeCursor, encodeCursor, String.toList_ofList, engine.decode_encode]
  simp only [from_utf8_utf8_bytes, Option.bind_some, htext, parse_u64_to_digits h]

theorem refused_of_decode {cursor : String} {failure : PageFailure}
    (h : decodeCursor engine cursor = .error failure) : ∃ error, failure = .refused error := by
  unfold decodeCursor at h
  split at h
  · cases h
    exact ⟨_, rfl⟩
  · split at h
    · cases h
    · cases h
      exact ⟨_, rfl⟩

theorem paginate_encode (h : offset < 2 ^ 64) :
    paginate engine overflowChecks items (some (encodeCursor engine offset)) (some pageSize) =
      pageAt engine overflowChecks items offset pageSize := by
  simp only [paginate, decode_encode_cursor h]
  rfl

/-! ## Pages -/

theorem page_at_of_le (hoffset : offset < items.length) (hsum : offset + pageSize < 2 ^ 64) :
    pageAt engine overflowChecks items offset pageSize =
      .ok ((items.drop offset).take pageSize,
        if offset + pageSize < items.length then some (encodeCursor engine (offset + pageSize))
        else none) := by
  have hstop : offset ≤ min (offset + pageSize) items.length := by omega
  rw [pageAt, if_neg (by omega), addUsize, if_pos hsum]
  simp only [ok_bind, drain, if_pos hstop]
  by_cases hmore : offset + pageSize < items.length
  · have hmin : min (offset + pageSize) items.length = offset + pageSize := by omega
    rw [hmin, if_pos hmore, Nat.add_sub_cancel_left]
    rfl
  · have hmin : min (offset + pageSize) items.length = items.length := by omega
    rw [hmin, if_neg hmore, if_neg (by omega), List.take_of_length_le (by simp),
      List.take_of_length_le (by simp; omega)]
    rfl

theorem page_at_of_overflow (hoffset : offset < items.length) (hsize : pageSize < 2 ^ 64)
    (hin : offset < 2 ^ 64) (hsum : 2 ^ 64 ≤ offset + pageSize) :
    pageAt engine overflowChecks items offset pageSize =
      .error (if overflowChecks then .overflowed else .outOfRange) := by
  rw [pageAt, if_neg (by omega), addUsize, if_neg (by omega)]
  cases overflowChecks with
  | true => rfl
  | false =>
    have hwrapped : (offset + pageSize) % 2 ^ 64 = offset + pageSize - 2 ^ 64 := by omega
    have hbefore : ¬ offset ≤ min (offset + pageSize - 2 ^ 64) items.length := by omega
    simp only [Bool.false_eq_true, if_false, ok_bind, hwrapped, drain, if_neg hbefore]
    rfl

theorem page_at_of_ge (hoffset : items.length ≤ offset) :
    pageAt engine overflowChecks items offset pageSize = .ok ([], none) :=
  if_pos hoffset

theorem paginate_none : paginate engine overflowChecks items none (some pageSize) =
    pageAt engine overflowChecks items 0 pageSize := rfl

theorem paginate_some (cursor : String) :
    paginate engine overflowChecks items (some cursor) (some pageSize) =
      (decodeCursor engine cursor >>= fun offset =>
        pageAt engine overflowChecks items offset pageSize) := rfl

theorem refused_of_paginate {cursor : Option String} {failure : PageFailure}
    (hpages : ∀ offset, ∃ page, pageAt engine overflowChecks items offset pageSize = .ok page)
    (h : paginate engine overflowChecks items cursor (some pageSize) = .error failure) :
    ∃ error, failure = .refused error := by
  have hpage {offset : ℕ}
      (hfails : pageAt engine overflowChecks items offset pageSize = .error failure) :
      ∃ error, failure = .refused error := by
    obtain ⟨page, hok⟩ := hpages offset
    rw [hok] at hfails
    cases hfails
  cases cursor with
  | none =>
    rw [paginate_none] at h
    exact hpage h
  | some cursor =>
    rw [paginate_some] at h
    rcases bind_eq_error.1 h with hcursor | ⟨offset, -, hfails⟩
    · exact refused_of_decode hcursor
    · exact hpage hfails

theorem page_at_ok (hfits : items.length + pageSize ≤ 2 ^ 64) (offset : ℕ) :
    ∃ page, pageAt engine overflowChecks items offset pageSize = .ok page := by
  by_cases hoffset : offset < items.length
  · exact ⟨_, page_at_of_le hoffset (by omega)⟩
  · exact ⟨_, page_at_of_ge (by omega)⟩

theorem follow_encode (hsize : 0 < pageSize) (hfits : items.length + pageSize ≤ 2 ^ 64) (pages : ℕ)
    (hoffset : offset < items.length) (hpages : items.length - offset ≤ pages) :
    follow engine overflowChecks items (some pageSize) pages (some (encodeCursor engine offset)) =
      .ok (some (items.drop offset)) := by
  induction pages generalizing offset with
  | zero => omega
  | succ pages ih =>
    have hsum : offset + pageSize < 2 ^ 64 := by omega
    rw [follow, paginate_encode (by omega), page_at_of_le hoffset hsum]
    simp only [ok_bind]
    by_cases hmore : offset + pageSize < items.length
    · rw [if_pos hmore]
      simp only [ih hmore (by omega), ok_bind, Option.map_some, ← List.drop_drop,
        List.take_append_drop]
      rfl
    · rw [if_neg hmore]
      simp only [List.take_of_length_le (show (items.drop offset).length ≤ pageSize by
        rw [List.length_drop]; omega)]

theorem follow_of_zero (hitems : 0 < items.length) (pages : ℕ) :
    follow engine overflowChecks items (some 0) pages (some (encodeCursor engine 0)) =
      .ok none := by
  induction pages with
  | zero => rfl
  | succ pages ih =>
    rw [follow, paginate_encode (by decide), page_at_of_le hitems (by decide)]
    simp only [ok_bind, Nat.add_zero, if_pos hitems, ih]
    rfl

theorem follow_none (pages : ℕ) :
    follow engine overflowChecks items (some pageSize) pages none =
      follow engine overflowChecks items (some pageSize) pages
        (some (encodeCursor engine 0)) := by
  cases pages with
  | zero => rfl
  | succ pages => rw [follow, follow, paginate_none, paginate_encode (by decide)]

/-! ## Listings -/

theorem not_exact_of_zero (hitems : 0 < items.length) :
    ¬ Exact engine overflowChecks items (some 0) := by
  rintro ⟨-, pages, hcomplete⟩
  have hzero : (some (0 : Fin (2 ^ 64))).map (·.val) = some 0 := rfl
  rw [hzero, follow_none, follow_of_zero hitems] at hcomplete
  cases hcomplete

theorem not_exact_of_overflow {size : Fin (2 ^ 64)} (hitems : 0 < items.length)
    (hsize : 0 < size.val) (hlong : 2 ^ 64 < items.length + size.val) :
    ¬ Exact engine overflowChecks items (some size) := by
  rintro ⟨hanswered, -⟩
  -- the last offset of the list that a cursor can hold
  have hlast : min items.length (2 ^ 64) - 1 < 2 ^ 64 := by omega
  have hpage : pageAt engine overflowChecks items (min items.length (2 ^ 64) - 1) size.val = _ :=
    page_at_of_overflow (by omega) size.isLt hlast (by omega)
  obtain ⟨error, herror⟩ := hanswered
    (some (encodeCursor engine (min items.length (2 ^ 64) - 1))) _
    ((paginate_encode hlast).trans hpage)
  cases overflowChecks <;> cases herror

theorem exact_nil (size : Fin (2 ^ 64)) :
    Exact engine overflowChecks ([] : List α) (some size) :=
  ⟨fun _ _ h => refused_of_paginate (fun _ => ⟨_, page_at_of_ge (Nat.zero_le _)⟩) h, 1, rfl⟩

theorem exact_of_fits {size : Fin (2 ^ 64)} (hitems : 0 < items.length) (hsize : 0 < size.val)
    (hfits : items.length + size.val ≤ 2 ^ 64) :
    Exact engine overflowChecks items (some size) := by
  refine ⟨fun _ _ h => refused_of_paginate (page_at_ok hfits) h, items.length, ?_⟩
  rw [Option.map_some, follow_none, follow_encode hsize hfits _ hitems (Nat.sub_le _ _),
    List.drop_zero]

/-- Every cursor is answered and the pages are the listing exactly where there is no page size, the
listing is empty, or the page size is not zero and the offsets of the listing with it added stay
below the largest `usize`. -/
theorem pages_exact_iff (engine : Base64Engine) (overflowChecks : Bool) (items : List α)
    (pageSize : Option (Fin (2 ^ 64))) :
    Exact engine overflowChecks items pageSize ↔
      ∀ size, pageSize = some size → items = [] ∨
        0 < size.val ∧ items.length + size.val ≤ 2 ^ 64 := by
  cases pageSize with
  | none => exact ⟨nofun, fun _ => ⟨nofun, 1, by simp [follow, paginate]⟩⟩
  | some size =>
    constructor
    · intro hexact other hother
      cases hother
      refine or_iff_not_imp_left.2 fun hitems => ?_
      have hlength := List.length_pos_iff.2 hitems
      have hsize : 0 < size.val := by
        refine Nat.pos_of_ne_zero fun hzero => ?_
        obtain rfl : size = 0 := Fin.ext hzero
        exact not_exact_of_zero hlength hexact
      refine ⟨hsize, ?_⟩
      by_contra hlong
      exact not_exact_of_overflow hlength hsize (by omega) hexact
    · intro hcondition
      rcases hcondition size rfl with rfl | ⟨hsize, hfits⟩
      · exact exact_nil size
      · by_cases hitems : items = []
        · subst hitems
          exact exact_nil size
        · exact exact_of_fits (List.length_pos_iff.2 hitems) hsize hfits

/-- A page size of zero repeats the first page for ever, and the largest one panics at the second
offset. -/
theorem page_sizes_fail :
    ¬ Exact .standard true ["a"] (some 0) ∧
      ¬ Exact .standard false ["a", "b"] (some (Fin.last (2 ^ 64 - 1))) := by
  refine ⟨not_exact_of_zero Nat.one_pos, not_exact_of_overflow Nat.two_pos ?_ ?_⟩
  · rw [Fin.val_last]
    decide
  · rw [Fin.val_last]
    decide

end Pagination

end TowerMcp
