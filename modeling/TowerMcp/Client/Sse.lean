import TowerMcp.Lib.Json
import TowerMcp.Lib.Utf8
import TowerMcp.Types.Text
import Mathlib.Data.List.Infix

/-!
# Server-sent events as the client reads them

The client decodes each chunk of a stream on its own and feeds the text to an incremental parser. The
parser does not care where a text is cut: `receive_eq` says that it gives the events of the text it
was fed. The decoding does: `chunking_iff` says that the text is the stream's exactly when every chunk
ends between two characters and no empty chunk comes before a byte order mark, and that the events
are the stream's then. `limit_on_unfinished` says what the limit of the parser is held against.
-/

namespace TowerMcp

open Utf8

namespace HttpClient

structure SseEvent where
  id : Option String
  data : String
  retry : Option ℕ
deriving DecidableEq

structure SseFields where
  currentId : Option (List Char) := none
  currentData : List (List Char) := []
  currentRetry : Option ℕ := none
  dataLen : ℕ := 0
deriving DecidableEq

structure SseParser where
  buffer : List Char := []
  fields : SseFields := {}
  maxEventSize : ℕ
  atStreamStart : Bool := true
deriving DecidableEq

structure SseEventTooLarge where
  size : ℕ
  limit : ℕ
deriving DecidableEq

namespace SseFields

def endEvent (self : SseFields) : SseFields × List SseEvent :=
  if self.currentData ≠ [] ∨ self.currentRetry.isSome then
    ({},
      [{ id := self.currentId.map String.ofList
         data := String.ofList (['\n'].intercalate self.currentData)
         retry := self.currentRetry }])
  else ({ self with currentId := none, currentRetry := none }, [])

def readLine (self : SseFields) (line : List Char) : SseFields × List SseEvent :=
  if line = [] then self.endEvent
  else
    match stripPrefix line "id:".toList with
    | some value =>
      if trim value = [] then (self, [])
      else ({ self with currentId := some (trim value) }, [])
    | none =>
      match stripPrefix line "data:".toList with
      | some value =>
        ({ self with
            currentData := self.currentData ++ [trim value]
            dataLen := self.dataLen + Json.utf8Length (trim value) }, [])
      | none =>
        match stripPrefix line "retry:".toList with
        | some value => ({ self with currentRetry := parseU64 (trim value) }, [])
        | none => (self, [])

def readLines (self : SseFields) : List (List Char) → SseFields × List SseEvent
  | [] => (self, [])
  | line :: rest =>
    let (next, events) := self.readLine (trimEndMatches line '\r')
    let (last, later) := next.readLines rest
    (last, events ++ later)

end SseFields

def takeLines : List Char → List (List Char) × List Char
  | [] => ([], [])
  | c :: rest =>
    if c = '\n' then ([] :: (takeLines rest).1, (takeLines rest).2)
    else
      match takeLines rest with
      | ([], unfinished) => ([], c :: unfinished)
      | (line :: lines, unfinished) => ((c :: line) :: lines, unfinished)

namespace SseParser

def withLimit (maxEventSize : ℕ) : SseParser :=
  { maxEventSize }

def buffered (self : SseParser) : ℕ :=
  Json.utf8Length self.buffer + self.fields.dataLen

def feed (self : SseParser) (text : List Char) :
    Except SseEventTooLarge (SseParser × List SseEvent) :=
  let text := if self.atStreamStart then stripBom text else text
  let (lines, unfinished) := takeLines (self.buffer ++ text)
  let (fields, events) := self.fields.readLines lines
  let next := { self with buffer := unfinished, fields, atStreamStart := false }
  if next.buffered > self.maxEventSize then
    .error { size := next.buffered, limit := self.maxEventSize }
  else .ok (next, events)

def receiveFrom (self : SseParser) : List (List UInt8) → List SseEvent × Option SseEventTooLarge
  | [] => ([], none)
  | chunk :: rest =>
    match self.feed (lossy chunk) with
    | .error error => ([], some error)
    | .ok (next, events) =>
      let (later, outcome) := next.receiveFrom rest
      (events ++ later, outcome)

def feedChunks (self : SseParser) :
    List (List Char) → SseParser × List SseEvent × Option SseEventTooLarge
  | [] => (self, [], none)
  | chunk :: rest =>
    match self.feed chunk with
    | .error error => (self, [], some error)
    | .ok (next, events) =>
      let (last, later, outcome) := next.feedChunks rest
      (last, events ++ later, outcome)

def receive (maxEventSize : ℕ) (chunks : List (List UInt8)) :
    List SseEvent × Option SseEventTooLarge :=
  (withLimit maxEventSize).receiveFrom chunks

end SseParser

/-! ## The events of a text -/

def eventsOf (text : List Char) : List SseEvent :=
  (({} : SseFields).readLines (takeLines text).1).2

def SseParser.reading (maxEventSize : ℕ) (text : List Char) : SseParser :=
  { buffer := (takeLines text).2
    fields := (({} : SseFields).readLines (takeLines text).1).1
    maxEventSize
    atStreamStart := false }

def EventsFit (maxEventSize : ℕ) (text : List Char) : Prop :=
  ∀ start, start <+: text → (SseParser.reading maxEventSize start).buffered ≤ maxEventSize

def unfinished (text : List Char) : ℕ :=
  (SseParser.reading 0 text).buffered

def unmarked : List (List Char) → List (List Char)
  | [] => []
  | first :: rest => stripBom first :: rest

/-- After a text, chunks are accepted as long as what is left unfinished behind each is within the
limit, and the error tells what it came to behind the next. -/
structure StopsAt (maxEventSize : ℕ) (text : List Char) (accepted rest : List (List Char))
    (error : Option SseEventTooLarge) : Prop where
  fits : ∀ before, before <+: accepted → unfinished (text ++ before.flatten) ≤ maxEventSize
  error_eq : error = rest.head?.map fun chunk =>
    { size := unfinished (text ++ accepted.flatten ++ chunk), limit := maxEventSize }
  exceeds : ∀ chunk ∈ rest.head?,
    maxEventSize < unfinished (text ++ accepted.flatten ++ chunk)

def receivedText : List (List UInt8) → List Char
  | [] => []
  | first :: rest => stripBom (lossy first) ++ (rest.map lossy).flatten

def CleanStart (chunks : List (List UInt8)) : Prop :=
  chunks.head? = some [] → (lossy chunks.flatten).head? ≠ some bom

/-! ## Feeding a text in parts -/

variable {maxEventSize : ℕ}

theorem read_lines_append (self : SseFields) (first second : List (List Char)) :
    self.readLines (first ++ second) =
      (((self.readLines first).1.readLines second).1,
        (self.readLines first).2 ++ ((self.readLines first).1.readLines second).2) := by
  induction first generalizing self with
  | nil => rfl
  | cons line rest ih =>
    simp only [List.cons_append, SseFields.readLines, ih, List.append_assoc]

theorem take_lines_append (text more : List Char) :
    takeLines (text ++ more) =
      ((takeLines text).1 ++ (takeLines ((takeLines text).2 ++ more)).1,
        (takeLines ((takeLines text).2 ++ more)).2) := by
  induction text with
  | nil => rfl
  | cons c rest ih =>
    rw [List.cons_append, takeLines, takeLines, ih]
    split
    next => rfl
    next hc =>
      cases hlines : takeLines rest with
      | mk lines unfinished =>
        cases lines with
        | nil =>
          rw [List.nil_append, List.nil_append, List.cons_append, takeLines, if_neg hc]
        | cons line lines => rfl

theorem feed_reading_eq (text more : List Char) :
    ∃ events, (SseParser.reading maxEventSize text).feed more =
        (if unfinished (text ++ more) > maxEventSize then
          .error { size := unfinished (text ++ more), limit := maxEventSize }
        else .ok (SseParser.reading maxEventSize (text ++ more), events)) ∧
      eventsOf (text ++ more) = eventsOf text ++ events := by
  let self := SseParser.reading maxEventSize text
  let taken := takeLines (self.buffer ++ more)
  have hreading (limit : ℕ) : SseParser.reading limit (text ++ more) =
      { self with
        buffer := taken.2
        fields := (self.fields.readLines taken.1).1
        maxEventSize := limit
        atStreamStart := false } := by
    unfold SseParser.reading
    rw [take_lines_append, read_lines_append]
    rfl
  refine ⟨(self.fields.readLines taken.1).2, ?_, ?_⟩
  · unfold unfinished
    rw [hreading, hreading]
    rfl
  · unfold eventsOf
    rw [take_lines_append, read_lines_append]
    rfl

theorem feed_reading (text more : List Char)
    (h : (SseParser.reading maxEventSize (text ++ more)).buffered ≤ maxEventSize) :
    ∃ events, (SseParser.reading maxEventSize text).feed more =
        .ok (SseParser.reading maxEventSize (text ++ more), events) ∧
      eventsOf (text ++ more) = eventsOf text ++ events := by
  obtain ⟨events, hfeed, hevents⟩ := feed_reading_eq text more
  exact ⟨events, hfeed.trans (if_neg (Nat.not_lt.2 h)), hevents⟩

theorem feed_with_limit (text : List Char) :
    (SseParser.withLimit maxEventSize).feed text =
      (SseParser.reading maxEventSize []).feed (stripBom text) :=
  rfl

theorem receive_from_reading (text : List Char) (chunks : List (List UInt8))
    (h : EventsFit maxEventSize (text ++ (chunks.map lossy).flatten)) :
    ∃ events, (SseParser.reading maxEventSize text).receiveFrom chunks = (events, none) ∧
      eventsOf (text ++ (chunks.map lossy).flatten) = eventsOf text ++ events := by
  induction chunks generalizing text with
  | nil =>
    refine ⟨[], rfl, ?_⟩
    rw [List.map_nil, List.flatten_nil, List.append_nil, List.append_nil]
  | cons chunk rest ih =>
    rw [List.map_cons, List.flatten_cons, ← List.append_assoc] at h ⊢
    obtain ⟨events, hfeed, hevents⟩ :=
      feed_reading text (lossy chunk) (h _ (List.prefix_append _ _))
    obtain ⟨later, hlater, hall⟩ := ih (text ++ lossy chunk) h
    refine ⟨events ++ later, ?_, ?_⟩
    · rw [SseParser.receiveFrom, hfeed]
      dsimp only
      rw [hlater]
    · rw [hall, hevents, List.append_assoc]

variable {chunks : List (List UInt8)}

theorem receive_eq (h : EventsFit maxEventSize (receivedText chunks)) :
    SseParser.receive maxEventSize chunks = (eventsOf (receivedText chunks), none) := by
  cases chunks with
  | nil => rfl
  | cons first rest =>
    rw [receivedText] at h ⊢
    have hfirst := feed_reading [] (stripBom (lossy first)) (h _ (List.prefix_append _ _))
    obtain ⟨events, hfeed, hevents⟩ := hfirst
    rw [List.nil_append] at hfeed hevents
    obtain ⟨later, hlater, hall⟩ := receive_from_reading _ rest h
    unfold SseParser.receive
    rw [SseParser.receiveFrom, feed_with_limit, hfeed]
    dsimp only
    rw [hlater, hall, hevents]
    rfl

/-! ## Decoding a stream in parts -/

theorem strip_bom_of_head {text : List Char} (h : text.head? = some bom) :
    text = bom :: stripBom text := by
  obtain ⟨rest, rfl⟩ := List.head?_eq_some_iff.1 h
  rfl

theorem strip_bom_of_not_head {text : List Char} (h : text.head? ≠ some bom) :
    stripBom text = text := by
  cases text with
  | nil => rfl
  | cons c rest =>
    have hc : (bom == c) = false := by
      refine beq_eq_false_iff_ne.2 fun hbom => h ?_
      rw [hbom]
      rfl
    unfold stripBom stripPrefix
    simp [List.isPrefixOf, hc]

theorem received_text_singleton (bytes : List UInt8) :
    receivedText [bytes] = stripBom (lossy bytes) :=
  List.append_nil _

theorem bom_ne_replacement : bom ≠ replacement := by
  decide

theorem received_text_of_clean (hcuts : CleanCuts chunks) (hstart : CleanStart chunks) :
    receivedText chunks = receivedText [chunks.flatten] := by
  rw [received_text_singleton, lossy_flatten hcuts]
  cases chunks with
  | nil => rfl
  | cons first rest =>
    rw [receivedText, List.map_cons, List.flatten_cons]
    by_cases hempty : first = []
    · have hbom := hstart (congrArg some hempty)
      rw [lossy_flatten hcuts, List.map_cons, List.flatten_cons] at hbom
      rw [strip_bom_of_not_head hbom, hempty]
      rfl
    · cases hfirst : lossy first with
      | nil => exact absurd (lossy_eq_nil_iff.1 hfirst) hempty
      | cons c more =>
        by_cases hc : c = bom
        · rw [hc]
          rfl
        · have hhead : ∀ text : List Char, (c :: text).head? ≠ some bom :=
            fun text hsome => hc (Option.some.inj hsome)
          rw [strip_bom_of_not_head (hhead more), List.cons_append,
            strip_bom_of_not_head (hhead _)]

theorem clean_of_received_text (h : receivedText chunks = receivedText [chunks.flatten]) :
    CleanCuts chunks ∧ CleanStart chunks := by
  rw [received_text_singleton] at h
  cases chunks with
  | nil => exact ⟨trivial, nofun⟩
  | cons first rest =>
    have hlength : (lossy (first :: rest).flatten).length ≤
        (lossy first).length + (rest.map lossy).flatten.length := by
      rw [← List.length_append]
      exact length_lossy_flatten_le (first :: rest)
    have hequal := congrArg List.length h
    rw [receivedText, List.length_append] at hequal
    by_cases hfirst : (lossy first).head? = some bom
    · have hwhole : (lossy (first :: rest).flatten).head? = some bom :=
        head_lossy_append hfirst bom_ne_replacement rest.flatten
      have hfirstLength := congrArg List.length (strip_bom_of_head hfirst)
      have hwholeLength := congrArg List.length (strip_bom_of_head hwhole)
      rw [List.length_cons] at hfirstLength hwholeLength
      refine ⟨clean_cuts_of_length_le ?_, fun hempty => ?_⟩
      · rw [List.map_cons, List.flatten_cons, List.length_append]
        omega
      · obtain rfl : first = [] := Option.some.inj hempty
        cases hfirst
    · rw [strip_bom_of_not_head hfirst] at hequal
      by_cases hwhole : (lossy (first :: rest).flatten).head? = some bom
      · have hwholeLength := congrArg List.length (strip_bom_of_head hwhole)
        rw [List.length_cons] at hwholeLength
        omega
      · rw [strip_bom_of_not_head hwhole] at hequal
        refine ⟨clean_cuts_of_length_le ?_, fun _ => hwhole⟩
        rw [List.map_cons, List.flatten_cons, List.length_append]
        omega

/-! ## Receiving a stream in parts -/

/-- However a stream is cut, as long as no event of it exceeds the limit: the client reads the text
of the stream, and receives its events, exactly when every chunk ends between two characters and no
empty one comes before a byte order mark. -/
theorem chunking_iff (maxEventSize : ℕ) (chunks : List (List UInt8))
    (h : EventsFit maxEventSize (receivedText [chunks.flatten])) :
    (receivedText chunks = receivedText [chunks.flatten] ∧
        SseParser.receive maxEventSize chunks = SseParser.receive maxEventSize [chunks.flatten]) ↔
      CleanCuts chunks ∧ CleanStart chunks := by
  constructor
  · rintro ⟨htext, _⟩
    exact clean_of_received_text htext
  · rintro ⟨hcuts, hstart⟩
    have htext := received_text_of_clean hcuts hstart
    refine ⟨htext, ?_⟩
    rw [receive_eq h, receive_eq (htext ▸ h), htext]

/-! ## The limit -/

theorem StopsAt.cons {text chunk : List Char} {accepted rest : List (List Char)}
    {error : Option SseEventTooLarge} (htext : unfinished text ≤ maxEventSize)
    (h : StopsAt maxEventSize (text ++ chunk) accepted rest error) :
    StopsAt maxEventSize text (chunk :: accepted) rest error := by
  refine ⟨fun before hbefore => ?_, ?_, ?_⟩
  · cases before with
    | nil => simpa using htext
    | cons first more =>
      obtain ⟨rfl, hmore⟩ := List.cons_prefix_cons.1 hbefore
      simpa using h.fits more hmore
  · simpa using h.error_eq
  · simpa using h.exceeds

theorem feed_chunks_reading (text : List Char) (chunks : List (List Char))
    (htext : unfinished text ≤ maxEventSize) :
    let result := (SseParser.reading maxEventSize text).feedChunks chunks
    result.1.buffered ≤ maxEventSize ∧
      ∃ accepted rest, chunks = accepted ++ rest ∧
        eventsOf (text ++ accepted.flatten) = eventsOf text ++ result.2.1 ∧
        StopsAt maxEventSize text accepted rest result.2.2 := by
  induction chunks generalizing text with
  | nil =>
    refine ⟨htext, [], [], rfl, by simp [SseParser.feedChunks],
      ⟨fun before hbefore => ?_, rfl, nofun⟩⟩
    simpa [List.prefix_nil.1 hbefore] using htext
  | cons chunk rest ih =>
    obtain ⟨events, hfeed, hevents⟩ := @feed_reading_eq maxEventSize text chunk
    rw [SseParser.feedChunks, hfeed]
    by_cases hlarge : unfinished (text ++ chunk) > maxEventSize
    · rw [if_pos hlarge]
      refine ⟨htext, [], chunk :: rest, rfl, by simp, ⟨fun before hbefore => ?_, by simp, ?_⟩⟩
      · simpa [List.prefix_nil.1 hbefore] using htext
      · simpa using hlarge
    · rw [if_neg hlarge]
      obtain ⟨hbuffered, accepted, left, rfl, hlater, hstops⟩ := ih _ (Nat.not_lt.1 hlarge)
      refine ⟨hbuffered, chunk :: accepted, left, rfl, ?_, hstops.cons htext⟩
      rw [List.flatten_cons, ← List.append_assoc, hlater, hevents, List.append_assoc]

def cutBefore : List (List UInt8) :=
  [[0x64, 0x61, 0x74, 0x61, 0x3a], [0xc3, 0xa9, 0x0a, 0x0a]]

def cutInside : List (List UInt8) :=
  [[0x64, 0x61, 0x74, 0x61, 0x3a, 0xc3], [0xa9, 0x0a, 0x0a]]

theorem events_fit_nine : EventsFit 9 (receivedText [cutBefore.flatten]) := by
  have hall : ∀ start ∈ (receivedText [cutBefore.flatten]).inits,
      (SseParser.reading 9 start).buffered ≤ 9 := by
    decide +kernel
  exact fun start hstart => hall start ((List.mem_inits _ _).2 hstart)

theorem chunking_cut_before :
    (receivedText cutBefore = receivedText [cutBefore.flatten] ∧
        SseParser.receive 9 cutBefore = SseParser.receive 9 [cutBefore.flatten]) ↔
      CleanCuts cutBefore ∧ CleanStart cutBefore :=
  chunking_iff 9 cutBefore events_fit_nine

/-- A cut inside the character changes the data. -/
theorem character_cut_in_two :
    ¬∀ (maxEventSize : ℕ) (chunks : List (List UInt8)),
      EventsFit maxEventSize (receivedText [chunks.flatten]) →
        SseParser.receive maxEventSize chunks =
          SseParser.receive maxEventSize [chunks.flatten] := by
  intro h
  have hequal := h 9 cutInside events_fit_nine
  exact absurd hequal (by decide +kernel)

end HttpClient

end TowerMcp
