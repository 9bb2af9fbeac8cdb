import TowerMcp.Lib.Segments
import TowerMcp.Router.Capability
import TowerMcp.Router.QueryComponents

/-!
# Newline-delimited frames

The asynchronous reader keeps the bytes of an unfinished frame in itself, so that a call dropped
while it waits for a chunk loses nothing; the blocking one keeps them in a local buffer. Both are
shown to read the frames of the stream, that is the stream cut after each newline, whatever the
chunks it arrives in.
-/

namespace TowerMcp

open Segments

inductive InputFrame where
  | line (text : String)
  | undecodable
deriving DecidableEq

def isNewline (byte : UInt8) : Bool := byte == 10

@[simp] theorem is_newline_newline : isNewline 10 = true := rfl

theorem unended_append {first second : List UInt8} (hfirst : ∀ byte ∈ first, isNewline byte = false)
    (hsecond : ∀ byte ∈ second, isNewline byte = false) :
    ∀ byte ∈ first ++ second, isNewline byte = false :=
  fun byte hbyte => (List.mem_append.1 hbyte).elim (hfirst byte) (hsecond byte)

/-- The last byte popped when it is `byte`. -/
def popByte (raw : List UInt8) (byte : UInt8) : Option (List UInt8) :=
  if raw.getLast? = some byte then some raw.dropLast else none

def decodeInputFrame (raw : List UInt8) : InputFrame :=
  let raw :=
    match popByte raw 10 with
    | some unended => (popByte unended 13).getD unended
    | none => raw
  match String.fromUTF8? ⟨raw.toArray⟩ with
  | some text => .line text
  | none => .undecodable

/-! ## The buffered stream -/

abbrev Chunk := {bytes : List UInt8 // bytes ≠ []}

structure BufReader where
  buffer : List UInt8 := []
  reads : List Chunk

namespace BufReader

def fillBuf (self : BufReader) : List UInt8 × BufReader :=
  match self.buffer, self.reads with
  | [], [] => ([], self)
  | [], chunk :: reads => (chunk.val, { buffer := chunk.val, reads })
  | first :: more, _ => (first :: more, self)

def consume (self : BufReader) (amount : ℕ) : BufReader :=
  { self with buffer := self.buffer.drop amount }

def unread (self : BufReader) : List UInt8 :=
  self.buffer ++ (self.reads.map Subtype.val).flatten

theorem unread_fill_buf (self : BufReader) : self.fillBuf.2.unread = self.unread := by
  unfold fillBuf
  split
  next => rfl
  next chunk reads hbuffer hreads =>
    unfold unread
    rw [hbuffer, hreads]
    rfl
  next => rfl

theorem buffer_fill_buf (self : BufReader) : self.fillBuf.2.buffer = self.fillBuf.1 := by
  unfold fillBuf
  split
  next hbuffer _ => exact hbuffer
  next => rfl
  next first more hbuffer => exact hbuffer

theorem fill_buf_eq_nil_iff (self : BufReader) : self.fillBuf.1 = [] ↔ self.unread = [] := by
  unfold fillBuf unread
  split
  next hbuffer hreads => simp [hbuffer, hreads]
  next chunk reads hbuffer hreads => simp [hbuffer, hreads, chunk.property]
  next first more hbuffer => simp [hbuffer]

theorem unread_eq_take_append (self : BufReader) (amount : ℕ) :
    self.unread = self.fillBuf.1.take amount ++ (self.fillBuf.2.consume amount).unread := by
  rw [← unread_fill_buf, ← buffer_fill_buf]
  unfold unread consume
  rw [← List.append_assoc, List.take_append_drop]

end BufReader

/-! ## One turn of the reading loop -/

def frameEnd (filled : List UInt8) : ℕ × Bool :=
  match filled.findIdx? isNewline with
  | some position => (position + 1, true)
  | none => (filled.length, false)

theorem take_frame_end (filled : List UInt8) :
    (∃ unended : List UInt8, (frameEnd filled).2 = true ∧
        filled.take (frameEnd filled).1 = unended ++ [10] ∧
        ∀ byte ∈ unended, isNewline byte = false) ∨
      ((frameEnd filled).2 = false ∧ filled.take (frameEnd filled).1 = filled ∧
        ∀ byte ∈ filled, isNewline byte = false) := by
  unfold frameEnd
  cases hfind : filled.findIdx? isNewline with
  | none =>
    refine Or.inr ⟨rfl, List.take_length, ?_⟩
    intro byte hbyte
    exact List.findIdx?_eq_none_iff.1 hfind byte hbyte
  | some position =>
    obtain ⟨hlt, hnewline, hbefore⟩ := List.findIdx?_eq_some_iff_getElem.1 hfind
    refine Or.inl ⟨filled.take position, rfl, ?_, ?_⟩
    · rw [List.take_succ_eq_append_getElem hlt, beq_iff_eq.1 hnewline]
    · intro byte hbyte
      obtain ⟨index, hindex, rfl⟩ := List.mem_take_iff_getElem.1 hbyte
      have hless : index < position := by omega
      exact Bool.eq_false_iff.2 (hbefore index hless)

theorem length_take_frame_end (filled : List UInt8) :
    (filled.take (frameEnd filled).1).length = (frameEnd filled).1 := by
  unfold frameEnd
  cases hfind : filled.findIdx? isNewline with
  | none => rw [List.take_length]
  | some position =>
    obtain ⟨hlt, _, _⟩ := List.findIdx?_eq_some_iff_getElem.1 hfind
    exact List.length_take_of_le hlt

inductive Turn where
  | again
  | finished
  | failed (error : Error)
deriving DecidableEq

structure FrameReader where
  reader : BufReader
  buf : List UInt8
  maxFrameLen : ℕ

namespace FrameReader

/-- A reader that rejects a frame buffering more than `maxFrameLen` bytes without a delimiter. -/
def withMaxLen (reader : BufReader) (maxFrameLen : ℕ) : FrameReader :=
  { reader, buf := [], maxFrameLen }

/-- One turn of the loop of `nextFrame`, from the fill it awaits. -/
def turn (self : FrameReader) : Turn × FrameReader :=
  let filled := self.reader.fillBuf.1
  let reader := self.reader.fillBuf.2
  if filled = [] then (.finished, { self with reader })
  else
    let take := (frameEnd filled).1
    if self.maxFrameLen < self.buf.length + take then
      (.failed (.frameTooLarge (self.buf.length + take) self.maxFrameLen),
        { self with reader := reader.consume take, buf := [] })
    else
      (if (frameEnd filled).2 then .finished else .again,
        { self with reader := reader.consume take, buf := self.buf ++ filled.take take })

/-- What a turn does: it reaches the end of input, takes the rest of the frame, takes a chunk of it
and goes on, or finds the frame too large. -/
inductive Turned (self : FrameReader) : Turn → FrameReader → Prop
  | ended {next : FrameReader} (hunread : self.reader.unread = []) (hbuf : next.buf = self.buf)
      (hlimit : next.maxFrameLen = self.maxFrameLen) (hnext : next.reader.unread = []) :
      Turned self .finished next
  | framed {next : FrameReader} {unended : List UInt8}
      (hunended : ∀ byte ∈ unended, isNewline byte = false)
      (hunread : self.reader.unread = unended ++ [10] ++ next.reader.unread)
      (hbuf : next.buf = self.buf ++ (unended ++ [10]))
      (hlimit : next.maxFrameLen = self.maxFrameLen) (hle : next.buf.length ≤ self.maxFrameLen) :
      Turned self .finished next
  | held {next : FrameReader} {chunk : List UInt8} (hne : chunk ≠ [])
      (hunended : ∀ byte ∈ chunk, isNewline byte = false)
      (hunread : self.reader.unread = chunk ++ next.reader.unread)
      (hbuf : next.buf = self.buf ++ chunk)
      (hlimit : next.maxFrameLen = self.maxFrameLen) (hle : next.buf.length ≤ self.maxFrameLen) :
      Turned self .again next
  | overran {next : FrameReader} {taken : List UInt8} {amount : ℕ}
      (hlength : taken.length = amount)
      (htaken : (∃ unended, taken = unended ++ [10] ∧ ∀ byte ∈ unended, isNewline byte = false) ∨
        ∀ byte ∈ taken, isNewline byte = false)
      (hunread : self.reader.unread = taken ++ next.reader.unread)
      (hbuf : next.buf = []) (hlimit : next.maxFrameLen = self.maxFrameLen)
      (hover : self.maxFrameLen < self.buf.length + amount) :
      Turned self (.failed (.frameTooLarge (self.buf.length + amount) self.maxFrameLen)) next

theorem turned_turn (self : FrameReader) : Turned self self.turn.1 self.turn.2 := by
  have hunread := self.reader.unread_eq_take_append (frameEnd self.reader.fillBuf.1).1
  have hlength := length_take_frame_end self.reader.fillBuf.1
  have htake := take_frame_end self.reader.fillBuf.1
  have hnil := self.reader.fill_buf_eq_nil_iff
  have hfill := self.reader.unread_fill_buf
  unfold turn
  generalize self.reader.fillBuf.1 = filled at *
  generalize self.reader.fillBuf.2 = reader at *
  dsimp only
  by_cases hfilled : filled = []
  · rw [if_pos hfilled]
    exact .ended (hnil.1 hfilled) rfl rfl (hfill.trans (hnil.1 hfilled))
  · rw [if_neg hfilled]
    by_cases hover : self.maxFrameLen < self.buf.length + (frameEnd filled).1
    · rw [if_pos hover]
      refine .overran hlength ?_ hunread rfl rfl hover
      obtain ⟨unended, _, htaken, hunended⟩ | ⟨_, htaken, hunended⟩ := htake
      · exact Or.inl ⟨unended, htaken, hunended⟩
      · exact Or.inr fun byte hbyte => hunended byte (List.mem_of_mem_take hbyte)
    · rw [if_neg hover]
      have hle : (self.buf ++ filled.take (frameEnd filled).1).length ≤ self.maxFrameLen := by
        rw [List.length_append, hlength]
        exact not_lt.1 hover
      obtain ⟨unended, hfound, htaken, hunended⟩ | ⟨hfound, htaken, hunended⟩ := htake
      · rw [if_pos hfound]
        rw [htaken] at hunread
        exact .framed hunended hunread (congrArg (self.buf ++ ·) htaken) rfl hle
      · rw [if_neg (by rw [hfound]; exact Bool.false_ne_true)]
        exact .held (fun h => hfilled (htaken.symm.trans h)) (htaken.symm ▸ hunended) hunread rfl
          rfl hle

variable {self next : FrameReader}

theorem turned_of_turn {turn : Turn} (h : self.turn = (turn, next)) : Turned self turn next := by
  have hturned := self.turned_turn
  rwa [h] at hturned

theorem unread_lt_of_again (h : self.turn = (.again, next)) :
    next.reader.unread.length < self.reader.unread.length := by
  cases turned_of_turn h with
  | held hne hunended hunread hbuf hlimit hle =>
    have hpos := List.length_pos_iff.2 hne
    rw [hunread, List.length_append]
    omega

/-- Read the next frame, or `none` once the input is exhausted. -/
def nextFrame (self : FrameReader) : Except Error (Option InputFrame) × FrameReader :=
  match _hturn : self.turn with
  | (.again, next) => next.nextFrame
  | (.finished, next) =>
    if next.buf = [] then (.ok none, next)
    else (.ok (some (decodeInputFrame next.buf)), { next with buf := [] })
  | (.failed error, next) => (.error error, next)
termination_by self.reader.unread.length
decreasing_by exact unread_lt_of_again (by assumption)

theorem next_frame_of_again (h : self.turn = (.again, next)) : self.nextFrame = next.nextFrame := by
  rw [nextFrame]
  split
  next other hturn => cases h.symm.trans hturn; rfl
  next other hturn => cases h.symm.trans hturn
  next error other hturn => cases h.symm.trans hturn

theorem next_frame_of_finished (h : self.turn = (.finished, next)) :
    self.nextFrame =
      if next.buf = [] then (.ok none, next)
      else (.ok (some (decodeInputFrame next.buf)), { next with buf := [] }) := by
  rw [nextFrame]
  split
  next other hturn => cases h.symm.trans hturn
  next other hturn => cases h.symm.trans hturn; rfl
  next error other hturn => cases h.symm.trans hturn

theorem next_frame_of_failed {error : Error} (h : self.turn = (.failed error, next)) :
    self.nextFrame = (.error error, next) := by
  rw [nextFrame]
  split
  next other hturn => cases h.symm.trans hturn
  next other hturn => cases h.symm.trans hturn
  next failure other hturn => cases h.symm.trans hturn; rfl

/-- What a call dropped while it waits for a chunk leaves behind: it has made at most `turns` turns,
all of which go on. -/
def advance (self : FrameReader) : ℕ → FrameReader
  | 0 => self
  | turns + 1 =>
    match self.turn with
    | (.again, next) => next.advance turns
    | _ => self

/-! ## What a call reads -/

def pending (self : FrameReader) : List UInt8 := self.buf ++ self.reader.unread

structure Holds (reader : FrameReader) : Prop where
  unended : ∀ byte ∈ reader.buf, isNewline byte = false
  le : reader.buf.length ≤ reader.maxFrameLen

theorem holds_with_max_len (reader : BufReader) (limit : ℕ) : (withMaxLen reader limit).Holds :=
  ⟨fun _ h => absurd h List.not_mem_nil, Nat.zero_le limit⟩

theorem Holds.of_again (h : self.Holds) (hturn : self.turn = (.again, next)) :
    next.Holds ∧ next.pending = self.pending ∧ next.maxFrameLen = self.maxFrameLen := by
  cases turned_of_turn hturn with
  | held hne hunended hunread hbuf hlimit hle =>
    refine ⟨⟨?_, hlimit ▸ hle⟩, ?_, hlimit⟩
    · rw [hbuf]
      exact unended_append h.unended hunended
    · unfold pending
      rw [hbuf, hunread, List.append_assoc]

/-- What a call returns: nothing at the end of input, the next frame of the stream, or that the next
frame is too large. -/
inductive Read (self : FrameReader) : Except Error (Option InputFrame) → FrameReader → Prop
  | ended {next : FrameReader} (hpending : self.pending = []) (hnext : next.pending = [])
      (hlimit : next.maxFrameLen = self.maxFrameLen) : Read self (.ok none) next
  | framed {next : FrameReader} {frame : List UInt8} {others : List (List UInt8)}
      (hsegments : segments isNewline self.pending = frame :: others)
      (hle : frame.length ≤ self.maxFrameLen) (hbuf : next.buf = [])
      (hpending : self.pending = frame ++ next.pending)
      (hothers : segments isNewline next.pending = others)
      (hlimit : next.maxFrameLen = self.maxFrameLen) :
      Read self (.ok (some (decodeInputFrame frame))) next
  | overran {next : FrameReader} {frame : List UInt8} {others : List (List UInt8)} {size : ℕ}
      (hsegments : segments isNewline self.pending = frame :: others)
      (hframe : self.maxFrameLen < frame.length) (hsize : self.maxFrameLen < size)
      (hbuf : next.buf = []) (hlimit : next.maxFrameLen = self.maxFrameLen) :
      Read self (.error (.frameTooLarge size self.maxFrameLen)) next

theorem Read.of_again {self next final : FrameReader} {result : Except Error (Option InputFrame)}
    (h : Read next result final) (hpending : next.pending = self.pending)
    (hlimit : next.maxFrameLen = self.maxFrameLen) : Read self result final := by
  cases h with
  | ended hempty hnext hsame => exact .ended (hpending ▸ hempty) hnext (hsame.trans hlimit)
  | framed hsegments hle hbuf hrest hothers hsame =>
    exact .framed (hpending ▸ hsegments) (hlimit ▸ hle) hbuf (hpending ▸ hrest) hothers
      (hsame.trans hlimit)
  | overran hsegments hframe hsize hbuf hsame =>
    rw [hlimit] at hframe hsize ⊢
    exact .overran (hpending ▸ hsegments) hframe hsize hbuf (hsame.trans hlimit)

theorem lt_of_overran {self : FrameReader} (h : self.Holds) {taken rest : List UInt8}
    (htaken : (∃ unended, taken = unended ++ [10] ∧ ∀ byte ∈ unended, isNewline byte = false) ∨
      ∀ byte ∈ taken, isNewline byte = false)
    (hunread : self.reader.unread = taken ++ rest)
    (hover : self.maxFrameLen < self.buf.length + taken.length) :
    ∃ frame others, segments isNewline self.pending = frame :: others ∧
      self.maxFrameLen < frame.length := by
  have hpending : self.pending = self.buf ++ taken ++ rest := by
    unfold pending
    rw [hunread, List.append_assoc]
  obtain ⟨unended, rfl, hunended⟩ | hunended := htaken
  · refine ⟨self.buf ++ unended ++ [10], segments isNewline rest, ?_, ?_⟩
    · rw [hpending, ← List.append_assoc, List.append_assoc _ [10]]
      exact segments_append_cons (unended_append h.unended hunended) is_newline_newline rest
    · rwa [List.append_assoc, List.length_append]
  · cases hsegments : segments isNewline self.pending with
    | nil =>
      have hempty := eq_nil_of_segments_eq_nil hsegments
      rw [hpending, List.append_assoc, List.append_eq_nil_iff, List.append_eq_nil_iff] at hempty
      obtain ⟨hbuf, htaken, _⟩ := hempty
      rw [hbuf, htaken] at hover
      exact absurd hover (Nat.not_lt_zero _)
    | cons frame others =>
      rw [hpending] at hsegments
      have hprefix := prefix_head_segments (unended_append h.unended hunended) hsegments
      have hlength := hprefix.length_le
      rw [List.length_append] at hlength
      exact ⟨frame, others, rfl, hover.trans_le hlength⟩

theorem read_next_frame {self : FrameReader} (h : self.Holds) :
    Read self self.nextFrame.1 self.nextFrame.2 := by
  unfold nextFrame
  split
  next next hturn =>
    have hsmaller := unread_lt_of_again hturn
    obtain ⟨hholds, hpending, hlimit⟩ := h.of_again hturn
    exact (read_next_frame hholds).of_again hpending hlimit
  next next hturn =>
    cases turned_of_turn hturn with
    | ended hunread hbuf hlimit hnext =>
      have hpending : self.pending = next.buf := by
        unfold pending
        rw [hunread, List.append_nil, hbuf]
      split
      next hempty =>
        refine .ended (hpending.trans hempty) ?_ hlimit
        unfold pending
        rw [hempty, hnext]
        rfl
      next hne =>
        have hsegments : segments isNewline self.pending = [next.buf] := by
          rw [hpending]
          exact segments_of_unended hne (hbuf ▸ h.unended)
        refine .framed hsegments (hbuf ▸ h.le) rfl ?_ ?_ hlimit
        · unfold pending
          rw [hunread, hnext, List.append_nil, List.nil_append, List.append_nil, hbuf]
        · unfold pending
          rw [hnext]
          rfl
    | framed hunended hunread hbuf hlimit hle =>
      rename_i unended
      have hpending : self.pending = (self.buf ++ unended) ++ 10 :: next.reader.unread := by
        unfold pending
        rw [hunread, List.append_assoc, List.append_assoc, List.singleton_append]
      have hne : next.buf ≠ [] := by
        rw [hbuf, ← List.append_assoc]
        exact List.append_ne_nil_of_right_ne_nil _ (List.cons_ne_nil 10 [])
      rw [if_neg hne]
      refine .framed ?_ hle rfl ?_ rfl hlimit
      · rw [hpending, hbuf, ← List.append_assoc]
        exact segments_append_cons (unended_append h.unended hunended) is_newline_newline _
      · rw [hpending, hbuf, List.append_assoc, List.append_assoc, List.append_assoc]
        rfl
  next error next hturn =>
    cases turned_of_turn hturn with
    | overran hlength htaken hunread hbuf hlimit hover =>
      rw [← hlength] at hover ⊢
      obtain ⟨frame, others, hsegments, hframe⟩ := lt_of_overran h htaken hunread hover
      exact .overran hsegments hframe hover hbuf hlimit
termination_by self.reader.unread.length

theorem holds_of_buf_eq_nil {self : FrameReader} (h : self.buf = []) : self.Holds :=
  ⟨fun _ hbyte => absurd (h ▸ hbyte) List.not_mem_nil, h ▸ Nat.zero_le _⟩

theorem Holds.advance {self : FrameReader} (h : self.Holds) (turns : ℕ) :
    (self.advance turns).Holds ∧ (self.advance turns).pending = self.pending ∧
      (self.advance turns).maxFrameLen = self.maxFrameLen := by
  induction turns generalizing self with
  | zero => exact ⟨h, rfl, rfl⟩
  | succ turns ih =>
    unfold FrameReader.advance
    split
    next next hturn =>
      obtain ⟨hholds, hpending, hlimit⟩ := h.of_again hturn
      obtain ⟨hrest, hsame, hkept⟩ := ih hholds
      exact ⟨hrest, hsame.trans hpending, hkept.trans hlimit⟩
    next => exact ⟨h, rfl, rfl⟩

/-! ## Calls one after another -/

/-- A call of `nextFrame`: it returns, or it is dropped while it waits, after at most `turns`
turns. -/
inductive Call where
  | returns
  | dropped (turns : ℕ)
deriving DecidableEq

def nextFrames (self : FrameReader) :
    List Call → List (Except Error (Option InputFrame)) × FrameReader
  | [] => ([], self)
  | .dropped turns :: calls => (self.advance turns).nextFrames calls
  | .returns :: calls =>
    match self.nextFrame with
    | (.ok (some frame), next) =>
      (.ok (some frame) :: (next.nextFrames calls).1, (next.nextFrames calls).2)
    | (result, next) => ([result], next)

end FrameReader

/-- What reading these frames answers within a limit: each frame, and then the end of input or
the failure of the first one that is too large. -/
def expectedAnswers (limit : ℕ) : List (List UInt8) → List (Option (Option InputFrame))
  | [] => [some none]
  | frame :: others =>
    if limit < frame.length then [none]
    else some (some (decodeInputFrame frame)) :: expectedAnswers limit others

theorem none_mem_take_expected_answers {limit : ℕ} {frames : List (List UInt8)} {count : ℕ} :
    none ∈ (expectedAnswers limit frames).take count ↔
      ∃ frame ∈ frames.take count, limit < frame.length := by
  induction frames generalizing count with
  | nil => cases count <;> simp [expectedAnswers]
  | cons frame others ih =>
    cases count with
    | zero => simp
    | succ count =>
      unfold expectedAnswers
      split
      next hlarge => simp [hlarge]
      next hfits => simp [hfits, ih]

/-- The results of `count` calls are those of reading the frames of a stream within a limit. -/
structure ReadsFrames (limit : ℕ) (stream : List UInt8) (count : ℕ)
    (results : List (Except Error (Option InputFrame))) : Prop where
  answers : results.map Except.toOption =
    (expectedAnswers limit (segments isNewline stream)).take count
  errors : ∀ error, .error error ∈ results → ∃ size, error = .frameTooLarge size limit ∧ limit < size
  tooLarge : (∃ size, .error (.frameTooLarge size limit) ∈ results) ↔
    ∃ frame ∈ (segments isNewline stream).take count, limit < frame.length

theorem ReadsFrames.of_answers {limit : ℕ} {stream : List UInt8} {count : ℕ}
    {results : List (Except Error (Option InputFrame))}
    (hanswers : results.map Except.toOption =
      (expectedAnswers limit (segments isNewline stream)).take count)
    (herrors : ∀ error, .error error ∈ results →
      ∃ size, error = .frameTooLarge size limit ∧ limit < size) :
    ReadsFrames limit stream count results := by
  refine ⟨hanswers, herrors, ?_⟩
  rw [← none_mem_take_expected_answers, ← hanswers, List.mem_map]
  constructor
  · rintro ⟨size, hmem⟩
    exact ⟨_, hmem, rfl⟩
  · rintro ⟨result, hmem, hnone⟩
    cases result with
    | ok frame => cases hnone
    | error error =>
      obtain ⟨size, rfl, _⟩ := herrors error hmem
      exact ⟨size, hmem⟩

namespace FrameReader

theorem reads_frames_next_frames {self : FrameReader} (h : self.Holds) (calls : List Call) :
    ReadsFrames self.maxFrameLen self.pending (calls.count .returns) (self.nextFrames calls).1 ∧
      (self.nextFrames calls).2.Holds ∧
      (self.nextFrames calls).2.maxFrameLen = self.maxFrameLen ∧
      ((∀ error, .error error ∉ (self.nextFrames calls).1) →
        ((segments isNewline self.pending).take (self.nextFrames calls).1.length).flatten ++
          (self.nextFrames calls).2.pending = self.pending) := by
  induction calls generalizing self with
  | nil =>
    refine ⟨.of_answers rfl ?_, h, rfl, fun _ => rfl⟩
    intro error hmem
    exact absurd hmem List.not_mem_nil
  | cons call calls ih =>
    cases call with
    | dropped turns =>
      obtain ⟨hholds, hpending, hlimit⟩ := h.advance turns
      have hrest := ih hholds
      rw [hpending, hlimit] at hrest
      rwa [List.count_cons_of_ne fun hsame => by cases hsame]
    | returns =>
      have hread := read_next_frame h
      rw [List.count_cons_self]
      unfold nextFrames
      generalize self.nextFrame = returned at hread
      obtain ⟨result, next⟩ := returned
      cases hread with
      | ended hpending hnext hlimit =>
        rw [hpending]
        refine ⟨.of_answers ?_ ?_, ?_, hlimit, ?_⟩
        · exact (List.take_of_length_le (Nat.le_add_left 1 _)).symm
        · intro error hmem
          cases List.mem_singleton.1 hmem
        · exact holds_of_buf_eq_nil (List.append_eq_nil_iff.1 hnext).1
        · exact fun _ => hnext
      | overran hsegments hframe hsize hbuf hlimit =>
        refine ⟨.of_answers ?_ ?_, holds_of_buf_eq_nil hbuf, hlimit, ?_⟩
        · rw [hsegments]
          unfold expectedAnswers
          rw [if_pos hframe, List.take_succ_cons, List.take_nil]
          rfl
        · intro error hmem
          cases List.mem_singleton.1 hmem
          exact ⟨_, rfl, hsize⟩
        · exact fun hnone => absurd List.mem_cons_self (hnone _)
      | framed hsegments hle hbuf hpending hothers hlimit =>
        obtain ⟨hreads, hholds, hsame, hkept⟩ := ih (holds_of_buf_eq_nil hbuf)
        rw [hlimit] at hreads
        rw [hothers] at hkept
        refine ⟨.of_answers ?_ ?_, hholds, hsame.trans hlimit, ?_⟩
        · rw [hsegments]
          unfold expectedAnswers
          rw [if_neg (not_lt.2 hle), List.take_succ_cons, ← hothers, ← hreads.answers]
          rfl
        · intro error hmem
          obtain hnone | hmem := List.mem_cons.1 hmem
          · cases hnone
          · exact hreads.errors error hmem
        · intro hnone
          have hrest := hkept fun error hmem => hnone error (List.mem_cons_of_mem _ hmem)
          rw [hsegments, List.length_cons, List.take_succ_cons, List.flatten_cons,
            List.append_assoc, hrest, hpending]

end FrameReader

/-! ## The blocking reader -/

/-- One turn of the loop of `readFrameBlocking`, with its local buffer. -/
def blockingTurn (reader : BufReader) (raw : List UInt8) (maxFrameLen : ℕ) :
    Turn × BufReader × List UInt8 :=
  let filled := reader.fillBuf.1
  let reader := reader.fillBuf.2
  if filled = [] then (.finished, reader, raw)
  else
    let take := (frameEnd filled).1
    if maxFrameLen < raw.length + take then
      (.failed (.frameTooLarge (raw.length + take) maxFrameLen), reader.consume take, raw)
    else
      (if (frameEnd filled).2 then .finished else .again, reader.consume take,
        raw ++ filled.take take)

theorem blocking_turn_eq (reader : BufReader) (raw : List UInt8) (maxFrameLen : ℕ) :
    (blockingTurn reader raw maxFrameLen).1 = (FrameReader.turn ⟨reader, raw, maxFrameLen⟩).1 ∧
      (blockingTurn reader raw maxFrameLen).2.1 =
        (FrameReader.turn ⟨reader, raw, maxFrameLen⟩).2.reader ∧
      ((∀ error, (blockingTurn reader raw maxFrameLen).1 ≠ .failed error) →
        FrameReader.turn ⟨reader, raw, maxFrameLen⟩ =
          ((blockingTurn reader raw maxFrameLen).1,
            ⟨(blockingTurn reader raw maxFrameLen).2.1, (blockingTurn reader raw maxFrameLen).2.2,
              maxFrameLen⟩)) := by
  unfold blockingTurn FrameReader.turn
  dsimp only
  split
  next => exact ⟨rfl, rfl, fun _ => rfl⟩
  next =>
    split
    next => exact ⟨rfl, rfl, fun h => absurd rfl (h _)⟩
    next => exact ⟨rfl, rfl, fun _ => rfl⟩

theorem unread_lt_of_blocking_again {reader next : BufReader} {raw longer : List UInt8}
    {maxFrameLen : ℕ} (h : blockingTurn reader raw maxFrameLen = (.again, next, longer)) :
    next.unread.length < reader.unread.length := by
  obtain ⟨_, _, hturn⟩ := blocking_turn_eq reader raw maxFrameLen
  rw [h] at hturn
  exact FrameReader.unread_lt_of_again (hturn fun _ => nofun)

/-- The loop of `readFrameBlocking`. -/
def readFrameBlockingLoop (reader : BufReader) (raw : List UInt8) (maxFrameLen : ℕ) :
    Except Error (Option InputFrame) × BufReader :=
  match _hturn : blockingTurn reader raw maxFrameLen with
  | (.again, next, longer) => readFrameBlockingLoop next longer maxFrameLen
  | (.finished, next, longer) =>
    if longer = [] then (.ok none, next) else (.ok (some (decodeInputFrame longer)), next)
  | (.failed error, next, _) => (.error error, next)
termination_by reader.unread.length
decreasing_by exact unread_lt_of_blocking_again (by assumption)

/-- Blocking counterpart of `nextFrame`, for the sync transport. -/
def readFrameBlocking (reader : BufReader) (maxFrameLen : ℕ) :
    Except Error (Option InputFrame) × BufReader :=
  readFrameBlockingLoop reader [] maxFrameLen

/-- The local buffer after at most `turns` turns that go on. -/
def heldBlocking (reader : BufReader) (raw : List UInt8) (maxFrameLen : ℕ) : ℕ → List UInt8
  | 0 => raw
  | turns + 1 =>
    match blockingTurn reader raw maxFrameLen with
    | (.again, next, longer) => heldBlocking next longer maxFrameLen turns
    | _ => raw

/-- The results of `count` blocking calls, up to the end of input or the first error. -/
def readFramesBlocking (reader : BufReader) (maxFrameLen : ℕ) :
    ℕ → List (Except Error (Option InputFrame)) × BufReader
  | 0 => ([], reader)
  | count + 1 =>
    match readFrameBlocking reader maxFrameLen with
    | (.ok (some frame), next) =>
      (.ok (some frame) :: (readFramesBlocking next maxFrameLen count).1,
        (readFramesBlocking next maxFrameLen count).2)
    | (result, next) => ([result], next)

theorem read_frame_blocking_loop_eq (reader : BufReader) (raw : List UInt8) (maxFrameLen : ℕ) :
    readFrameBlockingLoop reader raw maxFrameLen =
      ((FrameReader.nextFrame ⟨reader, raw, maxFrameLen⟩).1,
        (FrameReader.nextFrame ⟨reader, raw, maxFrameLen⟩).2.reader) := by
  obtain ⟨hturn, hreader, hsame⟩ := blocking_turn_eq reader raw maxFrameLen
  unfold readFrameBlockingLoop
  split
  next next longer hblocking =>
    rw [hblocking] at hsame
    rw [FrameReader.next_frame_of_again (hsame fun _ => nofun)]
    exact read_frame_blocking_loop_eq next longer maxFrameLen
  next next longer hblocking =>
    rw [hblocking] at hsame
    rw [FrameReader.next_frame_of_finished (hsame fun _ => nofun)]
    split <;> rfl
  next error next longer hblocking =>
    rw [hblocking] at hturn hreader
    rw [FrameReader.next_frame_of_failed (Prod.ext hturn.symm rfl)]
    exact Prod.ext rfl hreader
termination_by reader.unread.length
decreasing_by exact unread_lt_of_blocking_again (by assumption)

theorem held_blocking_eq (reader : BufReader) (raw : List UInt8) (maxFrameLen turns : ℕ) :
    heldBlocking reader raw maxFrameLen turns =
      (FrameReader.advance ⟨reader, raw, maxFrameLen⟩ turns).buf := by
  induction turns generalizing reader raw with
  | zero => rfl
  | succ turns ih =>
    obtain ⟨hturn, _, hsame⟩ := blocking_turn_eq reader raw maxFrameLen
    unfold heldBlocking FrameReader.advance
    split
    next next longer hblocking =>
      rw [hblocking] at hsame
      rw [hsame fun _ => nofun]
      exact ih next longer
    next hother =>
      split
      next next hagain =>
        have hblocking : (blockingTurn reader raw maxFrameLen).1 = .again := by
          rw [hturn, hagain]
        exact (hother _ _ (Prod.ext hblocking rfl)).elim
      next => rfl

theorem read_frames_blocking_eq (reader : BufReader) (maxFrameLen count : ℕ) :
    (readFramesBlocking reader maxFrameLen count).1 =
        (FrameReader.nextFrames (.withMaxLen reader maxFrameLen)
          (List.replicate count .returns)).1 ∧
      (FrameReader.nextFrames (.withMaxLen reader maxFrameLen) (List.replicate count .returns)).2 =
        .withMaxLen (readFramesBlocking reader maxFrameLen count).2 maxFrameLen := by
  induction count generalizing reader with
  | zero => exact ⟨rfl, rfl⟩
  | succ count ih =>
    have hread := FrameReader.read_next_frame (FrameReader.holds_with_max_len reader maxFrameLen)
    have hblocking : readFrameBlocking reader maxFrameLen = _ :=
      read_frame_blocking_loop_eq reader [] maxFrameLen
    change readFrameBlocking reader maxFrameLen =
      ((FrameReader.withMaxLen reader maxFrameLen).nextFrame.1,
        (FrameReader.withMaxLen reader maxFrameLen).nextFrame.2.reader) at hblocking
    rw [List.replicate_succ]
    unfold readFramesBlocking FrameReader.nextFrames
    rw [hblocking]
    generalize (FrameReader.withMaxLen reader maxFrameLen).nextFrame = returned at hread
    obtain ⟨result, next⟩ := returned
    cases hread with
    | ended hpending hnext hlimit =>
      obtain ⟨nextReader, buf, limit⟩ := next
      cases hlimit
      cases (List.append_eq_nil_iff.1 hnext).1
      exact ⟨rfl, rfl⟩
    | overran hsegments hframe hsize hbuf hlimit =>
      obtain ⟨nextReader, buf, limit⟩ := next
      cases hbuf
      cases hlimit
      exact ⟨rfl, rfl⟩
    | framed hsegments hle hbuf hpending hothers hlimit =>
      obtain ⟨nextReader, buf, limit⟩ := next
      cases hbuf
      cases hlimit
      obtain ⟨hresults, hreader⟩ := ih nextReader
      exact ⟨congrArg (_ :: ·) hresults, hreader⟩

/-! ## The two readers of one stream -/

/-- Both readers read the frames of a stream, whatever chunks it arrives in and whichever calls of
the asynchronous one are dropped: they answer as the stream cut after each newline does, up to the
first error, hold no more than the limit at any turn, and lose and repeat no byte. -/
theorem readers_agree_with_segments (stream : List UInt8) (limit : ℕ)
    (reads : List Chunk) (hreads : (reads.map Subtype.val).flatten = stream)
    (blockingReads : List Chunk) (hblocking : (blockingReads.map Subtype.val).flatten = stream)
    (calls : List FrameReader.Call) (count : ℕ) :
    let read := (FrameReader.withMaxLen { reads } limit).nextFrames calls
    let readBlocking := readFramesBlocking { reads := blockingReads } limit count
    ReadsFrames limit stream (calls.count .returns) read.1 ∧
      ReadsFrames limit stream count readBlocking.1 ∧
      (∀ turns, (read.2.advance turns).buf.length ≤ limit ∧
        (heldBlocking readBlocking.2 [] limit turns).length ≤ limit) ∧
      ((∀ error, .error error ∉ read.1) →
        ((segments isNewline stream).take read.1.length).flatten ++ read.2.pending = stream) ∧
      ((∀ error, .error error ∉ readBlocking.1) →
        ((segments isNewline stream).take readBlocking.1.length).flatten ++ readBlocking.2.unread =
          stream) := by
  have hheld (reader : FrameReader) (h : reader.Holds) (turns : ℕ) :
      (reader.advance turns).buf.length ≤ reader.maxFrameLen := by
    obtain ⟨hholds, _, hlimit⟩ := h.advance turns
    exact hlimit ▸ hholds.le
  have hpending (chunks : List Chunk) :
      (FrameReader.withMaxLen { reads := chunks } limit).pending =
        (chunks.map Subtype.val).flatten := rfl
  obtain ⟨hresults, hholds, hlimit, hkept⟩ := FrameReader.reads_frames_next_frames
    (FrameReader.holds_with_max_len { reads } limit) calls
  obtain ⟨hresults', hholds', hlimit', hkept'⟩ := FrameReader.reads_frames_next_frames
    (FrameReader.holds_with_max_len { reads := blockingReads } limit) (List.replicate count .returns)
  obtain ⟨heq, hreader⟩ := read_frames_blocking_eq { reads := blockingReads } limit count
  rw [hpending, hreads] at hresults hkept
  rw [hpending, hblocking, List.count_replicate_self] at hresults'
  rw [hpending, hblocking] at hkept'
  refine ⟨hresults, heq ▸ hresults', fun turns => ⟨?_, ?_⟩, hkept, ?_⟩
  · exact (hheld _ hholds turns).trans_eq hlimit
  · rw [held_blocking_eq]
    exact hheld _ (FrameReader.holds_with_max_len _ limit) turns
  · rw [hreader, ← heq] at hkept'
    exact hkept'

theorem readers_agree_with_segments_hi_yo :
    (((FrameReader.withMaxLen { reads := [⟨[104], by decide⟩, ⟨[105, 10, 121], by decide⟩,
        ⟨[111], by decide⟩] } 3).nextFrames [.dropped 1, .returns, .returns, .returns]).1.map
          Except.toOption =
        [some (some (.line "hi")), some (some (.line "yo")), some none]) ∧
      ((readFramesBlocking { reads := [⟨[104, 105, 10, 121, 111], by decide⟩] } 3 3).1.map
          Except.toOption =
        [some (some (.line "hi")), some (some (.line "yo")), some none]) := by
  obtain ⟨hread, hblocking, _⟩ := readers_agree_with_segments [104, 105, 10, 121, 111] 3
    [⟨[104], by decide⟩, ⟨[105, 10, 121], by decide⟩, ⟨[111], by decide⟩] rfl
    [⟨[104, 105, 10, 121, 111], by decide⟩] rfl
    [.dropped 1, .returns, .returns, .returns] 3
  exact ⟨hread.answers.trans (by decide +kernel), hblocking.answers.trans (by decide +kernel)⟩

/-! ## Lines that are written and read -/

/-- A serialized message, in which control characters are escaped. -/
abbrev SerializedLine := {line : String // ∀ c ∈ line.toList, 0x20 ≤ c.toNat}

/-- What is written with a line; `write_line_locked` and the `send` of the client write the same. -/
def writeLineToStdout (written : List UInt8) (line : SerializedLine) : List UInt8 :=
  written ++ (utf8Bytes line ++ [10])

theorem le_of_mem_utf8_bytes (line : SerializedLine) :
    ∀ byte ∈ utf8Bytes line, 0x20 ≤ byte.toNat := by
  intro byte hbyte
  rw [utf8Bytes, ← String.utf8Encode_toList, List.utf8Encode, List.data_toByteArray] at hbyte
  obtain ⟨c, hc, hbyte⟩ := List.mem_flatMap.1 hbyte
  by_cases hlow : c.val.toNat ≤ 127
  · rw [String.utf8EncodeChar, if_pos hlow, List.mem_singleton] at hbyte
    have hcode : 0x20 ≤ c.val.toNat := line.property c hc
    rw [hbyte, UInt8.toNat_ofNat']
    omega
  · exact le_trans (by decide) (QueryComponents.high_bytes (Nat.lt_of_not_le hlow) byte hbyte)

theorem decode_written_line (line : SerializedLine) :
    decodeInputFrame (utf8Bytes line ++ [10]) = .line line := by
  have hreturn : popByte (utf8Bytes line) 13 = none :=
    if_neg fun hlast =>
      absurd (le_of_mem_utf8_bytes line 13 (List.mem_of_getLast? hlast)) (by decide)
  have hnewline : popByte (utf8Bytes line ++ [10]) 10 = some (utf8Bytes line) := by
    simp [popByte]
  have htext := from_utf8_utf8_bytes line
  unfold fromUtf8 at htext
  simp [decodeInputFrame, hnewline, hreturn, htext]

/-- What reading these lines answers within a limit: each of them, and then the end of input or the
failure of the first that is too large. -/
def lineAnswers (limit : ℕ) : List SerializedLine → List (Option (Option InputFrame))
  | [] => [some none]
  | line :: lines =>
    if limit < (utf8Bytes line).length + 1 then [none]
    else some (some (.line line)) :: lineAnswers limit lines

theorem expected_answers_written (limit : ℕ) (lines : List SerializedLine) :
    expectedAnswers limit (segments isNewline (lines.foldl writeLineToStdout [])) =
      lineAnswers limit lines := by
  rw [show lines.foldl writeLineToStdout [] =
    lines.flatMap (fun line => utf8Bytes line.val ++ [10]) from List.flatMap_eq_foldl.symm]
  induction lines with
  | nil => rfl
  | cons line rest ih =>
    have hunended : ∀ byte ∈ utf8Bytes line, isNewline byte = false := by
      refine fun byte hbyte => Bool.eq_false_iff.2 fun hnewline => ?_
      rw [beq_iff_eq.1 hnewline] at hbyte
      exact absurd (le_of_mem_utf8_bytes line 10 hbyte) (by decide)
    rw [List.flatMap_cons, List.append_assoc, List.singleton_append,
      segments_append_cons hunended is_newline_newline, expectedAnswers, ih, decode_written_line,
      List.length_append, List.length_singleton, lineAnswers]

/-- Lines that are written one after another are read back whole and in order by both readers, up to
the first that is too large, whatever chunks they arrive in and whichever calls are dropped. -/
theorem lines_read_back {lines : List SerializedLine} {reads : List Chunk}
    (hreads : (reads.map Subtype.val).flatten = lines.foldl writeLineToStdout []) (limit : ℕ)
    (calls : List FrameReader.Call) (count : ℕ) :
    ((FrameReader.withMaxLen { reads } limit).nextFrames calls).1.map Except.toOption =
        (lineAnswers limit lines).take (calls.count .returns) ∧
      (readFramesBlocking { reads } limit count).1.map Except.toOption =
        (lineAnswers limit lines).take count := by
  have hanswers (calls : List FrameReader.Call) :
      ((FrameReader.withMaxLen { reads } limit).nextFrames calls).1.map Except.toOption =
        (lineAnswers limit lines).take (calls.count .returns) := by
    have hread := FrameReader.reads_frames_next_frames
      (FrameReader.holds_with_max_len { reads } limit) calls
    have hpending : (FrameReader.withMaxLen { reads } limit).pending =
        lines.foldl writeLineToStdout [] := hreads
    rw [hpending] at hread
    rw [hread.1.answers, expected_answers_written]
    rfl
  refine ⟨hanswers calls, ?_⟩
  rw [(read_frames_blocking_eq { reads } limit count).1, hanswers, List.count_replicate_self]

theorem lines_read_back_in_chunks :
    ((FrameReader.withMaxLen { reads := [⟨[123], by decide⟩, ⟨[125, 10, 91], by decide⟩,
        ⟨[93, 10], by decide⟩] } 3).nextFrames [.dropped 1, .returns, .returns, .returns]).1.map
      Except.toOption = [some (some (.line "{}")), some (some (.line "[]")), some none] :=
  (@lines_read_back [⟨"{}", by simp⟩, ⟨"[]", by simp⟩] _ (by decide +kernel) 3 _ 0).1.trans rfl

end TowerMcp
