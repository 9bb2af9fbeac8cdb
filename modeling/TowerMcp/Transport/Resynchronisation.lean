import TowerMcp.Transport.Framing

/-!
# After a frame that is too large

The reader forgets what it holds when a frame crosses the limit, and reads on behind the chunk in
which it did. Whether that is behind the frame depends on the chunks the stream arrives in:
`resynchronised_iff`.
-/

namespace TowerMcp

open Segments

/-! ## The chunks still to come -/

namespace BufReader

def chunks (self : BufReader) : List (List UInt8) :=
  (self.buffer :: self.reads.map Subtype.val).filter fun chunk => !chunk.isEmpty

theorem filter_reads (reads : List Chunk) :
    (reads.map Subtype.val).filter (fun chunk => !chunk.isEmpty) = reads.map Subtype.val := by
  refine List.filter_eq_self.2 fun chunk hmem => ?_
  obtain ⟨read, -, rfl⟩ := List.mem_map.1 hmem
  simp [read.property]

theorem chunks_of_consumed (reads : List Chunk) :
    chunks { buffer := [], reads } = reads.map Subtype.val :=
  filter_reads reads

theorem fill_buf_of_chunks_eq_nil {self : BufReader} (h : self.chunks = []) :
    self.fillBuf.1 = [] := by
  refine self.fill_buf_eq_nil_iff.2 ?_
  have hempty : ∀ chunk ∈ self.buffer :: self.reads.map Subtype.val, chunk = [] := by
    intro chunk hmem
    simpa using List.filter_eq_nil_iff.1 h chunk hmem
  unfold unread
  rw [hempty _ List.mem_cons_self, List.nil_append]
  exact List.flatten_eq_nil_iff.2 fun chunk hmem => hempty chunk (List.mem_cons_of_mem _ hmem)

theorem fill_buf_of_chunks {self : BufReader} {chunk : List UInt8} {rest : List (List UInt8)}
    (h : self.chunks = chunk :: rest) : chunk ≠ [] ∧ ∃ reads : List Chunk,
      rest = reads.map Subtype.val ∧ self.fillBuf = (chunk, { buffer := chunk, reads }) := by
  obtain ⟨buffer, reads⟩ := self
  cases buffer with
  | nil =>
    rw [chunks_of_consumed] at h
    cases reads with
    | nil => cases h
    | cons read reads =>
      cases h
      exact ⟨read.property, reads, rfl, rfl⟩
  | cons first more =>
    have hfilter : chunks ⟨first :: more, reads⟩ = (first :: more) :: reads.map Subtype.val :=
      congrArg _ (filter_reads reads)
    cases hfilter.symm.trans h
    exact ⟨List.cons_ne_nil _ _, reads, rfl, rfl⟩

end BufReader

/-- A frame that crosses the limit does so in the chunk that its delimiter is in, or in the last
one. `held` are the bytes of the frame before these chunks. -/
def crossesAtEnd (limit held : ℕ) : List (List UInt8) → Bool
  | [] => true
  | chunk :: rest =>
    if limit < held + (frameEnd chunk).1 then (frameEnd chunk).2 || rest.isEmpty
    else crossesAtEnd limit (held + (frameEnd chunk).1) rest

namespace FrameReader

variable {self next : FrameReader} {error : Error}

theorem turn_of_chunks {chunk : List UInt8} {rest : List (List UInt8)}
    (h : self.reader.chunks = chunk :: rest) : ∃ reads : List Chunk,
      rest = reads.map Subtype.val ∧ self.turn =
        if self.maxFrameLen < self.buf.length + (frameEnd chunk).1 then
          (.failed (.frameTooLarge (self.buf.length + (frameEnd chunk).1) self.maxFrameLen),
            { self with reader := ⟨chunk.drop (frameEnd chunk).1, reads⟩, buf := [] })
        else
          (if (frameEnd chunk).2 then .finished else .again,
            { self with
              reader := ⟨chunk.drop (frameEnd chunk).1, reads⟩
              buf := self.buf ++ chunk.take (frameEnd chunk).1 }) := by
  obtain ⟨hne, reads, hrest, hfill⟩ := BufReader.fill_buf_of_chunks h
  refine ⟨reads, hrest, ?_⟩
  unfold turn
  rw [hfill]
  exact if_neg hne

theorem pending_eq_chunk {chunk : List UInt8} {reads : List Chunk}
    (h : self.reader.chunks = chunk :: reads.map Subtype.val) :
    self.pending = self.buf ++ (chunk ++ (reads.map Subtype.val).flatten) := by
  have hflatten : self.reader.chunks.flatten = self.reader.unread :=
    List.flatten_filter_not_isEmpty
  rw [pending, ← hflatten, h, List.flatten_cons]

theorem pending_of_error (h : self.Holds) (herror : self.nextFrame = (.error error, next)) :
    ∃ oversized others, segments isNewline self.pending = oversized :: others ∧
      self.maxFrameLen < oversized.length ∧ ∃ part, next.pending = part ++ others.flatten ∧
        (part = [] ↔
          crossesAtEnd self.maxFrameLen self.buf.length self.reader.chunks = true) := by
  induction hchunks : self.reader.chunks generalizing self with
  | nil =>
    -- there is nothing to read, and the call does not fail
    have hturn : self.turn = (.finished, _) := if_pos (BufReader.fill_buf_of_chunks_eq_nil hchunks)
    rw [next_frame_of_finished hturn] at herror
    split at herror <;> cases herror
  | cons chunk rest ih =>
    obtain ⟨reads, rfl, hturn⟩ := turn_of_chunks hchunks
    have hpending := pending_eq_chunk hchunks
    unfold crossesAtEnd
    split at hturn
    next hover =>
      rw [if_pos hover]
      cases (next_frame_of_failed hturn).symm.trans herror
      have hlength := length_take_frame_end chunk
      have hwhole := List.take_append_drop (frameEnd chunk).1 chunk
      obtain ⟨unended, hfound, htaken, hunended⟩ | ⟨hfound, htaken, hunended⟩ := take_frame_end chunk
      · let unread := chunk.drop (frameEnd chunk).1 ++ (reads.map Subtype.val).flatten
        refine ⟨self.buf ++ unended ++ [10], segments isNewline unread, ?_, ?_, [], ?_, ?_⟩
        · have hrest : self.pending = (self.buf ++ unended) ++ 10 :: unread := by
            rw [hpending, ← hwhole, htaken, List.append_assoc, List.append_assoc, List.append_assoc,
              List.singleton_append]
          rw [hrest]
          exact segments_append_cons (unended_append h.unended hunended) is_newline_newline _
        · rw [← hlength, htaken, List.length_append] at hover
          rwa [List.append_assoc, List.length_append, List.length_append]
        · rw [flatten_segments]
          rfl
        · rw [hfound]
          exact iff_of_true rfl rfl
      · rw [htaken] at hlength
        have hdrop : chunk.drop (frameEnd chunk).1 = [] := by rw [← hlength, List.drop_length]
        have hheld := unended_append h.unended hunended
        rw [← List.append_assoc] at hpending
        rw [hfound, Bool.false_or, hdrop]
        cases reads with
        | nil =>
          have hne : self.buf ++ chunk ≠ [] := by
            intro hempty
            rw [← hlength, ← List.length_append, hempty] at hover
            exact absurd hover (Nat.not_lt_zero _)
          refine ⟨self.buf ++ chunk, [], ?_, ?_, [], rfl, iff_of_true rfl rfl⟩
          · rw [hpending, List.map_nil, List.flatten_nil, List.append_nil]
            exact segments_of_unended hne hheld
          · rwa [List.length_append, hlength]
        | cons read reads =>
          have hunread : ((read :: reads).map Subtype.val).flatten ≠ [] :=
            List.append_ne_nil_of_left_ne_nil read.property _
          obtain ⟨part, others, hsegments, hpart⟩ :
              ∃ part others, segments isNewline ((read :: reads).map Subtype.val).flatten =
                part :: others ∧ part ≠ [] := exists_segments_of_ne_nil hunread
          have hparts := flatten_segments isNewline ((read :: reads).map Subtype.val).flatten
          rw [hsegments, List.flatten_cons] at hparts
          refine ⟨self.buf ++ chunk ++ part, others, ?_, ?_, part, hparts.symm, ?_⟩
          · rw [hpending]
            exact segments_append_of_unended hheld hsegments
          · rw [List.length_append, List.length_append, hlength]
            omega
          · exact iff_of_false hpart Bool.false_ne_true
    next hfits =>
      rw [if_neg hfits]
      obtain ⟨unended, hfound, -, -⟩ | ⟨hfound, htaken, -⟩ := take_frame_end chunk
      · rw [hfound, if_pos rfl] at hturn
        rw [next_frame_of_finished hturn] at herror
        split at herror <;> cases herror
      · rw [hfound, if_neg Bool.false_ne_true, htaken] at hturn
        have hlength := length_take_frame_end chunk
        rw [htaken] at hlength
        obtain ⟨hholds, hsame, -⟩ := h.of_again hturn
        rw [next_frame_of_again hturn] at herror
        have hdrop : chunk.drop (frameEnd chunk).1 = [] := by rw [← hlength, List.drop_length]
        rw [hdrop] at herror hholds hsame
        have hrest := ih hholds herror (BufReader.chunks_of_consumed reads)
        rw [hsame] at hrest
        dsimp only at hrest
        rw [List.length_append, hlength] at hrest
        exact hrest

theorem Holds.next_frame (h : self.Holds) :
    self.nextFrame.2.Holds ∧ self.nextFrame.2.maxFrameLen = self.maxFrameLen := by
  have hread := read_next_frame h
  generalize self.nextFrame = returned at hread
  obtain ⟨result, next⟩ := returned
  cases hread with
  | ended hpending hnext hlimit =>
    exact ⟨holds_of_buf_eq_nil (List.append_eq_nil_iff.1 hnext).1, hlimit⟩
  | framed hsegments hle hbuf hpending hothers hlimit => exact ⟨holds_of_buf_eq_nil hbuf, hlimit⟩
  | overran hsegments hframe hsize hbuf hlimit => exact ⟨holds_of_buf_eq_nil hbuf, hlimit⟩

def after (self : FrameReader) : List Call → FrameReader
  | [] => self
  | .dropped turns :: calls => (self.advance turns).after calls
  | .returns :: calls => self.nextFrame.2.after calls

theorem Holds.after (h : self.Holds) (calls : List Call) :
    (self.after calls).Holds ∧ (self.after calls).maxFrameLen = self.maxFrameLen := by
  induction calls generalizing self with
  | nil => exact ⟨h, rfl⟩
  | cons call calls ih =>
    cases call with
    | dropped turns =>
      obtain ⟨hholds, -, hlimit⟩ := h.advance turns
      obtain ⟨hafter, hkept⟩ := ih hholds
      exact ⟨hafter, hkept.trans hlimit⟩
    | returns =>
      obtain ⟨hholds, hlimit⟩ := h.next_frame
      obtain ⟨hafter, hkept⟩ := ih hholds
      exact ⟨hafter, hkept.trans hlimit⟩

structure Resynchronised (reader : FrameReader) (others : List (List UInt8)) : Prop where
  pending : reader.pending = others.flatten
  reads : ∀ calls, ReadsFrames reader.maxFrameLen others.flatten (calls.count .returns)
    (reader.nextFrames calls).1

/-- After a frame that is too large the reader goes on with the frames behind it exactly when the
chunk in which the frame crosses the limit has its delimiter, or is the last of the stream. -/
theorem resynchronised_iff {limit : ℕ} {reads : List Chunk} {calls : List Call} {size : ℕ}
    {next : FrameReader} (herror : ((withMaxLen { reads } limit).after calls).nextFrame =
      (.error (.frameTooLarge size limit), next)) :
    ∃ oversized others,
      segments isNewline ((withMaxLen { reads } limit).after calls).pending = oversized :: others ∧
      limit < oversized.length ∧
      (next.Resynchronised others ↔
        crossesAtEnd limit ((withMaxLen { reads } limit).after calls).buf.length
          ((withMaxLen { reads } limit).after calls).reader.chunks = true) := by
  obtain ⟨hholds, hsame⟩ := (holds_with_max_len { reads } limit).after calls
  have hlimit : ((withMaxLen { reads } limit).after calls).maxFrameLen = limit := hsame
  obtain ⟨oversized, others, hsegments, hlarge, part, hpending, hcrosses⟩ :=
    pending_of_error hholds herror
  rw [hlimit] at hlarge hcrosses
  refine ⟨oversized, others, hsegments, hlarge, ?_⟩
  rw [← hcrosses]
  constructor
  · intro h
    have hpart := hpending.symm.trans h.pending
    exact List.append_left_eq_self.1 hpart
  · rintro rfl
    have hnext := hholds.next_frame
    rw [herror] at hnext
    have hothers : next.pending = others.flatten := hpending
    exact ⟨hothers, fun later => hothers ▸ (reads_frames_next_frames hnext.1 later).1⟩

theorem resynchronised_iff_whole :
    ∃ next, (withMaxLen { reads := [⟨[97, 98, 99, 100, 10, 104, 105, 10], by decide⟩] } 3).nextFrame =
        (.error (.frameTooLarge 5 3), next) ∧ next.Resynchronised [[104, 105, 10]] := by
  have herror : ((withMaxLen { reads := [⟨[97, 98, 99, 100, 10, 104, 105, 10], by decide⟩] } 3).after
      []).nextFrame = (.error (.frameTooLarge 5 3), _) := next_frame_of_failed rfl
  obtain ⟨oversized, others, hsegments, -, hiff⟩ := resynchronised_iff herror
  cases hsegments
  exact ⟨_, herror, hiff.2 rfl⟩

/-- A frame that crosses the limit in one chunk and ends in the next: what it ends with is read as a
frame of its own. -/
theorem oversized_tail_delivered :
    ¬∀ (limit size : ℕ) (reads : List Chunk) (calls : List Call) (next : FrameReader),
      ((withMaxLen { reads } limit).after calls).nextFrame =
          (.error (.frameTooLarge size limit), next) →
        ∀ oversized others, segments isNewline
            ((withMaxLen { reads } limit).after calls).pending = oversized :: others →
          next.Resynchronised others := by
  intro h
  have hnext := h 3 4 [⟨[97, 98, 99, 100], by decide⟩, ⟨[101, 102, 10, 104, 105, 10], by decide⟩] []
    _ (next_frame_of_failed rfl) [97, 98, 99, 100, 101, 102, 10] [[104, 105, 10]] rfl
  exact absurd hnext.pending (by decide)

end FrameReader

end TowerMcp
