import ZeroNvr.Cameras.LivePreview
import ZeroNvr.Lib.Outcome

/-! # Frames do not depend on the chunks

The parser takes from its buffer the garbage before a frame and the frame, and what it
keeps is where it would have been in the whole stream.  So its loop is a reader that
continues, and the frames are those of the stream.
-/

namespace ZeroNvr.JpegFrameParser

open Lib

/-! ## The loop -/

/-- What the loop does behind a start marker. -/
def readBody (maxFrameBytes : Nat) (body : Bytes) : Except LivePreviewError (List Bytes × Bytes) :=
  match find endMarker body with
  | none => if maxFrameBytes < body.length + 2 then .error frameTooLarge else .ok ([], startMarker ++ body)
  | some stop =>
    if maxFrameBytes < stop + 4 then .error frameTooLarge
    else
      (takeFrames maxFrameBytes (body.drop (stop + 2))).map fun (frames, rest) =>
        ((startMarker ++ body.take (stop + 2)) :: frames, rest)

variable {max : Nat}

theorem takeFrames_garbage {buffer : Bytes} (absent : find startMarker buffer = none) :
    takeFrames max buffer = .ok ([], begun 0xff buffer) := by
  rw [takeFrames]
  split
  · rfl
  · next start found =>
    rw [absent] at found
    cases found

theorem takeFrames_start {before body : Bytes}
    (found : find startMarker (before ++ (startMarker ++ body)) = some before.length) :
    takeFrames max (before ++ (startMarker ++ body)) = readBody max body := by
  rw [takeFrames]
  split
  · next absent =>
    rw [found] at absent
    cases absent
  next start isStart =>
  cases Option.some.inj (found.symm.trans isStart)
  have marker : (before ++ (startMarker ++ body)).drop before.length = startMarker ++ body := List.drop_left
  have behind : (startMarker ++ body).drop 2 = body := rfl
  have length : (startMarker ++ body).length = body.length + 2 := by simp [startMarker]
  rw [marker, behind, length, readBody]
  cases find endMarker body with
  | none => rfl
  | some stop => rfl

/-- A buffer holds no start marker, or a body behind the first one. -/
theorem start_cases (buffer : Bytes) :
    find startMarker buffer = none ∨
      ∃ before body, buffer = before ++ (startMarker ++ body) ∧ find startMarker buffer = some before.length := by
  cases found : find startMarker buffer with
  | none => exact .inl rfl
  | some start =>
    obtain ⟨before, body, split, rfl⟩ := find_split found
    exact .inr ⟨before, body, split.trans (List.append_assoc _ _ _), rfl⟩

theorem readBody_too_large {body : Bytes} (absent : find endMarker body = none) (long : max < body.length + 2)
    (rest : Bytes) : readBody max (body ++ rest) = .error frameTooLarge := by
  rw [readBody]
  cases found : find endMarker (body ++ rest) with
  | none => exact if_pos (by rw [List.length_append]; omega)
  | some stop =>
    have behind : body.length < stop + 2 := find_append_of_none absent found
    exact if_pos (by omega)

/-- Garbage is skipped, but for what may have begun a marker. -/
theorem takeFrames_skip {garbage : Bytes} (absent : find startMarker garbage = none) (rest : Bytes) :
    takeFrames max (garbage ++ rest) = takeFrames max (begun 0xff garbage ++ rest) := by
  obtain ⟨skipped, split, later⟩ := find_begun absent
  have shifted : find startMarker (garbage ++ rest) =
      (find startMarker (begun 0xff garbage ++ rest)).map (· + skipped.length) := later rest
  rcases start_cases (begun 0xff garbage ++ rest) with isNone | ⟨before, body, behind, found⟩
  · rw [isNone, Option.map_none] at shifted
    rw [takeFrames_garbage isNone, takeFrames_garbage shifted, begun_append]
  · have whole : garbage ++ rest = (skipped ++ before) ++ (startMarker ++ body) := by
      calc garbage ++ rest = skipped ++ (begun 0xff garbage ++ rest) := by rw [← List.append_assoc, ← split]
        _ = (skipped ++ before) ++ (startMarker ++ body) := by rw [behind, List.append_assoc]
    rw [found, Option.map_some, Nat.add_comm, ← List.length_append] at shifted
    rw [behind] at found
    rw [whole] at shifted
    rw [whole, behind, takeFrames_start shifted, takeFrames_start found]

/-- The loop goes on from what it keeps as it would have from the beginning. -/
theorem takeFrames_continues (max : Nat) : Reader.Continues (takeFrames max) := by
  intro first
  induction length : first.length using Nat.strongRecOn generalizing first with
  | ind n ih =>
    intro second
    rcases start_cases first with absent | ⟨before, body, split, found⟩
    · rw [takeFrames_garbage absent, takeFrames_skip absent]
      dsimp only
      cases takeFrames max (begun 0xff first ++ second) <;> rfl
    · have still := find_append found second
      rw [split] at found
      have whole : first ++ second = before ++ (startMarker ++ (body ++ second)) := by
        rw [split, List.append_assoc, List.append_assoc]
      rw [whole] at still
      rw [whole, split, takeFrames_start found, takeFrames_start still]
      cases stops : find endMarker body with
      | none =>
        by_cases long : max < body.length + 2
        · rw [readBody_too_large stops long, readBody, stops]
          simp only [if_pos long]
        · have again : takeFrames max (startMarker ++ (body ++ second)) = readBody max (body ++ second) :=
            @takeFrames_start max [] (body ++ second) (find_self_append startMarker (body ++ second))
          rw [readBody.eq_def max body, stops]
          simp only [if_neg long, List.append_assoc, again]
          cases readBody max (body ++ second) <;> rfl
      | some stop =>
        obtain ⟨image, after, isBody, rfl⟩ := find_split stops
        have inside : image.length + 2 ≤ body.length := by
          rw [isBody, List.length_append, List.length_append]
          exact Nat.le_add_right _ _
        rw [readBody, readBody, stops, find_append stops second]
        dsimp only
        by_cases long : max < image.length + 4
        · simp only [if_pos long]
        · have shorter : (body.drop (image.length + 2)).length < n := by
            rw [← length, split, List.length_drop, List.length_append, List.length_append]
            omega
          rw [if_neg long, if_neg long, List.drop_append_of_le_length inside, List.take_append_of_le_length inside,
            ih _ shorter _ rfl second]
          cases takeFrames max (body.drop (image.length + 2)) with
          | error e => rfl
          | ok result =>
            obtain ⟨items, kept⟩ := result
            dsimp only [Except.map]
            cases takeFrames max (kept ++ second) <;> rfl

/-! ## Frames -/

/-- What every frame is. -/
structure IsFrame (max : Nat) (frame : Bytes) : Prop where
  starts : startMarker <+: frame
  stops : endMarker <:+ frame
  fits : frame.length ≤ max

theorem takeFrames_frames (four : 4 ≤ max) {buffer kept : Bytes} {frames : List Bytes}
    (done : takeFrames max buffer = .ok (frames, kept)) : (∀ frame ∈ frames, IsFrame max frame) ∧ kept.length ≤ max := by
  induction length : buffer.length using Nat.strongRecOn generalizing buffer frames with
  | ind n ih =>
    rcases start_cases buffer with absent | ⟨before, body, split, found⟩
    · rw [takeFrames_garbage absent] at done
      cases done
      refine ⟨fun _ member => absurd member List.not_mem_nil, ?_⟩
      rw [begun]
      split
      · rw [List.length_singleton]
        omega
      · exact Nat.zero_le max
    · rw [split] at found
      rw [split, takeFrames_start found, readBody] at done
      cases stops : find endMarker body with
      | none =>
        rw [stops] at done
        dsimp only at done
        split at done
        · cases done
        next fits =>
        cases done
        refine ⟨fun _ member => absurd member List.not_mem_nil, ?_⟩
        have length : (startMarker ++ body).length = body.length + 2 := by simp [startMarker]
        omega
      | some stop =>
        obtain ⟨image, after, isBody, rfl⟩ := find_split stops
        rw [stops] at done
        dsimp only at done
        split at done
        · cases done
        next fits =>
        obtain ⟨⟨later, rest⟩, isRest, same⟩ := map_eq_ok.mp done
        cases same
        have shorter : (body.drop (image.length + 2)).length < n := by
          rw [← length, split, List.length_drop, List.length_append, List.length_append]
          have two : startMarker.length = 2 := rfl
          omega
        obtain ⟨wellFormed, bounded⟩ := ih _ shorter isRest rfl
        have isFrame : startMarker ++ body.take (image.length + 2) = startMarker ++ image ++ endMarker := by
          rw [isBody, List.take_append_of_le_length (by simp [endMarker]), List.take_of_length_le (by simp [endMarker]),
            List.append_assoc]
        refine ⟨fun frame member => ?_, bounded⟩
        rcases List.mem_cons.mp member with rfl | isLater
        · rw [isFrame]
          refine ⟨(List.prefix_append startMarker image).trans (List.prefix_append _ endMarker), List.suffix_append _ _, ?_⟩
          simp only [List.length_append, startMarker, endMarker, List.length_cons, List.length_nil]
          omega
        · exact wellFormed frame isLater

/-- A frame of a stream: the first end marker behind the start ends it. -/
def IsJpeg (max : Nat) (frame : Bytes) : Prop :=
  ∃ image, frame = startMarker ++ (image ++ endMarker) ∧ find endMarker (image ++ endMarker) = some image.length ∧
    frame.length ≤ max

/-- Frames with garbage before each of them and behind the last one. -/
def stream (parts : List (Bytes × Bytes)) (trailing : Bytes) : Bytes := (parts.flatMap fun part => part.1 ++ part.2) ++ trailing

theorem takeFrames_stream {parts : List (Bytes × Bytes)} {trailing : Bytes}
    (clean : ∀ part ∈ parts, ¬startMarker <:+: part.1 ∧ IsJpeg max part.2) (trailingClean : ¬startMarker <:+: trailing) :
    ∃ kept, takeFrames max (stream parts trailing) = .ok (parts.map Prod.snd, kept) := by
  induction parts with
  | nil =>
    refine ⟨_, takeFrames_garbage ?_⟩
    cases found : find startMarker (stream [] trailing) with
    | none => rfl
    | some start =>
      obtain ⟨before, after, split, _⟩ := find_split found
      exact absurd ⟨before, after, split.symm⟩ trailingClean
  | cons part parts ih =>
    obtain ⟨kept, rest⟩ := ih fun other member => clean other (List.mem_cons_of_mem part member)
    obtain ⟨noMarker, image, isFrame, first, fits⟩ := clean part List.mem_cons_self
    have split : stream (part :: parts) trailing =
        part.1 ++ (startMarker ++ (image ++ endMarker ++ stream parts trailing)) := by
      rw [stream, List.flatMap_cons, isFrame, stream]
      simp only [List.append_assoc]
    have found : find startMarker (part.1 ++ (startMarker ++ (image ++ endMarker ++ stream parts trailing))) =
        some part.1.length := find_after (by decide) noMarker _
    have length : (image ++ endMarker).length = image.length + 2 := by simp [endMarker]
    have notLong : ¬max < image.length + 4 := by
      rw [isFrame, List.length_append, length] at fits
      have two : startMarker.length = 2 := rfl
      omega
    refine ⟨kept, ?_⟩
    rw [split, takeFrames_start found, readBody, find_append first]
    simp only [if_neg notLong, ← length, List.drop_left, List.take_left, rest, Except.map, List.map_cons, isFrame]

/-! ## Chunks -/

theorem feedAll_eq (parser : JpegFrameParser) (chunks : List Bytes) :
    (parser.feedAll chunks).2 =
      (Reader.feedAll (takeFrames parser.maxFrameBytes) parser.buffer chunks).map Prod.fst := by
  induction chunks generalizing parser with
  | nil => rfl
  | cons chunk chunks ih =>
    rw [feedAll, Reader.feedAll, feed]
    cases takeFrames parser.maxFrameBytes (parser.buffer ++ chunk) with
    | error e => rfl
    | ok result =>
      obtain ⟨frames, buffer⟩ := result
      have later := ih { parser with buffer }
      dsimp only at later ⊢
      rw [later]
      cases Reader.feedAll (takeFrames parser.maxFrameBytes) buffer chunks <;> rfl

/-- The chunks of a stream give the frames of the stream. -/
theorem feedAll_new {four : 4 ≤ max} (chunks : List Bytes) :
    ((new max four).feedAll chunks).2 = (takeFrames max chunks.flatten).map Prod.fst := by
  have settled : takeFrames max [] = .ok ([], []) := takeFrames_garbage rfl
  rw [feedAll_eq]
  exact congrArg (Except.map Prod.fst) ((takeFrames_continues max).feedAll_eq chunks settled)

theorem feed_maxFrameBytes (parser : JpegFrameParser) (chunk : Bytes) :
    (parser.feed chunk).1.maxFrameBytes = parser.maxFrameBytes := by
  rw [feed]
  split <;> rfl

/-- The buffer after a call, and what the call returned. -/
theorem feed_spec (parser : JpegFrameParser) (chunk : Bytes) :
    (parser.feed chunk).1.buffer.length ≤ parser.maxFrameBytes ∧
      ∀ frames, (parser.feed chunk).2 = .ok frames → ∀ frame ∈ frames, IsFrame parser.maxFrameBytes frame := by
  rw [feed]
  cases done : takeFrames parser.maxFrameBytes (parser.buffer ++ chunk) with
  | error e => exact ⟨Nat.zero_le _, fun frames isOk => (by cases isOk)⟩
  | ok result =>
    obtain ⟨frames, kept⟩ := result
    obtain ⟨wellFormed, bounded⟩ := takeFrames_frames parser.atLeastFour done
    refine ⟨bounded, fun returned isOk => ?_⟩
    cases isOk
    exact wellFormed

/-- The parser after some chunks, whether or not one of them raised. -/
def after (parser : JpegFrameParser) (chunks : List Bytes) : JpegFrameParser :=
  chunks.foldl (fun parser chunk => (parser.feed chunk).1) parser

theorem after_maxFrameBytes (parser : JpegFrameParser) (chunks : List Bytes) :
    (parser.after chunks).maxFrameBytes = parser.maxFrameBytes := by
  induction chunks generalizing parser with
  | nil => rfl
  | cons chunk chunks ih => exact (ih _).trans (feed_maxFrameBytes parser chunk)

/-- Two ways to cut a stream raise alike, and give the same frames when they do not.  After any call the
    buffer is within the bound, and what the call returned are frames.  Frames with garbage between
    them that holds no start marker are returned, each once and in order. -/
theorem frames_of_chunks (max : Nat) (four : 4 ≤ max) :
    (∀ chunks chunks' : List Bytes, chunks.flatten = chunks'.flatten →
      ((new max four).feedAll chunks).2 = ((new max four).feedAll chunks').2) ∧
    (∀ (chunks : List Bytes) (chunk : Bytes),
      let fed := ((new max four).after chunks).feed chunk
      fed.1.buffer.length ≤ max ∧ ∀ frames, fed.2 = .ok frames → ∀ frame ∈ frames, IsFrame max frame) ∧
    ∀ (parts : List (Bytes × Bytes)) (trailing : Bytes) (chunks : List Bytes),
      (∀ part ∈ parts, ¬startMarker <:+: part.1 ∧ IsJpeg max part.2) → ¬startMarker <:+: trailing →
      chunks.flatten = stream parts trailing → ((new max four).feedAll chunks).2 = .ok (parts.map Prod.snd) := by
  refine ⟨fun chunks chunks' same => ?_, fun chunks chunk => ?_, fun parts trailing chunks clean trailingClean same => ?_⟩
  · rw [feedAll_new, feedAll_new, same]
  · have sameBound : ((new max four).after chunks).maxFrameBytes = max := after_maxFrameBytes (new max four) chunks
    have fed := feed_spec ((new max four).after chunks) chunk
    simp only [sameBound] at fed
    exact fed
  · obtain ⟨kept, done⟩ := takeFrames_stream clean trailingClean
    rw [feedAll_new, same, done]
    rfl

/-- A frame between garbage, cut inside both of its markers. -/
theorem frames_of_chunks_cut :
    ((new 8 (by decide)).feedAll [[0x00, 0xff], [0xd8, 0x2a, 0xff], [0xd9, 0x01]]).2 = .ok [[0xff, 0xd8, 0x2a, 0xff, 0xd9]] := by
  refine (frames_of_chunks 8 (by decide)).2.2 [([0x00], [0xff, 0xd8, 0x2a, 0xff, 0xd9])] [0x01] _ ?_ (by decide) (by decide)
  intro part member
  cases List.mem_singleton.mp member
  exact ⟨by decide, [0x2a], rfl, by decide, by decide⟩

end ZeroNvr.JpegFrameParser
