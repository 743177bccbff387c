import ZeroNvr.Core.Json
import ZeroNvr.Lib.Incremental

/-! # Fast live preview

`JpegFrameParser`: the frames of the byte stream that the preview process writes.
-/

namespace ZeroNvr

open Lib

structure LivePreviewError where
  code : String
  message : String
  deriving DecidableEq

def maxPreviewFrameBytes : Nat := 2 * 1024 * 1024

/-- The parser and the bytes it has buffered. -/
structure JpegFrameParser where
  maxFrameBytes : Nat
  atLeastFour : 4 ≤ maxFrameBytes
  buffer : Bytes

namespace JpegFrameParser

def startMarker : Bytes := [0xff, 0xd8]
def endMarker : Bytes := [0xff, 0xd9]

def frameTooLarge : LivePreviewError :=
  { code := "live_preview_frame_too_large", message := "Fast live preview produced an oversized frame." }

def new (maxFrameBytes : Nat) (atLeastFour : 4 ≤ maxFrameBytes) : JpegFrameParser := { maxFrameBytes, atLeastFour, buffer := [] }

/-- The loop of `feed` on what is buffered: the frames, and the bytes that stay in the buffer. -/
def takeFrames (maxFrameBytes : Nat) (buffer : Bytes) : Except LivePreviewError (List Bytes × Bytes) :=
  match found : find startMarker buffer with
  | none => .ok ([], if buffer.getLast? = some 0xff then [0xff] else [])
  | some start =>
    -- `find(b"\xff\xd9", 2)`
    match (find endMarker ((buffer.drop start).drop 2)).map (· + 2) with
    | none =>
      if maxFrameBytes < (buffer.drop start).length then .error frameTooLarge
      else .ok ([], buffer.drop start)
    | some stop =>
      let frameEnd := stop + 2
      if maxFrameBytes < frameEnd then .error frameTooLarge
      else
        (takeFrames maxFrameBytes ((buffer.drop start).drop frameEnd)).map fun (frames, rest) =>
          ((buffer.drop start).take frameEnd :: frames, rest)
termination_by buffer.length
decreasing_by
  obtain ⟨before, after, split, _⟩ := find_split found
  have positive : 2 ≤ buffer.length := by
    rw [split, List.length_append, List.length_append]
    exact Nat.le_add_right_of_le (Nat.le_add_left_of_le (Nat.le_refl 2))
  simp only [List.length_drop]
  omega

/-- The parser after a chunk, and what the call returns or raises. -/
def feed (parser : JpegFrameParser) (chunk : Bytes) : JpegFrameParser × Except LivePreviewError (List Bytes) :=
  match takeFrames parser.maxFrameBytes (parser.buffer ++ chunk) with
  | .error e => ({ parser with buffer := [] }, .error e)
  | .ok (frames, buffer) => ({ parser with buffer }, .ok frames)

/-- The chunks of a stream, up to the first one that raises; the frames of all of them. -/
def feedAll (parser : JpegFrameParser) : List Bytes → JpegFrameParser × Except LivePreviewError (List Bytes)
  | [] => (parser, .ok [])
  | chunk :: chunks =>
    match parser.feed chunk with
    | (parser, .error e) => (parser, .error e)
    | (parser, .ok frames) =>
      let (parser, later) := parser.feedAll chunks
      (parser, later.map (frames ++ ·))

end JpegFrameParser

end ZeroNvr
