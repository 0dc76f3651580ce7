/-
The model stream between the controller and a worker. Each side writes JSON with its length in front (`write_header`)
and refuses more than 64 KiB in both directions. serde_json's readers of the two messages are parameters.
-/
import Rampage.Lib.Frames
import Rampage.Protocol.Model

namespace Rampage.Mesh

open Rampage.Protocol

/-- The largest header of a frame. -/
def maxArtifactHeaderBytes : Nat := 64 * 1024

/-- What reading or writing a frame fails with. -/
inductive MeshError
  | invalidArtifactHeader | invalidModelFrame | streamEnded | malformed
deriving DecidableEq

/-- The texts serde writes for the messages of a model session, and its readers of them. -/
structure ModelCodec extends ModelTexts where
  readRequest : List UInt8 → Option ModelInvocationRequestV1
  readFrame : List UInt8 → Option ModelInvocationFrameV1

/-- The reader of requests undoes the writer. -/
def ModelCodec.ReadsRequest (c : ModelCodec) (r : ModelInvocationRequestV1) : Prop :=
  c.readRequest (r.toJson c.toModelTexts).toVec = some r

/-- The reader of frames undoes the writer. -/
def ModelCodec.ReadsFrame (c : ModelCodec) (f : ModelInvocationFrameV1) : Prop :=
  c.readFrame (f.toJson c.toModelTexts).toVec = some f

/-- `write_header`. -/
def writeHeader (v : Json) : Except MeshError (List UInt8) :=
  match Frames.write maxArtifactHeaderBytes v.toVec with
  | none => .error .invalidArtifactHeader
  | some frame => .ok frame

/-- `read_header`: the value, and what follows it in the stream. -/
def readHeader {α : Type} (fromSlice : List UInt8 → Option α) (stream : List UInt8) : Except MeshError (α × List UInt8) :=
  match Frames.read maxArtifactHeaderBytes stream with
  | .error .oversized => .error .invalidArtifactHeader
  | .error .ended => .error .streamEnded
  | .ok (payload, rest) =>
    match fromSlice payload with
    | none => .error .malformed
    | some a => .ok (a, rest)

variable (c : ModelCodec)

/-- `invoke_model`: what it writes on its stream. -/
def invokeModel (request : ModelInvocationRequestV1) : Except MeshError (List UInt8) :=
  if request.schema ≠ ModelInvocationRequestV1.schemaName then .error .invalidModelFrame
  else writeHeader (request.toJson c.toModelTexts)

/-- `read_model_request`. -/
def readModelRequest (stream : List UInt8) : Except MeshError ModelInvocationRequestV1 :=
  match readHeader c.readRequest stream with
  | .error e => .error e
  | .ok (request, _) =>
    if request.schema ≠ ModelInvocationRequestV1.schemaName then .error .invalidModelFrame else .ok request

/-- `write_model_frame`. -/
def writeModelFrame (frame : ModelInvocationFrameV1) : Except MeshError (List UInt8) :=
  if frame.schema ≠ ModelInvocationFrameV1.schemaName then .error .invalidModelFrame
  else writeHeader (frame.toJson c.toModelTexts)

/-- `ModelResponseStream::next_frame`, of the stream that answers a request. -/
def nextFrame (requestId : Uuid) (stream : List UInt8) : Except MeshError (ModelInvocationFrameV1 × List UInt8) :=
  match readHeader c.readFrame stream with
  | .error e => .error e
  | .ok (frame, rest) =>
    if frame.schema ≠ ModelInvocationFrameV1.schemaName ∨ frame.requestId ≠ requestId then .error .invalidModelFrame
    else .ok (frame, rest)

/-! ## Writing and reading -/

variable {c}

/-- A value that is read shortens the stream. -/
theorem length_lt_of_readHeader {α : Type} {fromSlice : List UInt8 → Option α} {stream rest : List UInt8} {a : α}
    (h : readHeader fromSlice stream = .ok (a, rest)) : rest.length < stream.length := by
  unfold readHeader at h
  split at h
  · cases h
  · cases h
  · rename_i payload rest' hread
    split at h
    · cases h
    · cases h
      exact Frames.length_lt_of_read hread

theorem length_lt_of_nextFrame {requestId : Uuid} {stream rest : List UInt8} {f : ModelInvocationFrameV1}
    (h : nextFrame c requestId stream = .ok (f, rest)) : rest.length < stream.length := by
  unfold nextFrame at h
  split at h
  · cases h
  · rename_i frame rest' hread
    split at h
    · cases h
    · cases h
      exact length_lt_of_readHeader hread

/-- A value with its length in front. -/
def headerBytes (v : Json) : List UInt8 := BigEndian.bytes 4 v.size ++ v.toVec

theorem writeHeader_of_fits {v : Json} (h : v.size ≤ maxArtifactHeaderBytes) : writeHeader v = .ok (headerBytes v) := by
  unfold writeHeader
  rw [Frames.write_eq_some_iff.2 ⟨h, rfl⟩]
  rfl

theorem writeHeader_of_large {v : Json} (h : maxArtifactHeaderBytes < v.size) :
    writeHeader v = .error .invalidArtifactHeader := by
  have hnone : Frames.write maxArtifactHeaderBytes v.toVec = none := if_neg (Nat.not_le.2 h)
  unfold writeHeader
  rw [hnone]

/-- A value is written exactly when it is within the bound. -/
theorem writeHeader_isOk_iff {v : Json} : (∃ bytes, writeHeader v = .ok bytes) ↔ v.size ≤ maxArtifactHeaderBytes := by
  constructor
  · rintro ⟨bytes, h⟩
    by_contra hlarge
    rw [writeHeader_of_large (Nat.lt_of_not_le hlarge)] at h
    cases h
  · exact fun h => ⟨_, writeHeader_of_fits h⟩

theorem readHeader_writeHeader {α : Type} {fromSlice : List UInt8 → Option α} {v : Json} {a : α} {bytes : List UInt8}
    (h : writeHeader v = .ok bytes) (hread : fromSlice v.toVec = some a) (rest : List UInt8) :
    readHeader fromSlice (bytes ++ rest) = .ok (a, rest) := by
  unfold writeHeader at h
  split at h
  · cases h
  · rename_i frame hframe
    cases h
    unfold readHeader
    rw [Frames.read_write (by decide) hframe rest]
    dsimp only
    rw [hread]

/-- A request is transmitted exactly when its JSON is within the bound. -/
theorem invokeModel_isOk_iff {r : ModelInvocationRequestV1} (h : r.schema = ModelInvocationRequestV1.schemaName) :
    (∃ bytes, invokeModel c r = .ok bytes) ↔ (r.toJson c.toModelTexts).size ≤ maxArtifactHeaderBytes := by
  unfold invokeModel
  rw [if_neg (not_not.2 h)]
  exact writeHeader_isOk_iff

/-- What was transmitted is accepted by the worker. -/
theorem readModelRequest_invokeModel {r : ModelInvocationRequestV1} {bytes : List UInt8} (hread : c.ReadsRequest r)
    (h : invokeModel c r = .ok bytes) : readModelRequest c bytes = .ok r := by
  unfold invokeModel at h
  split at h
  · cases h
  · rename_i hschema
    have hheader := readHeader_writeHeader h hread []
    rw [List.append_nil] at hheader
    unfold readModelRequest
    rw [hheader]
    exact if_neg hschema

theorem writeModelFrame_of_fits {f : ModelInvocationFrameV1} (hschema : f.schema = ModelInvocationFrameV1.schemaName)
    (h : (f.toJson c.toModelTexts).size ≤ maxArtifactHeaderBytes) :
    writeModelFrame c f = .ok (headerBytes (f.toJson c.toModelTexts)) := by
  unfold writeModelFrame
  rw [if_neg (not_not.2 hschema), writeHeader_of_fits h]

theorem writeModelFrame_of_large {f : ModelInvocationFrameV1} (hschema : f.schema = ModelInvocationFrameV1.schemaName)
    (h : maxArtifactHeaderBytes < (f.toJson c.toModelTexts).size) :
    writeModelFrame c f = .error .invalidArtifactHeader := by
  unfold writeModelFrame
  rw [if_neg (not_not.2 hschema), writeHeader_of_large h]

/-- Only frames of the current schema are written. -/
theorem schema_of_write {f : ModelInvocationFrameV1} {bytes : List UInt8} (h : writeModelFrame c f = .ok bytes) :
    f.schema = ModelInvocationFrameV1.schemaName := by
  unfold writeModelFrame at h
  split at h
  · cases h
  · rename_i hschema
    exact not_not.1 hschema

theorem writeModelFrame_isOk_iff {f : ModelInvocationFrameV1} (h : f.schema = ModelInvocationFrameV1.schemaName) :
    (∃ bytes, writeModelFrame c f = .ok bytes) ↔ (f.toJson c.toModelTexts).size ≤ maxArtifactHeaderBytes := by
  unfold writeModelFrame
  rw [if_neg (not_not.2 h)]
  exact writeHeader_isOk_iff

/-- A frame that was written is the next one of its stream. -/
theorem nextFrame_writeModelFrame {f : ModelInvocationFrameV1} {bytes : List UInt8} (hread : c.ReadsFrame f)
    (h : writeModelFrame c f = .ok bytes) (rest : List UInt8) : nextFrame c f.requestId (bytes ++ rest) = .ok (f, rest) := by
  unfold writeModelFrame at h
  split at h
  · cases h
  · rename_i hschema
    unfold nextFrame
    rw [readHeader_writeHeader h hread rest]
    exact if_neg (not_or.2 ⟨hschema, not_not.2 rfl⟩)

end Rampage.Mesh
