import Rofuse.Errors
import Rofuse.Proto.Types

/-! Requests and response frames (`connection.go`). A request is the pool buffer a device
read filled, of which the first `n` bytes are the frame; `readRequest` only builds requests
whose frame holds a whole header. `Request.body` is `req.body()` followed by a read through the
typed pointer: a frame of no more than a header gives a nil pointer, whose dereference panics,
and otherwise the record is read from the buffer at offset 40, past the end of the frame when
the frame is short. `responseBytes` is the frame `sendResponse` writes and `errorBytes` the one
`sendError` writes. -/

namespace Rofuse

open Proto

structure Request where
  buf : List UInt8
  n : ℕ
  header_le : inHeaderSize ≤ n
  n_le : n ≤ buf.length

namespace Request

/-- `req.data`: the frame, `buf[:n]`. -/
def data (req : Request) : List UInt8 := req.buf.take req.n

/-- `req.header`, the header overlay at the start of the frame. -/
def header (req : Request) : InHeader := InHeader.decode req.data

/-- `req.body()`, then a read of a record through the typed pointer; `none` is a panic. -/
def body {α : Type} (req : Request) (overlay : List UInt8 → α) : Option α :=
  if req.n ≤ inHeaderSize then none else some (overlay (req.buf.drop inHeaderSize))

/-- `req.bodyBytes()`: the frame after the header (nil, of length 0, for a bare header). -/
def bodyBytes (req : Request) : List UInt8 := req.data.drop inHeaderSize

/-- `req.filename()`: the body up to its first NUL, or the whole body. -/
def filename (req : Request) : List UInt8 := req.bodyBytes.takeWhile (· ≠ 0)

@[simp] theorem length_data (req : Request) : req.data.length = req.n := by
  simp [data, req.n_le]

@[simp] theorem length_bodyBytes (req : Request) : req.bodyBytes.length = req.n - inHeaderSize := by
  simp [bodyBytes]

theorem body_of_lt {α : Type} (req : Request) (overlay : List UInt8 → α) (h : inHeaderSize < req.n) :
    req.body overlay = some (overlay (req.buf.drop inHeaderSize)) := by
  simp [body, Nat.not_le.mpr h]

theorem body_of_le {α : Type} (req : Request) (overlay : List UInt8 → α) (h : req.n ≤ inHeaderSize) :
    req.body overlay = none := by
  simp [body, h]

/-- The request of a frame made of header `h` and `body`, in a buffer that holds the frame
alone. -/
def ofFrame (h : InHeader) (body : List UInt8) : Request :=
  ⟨h.encode ++ body, inHeaderSize + body.length, by simp, by simp⟩

@[simp] theorem n_ofFrame (h : InHeader) (body : List UInt8) :
    (ofFrame h body).n = inHeaderSize + body.length := rfl

@[simp] theorem data_ofFrame (h : InHeader) (body : List UInt8) :
    (ofFrame h body).data = h.encode ++ body := by
  simp [ofFrame, data, List.take_of_length_le]

@[simp] theorem header_ofFrame (h : InHeader) (body : List UInt8) : (ofFrame h body).header = h := by
  simp [header, InHeader.decode_encode]

theorem body_ofFrame {α : Type} (h : InHeader) (body : List UInt8) (overlay : List UInt8 → α)
    (hb : 0 < body.length) : (ofFrame h body).body overlay = some (overlay body) := by
  rw [body_of_lt _ _ (by simpa using hb)]
  simp [ofFrame]

end Request

/-! ### Response frames -/

/-- The frame `sendResponse(req, payload)` writes: `newResponse(req, len(payload))` with the
payload copied after the header. -/
def responseBytes (req : Request) (payload : List UInt8) : List UInt8 :=
  putU32 (uint32 (outHeaderSize + payload.length)) ++ putU32 0 ++ putU64 req.header.unique ++ payload

/-- `newErrorResponse(req, errno)`. -/
def errorBytes (req : Request) (errno : ℤ) : List UInt8 :=
  putU32 (uint32 outHeaderSize) ++ putU32 (uint32OfInt errno) ++ putU64 req.header.unique

/-- The `len` field of a frame, bytes 0 to 4. -/
def lenField (f : List UInt8) : UInt32 := getU32 f 0

/-- The `error` field of a frame, bytes 4 to 8. -/
def errorField (f : List UInt8) : UInt32 := getU32 f 4

/-- The `unique` field of a frame, bytes 8 to 16. -/
def uniqueField (f : List UInt8) : UInt64 := getU64 f 8

/-- A frame answers `req`: its `len` is its length as `uint32` keeps it, and its `unique` is
the request's. -/
structure Framed (req : Request) (f : List UInt8) : Prop where
  len : lenField f = uint32 f.length
  unique : uniqueField f = req.header.unique

section Frames

variable (req : Request)

@[simp] theorem length_responseBytes (payload : List UInt8) :
    (responseBytes req payload).length = outHeaderSize + payload.length := by
  simp [responseBytes, outHeaderSize]; omega

@[simp] theorem length_errorBytes (errno : ℤ) : (errorBytes req errno).length = outHeaderSize := by
  simp [errorBytes, outHeaderSize]

theorem responseBytes_framed (payload : List UInt8) : Framed req (responseBytes req payload) := by
  constructor
  · rw [length_responseBytes]; simp [lenField, responseBytes, List.append_assoc]
  · simp [uniqueField, responseBytes, List.append_assoc, getU64_append_of_le]

theorem errorBytes_framed (errno : ℤ) : Framed req (errorBytes req errno) := by
  constructor <;> simp [lenField, uniqueField, errorBytes, List.append_assoc,
    getU64_append_of_le, outHeaderSize]

theorem errorField_errorBytes (errno : ℤ) : errorField (errorBytes req errno) = uint32OfInt errno := by
  simp [errorField, errorBytes, List.append_assoc, getU32_append_of_le]

theorem errorField_responseBytes (payload : List UInt8) : errorField (responseBytes req payload) = 0 := by
  simp [errorField, responseBytes, List.append_assoc, getU32_append_of_le]

/-- The kernel finds the payload after the 16-byte header. -/
theorem drop_responseBytes (payload : List UInt8) :
    (responseBytes req payload).drop outHeaderSize = payload :=
  List.drop_left' (by simp [outHeaderSize])

end Frames

end Rofuse
