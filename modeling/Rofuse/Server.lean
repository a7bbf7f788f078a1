import Rofuse.Handlers

/-! `handleRequest` and `sendError` (`server.go`). A write operation is refused with `EROFS`
before any handler runs, an opcode without a handler gets `ENOSYS`, and a handler's error
becomes an error frame except for `FORGET` and `BATCH_FORGET`. The contract of one request:
the three opcodes that are never answered get no frame, every other gets exactly one, with the
request's `unique` and its length modulo `2 ^ 32` in `len`. That length is exact unless a
directory read's 32-bit fit check wraps. The handlers that read their record through
`req.body()` panic on a frame that is a bare header. -/

namespace Rofuse

open Proto

/-- `isWriteOp`. -/
def isWriteOp (opcode : UInt32) : Bool :=
  opcode ∈ [opSetattr, opSymlink, opMknod, opMkdir, opUnlink, opRmdir, opRename, opLink, opWrite,
    opSetxattr, opRemovexattr, opCreate, opRename2, opFallocate, opCopyFileRange, opTmpfile]

/-- `s.sendError(req, err)`. -/
def sendError (req : Request) (err : GoError) : List Event :=
  if req.header.opcode = opForget ∨ req.header.opcode = opBatchForget then []
  else [.write (errorBytes req (toErrno (some err)))]

/-- `s.handleRequest(req)`, with its events; `none` is a panic in the handler. -/
def handleRequest (fs : Filesystem) (s : Server) (req : Request) : Option (Server × List Event) :=
  let opcode := req.header.opcode
  if isWriteOp opcode then some (s, sendError req (.errno erofs))
  else
    match handlers.lookup opcode with
    | none => some (s, sendError req (.errno enosys))
    | some h => (h fs s req).map fun r =>
      match r.err with
      | none => (r.server, r.events)
      | some err => (r.server, r.events ++ sendError req err)

/-! ### The kernel's read frames -/

/-- The kernel's frame for `READ`, `READDIR` or `READDIRPLUS` on node `ino`. -/
def readFrame (opcode : UInt32) (unique ino : UInt64) (inp : ReadIn) : Request :=
  .ofFrame ⟨uint32 (inHeaderSize + readInSize), opcode, unique, ino, 0, 0, 0, 0⟩ inp.encode

@[simp] theorem header_readFrame (opcode : UInt32) (unique ino : UInt64) (inp : ReadIn) :
    (readFrame opcode unique ino inp).header =
      ⟨uint32 (inHeaderSize + readInSize), opcode, unique, ino, 0, 0, 0, 0⟩ :=
  Request.header_ofFrame _ _

theorem body_readFrame (opcode : UInt32) (unique ino : UInt64) (inp : ReadIn) :
    (readFrame opcode unique ino inp).body ReadIn.decode = some inp := by
  rw [readFrame, Request.body_ofFrame _ _ _ (by simp [readInSize])]
  simpa using ReadIn.decode_encode inp []

/-! ### The contract of one request -/

/-- The opcodes whose handlers never reply. -/
def silentOps : List UInt32 := [opForget, opBatchForget, opInterrupt]

/-- The size of the record the handler of `opcode` reads through `req.body()` without checking
the length of the body. -/
def bodyRecordSize (opcode : UInt32) : ℕ :=
  if opcode = opInit then initInSize
  else if opcode = opForget then forgetInSize
  else if opcode = opGetattr then getAttrInSize
  else if opcode = opOpen ∨ opcode = opOpendir then openInSize
  else if opcode = opRead ∨ opcode = opReaddir ∨ opcode = opReaddirplus then readInSize
  else if opcode = opRelease ∨ opcode = opReleasedir then releaseInSize
  else if opcode = opAccess then accessInSize
  else 0

/-- The handlers' 32-bit fit check does not wrap: for READDIR and READDIRPLUS, the size asked
for plus each returned entry's record stays below `2 ^ 32`. -/
def DirFits (fs : Filesystem) (req : Request) : Prop :=
  ∀ inp, req.body ReadIn.decode = some inp →
    (req.header.opcode = opReaddir → ∀ e ∈ (fs.readDir (newContext req) req.header.nodeId inp.fh
      (int64 inp.offset) inp.size).1, inp.size.toNat + pad8 (direntSize + e.name.length) < 2 ^ 32) ∧
    (req.header.opcode = opReaddirplus → ∀ e ∈ (fs.readDirPlus (newContext req) req.header.nodeId
      inp.fh (int64 inp.offset) inp.size).1,
        inp.size.toNat + pad8 (direntPlusSize + e.name.length) < 2 ^ 32)

/-- What the device sees of one request; `len` is exact when `fits` holds. -/
structure Contract (req : Request) (fits : Prop) (events : List Event) : Prop where
  silent : req.header.opcode ∈ silentOps → frames events = []
  replied : req.header.opcode ∉ silentOps → ∃ f, frames events = [f] ∧ Framed req f ∧
    (fits → (lenField f).toNat = f.length)
  readOnly : isWriteOp req.header.opcode →
    calls events = [] ∧ frames events = [errorBytes req (-(erofs.toNat : ℤ))]

section Dispatch

variable {fs : Filesystem} {s : Server} {req : Request}

theorem frames_sendError (err : GoError) :
    frames (sendError req err) = if req.header.opcode = opForget ∨ req.header.opcode = opBatchForget
      then [] else [errorBytes req (toErrno (some err))] := by
  unfold sendError; split_ifs <;> rfl

theorem calls_sendError (err : GoError) : calls (sendError req err) = [] := by
  unfold sendError; split_ifs <;> rfl

theorem handleRequest_of_handler {h : Handler} {r : Reply} (hw : isWriteOp req.header.opcode = false)
    (hl : handlers.lookup req.header.opcode = some h) (hr : h fs s req = some r) :
    handleRequest fs s req = some (r.server, r.events ++ (r.err.map (sendError req)).getD []) := by
  simp only [handleRequest, hw, hl, hr, Option.map_some', Bool.false_eq_true, if_false]
  cases r.err <;> simp

theorem lenField_toNat {f : List UInt8} (hf : Framed req f) (hlt : f.length < 2 ^ 32) :
    (lenField f).toNat = f.length := by
  rw [hf.len, toNat_uint32, Nat.mod_eq_of_lt hlt]

theorem errorBytes_exact (errno : ℤ) : (lenField (errorBytes req errno)).toNat =
    (errorBytes req errno).length :=
  lenField_toNat (errorBytes_framed req errno) (by simp [outHeaderSize])

/-- A handler that `Answers` leaves exactly one frame after `handleRequest`: its reply, or the
error frame of its error. -/
theorem replied_of_answers {P : List UInt8 → Prop} {r : Reply} {fits : Prop}
    (hans : Answers req P r) (hop : req.header.opcode ∉ silentOps)
    (hP : fits → ∀ p, P p → outHeaderSize + p.length < 2 ^ 32) :
    ∃ f, frames (r.events ++ (r.err.map (sendError req)).getD []) = [f] ∧ Framed req f ∧
      (fits → (lenField f).toNat = f.length) := by
  have hsend : req.header.opcode ≠ opForget ∧ req.header.opcode ≠ opBatchForget := by
    simp only [silentOps, List.mem_cons, not_or] at hop; exact ⟨hop.1, hop.2.1⟩
  rcases hans with ⟨herr, p, hp, hf⟩ | ⟨herr, hf⟩
  · refine ⟨_, by simp [herr, hf], responseBytes_framed req p, fun hfits => ?_⟩
    exact lenField_toNat (responseBytes_framed req p) (by rw [length_responseBytes]; exact hP hfits p hp)
  · obtain ⟨err, herr⟩ := Option.isSome_iff_exists.mp herr
    refine ⟨errorBytes req (toErrno (some err)), ?_, errorBytes_framed req _,
      fun _ => errorBytes_exact _⟩
    simp [herr, hf, frames_sendError, hsend]

/-- An answering handler's run meets the contract. -/
theorem contract_of_answers {h : Handler} {P : List UInt8 → Prop} {fits : Prop}
    (hw : isWriteOp req.header.opcode = false) (hl : handlers.lookup req.header.opcode = some h)
    (hop : req.header.opcode ∉ silentOps)
    (hP : fits → ∀ p, P p → outHeaderSize + p.length < 2 ^ 32)
    (hans : ∃ r, h fs s req = some r ∧ Answers req P r) :
    ∃ s' events, handleRequest fs s req = some (s', events) ∧ Contract req fits events := by
  obtain ⟨r, hr, hans⟩ := hans
  exact ⟨_, _, handleRequest_of_handler hw hl hr, ⟨fun h => absurd h hop,
    fun _ => replied_of_answers hans hop hP, fun h => by simp [hw] at h⟩⟩

/-- A silent handler's run meets the contract. -/
theorem contract_of_silent {h : Handler} {r : Reply} {fits : Prop}
    (hw : isWriteOp req.header.opcode = false) (hl : handlers.lookup req.header.opcode = some h)
    (hop : req.header.opcode ∈ silentOps) (hr : h fs s req = some r) (hf : frames r.events = [])
    (herr : r.err = none ∨ req.header.opcode = opForget ∨ req.header.opcode = opBatchForget) :
    ∃ s' events, handleRequest fs s req = some (s', events) ∧ Contract req fits events := by
  refine ⟨_, _, handleRequest_of_handler hw hl hr, ⟨fun _ => ?_, fun h => absurd hop h,
    fun h => by simp [hw] at h⟩⟩
  rcases herr with herr | hsend
  · simp [herr, hf]
  · cases r.err <;> simp [hf, frames_sendError, hsend]

theorem not_silent_of_lookup_none {op : UInt32} (hl : handlers.lookup op = none) :
    op ∉ silentOps := by
  intro hs
  simp only [silentOps, List.mem_cons, List.mem_nil_iff, or_false] at hs
  rcases hs with rfl | rfl | rfl <;> exact absurd (congrArg Option.isSome hl) (by decide)

theorem not_silent_of_isWriteOp {op : UInt32} (hw : isWriteOp op = true) : op ∉ silentOps := by
  simp only [isWriteOp, decide_eq_true_eq] at hw
  exact (show ∀ w ∈ _, w ∉ silentOps by decide) op hw

/-- The error path meets the contract for every opcode that is not silent. -/
theorem contract_of_sendError {err : GoError} {fits : Prop} (hop : req.header.opcode ∉ silentOps)
    (hw : isWriteOp req.header.opcode = true → err = .errno erofs) :
    Contract req fits (sendError req err) := by
  have hsend : ¬(req.header.opcode = opForget ∨ req.header.opcode = opBatchForget) := by
    simp_all [silentOps]
  refine ⟨fun h => absurd h hop, fun _ => ⟨errorBytes req (toErrno (some err)), ?_,
    errorBytes_framed req _, fun _ => errorBytes_exact _⟩, fun h => ⟨calls_sendError _, ?_⟩⟩
  · simp [frames_sendError, hsend]
  · simp [frames_sendError, hsend, hw h, toErrno_errno erofs (by decide)]

/-- Every request meets the contract, with `len` exact when the fit check does not wrap, on a
`NonNil` and `Small` filesystem and with the body holding the handler's record. -/
theorem handleRequest_contract (fs : Filesystem) (s : Server) (req : Request) (hfs : fs.NonNil)
    (hsmall : fs.Small) (hbody : bodyRecordSize req.header.opcode ≤ req.bodyBytes.length) :
    ∃ s' events, handleRequest fs s req = some (s', events) ∧ Contract req (DirFits fs req) events := by
  cases hw : isWriteOp req.header.opcode
  case true =>
    exact ⟨s, _, by simp [handleRequest, hw],
      contract_of_sendError (not_silent_of_isWriteOp hw) fun _ => rfl⟩
  cases hl : handlers.lookup req.header.opcode with
  | none =>
    exact ⟨s, sendError req (.errno enosys), by simp [handleRequest, hw, hl],
      contract_of_sendError (not_silent_of_lookup_none hl) fun h => absurd h (by simp [hw])⟩
  | some h =>
    have hn : 0 < bodyRecordSize req.header.opcode → inHeaderSize < req.n := by
      rw [Request.length_bodyBytes] at hbody; unfold inHeaderSize at *; omega
    obtain ⟨l₁, l₂, hsplit, -⟩ := List.lookup_eq_some_iff.mp hl
    have hmem : (req.header.opcode, h) ∈ handlers := hsplit ▸ by simp
    simp only [handlers, List.mem_cons, Prod.mk.injEq, List.mem_nil_iff, or_false] at hmem
    have short : DirFits fs req → ∀ p, Short p → outHeaderSize + p.length < 2 ^ 32 :=
      fun _ p hp => by unfold Short at hp; unfold outHeaderSize; omega
    have fits : DirFits fs req → ∀ p : List UInt8, (DirFits fs req → outHeaderSize + p.length < 2 ^ 32) →
        outHeaderSize + p.length < 2 ^ 32 := fun hf _ hp => hp hf
    rcases hmem with ⟨hop, rfl⟩ | ⟨hop, rfl⟩ | ⟨hop, rfl⟩ | ⟨hop, rfl⟩ | ⟨hop, rfl⟩ | ⟨hop, rfl⟩ |
      ⟨hop, rfl⟩ | ⟨hop, rfl⟩ | ⟨hop, rfl⟩ | ⟨hop, rfl⟩ | ⟨hop, rfl⟩ | ⟨hop, rfl⟩ | ⟨hop, rfl⟩ |
      ⟨hop, rfl⟩ | ⟨hop, rfl⟩ | ⟨hop, rfl⟩ | ⟨hop, rfl⟩ | ⟨hop, rfl⟩
    · exact contract_of_answers hw hl (by rw [hop]; decide) short
        (handleInit_answers (hn (by rw [hop]; decide)))
    · exact contract_of_answers hw hl (by rw [hop]; decide) short handleDestroy_answers
    · exact contract_of_answers hw hl (by rw [hop]; decide) short (handleLookup_answers hfs)
    · obtain ⟨r, hr, hf, herr⟩ := @handleForget_silent fs s req (hn (by rw [hop]; decide))
      exact contract_of_silent hw hl (by rw [hop]; decide) hr hf (.inl herr)
    · obtain ⟨r, hr, hf⟩ := @handleBatchForget_silent fs s req
      exact contract_of_silent hw hl (by rw [hop]; decide) hr hf (.inr (.inr hop))
    · exact contract_of_answers hw hl (by rw [hop]; decide) short
        (handleGetattr_answers hfs (hn (by rw [hop]; decide)))
    · exact contract_of_answers hw hl (by rw [hop]; decide) short (handleReadlink_answers hsmall)
    · exact contract_of_answers hw hl (by rw [hop]; decide) short
        (openHandler_answers hfs.open (hn (by rw [hop]; decide)))
    · exact contract_of_answers hw hl (by rw [hop]; decide) short
        (readHandler_answers (fun _ _ => hsmall.read _ _ _ _ _) (hn (by rw [hop]; decide)))
    · exact contract_of_answers hw hl (by rw [hop]; decide) short
        (releaseHandler_answers (hn (by rw [hop]; decide)))
    · exact contract_of_answers hw hl (by rw [hop]; decide) short
        (openHandler_answers hfs.openDir (hn (by rw [hop]; decide)))
    · exact contract_of_answers hw hl (by rw [hop]; decide) fits
        (readHandler_answers (fun inp hinp hf => outHeaderSize_add_length_appendFitting
          length_direntBytes inp.size (by decide) _ ((hf inp hinp).1 hop)) (hn (by rw [hop]; decide)))
    · exact contract_of_answers hw hl (by rw [hop]; decide) fits
        (readHandler_answers (fun inp hinp hf => outHeaderSize_add_length_appendFitting
          length_direntPlusBytes inp.size (by decide) _ ((hf inp hinp).2 hop))
          (hn (by rw [hop]; decide)))
    · exact contract_of_answers hw hl (by rw [hop]; decide) short
        (releaseHandler_answers (hn (by rw [hop]; decide)))
    · exact contract_of_answers hw hl (by rw [hop]; decide) short (handleStatfs_answers hfs)
    · exact contract_of_answers hw hl (by rw [hop]; decide) short
        (handleAccess_answers (hn (by rw [hop]; decide)))
    · exact contract_of_answers hw hl (by rw [hop]; decide) short handleFlush_answers
    · exact contract_of_silent hw hl (by rw [hop]; decide) rfl rfl (.inl rfl)

theorem readdir_request_contract :
    (blankDirectory 3).NonNil ∧ (blankDirectory 3).Small ∧
    bodyRecordSize (readFrame opReaddir 0 1 ⟨0, 0, 4096⟩).header.opcode ≤
      (readFrame opReaddir 0 1 ⟨0, 0, 4096⟩).bodyBytes.length ∧
    DirFits (blankDirectory 3) (readFrame opReaddir 0 1 ⟨0, 0, 4096⟩) ∧
    ∃ s' events, handleRequest (blankDirectory 3) { opts := {} }
        (readFrame opReaddir 0 1 ⟨0, 0, 4096⟩) = some (s', events) ∧
      Contract (readFrame opReaddir 0 1 ⟨0, 0, 4096⟩)
        (DirFits (blankDirectory 3) (readFrame opReaddir 0 1 ⟨0, 0, 4096⟩)) events := by
  have h₁ : (blankDirectory 3).NonNil :=
    FilesystemBase.extend_nonNil (fun _ _ _ => .inr rfl) (fun _ _ _ => .inr rfl)
  have h₂ : (blankDirectory 3).Small := FilesystemBase.extend_small fun _ _ _ _ _ => by simp
  have h₃ : bodyRecordSize (readFrame opReaddir 0 1 ⟨0, 0, 4096⟩).header.opcode ≤
      (readFrame opReaddir 0 1 ⟨0, 0, 4096⟩).bodyBytes.length := by
    simp [bodyRecordSize, readFrame, readInSize]; decide
  have h₄ : DirFits (blankDirectory 3) (readFrame opReaddir 0 1 ⟨0, 0, 4096⟩) := by
    intro inp hinp
    obtain rfl := Option.some.inj ((body_readFrame _ _ _ _).symm.trans hinp)
    refine ⟨fun _ e he => ?_, fun h => absurd h (by decide)⟩
    obtain rfl := List.eq_of_mem_replicate he
    decide
  exact ⟨h₁, h₂, h₃, h₄, handleRequest_contract _ _ _ h₁ h₂ h₃⟩

/-- A handler that panics makes `handleRequest` panic. -/
theorem handleRequest_of_panic {h : Handler} (hw : isWriteOp req.header.opcode = false)
    (hl : handlers.lookup req.header.opcode = some h) (hr : h fs s req = none) :
    handleRequest fs s req = none := by
  simp [handleRequest, hw, hl, hr]

end Dispatch

/-! ### A directory reply past `2 ^ 32` bytes -/

/-- A read-shaped handler whose callback succeeds sends the encoding of its result. -/
theorem handleRequest_readFrame {fs : Filesystem} {s : Server} {opcode : UInt32}
    {unique ino : UInt64} {inp : ReadIn} {β : Type}
    {call : Context → Inode → FileHandle → ℤ → UInt32 → Call}
    {cb : Filesystem → Context → Inode → FileHandle → ℤ → UInt32 → β × Option GoError}
    {encode : β → UInt32 → List UInt8} {result : β}
    (hl : handlers.lookup opcode = some (readHandler call cb encode)) (hw : isWriteOp opcode = false)
    (hcb : cb fs (newContext (readFrame opcode unique ino inp)) ino inp.fh (int64 inp.offset)
      inp.size = (result, none)) :
    handleRequest fs s (readFrame opcode unique ino inp) =
      some (s, [.call (call (newContext (readFrame opcode unique ino inp)) ino inp.fh
        (int64 inp.offset) inp.size),
        .write (responseBytes (readFrame opcode unique ino inp) (encode result inp.size))]) := by
  have hr : readHandler call cb encode fs s (readFrame opcode unique ino inp) =
      some ⟨s, [.call (call (newContext (readFrame opcode unique ino inp)) ino inp.fh
        (int64 inp.offset) inp.size),
        .write (responseBytes (readFrame opcode unique ino inp) (encode result inp.size))], none⟩ := by
    simp [readHandler, body_readFrame, answerValue, answer, hcb]
  rw [handleRequest_of_handler (by simpa using hw) (by simpa using hl) hr]
  rfl

/-- With the largest size, a directory of `n` entries with empty names is sent whole. -/
theorem length_serializeDirents_blank (n : ℕ) {maxSize : UInt32}
    (hmax : maxSize.toNat = 2 ^ 32 - 1) :
    (serializeDirents (List.replicate n ⟨0, 0, 0, []⟩) maxSize).length = 24 * n := by
  rw [serializeDirents, appendFitting_of_max hmax, List.nil_append]
  induction n with
  | zero => rfl
  | succ n ih =>
    rw [List.replicate_succ, List.flatMap_cons, List.length_append, ih, length_direntBytes]
    simp [pad8, direntSize]; omega

/-- 178956970 entries with empty names, read with the largest size: the reply is `2 ^ 32`
bytes long and its `len` field says 0. -/
theorem readdir_reply_len_wraps :
    (blankDirectory 178956970).NonNil ∧ (blankDirectory 178956970).Small ∧
    bodyRecordSize (readFrame opReaddir 0 1 ⟨0, 0, 0xFFFFFFFF⟩).header.opcode ≤
      (readFrame opReaddir 0 1 ⟨0, 0, 0xFFFFFFFF⟩).bodyBytes.length ∧
    ∃ s' events, handleRequest (blankDirectory 178956970) { opts := {} }
        (readFrame opReaddir 0 1 ⟨0, 0, 0xFFFFFFFF⟩) = some (s', events) ∧
      ∃ f, frames events = [f] ∧ (lenField f).toNat = 0 ∧ f.length = 2 ^ 32 := by
  refine ⟨FilesystemBase.extend_nonNil (fun _ _ _ => .inr rfl) (fun _ _ _ => .inr rfl),
    FilesystemBase.extend_small fun _ _ _ _ _ => by simp,
    by simp [bodyRecordSize, readFrame, readInSize]; decide,
    _, _, handleRequest_readFrame rfl rfl rfl, _, rfl, ?_, ?_⟩
  · rw [(responseBytes_framed _ _).len, toNat_uint32, length_responseBytes,
      length_serializeDirents_blank _ (by rfl)]
    rfl
  · rw [length_responseBytes, length_serializeDirents_blank _ (by rfl)]
    rfl

/-! ### Bare headers -/

/-- Every handler that reads its record through `req.body()` panics on a frame that is only a
header, before any callback. -/
theorem handleRequest_bare_header_panics (fs : Filesystem) (s : Server) (req : Request)
    (hop : req.header.opcode ∈ [opInit, opForget, opGetattr, opOpen, opOpendir, opRead, opReaddir,
      opReaddirplus, opRelease, opReleasedir, opAccess])
    (hn : req.n = inHeaderSize) : handleRequest fs s req = none := by
  have hb : ∀ {α : Type} (o : List UInt8 → α), req.body o = none := fun o => req.body_of_le o hn.le
  simp only [List.mem_cons, List.mem_nil_iff, or_false] at hop
  rcases hop with h | h | h | h | h | h | h | h | h | h | h <;>
    refine handleRequest_of_panic (by rw [h]; rfl) (by rw [h]; rfl) ?_ <;>
    simp only [handleInit, handleForget, handleGetattr, handleOpen, handleOpendir, openHandler,
      handleRead, handleReaddir, handleReaddirplus, readHandler, handleRelease, handleReleasedir,
      releaseHandler, handleAccess, hb, Option.bind_eq_bind, Option.none_bind]

theorem getattr_bare_header_panics :
    (Request.ofFrame ⟨40, opGetattr, 0, 1, 0, 0, 0, 0⟩ []).header.opcode ∈ [opInit, opForget,
      opGetattr, opOpen, opOpendir, opRead, opReaddir, opReaddirplus, opRelease, opReleasedir,
      opAccess] ∧
    (Request.ofFrame ⟨40, opGetattr, 0, 1, 0, 0, 0, 0⟩ []).n = inHeaderSize ∧
    handleRequest (blankDirectory 0) { opts := {} } (Request.ofFrame ⟨40, opGetattr, 0, 1, 0, 0, 0, 0⟩ []) =
      none :=
  ⟨by simp, by simp, handleRequest_bare_header_panics _ _ _ (by simp) (by simp)⟩

/-! ### Error statuses -/

/-- The frame `sendError` writes carries `toErrno` of the error as the kernel's signed status:
positive for an errno above `2 ^ 31` in its low bits, 0 for one of 0 or a bare `io.EOF`. -/
theorem sendError_status (req : Request) (err : GoError)
    (hop : req.header.opcode ≠ opForget ∧ req.header.opcode ≠ opBatchForget) :
    ∃ f, frames (sendError req err) = [f] ∧ int32Wrap (errorField f).toNat = toErrno (some err) ∧
      (0 < toErrno (some err) ↔ ∃ n, err.asErrno = some n ∧ 2 ^ 31 < n.toNat % 2 ^ 32) ∧
      (toErrno (some err) = 0 ↔ (∃ n, err.asErrno = some n ∧ n.toNat % 2 ^ 32 = 0) ∨
        (err.asErrno = none ∧ err.is .eof ∧ err.isOsSentinel = false)) :=
  ⟨errorBytes req (toErrno (some err)), by simp [frames_sendError, hop],
    by rw [errorField_errorBytes]; exact int32Wrap_uint32OfInt (toErrno_mem _).1 (toErrno_mem _).2,
    toErrno_pos_iff err, toErrno_eq_zero_iff err⟩

/-- `syscall.Errno(1<<32 - 1)` returned by a `LOOKUP` callback: the error frame says `+1`. -/
theorem sendError_status_errno_wraps :
    ∃ f, frames (sendError (.ofFrame ⟨42, opLookup, 7, 1, 0, 0, 0, 0⟩ [97, 0])
        (.errno 4294967295)) = [f] ∧ int32Wrap (errorField f).toNat = 1 := by
  obtain ⟨f, hf, hs, -⟩ := sendError_status (.ofFrame ⟨42, opLookup, 7, 1, 0, 0, 0, 0⟩ [97, 0])
    (.errno 4294967295) (by simp only [Request.header_ofFrame]; decide)
  exact ⟨f, hf, hs.trans (by decide)⟩

end Rofuse
