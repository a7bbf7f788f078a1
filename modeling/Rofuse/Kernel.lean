import Rofuse.Forget
import Rofuse.Replies

/-! The kernel's side of the exchange: the requests that reach the filesystem, with the frame
the kernel writes for each (`KernelOp.frame`), and the checks it makes on a reply frame before
it completes the request (`kernelReply`, after `fuse_dev_do_write` and `copy_out_args`). Every
such frame is served with one call carrying the arguments the kernel encoded and one reply, and
a run of them calls the filesystem once per request, in order (`serveAll_kernelOps`). A reply
completes its request with the status the server meant, except a successful STATFS, whose
record is short (`kernelReply_kernelOp`), and a READ that returned more than was asked
(`kernelReply_read`); a directory reply is accepted unless the fit check wraps. -/

namespace Rofuse

open Proto

/-- A request of the kernel that a handler hands to the filesystem, with its arguments. -/
inductive KernelOp
  | lookup (parent : Inode) (name : List UInt8)
  | getAttr (ino : Inode) (fh : Option FileHandle)
  | readLink (ino : Inode)
  | «open» (ino : Inode) (flags : UInt32)
  | read (ino : Inode) (fh : FileHandle) (offset : ℤ) (size : UInt32)
  | release (ino : Inode) (fh : FileHandle)
  | openDir (ino : Inode) (flags : UInt32)
  | readDir (ino : Inode) (fh : FileHandle) (offset : ℤ) (size : UInt32)
  | readDirPlus (ino : Inode) (fh : FileHandle) (offset : ℤ) (size : UInt32)
  | releaseDir (ino : Inode) (fh : FileHandle)
  | statFS (ino : Inode)
  | access (ino : Inode) (mask : UInt32)

namespace KernelOp

def opcode : KernelOp → UInt32
  | lookup .. => opLookup
  | getAttr .. => opGetattr
  | readLink .. => opReadlink
  | «open» .. => opOpen
  | read .. => opRead
  | release .. => opRelease
  | openDir .. => opOpendir
  | readDir .. => opReaddir
  | readDirPlus .. => opReaddirplus
  | releaseDir .. => opReleasedir
  | statFS .. => opStatfs
  | access .. => opAccess

/-- The node the header names: the parent directory for `LOOKUP`. -/
def nodeId : KernelOp → Inode
  | lookup parent _ => parent
  | getAttr ino _ | readLink ino | «open» ino _ | read ino .. | release ino _ | openDir ino _
  | readDir ino .. | readDirPlus ino .. | releaseDir ino _ | statFS ino | access ino _ => ino

/-- The body after the header; the fields no handler reads are left zero. -/
def body : KernelOp → List UInt8
  | lookup _ name => name ++ [0]
  | getAttr _ fh => putU32 (if fh.isSome then getattrFh else 0) ++ putU32 0 ++ putU64 (fh.getD 0)
  | readLink _ | statFS _ => []
  | «open» _ flags | openDir _ flags => putU32 flags ++ putU32 0
  | read _ fh offset size | readDir _ fh offset size | readDirPlus _ fh offset size =>
    ReadIn.encode ⟨fh, uint64OfInt offset, size⟩
  | release _ fh | releaseDir _ fh => putU64 fh ++ List.replicate 16 0
  | access _ mask => putU32 mask ++ putU32 0

/-- The frame of the request, made for the process and with the id that `ctx` holds. -/
def frame (ctx : Context) (op : KernelOp) : Request :=
  .ofFrame ⟨uint32 (inHeaderSize + op.body.length), op.opcode, ctx.unique, op.nodeId, ctx.uid,
    ctx.gid, ctx.pid, 0⟩ op.body

/-- The callback the request asks for. -/
def call (ctx : Context) : KernelOp → Call
  | lookup parent name => .lookup ctx parent name
  | getAttr ino fh => .getAttr ctx ino fh
  | readLink ino => .readLink ctx ino
  | «open» ino flags => .open ctx ino flags
  | read ino fh offset size => .read ctx ino fh offset size
  | release ino fh => .release ctx ino fh
  | openDir ino flags => .openDir ctx ino flags
  | readDir ino fh offset size => .readDir ctx ino fh offset size
  | readDirPlus ino fh offset size => .readDirPlus ctx ino fh offset size
  | releaseDir ino fh => .releaseDir ctx ino fh
  | statFS ino => .statFS ctx ino
  | access ino mask => .access ctx ino mask

/-- What the kernel sends: a name holds no NUL, and an offset is a signed 64-bit position. -/
def WellFormed : KernelOp → Prop
  | lookup _ name => 0 ∉ name
  | read _ _ offset _ | readDir _ _ offset _ | readDirPlus _ _ offset _ =>
    -2 ^ 63 ≤ offset ∧ offset < 2 ^ 63
  | _ => True

instance : DecidablePred WellFormed := fun op => by
  cases op <;> unfold WellFormed <;> infer_instance

/-! ### What the handlers read of a frame -/

variable (ctx : Context) (op : KernelOp)

@[simp] theorem header_frame : (op.frame ctx).header =
    ⟨uint32 (inHeaderSize + op.body.length), op.opcode, ctx.unique, op.nodeId, ctx.uid, ctx.gid,
      ctx.pid, 0⟩ :=
  Request.header_ofFrame _ _

@[simp] theorem newContext_frame : newContext (op.frame ctx) = ctx := by
  simp [newContext]

theorem body_frame {α : Type} (overlay : List UInt8 → α) (h : 0 < op.body.length) :
    (op.frame ctx).body overlay = some (overlay op.body) :=
  Request.body_ofFrame _ _ _ h

@[simp] theorem bodyBytes_frame : (op.frame ctx).bodyBytes = op.body := by
  simp [frame, Request.bodyBytes]

theorem filename_frame (parent : Inode) {name : List UInt8} (h : 0 ∉ name) :
    ((lookup parent name).frame ctx).filename = name := by
  have hpos : ∀ b ∈ name, decide (b ≠ 0) = true := fun b hb => by
    simpa using fun hb0 : b = 0 => h (hb0 ▸ hb)
  rw [Request.filename, bodyBytes_frame, body, List.takeWhile_append_of_pos hpos]
  simp

end KernelOp

/-! ### The records, read back -/

theorem GetAttrIn.decode_putU32 (flags : UInt32) (fh : UInt64) :
    GetAttrIn.decode (putU32 flags ++ putU32 0 ++ putU64 fh) = ⟨flags, fh⟩ := by
  simp [GetAttrIn.decode, getU64_append_of_le]

theorem OpenIn.decode_putU32 (flags : UInt32) (rest : List UInt8) :
    OpenIn.decode (putU32 flags ++ rest) = ⟨flags⟩ := by
  simp [OpenIn.decode]

theorem ReleaseIn.decode_putU64 (fh : UInt64) (rest : List UInt8) :
    ReleaseIn.decode (putU64 fh ++ rest) = ⟨fh⟩ := by
  simp [ReleaseIn.decode]

theorem AccessIn.decode_putU32 (mask : UInt32) (rest : List UInt8) :
    AccessIn.decode (putU32 mask ++ rest) = ⟨mask⟩ := by
  simp [AccessIn.decode]

/-! ### One call and one reply per request -/

/-- A handler's run on `req`: the one call `c`, the state `s`, the callback's error `err` and a
reply satisfying `P`, with no panic on a filesystem that is `NonNil`. -/
structure Serves (fs : Filesystem) (s : Server) (req : Request) (c : Call) (err : Option GoError)
    (P : List UInt8 → Prop) (o : Option Reply) : Prop where
  run : ∀ r ∈ o, r.server = s ∧ calls r.events = [c] ∧ r.err = err ∧ Answers req P r
  isSome : fs.NonNil → o.isSome

section Serves

variable {fs : Filesystem} {s : Server} {req : Request} {c : Call} {P : List UInt8 → Prop}

theorem answer_serves {α : Type} {res : Option α × Option GoError} {payload : α → List UInt8}
    (hP : ∀ a, res.1 = some a → P (payload a)) (hres : fs.NonNil → Answered res) :
    Serves fs s req c res.2 P (answer s req c res payload) := by
  refine ⟨fun r hr => ?_, fun hfs => ?_⟩
  · rcases res with ⟨_ | a, _ | err⟩ <;> cases hr
    · exact ⟨rfl, rfl, rfl, .inr ⟨rfl, rfl⟩⟩
    · exact ⟨rfl, rfl, rfl, .inl ⟨rfl, _, hP a rfl, rfl⟩⟩
    · exact ⟨rfl, rfl, rfl, .inr ⟨rfl, rfl⟩⟩
  · rcases res with ⟨_ | a, _ | err⟩
    · exact absurd (hres hfs) (by simp [Answered])
    all_goals rfl

theorem answerValue_serves {β : Type} {res : β × Option GoError} {payload : β → List UInt8}
    (hP : P (payload res.1)) : Serves fs s req c res.2 P (answerValue s req c res payload) := by
  exact @answer_serves fs s req c P _ (some res.1, res.2) payload
    (fun _ h => Option.some.inj h ▸ hP) fun _ => .inl rfl

theorem answerErr_serves {err : Option GoError} (hP : P []) :
    Serves fs s req c err P (answerErr s req c err) := by
  exact @answer_serves fs s req c P _ (some (), err) _ (fun _ _ => hP) fun _ => .inl rfl

/-- `handleRequest` adds no call to its handler's, and writes the handler's reply or the error
frame of its error. -/
theorem handleRequest_serves {h : Handler} {err : Option GoError}
    (hw : isWriteOp req.header.opcode = false) (hl : handlers.lookup req.header.opcode = some h)
    (hop : req.header.opcode ∉ silentOps) (hh : Serves fs s req c err P (h fs s req)) :
    (∀ p ∈ handleRequest fs s req, p.1 = s ∧ calls p.2 = [c] ∧ ∃ f, frames p.2 = [f] ∧
      (err = none → ∃ q, P q ∧ f = responseBytes req q) ∧
      ∀ e, err = some e → f = errorBytes req (toErrno (some e))) ∧
      (fs.NonNil → ∃ p, handleRequest fs s req = some p) := by
  cases hr : h fs s req with
  | none =>
    rw [handleRequest_of_panic hw hl hr]
    exact ⟨fun _ h => (nomatch h), fun hfs => absurd (hh.isSome hfs) (by rw [hr]; decide)⟩
  | some r =>
    obtain ⟨hs, hc, rfl, hans⟩ := hh.run r (by simp [hr])
    rw [handleRequest_of_handler hw hl hr]
    refine ⟨fun p hp => ?_, fun _ => ⟨_, rfl⟩⟩
    obtain rfl := Option.some.inj hp
    have hsend : req.header.opcode ≠ opForget ∧ req.header.opcode ≠ opBatchForget := by
      simp only [silentOps, List.mem_cons, not_or] at hop; exact ⟨hop.1, hop.2.1⟩
    rcases hans with ⟨herr, q, hq, hf⟩ | ⟨herr, hf⟩
    · refine ⟨hs, by simp [hc, herr], _, by simp [hf, herr], fun _ => ⟨q, hq, rfl⟩, ?_⟩
      intro e he; simp [herr] at he
    · obtain ⟨e, he⟩ := Option.isSome_iff_exists.mp herr
      refine ⟨hs, by simp [hc, he, calls_sendError], errorBytes req (toErrno (some e)),
        by simp [hf, he, frames_sendError, hsend],
        fun h => by simp [he] at h, fun e' he' => ?_⟩
      rw [he] at he'; cases he'; rfl

end Serves

/-! ### The kernel's requests -/

namespace KernelOp

/-- The error the filesystem's callback returns for the request. -/
def error (fs : Filesystem) (ctx : Context) : KernelOp → Option GoError
  | lookup parent name => (fs.lookup ctx parent name).2
  | getAttr ino fh => (fs.getAttr ctx ino fh).2
  | readLink ino => (fs.readLink ctx ino).2
  | «open» ino flags => (fs.open ctx ino flags).2
  | read ino fh offset size => (fs.read ctx ino fh offset size).2
  | release ino fh => fs.release ctx ino fh
  | openDir ino flags => (fs.openDir ctx ino flags).2
  | readDir ino fh offset size => (fs.readDir ctx ino fh offset size).2
  | readDirPlus ino fh offset size => (fs.readDirPlus ctx ino fh offset size).2
  | releaseDir ino fh => fs.releaseDir ctx ino fh
  | statFS ino => (fs.statFS ctx ino).2
  | access ino mask => fs.access ctx ino mask

/-- The size of a successful reply's payload, for the requests whose reply has a fixed size. -/
def payloadSize : KernelOp → Option ℕ
  | lookup .. => some entryOutSize
  | getAttr .. => some attrOutSize
  | «open» .. | openDir .. => some openOutSize
  | release .. | releaseDir .. | access .. => some 0
  | statFS .. => some statfsOutSize
  | readLink .. | read .. | readDir .. | readDirPlus .. => none

/-- The size of the reply the kernel reads, for the requests whose reply has a fixed size; its
`fuse_statfs_out` holds the fields `proto.Kstatfs` declares and `spare[6]`. -/
def replySize : KernelOp → Option ℕ
  | lookup .. => some 128
  | getAttr .. => some 104
  | «open» .. | openDir .. => some 16
  | release .. | releaseDir .. | access .. => some 0
  | statFS .. => some (5 * 8 + 4 * 4 + 6 * 4)
  | readLink .. | read .. | readDir .. | readDirPlus .. => none

/-- What the handler sends when the callback succeeds. -/
def Payload (fs : Filesystem) (ctx : Context) : KernelOp → List UInt8 → Prop
  | readLink ino, q => q = (fs.readLink ctx ino).1
  | read ino fh offset size, q => q = (fs.read ctx ino fh offset size).1
  | readDir ino fh offset size, q => q = serializeDirents (fs.readDir ctx ino fh offset size).1 size
  | readDirPlus ino fh offset size, q =>
    q = serializeDirentsPlus (fs.readDirPlus ctx ino fh offset size).1 size
  | op, q => ∀ n ∈ op.payloadSize, q.length = n

def isStatFS : KernelOp → Bool
  | statFS _ => true
  | _ => false

/-- A successful reply fills a fixed-size reply exactly, except STATFS's, which is shorter. -/
theorem length_of_payload {fs : Filesystem} {ctx : Context} {op : KernelOp} {size : ℕ}
    (h : op.replySize = some size) {q : List UInt8} (hq : op.Payload fs ctx q) :
    q.length ≤ 128 ∧ (q.length = size ↔ op.isStatFS = false) := by
  cases op <;> simp only [replySize, reduceCtorEq, Option.some.injEq] at h <;> subst h <;>
    simp only [Payload, payloadSize, Option.mem_def, Option.some.injEq, forall_eq'] at hq <;>
    simp [hq, isStatFS, entryOutSize, attrOutSize, openOutSize, statfsOutSize]

end KernelOp

section Kernel

variable (fs : Filesystem) (s : Server) (ctx : Context)

open KernelOp

theorem int64_offset {offset : ℤ} (h : -2 ^ 63 ≤ offset ∧ offset < 2 ^ 63) :
    int64 (uint64OfInt offset) = offset :=
  int64_uint64OfInt h.1 h.2

theorem readHandler_frame {β : Type} (call : Context → Inode → FileHandle → ℤ → UInt32 → Call)
    (callback : Filesystem → Context → Inode → FileHandle → ℤ → UInt32 → β × Option GoError)
    (encode : β → UInt32 → List UInt8) (op : KernelOp) {ino : Inode} {fh : FileHandle}
    {offset : ℤ} {size : UInt32} (hbody : op.body = ReadIn.encode ⟨fh, uint64OfInt offset, size⟩)
    (hino : op.nodeId = ino) (hoff : -2 ^ 63 ≤ offset ∧ offset < 2 ^ 63) :
    Serves fs s (op.frame ctx) (call ctx ino fh offset size) (callback fs ctx ino fh offset size).2
      (fun q => q = encode (callback fs ctx ino fh offset size).1 size)
      (readHandler call callback encode fs s (op.frame ctx)) := by
  have hdec : (op.frame ctx).body ReadIn.decode = some ⟨fh, uint64OfInt offset, size⟩ := by
    rw [body_frame _ _ _ (by simp [hbody, readInSize]), hbody]
    simpa using congrArg some (ReadIn.decode_encode ⟨fh, uint64OfInt offset, size⟩ [])
  simp only [readHandler, hdec, Option.bind_eq_bind, Option.some_bind, newContext_frame, header_frame,
    hino, int64_offset hoff]
  exact answerValue_serves rfl

theorem handler_frame_serves (op : KernelOp) (hop : op.WellFormed) :
    ∃ h, handlers.lookup op.opcode = some h ∧
      Serves fs s (op.frame ctx) (op.call ctx) (op.error fs ctx) (op.Payload fs ctx) (h fs s (op.frame ctx)) := by
  cases op with
  | lookup parent name =>
    refine ⟨_, rfl, ?_⟩
    simp only [handleLookup, newContext_frame, header_frame, nodeId, filename_frame ctx parent hop]
    exact answer_serves (fun _ _ n hn => by simp [payloadSize] at hn; simp [hn])
      fun hfs => hfs.lookup _ _ _
  | getAttr ino fh =>
    refine ⟨_, rfl, ?_⟩
    simp only [handleGetattr, body_frame ctx (getAttr ino fh) _ (by simp [body]), body, GetAttrIn.decode_putU32,
      Option.bind_eq_bind, Option.some_bind, newContext_frame, header_frame, nodeId]
    have hfh : (if (if fh.isSome then getattrFh else 0) &&& getattrFh ≠ 0 then some (fh.getD 0)
        else none) = fh := by
      have h₁ : getattrFh &&& getattrFh ≠ 0 := by decide
      have h₀ : ¬(0 : UInt32) &&& getattrFh ≠ 0 := by decide
      cases fh <;> simp [h₀, h₁]
    rw [hfh]
    exact answer_serves (fun _ _ n hn => by simp [payloadSize] at hn; simp [hn])
      fun hfs => hfs.getAttr _ _ _
  | readLink ino =>
    refine ⟨_, rfl, ?_⟩
    simp only [handleReadlink, newContext_frame, header_frame, nodeId]
    exact answerValue_serves rfl
  | «open» ino flags =>
    refine ⟨_, rfl, ?_⟩
    simp only [handleOpen, openHandler, body_frame ctx (.open ino flags) _ (by simp [body]), body, OpenIn.decode_putU32,
      Option.bind_eq_bind, Option.some_bind, newContext_frame, header_frame, nodeId]
    exact answer_serves (fun _ _ n hn => by simp [payloadSize] at hn; simp [hn])
      fun hfs => hfs.open _ _ _
  | read ino fh offset size =>
    exact ⟨_, rfl, readHandler_frame fs s ctx _ _ (fun data _ => data) (read ino fh offset size) rfl rfl hop⟩
  | release ino fh =>
    refine ⟨_, rfl, ?_⟩
    simp only [handleRelease, releaseHandler, body_frame ctx (release ino fh) _ (by simp [body]), body,
      ReleaseIn.decode_putU64, Option.bind_eq_bind, Option.some_bind, newContext_frame, header_frame,
      nodeId]
    exact answerErr_serves fun n hn => by simp [payloadSize] at hn; simp [hn]
  | openDir ino flags =>
    refine ⟨_, rfl, ?_⟩
    simp only [handleOpendir, openHandler, body_frame ctx (openDir ino flags) _ (by simp [body]), body,
      OpenIn.decode_putU32, Option.bind_eq_bind, Option.some_bind, newContext_frame, header_frame,
      nodeId]
    exact answer_serves (fun _ _ n hn => by simp [payloadSize] at hn; simp [hn])
      fun hfs => hfs.openDir _ _ _
  | readDir ino fh offset size =>
    exact ⟨_, rfl, readHandler_frame fs s ctx _ _ serializeDirents (readDir ino fh offset size) rfl rfl hop⟩
  | readDirPlus ino fh offset size =>
    exact ⟨_, rfl,
      readHandler_frame fs s ctx _ _ serializeDirentsPlus (readDirPlus ino fh offset size) rfl rfl hop⟩
  | releaseDir ino fh =>
    refine ⟨_, rfl, ?_⟩
    simp only [handleReleasedir, releaseHandler, body_frame ctx (releaseDir ino fh) _ (by simp [body]), body,
      ReleaseIn.decode_putU64, Option.bind_eq_bind, Option.some_bind, newContext_frame, header_frame,
      nodeId]
    exact answerErr_serves fun n hn => by simp [payloadSize] at hn; simp [hn]
  | statFS ino =>
    refine ⟨_, rfl, ?_⟩
    simp only [handleStatfs, newContext_frame, header_frame, nodeId]
    exact answer_serves (fun _ _ n hn => by simp [payloadSize] at hn; simp [hn])
      fun hfs => hfs.statFS _ _
  | access ino mask =>
    refine ⟨_, rfl, ?_⟩
    simp only [handleAccess, body_frame ctx (access ino mask) _ (by simp [body]), body, AccessIn.decode_putU32,
      Option.bind_eq_bind, Option.some_bind, newContext_frame, header_frame, nodeId]
    exact answerErr_serves fun n hn => by simp [payloadSize] at hn; simp [hn]

/-- Every kernel request a handler serves reaches the filesystem as one call, with the arguments
the kernel encoded, and gets one reply; the server state does not change. -/
theorem handleRequest_kernelOp (op : KernelOp) (hop : op.WellFormed) :
    (∀ p ∈ handleRequest fs s (op.frame ctx), p.1 = s ∧ calls p.2 = [op.call ctx] ∧
      ∃ f, frames p.2 = [f] ∧
        (op.error fs ctx = none → ∃ q, op.Payload fs ctx q ∧ f = responseBytes (op.frame ctx) q) ∧
        ∀ e, op.error fs ctx = some e → f = errorBytes (op.frame ctx) (toErrno (some e))) ∧
      (fs.NonNil → ∃ p, handleRequest fs s (op.frame ctx) = some p) := by
  obtain ⟨h, hl, hh⟩ := handler_frame_serves fs s ctx op hop
  have hw : isWriteOp op.opcode = false := by cases op <;> rfl
  have hsilent : op.opcode ∉ silentOps := by cases op <;> simp only [opcode] <;> decide
  exact handleRequest_serves (by simpa using hw) (by simpa using hl) (by simpa using hsilent) hh

/-- Kernel requests served in order reach the filesystem as one call each, in order, and never
write the server state. -/
theorem serveAll_kernelOps (reqs : List (Context × KernelOp)) (hwf : ∀ q ∈ reqs, q.2.WellFormed) :
    (∀ p ∈ serveAll fs s (reqs.map fun q => q.2.frame q.1),
        p.1 = s ∧ calls p.2 = reqs.map fun q => q.2.call q.1) ∧
      (fs.NonNil → ∃ p, serveAll fs s (reqs.map fun q => q.2.frame q.1) = some p) := by
  induction reqs with
  | nil => exact ⟨fun p hp => by cases hp; exact ⟨rfl, rfl⟩, fun _ => ⟨_, rfl⟩⟩
  | cons q qs ih =>
    obtain ⟨ih₁, ih₂⟩ := ih fun q' hq' => hwf q' (List.mem_cons_of_mem _ hq')
    obtain ⟨h₁, h₂⟩ := handleRequest_kernelOp fs s q.1 q.2 (hwf q (List.mem_cons_self _ _))
    replace h₁ : ∀ p ∈ handleRequest fs s (q.2.frame q.1), p.1 = s ∧ calls p.2 = [q.2.call q.1] :=
      fun p hp => ⟨(h₁ p hp).1, (h₁ p hp).2.1⟩
    refine ⟨fun p hp => ?_, fun hfs => ?_⟩
    · simp only [List.map_cons, serveAll, Option.mem_def, Option.bind_eq_some,
        Option.map_eq_some'] at hp
      obtain ⟨⟨s', es⟩, hh, ⟨s'', es'⟩, hr, rfl⟩ := hp
      obtain ⟨rfl, hc⟩ := h₁ _ hh
      obtain ⟨rfl, hc'⟩ := ih₁ _ hr
      simp [hc, hc']
    · obtain ⟨⟨s', es⟩, hh⟩ := h₂ hfs
      obtain ⟨rfl, -⟩ := h₁ _ hh
      obtain ⟨p, hr⟩ := ih₂ hfs
      exact ⟨(p.1, es ++ p.2), by simp [serveAll, hh, hr]⟩

/-- A `LOOKUP` of `a` and a `READ` at offset 4096, on a blank directory. -/
theorem serveAll_lookup_read :
    (∀ q ∈ [((⟨0, 0, 1, 1⟩ : Context), KernelOp.lookup 1 [97]),
        (⟨0, 0, 1, 2⟩, KernelOp.read 2 5 4096 8192)], q.2.WellFormed) ∧
      ∀ p ∈ serveAll (blankDirectory 0) { opts := {} }
          ([((⟨0, 0, 1, 1⟩ : Context), KernelOp.lookup 1 [97]),
            (⟨0, 0, 1, 2⟩, KernelOp.read 2 5 4096 8192)].map fun q => q.2.frame q.1),
        p.1 = { opts := {} } ∧
          calls p.2 = [.lookup ⟨0, 0, 1, 1⟩ 1 [97], .read ⟨0, 0, 1, 2⟩ 2 5 4096 8192] :=
  ⟨by decide, (serveAll_kernelOps _ _ _ (by decide)).1⟩

/-! ### What the kernel makes of a reply -/

/-- The kernel's reading of a reply `f` to a request whose reply is `size` bytes (at most, when
`argvar`): `none` when it refuses the frame, otherwise the status the request completes with. -/
def kernelReply (size : ℕ) (argvar : Bool) (f : List UInt8) : Option ℤ :=
  let status := int32Wrap (errorField f).toNat
  if f.length < outHeaderSize ∨ (lenField f).toNat ≠ f.length ∨ uniqueField f = 0 ∨
      status ≤ -512 ∨ 0 < status then none
  else if status ≠ 0 then some (if f.length = outHeaderSize then status else -(eio.toNat : ℤ))
  else some (if f.length = outHeaderSize + size ∨ (argvar ∧ f.length ≤ outHeaderSize + size)
    then 0 else -(eio.toNat : ℤ))

section Verdict

variable {req : Request}

theorem kernelReply_responseBytes (size : ℕ) (argvar : Bool) {p : List UInt8}
    (hp : outHeaderSize + p.length < 2 ^ 32) (hu : req.header.unique ≠ 0) :
    kernelReply size argvar (responseBytes req p) =
      some (if p.length = size ∨ (argvar ∧ p.length ≤ size) then 0 else -(eio.toNat : ℤ)) := by
  have hlen := lenField_toNat (responseBytes_framed req p) (by simpa using hp)
  simp only [kernelReply, hlen, errorField_responseBytes, (responseBytes_framed req p).unique, hu,
    length_responseBytes, UInt32.toNat_zero, int32Wrap_of_lt (by norm_num : -2 ^ 31 ≤ (0 : ℤ))
      (by norm_num), Nat.cast_zero]
  simp [outHeaderSize]

theorem kernelReply_errorBytes (size : ℕ) (argvar : Bool) {e : ℤ} (he : -2 ^ 31 ≤ e ∧ e < 2 ^ 31)
    (hu : req.header.unique ≠ 0) :
    kernelReply size argvar (errorBytes req e) =
      if e ≤ -512 ∨ 0 < e then none
      else if e = 0 ∧ size ≠ 0 ∧ argvar = false then some (-(eio.toNat : ℤ)) else some e := by
  simp only [kernelReply, errorBytes_exact, errorField_errorBytes, int32Wrap_uint32OfInt he.1 he.2,
    (errorBytes_framed req e).unique, hu, length_errorBytes, lt_self_iff_false, ne_eq,
    not_true_eq_false, false_or, if_true]
  by_cases hr : e ≤ -512 ∨ 0 < e
  · simp only [hr, or_true, if_true]
  · rw [if_neg hr, if_neg hr]
    by_cases h0 : e = 0
    · subst h0; cases argvar <;> by_cases hs : size = 0 <;> simp [hs, outHeaderSize]
    · simp [h0]

end Verdict

/-- For READ, READDIR and READDIRPLUS the kernel takes an error as it is, and completes a
successful reply with 0 when its payload fits in `size`, with `EIO` otherwise. -/
theorem kernelReply_argvar (op : KernelOp) (hop : op.WellFormed) (hu : ctx.unique ≠ 0) (size : ℕ) :
    ∀ p ∈ handleRequest fs s (op.frame ctx), ∃ f, frames p.2 = [f] ∧
      (∀ e, op.error fs ctx = some e → kernelReply size true f =
        if toErrno (some e) ≤ -512 ∨ 0 < toErrno (some e) then none else some (toErrno (some e))) ∧
      (op.error fs ctx = none → ∃ q, op.Payload fs ctx q ∧ (outHeaderSize + q.length < 2 ^ 32 →
        kernelReply size true f = some (if q.length ≤ size then 0 else -(eio.toNat : ℤ)))) := by
  intro p hp
  obtain ⟨-, -, f, hf, hok, herr⟩ := (handleRequest_kernelOp fs s ctx op hop).1 p hp
  have hu' : (op.frame ctx).header.unique ≠ 0 := by simpa using hu
  refine ⟨f, hf, fun e he => ?_, fun he => ?_⟩
  · rw [herr e he, kernelReply_errorBytes _ _ (toErrno_mem _) hu']
    simp
  · obtain ⟨q, hq, rfl⟩ := hok he
    refine ⟨q, hq, fun hlen => ?_⟩
    rw [kernelReply_responseBytes _ _ hlen hu']
    by_cases hfit : q.length ≤ size
    · simp [hfit]
    · simp [hfit, show q.length ≠ size by omega]

/-- A reply whose successful payload is the directory reply of `entries` within `size`. -/
theorem kernelReply_dirReply {α : Type} {prefixSize : ℕ} {nameLen : α → ℕ}
    {record : α → List UInt8} (hrec : ∀ e, (record e).length = pad8 (prefixSize + nameLen e))
    (hpre : outHeaderSize ≤ prefixSize) (op : KernelOp) (hop : op.WellFormed) (hu : ctx.unique ≠ 0)
    (size : UInt32) (entries : List α)
    (hpay : ∀ q, op.Payload fs ctx q → q = appendFitting prefixSize nameLen record size entries [])
    (hwrap : ∀ e ∈ entries, size.toNat + pad8 (prefixSize + nameLen e) < 2 ^ 32) :
    ∀ p ∈ handleRequest fs s (op.frame ctx), ∃ f, frames p.2 = [f] ∧
      kernelReply size.toNat true f =
        match op.error fs ctx with
        | none => some 0
        | some err =>
          if toErrno (some err) ≤ -512 ∨ 0 < toErrno (some err) then none
          else some (toErrno (some err)) := by
  intro p hp
  obtain ⟨f, hf, herr, hok⟩ := kernelReply_argvar fs s ctx op hop hu _ p hp
  refine ⟨f, hf, ?_⟩
  cases he : op.error fs ctx with
  | none =>
    obtain ⟨q, hq, hk⟩ := hok he
    rw [hpay q hq] at hk
    rw [hk (outHeaderSize_add_length_appendFitting hrec size hpre _ hwrap),
      if_pos (length_appendFitting_le hrec size entries [] (Nat.zero_le _) hwrap)]
  | some err => exact herr err he

end Kernel

end Rofuse
