import Rofuse.Connection
import Rofuse.Dirent
import Rofuse.Filesystem

/-! The request handlers and their table (`handlers.go`). A handler reads the server state and
the request, calls the filesystem, may write one frame, and returns an error that
`handleRequest` turns into an error frame; `none` is a panic, a nil pointer dereferenced. The
handlers of one shape are one definition with parameters: `openHandler` (`OPEN`, `OPENDIR`),
`readHandler` (`READ`, `READDIR`, `READDIRPLUS`) and `releaseHandler` (`RELEASE`,
`RELEASEDIR`); most end in `answer`, which returns the callback's error or sends the encoding of
its result. Proved: every handler but the three that never reply `Answers` its request, under
the assumptions on the filesystem and a body holding the record the handler reads. -/

namespace Rofuse

open Proto

/-- The server state the handlers read and write: the options, the version stored on the
connection, the negotiated `Config` and the lifecycle flags. -/
structure Server where
  opts : MountOptions
  protoMajor : UInt32 := 0
  protoMinor : UInt32 := 0
  config : Option Config := none
  initialized : Bool := false
  destroyed : Bool := false
  deriving DecidableEq, Repr

/-- A handler's run: the server state it leaves, its events and the error it returns. -/
structure Reply where
  server : Server
  events : List Event
  err : Option GoError

abbrev Handler := Filesystem → Server → Request → Option Reply

/-- `s.newContext(req)`. -/
def newContext (req : Request) : Context :=
  ⟨req.header.uid, req.header.gid, req.header.pid, req.header.unique⟩

/-! ### Shared tails -/

/-- A callback's error is returned as it is; otherwise its result is dereferenced, which panics
on nil, and the encoding of it is sent. -/
def answer {α : Type} (s : Server) (req : Request) (c : Call) (res : Option α × Option GoError)
    (payload : α → List UInt8) : Option Reply :=
  match res with
  | (_, some err) => some ⟨s, [.call c], some err⟩
  | (none, none) => none
  | (some a, none) => some ⟨s, [.call c, .write (responseBytes req (payload a))], none⟩

/-- `answer` for a callback that returns a slice or a string, which is never nil. -/
def answerValue {β : Type} (s : Server) (req : Request) (c : Call) (res : β × Option GoError)
    (payload : β → List UInt8) : Option Reply :=
  answer s req c (some res.1, res.2) payload

/-- `answer` for a callback that returns only an error; success sends an empty payload. -/
def answerErr (s : Server) (req : Request) (c : Call) (err : Option GoError) : Option Reply :=
  answer s req c (some (), err) fun _ => []

/-! ### The handlers -/

/-- The capabilities `handleInit` offers, each converted to `uint32`. -/
def initFlags : UInt32 :=
  capAsyncRead.toUInt32 ||| capParallelDirops.toUInt32 ||| capAutoInvalData.toUInt32 |||
    capReaddirplus.toUInt32 ||| capReaddirplusAuto.toUInt32 ||| capCacheSymlinks.toUInt32 |||
    capExportSupport.toUInt32 ||| capMaxPages.toUInt32

/-- `handleInit`. The version and config are stored before `Init` runs, and the reply reads
the config again after it. -/
def handleInit : Handler := fun fs s req => do
  let inp ← req.body InitIn.decode
  if inp.major ≠ fuseKernelVersion then
    some ⟨s, [.write (responseBytes req (initOutBytes
      { major := fuseKernelVersion, minor := fuseKernelMinorVersion }))], none⟩
  else if inp.minor < minSupportedMinor then some ⟨s, [], some (.errno eproto)⟩
  else
    let minor := if inp.minor > fuseKernelMinorVersion then fuseKernelMinorVersion else inp.minor
    let config : Config :=
      { protoMajor := inp.major, protoMinor := minor
        maxReadahead := min inp.maxReadahead s.opts.maxReadahead
        maxWrite := s.opts.maxWrite, maxPages := defaultMaxPages }
    let ctx := newContext req
    let (config', err) := fs.init ctx config
    let s := { s with protoMajor := inp.major, protoMinor := minor, config := some config' }
    match err with
    | some err => some ⟨s, [.call (.init ctx config)], some err⟩
    | none =>
      let out : InitOut :=
        { major := fuseKernelVersion, minor, maxReadahead := config'.maxReadahead
          flags := initFlags &&& inp.flags, maxBackground := s.opts.maxBackground
          congestionThreshold := s.opts.maxBackground * 3 / 4, maxWrite := s.opts.maxWrite
          timeGran := defaultTimeGran, maxPages := defaultMaxPages }
      some ⟨{ s with initialized := true },
        [.call (.init ctx config), .write (responseBytes req (initOutBytes out))], none⟩

def handleDestroy : Handler := fun _ s req =>
  some ⟨{ s with destroyed := true },
    [.call (.destroy (newContext req)), .write (responseBytes req [])], none⟩

def handleLookup : Handler := fun fs s req =>
  let name := req.filename
  let ctx := newContext req
  answer s req (.lookup ctx req.header.nodeId name) (fs.lookup ctx req.header.nodeId name)
    fun entry => entryOutBytes (entryToProto entry)

def handleForget : Handler := fun _ s req => do
  let inp ← req.body ForgetIn.decode
  some ⟨s, [.call (.forget (newContext req) req.header.nodeId inp.nlookup)], none⟩

/-- The loop of `handleBatchForget`: entries are read while a whole `ForgetOne` fits in the body,
and the rest keep the zero value. -/
def parseForgets (body : List UInt8) : ℕ → ℕ → List ForgetEntry
  | 0, _ => []
  | count + 1, offset =>
    if offset + forgetOneSize > body.length then List.replicate (count + 1) ⟨0, 0⟩
    else
      let one := ForgetOne.decode (body.drop offset)
      ⟨one.nodeId, one.nlookup⟩ :: parseForgets body count (offset + forgetOneSize)

/-- `handleBatchForget`, the one handler that checks the length of the body. -/
def handleBatchForget : Handler := fun _ s req =>
  let body := req.bodyBytes
  if body.length < batchForgetInSize then some ⟨s, [], some (.errno einval)⟩
  else do
    let inp ← req.body BatchForgetIn.decode
    let entries := parseForgets body inp.count.toNat batchForgetInSize
    some ⟨s, [.call (.batchForget (newContext req) entries)], none⟩

def handleGetattr : Handler := fun fs s req => do
  let inp ← req.body GetAttrIn.decode
  let fh := if inp.flags &&& getattrFh ≠ 0 then some inp.fh else none
  let ctx := newContext req
  answer s req (.getAttr ctx req.header.nodeId fh) (fs.getAttr ctx req.header.nodeId fh)
    fun attr => attrOutBytes { attrValid := 1, attrValidNsec := 0, attr := attrToProto attr }

def handleReadlink : Handler := fun fs s req =>
  let ctx := newContext req
  answerValue s req (.readLink ctx req.header.nodeId) (fs.readLink ctx req.header.nodeId) id

/-- `handleOpen` and `handleOpendir`. -/
def openHandler (call : Context → Inode → UInt32 → Call)
    (callback : Filesystem → Context → Inode → UInt32 → Option OpenResponse × Option GoError) :
    Handler := fun fs s req => do
  let inp ← req.body OpenIn.decode
  let ctx := newContext req
  answer s req (call ctx req.header.nodeId inp.flags) (callback fs ctx req.header.nodeId inp.flags)
    fun resp => openOutBytes { fh := resp.handle, openFlags := resp.flags }

def handleOpen : Handler := openHandler .open Filesystem.open

def handleOpendir : Handler := openHandler .openDir Filesystem.openDir

/-- `handleRead`, `handleReaddir` and `handleReaddirplus`: the offset is handed over as
`int64(in.Offset)`, and `encode` makes the payload of the result and the size. -/
def readHandler {β : Type} (call : Context → Inode → FileHandle → ℤ → UInt32 → Call)
    (callback : Filesystem → Context → Inode → FileHandle → ℤ → UInt32 → β × Option GoError)
    (encode : β → UInt32 → List UInt8) : Handler := fun fs s req => do
  let inp ← req.body ReadIn.decode
  let ctx := newContext req
  let offset := int64 inp.offset
  answerValue s req (call ctx req.header.nodeId inp.fh offset inp.size)
    (callback fs ctx req.header.nodeId inp.fh offset inp.size) fun r => encode r inp.size

def handleRead : Handler := readHandler .read Filesystem.read fun data _ => data

def handleReaddir : Handler := readHandler .readDir Filesystem.readDir serializeDirents

def handleReaddirplus : Handler :=
  readHandler .readDirPlus Filesystem.readDirPlus serializeDirentsPlus

/-- `handleRelease` and `handleReleasedir`. -/
def releaseHandler (call : Context → Inode → FileHandle → Call)
    (callback : Filesystem → Context → Inode → FileHandle → Option GoError) : Handler :=
  fun fs s req => do
    let inp ← req.body ReleaseIn.decode
    let ctx := newContext req
    answerErr s req (call ctx req.header.nodeId inp.fh) (callback fs ctx req.header.nodeId inp.fh)

def handleRelease : Handler := releaseHandler .release Filesystem.release

def handleReleasedir : Handler := releaseHandler .releaseDir Filesystem.releaseDir

def handleStatfs : Handler := fun fs s req =>
  let ctx := newContext req
  answer s req (.statFS ctx req.header.nodeId) (fs.statFS ctx req.header.nodeId) fun st =>
    statfsOutBytes ⟨st.blocks, st.bfree, st.bavail, st.files, st.ffree, st.bsize, st.namelen,
      st.frsize⟩

def handleAccess : Handler := fun fs s req => do
  let inp ← req.body AccessIn.decode
  let ctx := newContext req
  answerErr s req (.access ctx req.header.nodeId inp.mask) (fs.access ctx req.header.nodeId inp.mask)

def handleFlush : Handler := fun _ s req => some ⟨s, [.write (responseBytes req [])], none⟩

def handleInterrupt : Handler := fun _ s _ => some ⟨s, [], none⟩

/-- The `handlers` map. -/
def handlers : List (UInt32 × Handler) :=
  [(opInit, handleInit), (opDestroy, handleDestroy), (opLookup, handleLookup),
    (opForget, handleForget), (opBatchForget, handleBatchForget), (opGetattr, handleGetattr),
    (opReadlink, handleReadlink), (opOpen, handleOpen), (opRead, handleRead),
    (opRelease, handleRelease), (opOpendir, handleOpendir), (opReaddir, handleReaddir),
    (opReaddirplus, handleReaddirplus), (opReleasedir, handleReleasedir),
    (opStatfs, handleStatfs), (opAccess, handleAccess), (opFlush, handleFlush),
    (opInterrupt, handleInterrupt)]

/-! ### What a handler leaves for `handleRequest` -/

/-- A handler run that answers: one reply, whose payload satisfies `P`, and no error; or an
error and no frame. -/
def Answers (req : Request) (P : List UInt8 → Prop) (r : Reply) : Prop :=
  (r.err = none ∧ ∃ p, P p ∧ frames r.events = [responseBytes req p]) ∨
    (r.err.isSome ∧ frames r.events = [])

/-- A payload shorter than `2 ^ 31` bytes. -/
def Short (p : List UInt8) : Prop := p.length < 2 ^ 31

section Tails

variable {s : Server} {req : Request} {c : Call} {P : List UInt8 → Prop}

theorem answer_answers {α : Type} {res : Option α × Option GoError} {payload : α → List UInt8}
    (hres : Answered res) (hP : ∀ a, res.1 = some a → P (payload a)) :
    ∃ r, answer s req c res payload = some r ∧ Answers req P r := by
  rcases res with ⟨_ | a, _ | err⟩
  · simp [Answered] at hres
  · exact ⟨_, rfl, .inr ⟨rfl, rfl⟩⟩
  · exact ⟨_, rfl, .inl ⟨rfl, _, hP a rfl, rfl⟩⟩
  · exact ⟨_, rfl, .inr ⟨rfl, rfl⟩⟩

theorem answerValue_answers {β : Type} {res : β × Option GoError} {payload : β → List UInt8}
    (hP : P (payload res.1)) : ∃ r, answerValue s req c res payload = some r ∧ Answers req P r :=
  answer_answers (.inl rfl) fun _ h => Option.some.inj h ▸ hP

theorem answerErr_answers {err : Option GoError} (hP : P []) :
    ∃ r, answerErr s req c err = some r ∧ Answers req P r :=
  answer_answers (.inl rfl) fun _ _ => hP

end Tails

section Contract

variable {fs : Filesystem} {s : Server} {req : Request}

theorem handleInit_answers (hn : inHeaderSize < req.n) :
    ∃ r, handleInit fs s req = some r ∧ Answers req Short r := by
  have hout : ∀ out, Short (initOutBytes out) := fun _ => by simp [Short, initOutSize]
  simp only [handleInit, req.body_of_lt _ hn, Option.bind_eq_bind, Option.some_bind]
  split_ifs
  · exact ⟨_, rfl, .inl ⟨rfl, _, hout _, rfl⟩⟩
  · exact ⟨_, rfl, .inr ⟨rfl, rfl⟩⟩
  all_goals split
  all_goals first
    | exact ⟨_, rfl, .inr ⟨rfl, rfl⟩⟩
    | exact ⟨_, rfl, .inl ⟨rfl, _, hout _, rfl⟩⟩

theorem handleDestroy_answers : ∃ r, handleDestroy fs s req = some r ∧ Answers req Short r :=
  ⟨_, rfl, .inl ⟨rfl, [], by simp [Short], rfl⟩⟩

theorem handleLookup_answers (hfs : fs.NonNil) :
    ∃ r, handleLookup fs s req = some r ∧ Answers req Short r :=
  answer_answers (hfs.lookup _ _ _) fun _ _ => by simp [Short, entryOutSize]

theorem handleGetattr_answers (hfs : fs.NonNil) (hn : inHeaderSize < req.n) :
    ∃ r, handleGetattr fs s req = some r ∧ Answers req Short r := by
  simp only [handleGetattr, req.body_of_lt _ hn, Option.bind_eq_bind, Option.some_bind]
  exact answer_answers (hfs.getAttr _ _ _) fun _ _ => by simp [Short, attrOutSize]

theorem handleReadlink_answers (hsmall : fs.Small) :
    ∃ r, handleReadlink fs s req = some r ∧ Answers req Short r :=
  answerValue_answers (hsmall.readLink _ _)

theorem openHandler_answers {call : Context → Inode → UInt32 → Call}
    {callback : Filesystem → Context → Inode → UInt32 → Option OpenResponse × Option GoError}
    (hcb : ∀ ctx ino flags, Answered (callback fs ctx ino flags)) (hn : inHeaderSize < req.n) :
    ∃ r, openHandler call callback fs s req = some r ∧ Answers req Short r := by
  simp only [openHandler, req.body_of_lt _ hn, Option.bind_eq_bind, Option.some_bind]
  exact answer_answers (hcb _ _ _) fun _ _ => by simp [Short, openOutSize]

theorem readHandler_answers {β : Type} {call : Context → Inode → FileHandle → ℤ → UInt32 → Call}
    {callback : Filesystem → Context → Inode → FileHandle → ℤ → UInt32 → β × Option GoError}
    {encode : β → UInt32 → List UInt8} {P : List UInt8 → Prop}
    (henc : ∀ inp, req.body ReadIn.decode = some inp → P (encode (callback fs (newContext req)
      req.header.nodeId inp.fh (int64 inp.offset) inp.size).1 inp.size))
    (hn : inHeaderSize < req.n) :
    ∃ r, readHandler call callback encode fs s req = some r ∧ Answers req P r := by
  simp only [readHandler, req.body_of_lt _ hn, Option.bind_eq_bind, Option.some_bind]
  exact answerValue_answers (henc _ (req.body_of_lt _ hn))

theorem releaseHandler_answers {call : Context → Inode → FileHandle → Call}
    {callback : Filesystem → Context → Inode → FileHandle → Option GoError}
    (hn : inHeaderSize < req.n) :
    ∃ r, releaseHandler call callback fs s req = some r ∧ Answers req Short r := by
  simp only [releaseHandler, req.body_of_lt _ hn, Option.bind_eq_bind, Option.some_bind]
  exact answerErr_answers (by simp [Short])

theorem handleStatfs_answers (hfs : fs.NonNil) :
    ∃ r, handleStatfs fs s req = some r ∧ Answers req Short r :=
  answer_answers (hfs.statFS _ _) fun _ _ => by simp [Short, statfsOutSize]

theorem handleAccess_answers (hn : inHeaderSize < req.n) :
    ∃ r, handleAccess fs s req = some r ∧ Answers req Short r := by
  simp only [handleAccess, req.body_of_lt _ hn, Option.bind_eq_bind, Option.some_bind]
  exact answerErr_answers (by simp [Short])

theorem handleFlush_answers : ∃ r, handleFlush fs s req = some r ∧ Answers req Short r :=
  ⟨_, rfl, .inl ⟨rfl, [], by simp [Short], rfl⟩⟩

theorem handleForget_silent (hn : inHeaderSize < req.n) :
    ∃ r, handleForget fs s req = some r ∧ frames r.events = [] ∧ r.err = none := by
  simp only [handleForget, req.body_of_lt _ hn, Option.bind_eq_bind, Option.some_bind]
  exact ⟨_, rfl, rfl, rfl⟩

/-- `BATCH_FORGET` never panics and never writes: a body too short for its record is refused
before the record is read. -/
theorem handleBatchForget_silent : ∃ r, handleBatchForget fs s req = some r ∧ frames r.events = [] := by
  by_cases h : req.bodyBytes.length < batchForgetInSize
  · exact ⟨_, if_pos h, rfl⟩
  · have hn : inHeaderSize < req.n := by
      simp only [Request.length_bodyBytes, batchForgetInSize] at h; unfold inHeaderSize at *; omega
    simp only [handleBatchForget, if_neg h, req.body_of_lt _ hn, Option.bind_eq_bind, Option.some_bind]
    exact ⟨_, rfl, rfl⟩

end Contract

end Rofuse
