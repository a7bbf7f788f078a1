import Rofuse.Server

/-! `FORGET` and `BATCH_FORGET`. `handleBatchForget` allocates `make([]ForgetEntry, in.Count)`
and fills it while whole `ForgetOne` records remain in the body, so `BatchForget` gets the
records present followed by zero entries up to the count (`batchForget_entries`).

A filesystem is a Go type embedding `FilesystemBase`; its `Forget` and `BatchForget` are its own
or promoted from the base. What a call to them does to the filesystem is the list of calls of
the type's own `Forget`. The base's `BatchForget` has a `FilesystemBase` value receiver, so its
loop calls the base's no-op `Forget` whatever the type embedding it declares: a BATCH_FORGET
frame reaches no `Forget` of the type, where the same pairs sent as FORGET frames reach it once
each (`batchForget_skips_forget`). -/

namespace Rofuse

open Proto

/-! ### The entries `handleBatchForget` passes -/

/-- The `ForgetOne` record at `offset` of the body, as the loop converts it. -/
def forgetEntryAt (body : List UInt8) (offset : ℕ) : ForgetEntry :=
  ⟨(ForgetOne.decode (body.drop offset)).nodeId, (ForgetOne.decode (body.drop offset)).nlookup⟩

/-- The loop reads the records at `offset`, `offset + 16`, ... while they fit, and leaves the
rest of the `count` entries zero. -/
theorem parseForgets_eq (body : List UInt8) (count offset : ℕ) :
    parseForgets body count offset =
      (List.range' offset (min count ((body.length - offset) / forgetOneSize)) forgetOneSize).map
        (forgetEntryAt body) ++
      List.replicate (count - (body.length - offset) / forgetOneSize) ⟨0, 0⟩ := by
  induction count generalizing offset with
  | zero => simp [parseForgets]
  | succ count ih =>
    unfold forgetOneSize at *
    by_cases h : offset + 16 > body.length
    · have : (body.length - offset) / 16 = 0 := Nat.div_eq_of_lt (by omega)
      simp [parseForgets, forgetOneSize, h, this]
    · have hk : min (count + 1) ((body.length - offset) / 16) =
          min count ((body.length - (offset + 16)) / 16) + 1 := by omega
      have hr : count + 1 - (body.length - offset) / 16 =
          count - (body.length - (offset + 16)) / 16 := by omega
      simp only [parseForgets, forgetOneSize, h, if_false, ih, hk, hr, List.range'_succ,
        List.map_cons, List.cons_append]
      rfl

theorem bodyBytes_getU32 (req : Request) (h : 4 ≤ req.bodyBytes.length) :
    getU32 (req.buf.drop inHeaderSize) 0 = getU32 req.bodyBytes 0 := by
  simp only [Request.length_bodyBytes] at h
  simp only [getU32, Request.bodyBytes, Request.data, List.drop_zero, List.drop_take,
    List.take_take]
  congr 3
  omega

/-- `handleRequest` on a BATCH_FORGET request whose body holds its `BatchForgetIn`: one call of
`BatchForget` with what the loop parsed, no reply, the server unchanged. -/
theorem handleRequest_batchForget {fs : Filesystem} {s : Server} {req : Request}
    (hop : req.header.opcode = opBatchForget) (hlen : batchForgetInSize ≤ req.bodyBytes.length) :
    handleRequest fs s req = some (s, [.call (.batchForget (newContext req)
      (parseForgets req.bodyBytes (getU32 req.bodyBytes 0).toNat batchForgetInSize))]) := by
  have hn : inHeaderSize < req.n := by
    simp only [Request.length_bodyBytes, batchForgetInSize, inHeaderSize] at hlen ⊢; omega
  have hr : handleBatchForget fs s req = some ⟨s, [.call (.batchForget (newContext req)
      (parseForgets req.bodyBytes (getU32 req.bodyBytes 0).toNat batchForgetInSize))], none⟩ := by
    simp only [handleBatchForget, if_neg (Nat.not_lt.mpr hlen), req.body_of_lt _ hn,
      Option.bind_eq_bind, Option.some_bind, BatchForgetIn.decode,
      bodyBytes_getU32 req (le_trans (by decide) hlen)]
  rw [handleRequest_of_handler (by rw [hop]; rfl) (by rw [hop]; rfl) hr]
  rfl

/-- A BATCH_FORGET whose body holds its `BatchForgetIn` calls `BatchForget` once, with the records
the body holds, in order, and a zero entry for each missing one; it gets no reply. -/
theorem batchForget_entries (fs : Filesystem) (s : Server) (req : Request)
    (hop : req.header.opcode = opBatchForget) (hlen : batchForgetInSize ≤ req.bodyBytes.length) :
    handleRequest fs s req = some (s, [.call (.batchForget (newContext req)
      ((List.range' 8 (min (getU32 req.bodyBytes 0).toNat ((req.bodyBytes.length - 8) / 16))
          16).map (forgetEntryAt req.bodyBytes) ++
        List.replicate ((getU32 req.bodyBytes 0).toNat - (req.bodyBytes.length - 8) / 16)
          ⟨0, 0⟩))]) := by
  rw [handleRequest_batchForget hop hlen, parseForgets_eq]
  rfl

/-- A BATCH_FORGET frame whose count is 1 and whose body holds no record. -/
theorem batchForget_count_without_record :
    (Request.ofFrame ⟨48, opBatchForget, 1, 0, 0, 0, 0, 0⟩ (putU32 1 ++ putU32 0)).header.opcode =
      opBatchForget ∧
    batchForgetInSize ≤
      (Request.ofFrame ⟨48, opBatchForget, 1, 0, 0, 0, 0, 0⟩ (putU32 1 ++ putU32 0)).bodyBytes.length ∧
    handleRequest (blankDirectory 0) { opts := {} }
        (Request.ofFrame ⟨48, opBatchForget, 1, 0, 0, 0, 0, 0⟩ (putU32 1 ++ putU32 0)) =
      some ({ opts := {} }, [.call (.batchForget
        (newContext (Request.ofFrame ⟨48, opBatchForget, 1, 0, 0, 0, 0, 0⟩ (putU32 1 ++ putU32 0)))
        [⟨0, 0⟩])]) := by
  have hop : (Request.ofFrame ⟨48, opBatchForget, 1, 0, 0, 0, 0, 0⟩
      (putU32 1 ++ putU32 0)).header.opcode = opBatchForget := by simp
  have hlen : batchForgetInSize ≤ (Request.ofFrame ⟨48, opBatchForget, 1, 0, 0, 0, 0, 0⟩
      (putU32 1 ++ putU32 0)).bodyBytes.length := by simp [batchForgetInSize, inHeaderSize]
  refine ⟨hop, hlen, (batchForget_entries _ _ _ hop hlen).trans ?_⟩
  simp [Request.bodyBytes, inHeaderSize]

/-! ### The kernel's frames -/

/-- The kernel's `fuse_forget_one`. -/
def forgetOneBytes (e : ForgetEntry) : List UInt8 := putU64 e.ino ++ putU64 e.nlookup

/-- The kernel's FORGET of `e.nlookup` lookups of node `e.ino`. -/
def forgetFrame (unique : UInt64) (e : ForgetEntry) : Request :=
  .ofFrame ⟨uint32 (inHeaderSize + forgetInSize), opForget, unique, e.ino, 0, 0, 0, 0⟩
    (putU64 e.nlookup)

/-- The kernel's BATCH_FORGET of `entries`: the count, then one record per entry. -/
def batchForgetFrame (unique : UInt64) (entries : List ForgetEntry) : Request :=
  .ofFrame ⟨uint32 (inHeaderSize + batchForgetInSize + forgetOneSize * entries.length),
    opBatchForget, unique, 0, 0, 0, 0, 0⟩
    (putU32 (uint32 entries.length) ++ putU32 0 ++ entries.flatMap forgetOneBytes)

/-- Records laid out from `pre.length` on are read back, one per count. -/
theorem parseForgets_records (pre : List UInt8) (entries : List ForgetEntry) :
    parseForgets (pre ++ entries.flatMap forgetOneBytes) entries.length pre.length = entries := by
  induction entries generalizing pre with
  | nil => rfl
  | cons e es ih =>
    have hlen : (forgetOneBytes e).length = forgetOneSize := by simp [forgetOneBytes, forgetOneSize]
    have hfit : ¬pre.length + forgetOneSize > (pre ++ (e :: es).flatMap forgetOneBytes).length := by
      simp [hlen]
    have hre : pre ++ (e :: es).flatMap forgetOneBytes = (pre ++ forgetOneBytes e) ++
        es.flatMap forgetOneBytes := by simp
    simp only [List.length_cons, parseForgets, hfit, if_false]
    rw [hre, ← hlen, ← List.length_append, ih]
    simp [forgetOneBytes, ForgetOne.decode, getU64_append_of_le, List.drop_left']

theorem handleRequest_forgetFrame (fs : Filesystem) (s : Server) (unique : UInt64)
    (e : ForgetEntry) : handleRequest fs s (forgetFrame unique e) =
      some (s, [.call (.forget (newContext (forgetFrame unique e)) e.ino e.nlookup)]) := by
  have hr : handleForget fs s (forgetFrame unique e) =
      some ⟨s, [.call (.forget (newContext (forgetFrame unique e)) e.ino e.nlookup)], none⟩ := by
    simp [handleForget, forgetFrame, Request.body_ofFrame, ForgetIn.decode]
  rw [handleRequest_of_handler (by simp [forgetFrame]; rfl) (by simp [forgetFrame]; rfl) hr]
  rfl

theorem handleRequest_batchForgetFrame (fs : Filesystem) (s : Server) (unique : UInt64)
    (entries : List ForgetEntry) (hlen : entries.length < 2 ^ 32) :
    handleRequest fs s (batchForgetFrame unique entries) =
      some (s, [.call (.batchForget (newContext (batchForgetFrame unique entries)) entries)]) := by
  have hbody : (batchForgetFrame unique entries).bodyBytes =
      (putU32 (uint32 entries.length) ++ putU32 0) ++ entries.flatMap forgetOneBytes := by
    simp [batchForgetFrame, Request.bodyBytes, inHeaderSize]
  rw [handleRequest_batchForget (by simp [batchForgetFrame])
      (by rw [hbody, List.length_append]; simp [batchForgetInSize]),
    hbody, List.append_assoc, getU32_putU32, uint32_of_lt hlen, ← List.append_assoc]
  rw [show batchForgetInSize = (putU32 (uint32 entries.length) ++ putU32 0).length by
    simp [batchForgetInSize], parseForgets_records]

/-! ### Which `Forget` a call reaches -/

/-- A Go type embedding `FilesystemBase`: whether it declares its own `Forget`, and its own
`BatchForget` if it declares one, given by the calls of its `Forget` that it makes. -/
structure Embedding where
  forget : Bool
  batchForget : Option (Context → List ForgetEntry → List ForgetEntry)

/-- `FilesystemBase.Forget`, a no-op: it calls no `Forget` of the type. -/
def FilesystemBase.forget (_ : Context) (_ : Inode) (_ : UInt64) : List ForgetEntry := []

/-- `FilesystemBase.BatchForget`: its receiver is a `FilesystemBase` value, so the `fs.Forget`
of its loop is the base's. -/
def FilesystemBase.batchForget (ctx : Context) (entries : List ForgetEntry) : List ForgetEntry :=
  entries.flatMap fun e => FilesystemBase.forget ctx e.ino e.nlookup

namespace Embedding

/-- `Forget` called through the `Filesystem` interface on a value of the type. -/
def forgetCall (t : Embedding) (ctx : Context) (ino : Inode) (nlookup : UInt64) :
    List ForgetEntry :=
  if t.forget then [⟨ino, nlookup⟩] else FilesystemBase.forget ctx ino nlookup

/-- `BatchForget` called through the `Filesystem` interface on a value of the type. -/
def batchForgetCall (t : Embedding) (ctx : Context) (entries : List ForgetEntry) :
    List ForgetEntry :=
  match t.batchForget with
  | some f => f ctx entries
  | none => FilesystemBase.batchForget ctx entries

/-- The calls of the type's own `Forget` that a callback call makes. -/
def dispatch (t : Embedding) : Call → List ForgetEntry
  | .forget ctx ino nlookup => t.forgetCall ctx ino nlookup
  | .batchForget ctx entries => t.batchForgetCall ctx entries
  | _ => []

/-- The calls of the type's own `Forget` that a run of handlers makes. -/
def forgets (t : Embedding) (events : List Event) : List ForgetEntry :=
  (calls events).flatMap t.dispatch

end Embedding

/-- Requests served one after another. -/
def serveAll (fs : Filesystem) : Server → List Request → Option (Server × List Event)
  | s, [] => some (s, [])
  | s, req :: reqs => (handleRequest fs s req).bind fun (s', es) =>
    (serveAll fs s' reqs).map fun (s'', es') => (s'', es ++ es')

/-- FORGET frames served in order reach the type's own `Forget` once per frame, in order. -/
theorem serveAll_forgetFrames (fs : Filesystem) (s : Server) (t : Embedding) (ht : t.forget = true)
    (unique : UInt64) (entries : List ForgetEntry) :
    ∃ events, serveAll fs s (entries.map (forgetFrame unique)) = some (s, events) ∧
      t.forgets events = entries := by
  induction entries with
  | nil => exact ⟨[], rfl, rfl⟩
  | cons e es ih =>
    obtain ⟨events, hs, hf⟩ := ih
    refine ⟨[.call (.forget (newContext (forgetFrame unique e)) e.ino e.nlookup)] ++ events,
      by simp [serveAll, handleRequest_forgetFrame, hs], ?_⟩
    simp [Embedding.forgets, Embedding.dispatch, Embedding.forgetCall, ht] at hf ⊢
    exact hf

/-- For a type declaring `Forget` but not `BatchForget`, a BATCH_FORGET frame never reaches its
`Forget`, while FORGET frames of the same pairs reach it once each, in order. -/
theorem batchForget_skips_forget (fs : Filesystem) (s : Server) (t : Embedding)
    (ht : t.forget = true) (hb : t.batchForget = none) (unique : UInt64)
    (entries : List ForgetEntry) (hlen : entries.length < 2 ^ 32) :
    (∃ events, handleRequest fs s (batchForgetFrame unique entries) = some (s, events) ∧
      t.forgets events = []) ∧
    (∃ events, serveAll fs s (entries.map (forgetFrame unique)) = some (s, events) ∧
      t.forgets events = entries) := by
  refine ⟨⟨_, handleRequest_batchForgetFrame fs s unique entries hlen, ?_⟩,
    serveAll_forgetFrames fs s t ht unique entries⟩
  simp [Embedding.forgets, Embedding.dispatch, Embedding.batchForgetCall, hb,
    FilesystemBase.batchForget, FilesystemBase.forget]

/-- A type with its own `Forget`: the BATCH_FORGET of one pair does not reach it, the FORGET of
the pair does. -/
theorem batchForget_skips_forget_one_pair :
    (⟨true, none⟩ : Embedding).forget = true ∧ (⟨true, none⟩ : Embedding).batchForget = none ∧
    [(⟨5, 1⟩ : ForgetEntry)].length < 2 ^ 32 ∧
    (∃ events, handleRequest (blankDirectory 0) { opts := {} } (batchForgetFrame 9 [⟨5, 1⟩]) =
      some ({ opts := {} }, events) ∧ (⟨true, none⟩ : Embedding).forgets events = []) ∧
    (∃ events, serveAll (blankDirectory 0) { opts := {} } ([⟨5, 1⟩].map (forgetFrame 9)) =
      some ({ opts := {} }, events) ∧ (⟨true, none⟩ : Embedding).forgets events = [⟨5, 1⟩]) :=
  ⟨rfl, rfl, by decide, batchForget_skips_forget _ _ ⟨true, none⟩ rfl rfl 9 [⟨5, 1⟩] (by decide)⟩

end Rofuse
