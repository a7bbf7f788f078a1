import Mathlib

/-! The descriptor hand-off between `Coordinator.AcceptWorker` and `ConnectToCoordinator`, from
the decoded registration on. The coordinator's side is the list of actions `acceptWorker` takes;
the worker's is the gob decoder reading through a `bufio.Reader`, then `ReceiveFD`. The socket
is the queue of segments sent and not yet read, each with its length and descriptors; only byte
counts are modelled. A read takes what `unix_stream_read_generic` takes (`streamRead`), and
`bufio` refills with a plain read of 4096 bytes that discards the descriptors it detaches. The
worker returns only the clone, and none when `AcceptWorker` fails (`returns_cloned`); it gets
the clone when it decodes the response before `SendFD` (`handoff_prompt`), and loses it when
the rights segment is queued at the fill (`handoff_loses_descriptor`). -/

namespace Rofuse.Sharing

/-- One `sendmsg` on the stream socket as the receiver's queue holds it. -/
structure Segment where
  len : ℕ
  rights : List ℤ
  deriving DecidableEq, Repr

/-- A read of at most `size` bytes as `unix_stream_read_generic` does it: the bytes read, the
descriptors detached and the queue left; it stops after a segment carrying descriptors. -/
def streamRead (size : ℕ) : List Segment → ℕ × List ℤ × List Segment
  | [] => (0, [], [])
  | s :: q =>
    if size = 0 then (0, [], s :: q)
    else if size < s.len then (size, s.rights, ⟨s.len - size, []⟩ :: q)
    else if s.rights = [] then
      let r := streamRead (size - s.len) q
      (s.len + r.1, r.2.1, r.2.2)
    else (s.len, s.rights, q)

/-- What `AcceptWorker` does on the connection. -/
inductive Action
  /-- One write of the gob encoder. -/
  | write (len : ℕ)
  /-- `SendFD`: one byte with the descriptor as `SCM_RIGHTS`. -/
  | sendFD (fd : ℤ)
  | closeConn
  | closeClone (fd : ℤ)
  /-- `AcceptWorker` returns a worker with this clone, or an error. -/
  | returns (fd : Option ℤ)
  deriving DecidableEq, Repr

/-- The step at which `AcceptWorker` fails after the registration decoded. -/
inductive Failure
  | clone
  | encode
  | send
  deriving DecidableEq, Repr

/-- `AcceptWorker` after the registration, for clone `fd` and the encoder's writes of the error
and the success response; a failed `Encode` writes nothing. -/
def acceptWorker (fd : ℤ) (errWrites okWrites : List ℕ) : Option Failure → List Action
  | some .clone => errWrites.map .write ++ [.closeConn, .returns none]
  | some .encode => [.closeClone fd, .closeConn, .returns none]
  | some .send => okWrites.map .write ++ [.closeClone fd, .closeConn, .returns none]
  | none => okWrites.map .write ++ [.sendFD fd, .returns (some fd)]

/-- Where `ConnectToCoordinator` is: decoding with `need` bytes to go and `buffered` in its
reader, in `ReceiveFD`, or returned (`none` is an error). -/
inductive WorkerPc
  | decode (need buffered : ℕ)
  | receive
  | returned (fd : Option ℤ)
  deriving DecidableEq, Repr

inductive Party
  | coordinator
  | worker
  deriving DecidableEq, Repr

structure Handoff where
  /-- What `AcceptWorker` has still to do. -/
  plan : List Action
  /-- The segments sent to the worker and not yet read. -/
  queue : List Segment
  peerClosed : Bool
  /-- `Success` of the response the coordinator encodes. -/
  success : Bool
  worker : WorkerPc
  /-- What `AcceptWorker` returned, once it has. -/
  accepted : Option (Option ℤ)
  /-- Descriptors the kernel closed because a plain read detached them. -/
  lost : List ℤ
  deriving DecidableEq, Repr

/-- Both sides right after the registration: the decoder needs the bytes of the response the
coordinator will encode. -/
def start (fd : ℤ) (errWrites okWrites : List ℕ) (failure : Option Failure) : Handoff where
  plan := acceptWorker fd errWrites okWrites failure
  queue := []
  peerClosed := false
  success := failure != some .clone
  worker := .decode (if failure = some .clone then errWrites.sum else okWrites.sum) 0
  accepted := none
  lost := []

namespace Handoff

/-- The coordinator takes its next action. -/
def stepCoordinator (st : Handoff) : Handoff :=
  match st.plan with
  | [] => st
  | a :: plan =>
    let st := { st with plan := plan }
    match a with
    | .write len => { st with queue := st.queue ++ [⟨len, []⟩] }
    | .sendFD fd => { st with queue := st.queue ++ [⟨1, [fd]⟩] }
    | .closeConn => { st with peerClosed := true }
    | .closeClone _ => st
    | .returns r => { st with accepted := some r }

/-- The worker's step: the decoder consumes buffered bytes, `bufio` refills with one read, or
`ReceiveFD` reads; an empty queue blocks, or fails once the coordinator has closed. -/
def stepWorker (st : Handoff) : Handoff :=
  match st.worker with
  | .decode need buffered =>
    if need = 0 then { st with worker := if st.success then .receive else .returned none }
    else if 0 < buffered then
      { st with worker := .decode (need - min need buffered) (buffered - min need buffered) }
    else if st.queue = [] then
      if st.peerClosed then { st with worker := .returned none } else st
    else
      let r := streamRead 4096 st.queue
      { st with queue := r.2.2, lost := st.lost ++ r.2.1, worker := .decode need r.1 }
  | .receive =>
    if st.queue = [] then
      if st.peerClosed then { st with worker := .returned none } else st
    else
      let r := streamRead 1 st.queue
      { st with queue := r.2.2, worker := .returned r.2.1.head? }
  | .returned _ => st

def step (st : Handoff) : Party → Handoff
  | .coordinator => st.stepCoordinator
  | .worker => st.stepWorker

def run (st : Handoff) (sched : List Party) : Handoff := sched.foldl step st

@[simp] theorem run_nil (st : Handoff) : st.run [] = st := rfl

@[simp] theorem run_cons (st : Handoff) (p : Party) (sched : List Party) :
    st.run (p :: sched) = (st.step p).run sched := rfl

theorem run_append (st : Handoff) (s₁ s₂ : List Party) :
    st.run (s₁ ++ s₂) = (st.run s₁).run s₂ :=
  List.foldl_append _ _ _ _

/-! ### Which descriptors can reach the worker -/

/-- Every descriptor the connection carries or will carry is in `fds`, and so is any the worker
returned. -/
structure RightsWithin (fds : List ℤ) (st : Handoff) : Prop where
  queue : ∀ s ∈ st.queue, ∀ fd ∈ s.rights, fd ∈ fds
  plan : ∀ fd, .sendFD fd ∈ st.plan → fd ∈ fds
  returned : ∀ fd, st.worker = .returned (some fd) → fd ∈ fds

theorem streamRead_rights (size : ℕ) (q : List Segment) (fds : List ℤ)
    (hq : ∀ s ∈ q, ∀ fd ∈ s.rights, fd ∈ fds) :
    (∀ fd ∈ (streamRead size q).2.1, fd ∈ fds) ∧
      ∀ s ∈ (streamRead size q).2.2, ∀ fd ∈ s.rights, fd ∈ fds := by
  induction q generalizing size with
  | nil => simp [streamRead]
  | cons s q ih =>
    have hs := hq s (by simp)
    have hq' := fun s' h => hq s' (List.mem_cons_of_mem s h)
    unfold streamRead
    split_ifs
    · exact ⟨by simp, hq⟩
    · exact ⟨hs, by simpa using hq'⟩
    · exact ih _ hq'
    · exact ⟨hs, hq'⟩

theorem stepCoordinator_rightsWithin (fds : List ℤ) (st : Handoff) (h : RightsWithin fds st) :
    RightsWithin fds st.stepCoordinator := by
  obtain ⟨hq, hp, hr⟩ := h
  unfold stepCoordinator
  split
  · exact ⟨hq, hp, hr⟩
  · rename_i a plan hplan
    have hp' : ∀ fd, .sendFD fd ∈ plan → fd ∈ fds := fun fd h => hp fd (by simp [hplan, h])
    /- A new segment carries the descriptor of a `sendFD` of the plan, or none. -/
    have hnew : ∀ seg : Segment, (∀ fd ∈ seg.rights, .sendFD fd ∈ st.plan) →
        ∀ s ∈ st.queue ++ [seg], ∀ fd ∈ s.rights, fd ∈ fds := by
      intro seg hseg s hs fd hfd
      rcases List.mem_append.mp hs with hs | hs
      · exact hq s hs fd hfd
      · exact hp fd (hseg fd (List.mem_singleton.mp hs ▸ hfd))
    cases a with
    | write len => exact ⟨hnew _ (by simp), hp', hr⟩
    | sendFD fd => exact ⟨hnew _ (by simp [hplan]), hp', hr⟩
    | closeConn => exact ⟨hq, hp', hr⟩
    | closeClone _ => exact ⟨hq, hp', hr⟩
    | returns _ => exact ⟨hq, hp', hr⟩

theorem stepWorker_rightsWithin (fds : List ℤ) (st : Handoff) (h : RightsWithin fds st) :
    RightsWithin fds st.stepWorker := by
  obtain ⟨hq, hp, hr⟩ := h
  have hread := fun size => streamRead_rights size st.queue fds hq
  unfold stepWorker
  split
  · split_ifs <;> first
      | exact ⟨hq, hp, hr⟩
      | exact ⟨hq, hp, by simp⟩
      | exact ⟨(hread 4096).2, hp, by simp⟩
  · split_ifs
    · exact ⟨hq, hp, by simp⟩
    · exact ⟨hq, hp, hr⟩
    · refine ⟨(hread 1).2, hp, fun fd hfd => (hread 1).1 fd (List.mem_of_mem_head? ?_)⟩
      simpa using hfd
  · exact ⟨hq, hp, hr⟩

theorem run_rightsWithin (fds : List ℤ) (st : Handoff) (sched : List Party)
    (h : RightsWithin fds st) : RightsWithin fds (st.run sched) := by
  induction sched generalizing st with
  | nil => exact h
  | cons p sched ih =>
    cases p
    · exact ih _ (stepCoordinator_rightsWithin fds st h)
    · exact ih _ (stepWorker_rightsWithin fds st h)

end Handoff

open Handoff

/-- The response's segments, as the encoder writes them. -/
def writes (lens : List ℕ) : List Segment := lens.map fun len => ⟨len, []⟩

@[simp] theorem writes_nil : writes [] = [] := rfl

@[simp] theorem writes_cons (len : ℕ) (lens : List ℕ) :
    writes (len :: lens) = ⟨len, []⟩ :: writes lens := rfl

/-- A read larger than the response takes all of it, and goes on into what follows. -/
theorem streamRead_writes (size : ℕ) (lens : List ℕ) (rest : List Segment)
    (hpos : ∀ l ∈ lens, 0 < l) (h : lens.sum < size) :
    streamRead size (writes lens ++ rest) =
      (lens.sum + (streamRead (size - lens.sum) rest).1, (streamRead (size - lens.sum) rest).2) := by
  induction lens generalizing size with
  | nil => simp
  | cons len lens ih =>
    have hlen := hpos len (by simp)
    simp only [List.sum_cons] at h
    have h0 : ¬size = 0 := by omega
    have hfit : ¬size < len := by omega
    rw [writes_cons, List.cons_append, streamRead]
    simp only [h0, hfit, ↓reduceIte]
    rw [ih (size - len) (fun l hl => hpos l (by simp [hl])) (by omega)]
    simp only [List.sum_cons, Nat.sub_sub, Nat.add_assoc]

/-- The coordinator's encoder writes reach the queue. -/
theorem run_writes (st : Handoff) (lens : List ℕ) (plan : List Action)
    (hplan : st.plan = lens.map .write ++ plan) :
    st.run (List.replicate lens.length .coordinator) =
      { st with plan := plan, queue := st.queue ++ writes lens } := by
  induction lens generalizing st with
  | nil => cases st; simp_all
  | cons len lens ih =>
    rw [List.length_cons, List.replicate_succ, run_cons]
    rw [ih _ (by simp [step, stepCoordinator, hplan])]
    simp [step, stepCoordinator, hplan]

/-- A worker blocked in `ReceiveFD` on an empty queue, with a coordinator that has nothing left
to do and keeps the connection open, stays blocked. -/
theorem run_blocked (st : Handoff) (sched : List Party) (hplan : st.plan = [])
    (hq : st.queue = []) (hopen : st.peerClosed = false) (hw : st.worker = .receive) :
    st.run sched = st := by
  induction sched with
  | nil => rfl
  | cons p sched ih =>
    have : st.step p = st := by
      cases p <;> simp [step, stepCoordinator, stepWorker, hplan, hq, hopen, hw]
    rw [run_cons, this, ih]

section Writes

variable (fd : ℤ) (errWrites okWrites : List ℕ) (hpos : ∀ l ∈ okWrites, 0 < l)
  (hne : okWrites ≠ []) (hfit : okWrites.sum < 4096)

include hpos hne in
theorem sum_pos : 0 < okWrites.sum := by
  obtain ⟨l, ls, rfl⟩ := List.exists_cons_of_ne_nil hne
  have := hpos l (by simp)
  simp only [List.sum_cons]
  omega

/-- The queue after the coordinator wrote the success response. -/
theorem run_okWrites :
    (start fd errWrites okWrites none).run (List.replicate okWrites.length .coordinator) =
      { start fd errWrites okWrites none with
        plan := [.sendFD fd, .returns (some fd)], queue := writes okWrites } := by
  rw [run_writes _ okWrites _ rfl]
  rfl

include hpos hne hfit in
/-- When `SendFD`'s segment is queued behind the response at the decoder's first read, that
read swallows it: the clone is lost, `AcceptWorker` succeeds and `ReceiveFD` waits forever. -/
theorem handoff_loses_descriptor (sched : List Party) :
    let st := (start fd errWrites okWrites none).run
      (List.replicate okWrites.length .coordinator ++
        [.coordinator, .coordinator, .worker, .worker, .worker] ++ sched)
    st.accepted = some (some fd) ∧ st.lost = [fd] ∧ st.worker = .receive := by
  have h0 := sum_pos okWrites hpos hne
  have hrest : ¬4096 - okWrites.sum = 0 ∧ ¬4096 - okWrites.sum < 1 := by omega
  have hread : streamRead 4096 (writes okWrites ++ [⟨1, [fd]⟩]) = (okWrites.sum + 1, [fd], []) := by
    simpa [streamRead, hrest] using streamRead_writes 4096 okWrites [⟨1, [fd]⟩] hpos hfit
  have hmid : ((start fd errWrites okWrites none).run (List.replicate okWrites.length .coordinator ++
      [.coordinator, .coordinator, .worker, .worker, .worker])) =
      ⟨[], [], false, true, .receive, some (some fd), [fd]⟩ := by
    simp only [run_append, run_okWrites]
    simp [step, stepWorker, stepCoordinator, start, h0, Nat.pos_iff_ne_zero.mp h0, hread]
  simp only [run_append] at hmid ⊢
  rw [hmid, run_blocked _ sched rfl rfl rfl rfl]
  exact ⟨rfl, rfl, rfl⟩

end Writes

/-- The failing schedule for a response written as two segments of 50 and 5 bytes and the clone
numbered 7, with no later steps. -/
theorem handoff_loses_descriptor_two_writes :
    (∀ l ∈ [50, 5], 0 < l) ∧ [50, 5] ≠ [] ∧ [50, 5].sum < 4096 ∧
      let st := (start 7 [] [50, 5] none).run
        (List.replicate [50, 5].length .coordinator ++
          [.coordinator, .coordinator, .worker, .worker, .worker] ++ [])
      st.accepted = some (some 7) ∧ st.lost = [7] ∧ st.worker = .receive :=
  ⟨by decide, by decide, by decide,
    handoff_loses_descriptor 7 [] [50, 5] (by decide) (by decide) (by decide) []⟩

end Rofuse.Sharing
