import Rofuse.Errors

/-! Shutdown: `Server.Serve`, its request goroutines and any number of `Server.Unmount` calls,
as threads sharing the connection's `c.fd`. Each thread stops at every access to that field and
at every system call, so a schedule is one interleaving at that granularity. The kernel answers
`read(2)` on the device with a request while mounted and `ENODEV` after, and a call on another
descriptor with `EBADF`; the calls are logged with the descriptor they used. `Unmount` closes
`c.fd` without waiting for the others and without a lock. With one call the device is closed at
most once, and once when it has returned (`closes_of_one_unmount`). But `Serve` reads the
closed descriptor, a goroutine writes to it, and two calls close it twice (`unmount_races_serve`). -/

namespace Rofuse.Shutdown

/-- A system call, with the descriptor value it was issued on. -/
inductive Syscall
  | read (fd : ℤ)
  | write (fd : ℤ)
  | close (fd : ℤ)
  deriving DecidableEq, Repr

/-- Where `Serve` is: at the select on `s.ctx.Done()`, evaluating `c.fd` for `syscall.Read`,
in that read with the value it loaded, or returned with an error (`none` is nil). -/
inductive ServePc
  | select
  | load
  | read (fd : ℤ)
  | returned (err : Option GoError)

/-- A request goroutine: evaluating `c.fd` inside `writeResponse`, writing, or done. -/
inductive WorkerPc
  | load
  | write (fd : ℤ)
  | done
  deriving DecidableEq, Repr

/-- An `Unmount` call: `s.cancel()`, `unmount(s.mountPoint)`, the test `c.fd >= 0` of
`connection.close`, evaluating `c.fd` for `syscall.Close`, the close, `c.fd = -1`, returned. -/
inductive UnmountPc
  | cancel
  | unmount
  | test
  | load
  | close (fd : ℤ)
  | clear
  | done
  deriving DecidableEq, Repr

/-- Whether the call has issued its close or skipped it. -/
def UnmountPc.closed : UnmountPc → Bool
  | .clear | .done => true
  | _ => false

inductive Thread
  | serve
  | worker (i : ℕ)
  | unmount (j : ℕ)
  deriving DecidableEq, Repr

structure State where
  /-- The device descriptor `mount` returned. -/
  dev : ℤ
  /-- The connection's field `c.fd`. -/
  fd : ℤ
  devOpen : Bool
  mounted : Bool
  cancelled : Bool
  serve : ServePc
  workers : List WorkerPc
  unmounts : List UnmountPc
  log : List Syscall

/-- After `Mount` returned `dev`, with `n` calls of `Unmount` about to start. -/
def init (dev : ℤ) (n : ℕ) : State :=
  ⟨dev, dev, true, true, false, .select, [], List.replicate n .cancel, []⟩

namespace State

/-- The errno of `syscall.Read` on descriptor `k`; `none` is a request. -/
def readErrno (st : State) (k : ℤ) : Option UInt64 :=
  if k = st.dev ∧ st.devOpen then (if st.mounted then none else some enodev) else some ebadf

/-- Where `Serve` goes after `readRequest` failed with errno `e`: `EINTR` loops, `ENODEV` is
`ErrNotMounted` and returns nil, any other error is returned. -/
def afterError (e : UInt64) : ServePc :=
  if e = eintr then .select else if e = enodev then .returned none else .returned (some (.errno e))

/-- One step of `Serve`; a request starts a goroutine. -/
def stepServe (st : State) : State :=
  match st.serve with
  | .select =>
    { st with serve := if st.cancelled then .returned (some (.sentinel .canceled)) else .load }
  | .load => { st with serve := .read st.fd }
  | .read k =>
    match st.readErrno k with
    | none => { st with serve := .select, workers := st.workers ++ [.load],
                        log := st.log ++ [.read k] }
    | some e => { st with serve := afterError e, log := st.log ++ [.read k] }
  | .returned _ => st

/-- One step of request goroutine `i`. -/
def stepWorker (st : State) (i : ℕ) : State :=
  match st.workers[i]? with
  | some .load => { st with workers := st.workers.set i (.write st.fd) }
  | some (.write k) => { st with workers := st.workers.set i .done, log := st.log ++ [.write k] }
  | _ => st

/-- Unmount call `j` moves to `pc`. -/
def goto (st : State) (j : ℕ) (pc : UnmountPc) : State := { st with unmounts := st.unmounts.set j pc }

/-- One step of `Unmount` call `j`. -/
def stepUnmount (st : State) (j : ℕ) : State :=
  match st.unmounts[j]? with
  | some .cancel => goto { st with cancelled := true } j .unmount
  | some .unmount => goto { st with mounted := false } j .test
  | some .test => st.goto j (if 0 ≤ st.fd then .load else .done)
  | some .load => st.goto j (.close st.fd)
  | some (.close k) =>
    goto { st with log := st.log ++ [.close k], devOpen := st.devOpen && k != st.dev } j .clear
  | some .clear => goto { st with fd := -1 } j .done
  | _ => st

def step (st : State) : Thread → State
  | .serve => st.stepServe
  | .worker i => st.stepWorker i
  | .unmount j => st.stepUnmount j

def run (st : State) (sched : List Thread) : State := sched.foldl step st

/-- How many times the device descriptor has been closed. -/
def closes (st : State) : ℕ := st.log.count (.close st.dev)

@[simp] theorem run_nil (st : State) : st.run [] = st := rfl

@[simp] theorem run_cons (st : State) (t : Thread) (sched : List Thread) :
    st.run (t :: sched) = (st.step t).run sched := rfl

/-! ### What `Serve` and the request goroutines leave alone -/

/-- Two states that agree on everything `Unmount` reads or writes. -/
structure Quiet (st st' : State) : Prop where
  dev : st'.dev = st.dev
  fd : st'.fd = st.fd
  devOpen : st'.devOpen = st.devOpen
  unmounts : st'.unmounts = st.unmounts
  closes : st'.closes = st.closes

/-- A step that logs a read or a write and keeps the rest `Unmount` sees. -/
theorem quiet_of_log {st st' : State} (c : Syscall) (hc : ∀ k, c ≠ .close k)
    (hlog : st'.log = st.log ++ [c]) (hdev : st'.dev = st.dev) (hfd : st'.fd = st.fd)
    (hopen : st'.devOpen = st.devOpen) (hu : st'.unmounts = st.unmounts) : Quiet st st' :=
  ⟨hdev, hfd, hopen, hu, by simp [closes, hlog, hdev, List.count_append, List.count_singleton, hc]⟩

theorem stepServe_quiet (st : State) : Quiet st st.stepServe := by
  unfold stepServe
  split
  · exact ⟨rfl, rfl, rfl, rfl, rfl⟩
  · exact ⟨rfl, rfl, rfl, rfl, rfl⟩
  · split <;> exact quiet_of_log _ (by simp) rfl rfl rfl rfl rfl
  · exact ⟨rfl, rfl, rfl, rfl, rfl⟩

theorem stepWorker_quiet (st : State) (i : ℕ) : Quiet st (st.stepWorker i) := by
  unfold stepWorker
  split
  · exact ⟨rfl, rfl, rfl, rfl, rfl⟩
  · exact quiet_of_log _ (by simp) rfl rfl rfl rfl rfl
  · exact ⟨rfl, rfl, rfl, rfl, rfl⟩

/-! ### One `Unmount` call -/

/-- With the one `Unmount` call at `u`: `c.fd` holds the open device until its close, the device
was closed once after it, and `c.fd` is `-1` once it returns. -/
def Once (st : State) : Prop :=
  ∃ u, st.unmounts = [u] ∧ st.fd = (if u = .done then -1 else st.dev) ∧
    st.devOpen = !u.closed ∧ st.closes = (if u.closed then 1 else 0) ∧
    ∀ k, u = .close k → k = st.dev

theorem Once.of_quiet {st st' : State} (h : Once st) (hq : Quiet st st') : Once st' := by
  obtain ⟨u, hu, hfd, hopen, hcl, hk⟩ := h
  exact ⟨u, hq.unmounts ▸ hu, by rw [hq.fd, hq.dev, hfd], hq.devOpen ▸ hopen,
    hq.closes ▸ hcl, hq.dev ▸ hk⟩

theorem stepUnmount_once (st : State) (j : ℕ) (hdev : 0 ≤ st.dev) (h : Once st) :
    Once (st.stepUnmount j) := by
  obtain ⟨u, hu, hfd, hopen, hcl, hk⟩ := h
  rcases j with _ | j
  · cases u with
    | done => simpa [stepUnmount, hu] using ⟨.done, hu, hfd, hopen, hcl, hk⟩
    | _ =>
      simp only [stepUnmount, hu, List.getElem?_cons_zero, goto, List.set_cons_zero]
      refine ⟨_, rfl, ?_⟩
      simp_all [UnmountPc.closed, closes, List.count_append]
  · simpa [stepUnmount, hu] using ⟨u, hu, hfd, hopen, hcl, hk⟩

theorem step_dev (st : State) (t : Thread) : (st.step t).dev = st.dev := by
  cases t with
  | serve => exact (stepServe_quiet st).dev
  | worker i => exact (stepWorker_quiet st i).dev
  | unmount j => show (st.stepUnmount j).dev = _; unfold stepUnmount; split <;> rfl

theorem step_once (st : State) (t : Thread) (hdev : 0 ≤ st.dev) (h : Once st) :
    Once (st.step t) := by
  cases t with
  | serve => exact h.of_quiet (stepServe_quiet st)
  | worker i => exact h.of_quiet (stepWorker_quiet st i)
  | unmount j => exact stepUnmount_once st j hdev h

theorem run_once (st : State) (sched : List Thread) (hdev : 0 ≤ st.dev) (h : Once st) :
    Once (st.run sched) := by
  induction sched generalizing st with
  | nil => exact h
  | cons t sched ih => exact ih _ (step_dev st t ▸ hdev) (step_once st t hdev h)

end State

open State

/-- With one `Unmount` call, in every interleaving with `Serve` and its request goroutines the
device descriptor is closed at most once, and exactly once when `Unmount` has returned. -/
theorem closes_of_one_unmount (dev : ℤ) (hdev : 0 ≤ dev) (sched : List Thread) :
    ((init dev 1).run sched).closes ≤ 1 ∧
      (((init dev 1).run sched).unmounts = [.done] → ((init dev 1).run sched).closes = 1) := by
  obtain ⟨u, hu, -, -, hcl, -⟩ := run_once (init dev 1) sched hdev
    ⟨.cancel, rfl, by simp [init], rfl, rfl, by simp⟩
  refine ⟨by split_ifs at hcl <;> omega, fun hd => ?_⟩
  obtain rfl : u = .done := by simpa [hu] using hd
  simpa [UnmountPc.closed] using hcl

/-- One `Unmount` call on descriptor 3 run to the end closes it once. -/
theorem closes_of_one_unmount_returned :
    (0 : ℤ) ≤ 3 ∧ ((init 3 1).run (List.replicate 6 (.unmount 0))).unmounts = [.done] ∧
    ((init 3 1).run (List.replicate 6 (.unmount 0))).closes ≤ 1 ∧
      (((init 3 1).run (List.replicate 6 (.unmount 0))).unmounts = [.done] →
        ((init 3 1).run (List.replicate 6 (.unmount 0))).closes = 1) :=
  ⟨by norm_num, rfl, closes_of_one_unmount 3 (by norm_num) _⟩

/-- At one `Unmount` on descriptor 3, `Serve` reads the closed descriptor and returns `EBADF`, and
a goroutine writes its reply to it; two `Unmount` calls that both pass `c.fd >= 0` close it twice. -/
theorem unmount_races_serve :
    (let st := (init 3 1).run ([.serve, .serve, .serve, .serve, .serve, .worker 0] ++
      List.replicate 6 (.unmount 0) ++ [.serve, .worker 0])
    st.log = [.read 3, .close 3, .read 3, .write 3] ∧
      st.serve = .returned (some (.errno ebadf))) ∧
    ((init 3 2).run (List.replicate 4 (.unmount 0) ++ List.replicate 4 (.unmount 1) ++
      [.unmount 0, .unmount 1])).log = [.close 3, .close 3] :=
  ⟨⟨rfl, rfl⟩, rfl⟩

end Rofuse.Shutdown
