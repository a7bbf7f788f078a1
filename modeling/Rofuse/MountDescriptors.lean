import Rofuse.Mount
import Rofuse.Sharing.Clone

/-! `mount`, `mountDirect` and `mountFusermount` (`mount.go`) against the descriptor table of
`Sharing.Clone`. `mountDirect` closes `/dev/fuse` again when `mount(2)` refuses its data;
`mountFusermount` receives the device descriptor on `fds[1]` and closes both ends of the socket
pair. It also hands `fds[0]` to the helper through `os.NewFile`, whose finalizer closes that
number once `cmd` is dead, at a moment the program does not choose (`FdOp.finalize`). So
`mount` fails with the table as it was, or returns a new open descriptor, except when the
finalizer runs before `Recvmsg`: the device then takes the freed number and the deferred close
closes it (`mount_descriptors`). A finalizer run after the return closes the next clone of the
device (`mount_finalizer_closes_clone`). The runtime's own descriptors are left out. -/

namespace Rofuse.Sharing

theorem mem_of_lt_lowestFree {fds : List ℕ} {k : ℕ} (h : k < lowestFree fds) : k ∈ fds := by
  unfold lowestFree at h
  cases hf : (List.range (fds.length + 1)).find? (· ∉ fds) with
  | none => rw [hf] at h; exact absurd h (Nat.not_lt_zero _)
  | some m =>
    rw [hf, Option.getD_some] at h
    simpa using (List.find?_range_eq_some.mp hf).2.2 k h

/-- `lowestFree` is the least number not open. -/
theorem lowestFree_eq_of {fds : List ℕ} {n : ℕ} (hn : n ∉ fds) (hlt : ∀ k < n, k ∈ fds) :
    lowestFree fds = n := by
  rcases lt_trichotomy (lowestFree fds) n with h | h | h
  · exact absurd (hlt _ h) (lowestFree_not_mem fds)
  · exact h
  · exact absurd (mem_of_lt_lowestFree h) hn

theorem lowestFree_append_of_ne {fds : List ℕ} {x : ℕ} (hx : x ≠ lowestFree fds) :
    lowestFree (fds ++ [x]) = lowestFree fds :=
  lowestFree_eq_of (by simp [lowestFree_not_mem, Ne.symm hx])
    fun _ hk => List.mem_append_left _ (mem_of_lt_lowestFree hk)

namespace Process

theorem ext' {p q : Process} (hf : p.fds = q.fds) (hs : p.sessions = q.sessions) : p = q := by
  cases p; cases q; cases hf; cases hs; rfl

theorem sessions_filter_of_not_mem {p : Process} {x : ℕ} (h : x ∉ p.fds) :
    p.sessions.filter (·.1 != x) = p.sessions :=
  List.filter_eq_self.mpr fun e he => by simpa using fun h' : e.1 = x => h (h' ▸ p.attached e he)

/-- Closing a descriptor that is not open changes nothing: `close(2)` fails with `EBADF`. -/
theorem close_of_not_mem {p : Process} {x : ℕ} (h : x ∉ p.fds) : p.close x = p :=
  ext' (List.erase_of_not_mem h) (sessions_filter_of_not_mem h)

theorem close_comm (p : Process) (x y : ℕ) : (p.close x).close y = (p.close y).close x :=
  ext' (List.erase_comm _ _ _) (by simp only [close_sessions, List.filter_filter, Bool.and_comm])

theorem openNext_close (p : Process) : p.openNext.close (lowestFree p.fds) = p :=
  ext' (by simp [List.erase_append_right _ (lowestFree_not_mem p.fds)])
    (by rw [close_sessions, openNext_sessions]; exact sessions_filter_of_not_mem (lowestFree_not_mem _))

/-- A process with its standard input, output and error open and no clone. -/
def stdio : Process := ⟨[0, 1, 2], [], by decide, by simp⟩

end Process

end Rofuse.Sharing

namespace Rofuse

open Sharing

/-- The errors `mount`, `mountDirect` and `mountFusermount` return, by the text they wrap. -/
inductive MountError
  /-- `mount point: %w` -/
  | mountPoint
  /-- `mount point is not a directory: %s` -/
  | notDirectory
  /-- `open /dev/fuse: %w` -/
  | openDevice
  /-- `mount: %w` -/
  | mount
  /-- `socketpair: %w` -/
  | socketpair
  /-- `fusermount: %w`, from `cmd.Start` or `cmd.Wait` -/
  | fusermount
  /-- `recvmsg: %w` -/
  | recvmsg
  /-- `fusermount: received empty message` -/
  | emptyMessage
  /-- `fusermount: did not receive file descriptor` -/
  | noDescriptor
  deriving DecidableEq, Repr

/-- What `os.Stat` finds at the mount point. -/
inductive MountPointKind
  | missing
  | file
  | directory
  deriving DecidableEq, Repr

/-- How `Recvmsg` on `fds[1]` ends: a failure, the end of the stream, the helper's byte alone,
or with the device descriptor, installed as the lowest free one. -/
inductive Received
  | error
  | eof
  | noRights
  | descriptor
  deriving DecidableEq, Repr

/-- What the helper does: whether `cmd.Start` and `cmd.Wait` fail, and what it sends back. -/
structure Fusermount where
  startFails : Bool
  waitFails : Bool
  received : Received
  deriving DecidableEq, Repr

/-- What happens outside the descriptor table during `mount`: the mount point, the caller's
ids, and the outcome of each system call and of the helper. -/
structure MountEnv where
  stat : MountPointKind
  uid : ℕ
  gid : ℕ
  openFails : Bool
  mountOk : List Char → Bool
  socketpairFails : Bool
  helper : List Char → Fusermount

/-- `mountDirect`. -/
def mountDirect (openFails : Bool) (mountOk : List Char → Bool) (uid gid : ℕ) (opts : MountFlags)
    (p : Process) : Process × Except MountError ℕ :=
  match sysOpen openFails p with
  | (p, none) => (p, .error .openDevice)
  | (p, some fd) =>
    if mountOk (mountDirectData fd uid gid opts) then (p, .ok fd) else (p.close fd, .error .mount)

/-- `fds[0]` of the socket pair, the descriptor the `os.File` wraps: the lowest free one. -/
def commFd (p : Process) : ℕ := lowestFree p.fds

/-- `fds[1]`, the next lowest. -/
def peerFd (p : Process) : ℕ := lowestFree p.openNext.fds

/-- A descriptor operation of `mountFusermount` once `cmd` is dead, or of the finalizer. -/
inductive FdOp
  /-- `Recvmsg` receiving the device descriptor. -/
  | recv
  /-- `syscall.Close(fds[1])`. -/
  | closePeer
  /-- The deferred `syscall.Close(fds[0])`. -/
  | closeComm
  /-- The finalizer of `os.NewFile(fds[0])`: `close` of the same number. -/
  | finalize
  deriving DecidableEq, Repr

/-- One operation on the table, with `comm` and `peer` the socket pair. -/
def FdOp.exec (comm peer : ℕ) : FdOp → Process × Option ℕ → Process × Option ℕ
  | .recv, (p, _) => (p.openNext, some (lowestFree p.fds))
  | .closePeer, (p, r) => (p.close peer, r)
  | .closeComm, (p, r) => (p.close comm, r)
  | .finalize, (p, r) => (p.close comm, r)

/-- The descriptor operations once `cmd` is dead: `Close(fds[1])` and the deferred
`Close(fds[0])`, after installing the device descriptor when the helper sent one. -/
def tailOps (run : Fusermount) : List FdOp :=
  if run.startFails || run.waitFails then [.closePeer, .closeComm]
  else if run.received = .descriptor then [.recv, .closePeer, .closeComm]
  else [.closePeer, .closeComm]

/-- The operations with the finalizer after the first `k` of them, or after the return. -/
def withFinalizer : Option ℕ → List FdOp → List FdOp
  | none, ops => ops
  | some k, ops => ops.take k ++ .finalize :: ops.drop k

/-- What `mountFusermount` returns after `cmd.Start`, given the descriptor `Recvmsg` installed. -/
def fusermountResult (run : Fusermount) (r : Option ℕ) : Except MountError ℕ :=
  if run.startFails || run.waitFails then .error .fusermount
  else
    match run.received, r with
    | .error, _ => .error .recvmsg
    | .eof, _ => .error .emptyMessage
    | .descriptor, some fd => .ok fd
    | _, _ => .error .noDescriptor

/-- `mountFusermount`, with the finalizer placed by `fin`. -/
def mountFusermount (socketpairFails : Bool) (helper : List Char → Fusermount) (opts : MountFlags)
    (fin : Option ℕ) (p : Process) : Process × Except MountError ℕ :=
  if socketpairFails then (p, .error .socketpair)
  else
    let run := helper (fusermountOpts opts)
    let s := (withFinalizer fin (tailOps run)).foldl (fun s op => op.exec (commFd p) (peerFd p) s)
      (p.openNext.openNext, none)
    (s.1, fusermountResult run s.2)

/-- `mount`, on options `Mount` has already defaulted. -/
def mount (env : MountEnv) (opts : MountFlags) (fin : Option ℕ) (p : Process) :
    Process × Except MountError ℕ :=
  match env.stat with
  | .missing => (p, .error .mountPoint)
  | .file => (p, .error .notDirectory)
  | .directory =>
    if opts.directMount then mountDirect env.openFails env.mountOk env.uid env.gid opts p
    else mountFusermount env.socketpairFails env.helper opts fin p

/-! ### The socket pair -/

section Fusermount

variable (p : Process)

theorem commFd_not_mem : commFd p ∉ p.fds := lowestFree_not_mem _

theorem peerFd_not_mem : peerFd p ∉ p.fds ++ [commFd p] := lowestFree_not_mem p.openNext.fds

/-- Closing both ends of the socket pair gives the table back. -/
theorem close_socketPair : (p.openNext.openNext.close (peerFd p)).close (commFd p) = p := by
  rw [peerFd, Process.openNext_close, commFd, Process.openNext_close]

/-- Without a received descriptor both ends are closed, and wherever the finalizer runs the
table is as before `Socketpair`. -/
theorem foldl_closes (fin : Option ℕ) :
    (withFinalizer fin [.closePeer, .closeComm]).foldl (fun s op => op.exec (commFd p) (peerFd p) s)
      (p.openNext.openNext, none) = (p, none) := by
  have hself : p.close (commFd p) = p := Process.close_of_not_mem (commFd_not_mem p)
  rcases fin with _ | _ | _ | k
  · simp [withFinalizer, FdOp.exec, close_socketPair]
  · simp only [withFinalizer, List.take_zero, List.drop_zero, List.nil_append, List.foldl_cons,
      List.foldl_nil, FdOp.exec]
    rw [Process.close_comm _ (commFd p), close_socketPair, hself]
  · simp [withFinalizer, FdOp.exec, close_socketPair, hself]
  · simp [withFinalizer, FdOp.exec, close_socketPair, hself]

/-- The descriptor `Recvmsg` installs after `Socketpair`, when the finalizer has not run. -/
def recvFd : ℕ := lowestFree p.openNext.openNext.fds

theorem recvFd_not_mem : recvFd p ∉ p.fds ++ [commFd p] ++ [peerFd p] := lowestFree_not_mem _

/-- The table once the received descriptor is installed and both ends are closed. -/
theorem close_socketPair_recv :
    ((p.openNext.openNext.openNext.close (peerFd p)).close (commFd p)).fds = p.fds ++ [recvFd p] ∧
    ((p.openNext.openNext.openNext.close (peerFd p)).close (commFd p)).sessions = p.sessions := by
  have hc := commFd_not_mem p
  have hp := peerFd_not_mem p
  refine ⟨?_, ?_⟩
  · have h3 : p.openNext.openNext.openNext.fds = p.fds ++ [commFd p] ++ [peerFd p] ++ [recvFd p] :=
      rfl
    rw [Process.close_fds, Process.close_fds, h3, List.erase_append_left _ (by simp),
      List.erase_append_right _ hp, List.erase_cons_head, List.append_nil,
      List.erase_append_left _ (by simp), List.erase_append_right _ hc, List.erase_cons_head,
      List.append_nil]
  · simp only [Process.close_sessions, Process.openNext_sessions]
    rw [Process.sessions_filter_of_not_mem (fun h => hp (List.mem_append_left _ h)),
      Process.sessions_filter_of_not_mem hc]

/-- The finalizer closing `fds[0]` while both ends are open leaves `fds[1]` alone. -/
theorem finalize_socketPair :
    (p.openNext.openNext.close (commFd p)).fds = p.fds ++ [peerFd p] ∧
    (p.openNext.openNext.close (commFd p)).sessions = p.sessions := by
  have hc := commFd_not_mem p
  refine ⟨?_, ?_⟩
  · have h2 : p.openNext.openNext.fds = p.fds ++ [commFd p] ++ [peerFd p] := rfl
    rw [Process.close_fds, h2, List.erase_append_left _ (by simp), List.erase_append_right _ hc,
      List.erase_cons_head, List.append_nil]
  · rw [Process.close_sessions, Process.openNext_sessions, Process.openNext_sessions,
      Process.sessions_filter_of_not_mem hc]

/-- With a received descriptor: if the finalizer ran before `Recvmsg`, the table is as before
`Socketpair`; otherwise the received descriptor is open and both ends are closed. -/
theorem foldl_recv (fin : Option ℕ) :
    (withFinalizer fin [.recv, .closePeer, .closeComm]).foldl
      (fun s op => op.exec (commFd p) (peerFd p) s) (p.openNext.openNext, none) =
      if fin = some 0 then (p, some (commFd p))
      else ((p.openNext.openNext.openNext.close (peerFd p)).close (commFd p), some (recvFd p)) := by
  have hc := commFd_not_mem p
  have hp := peerFd_not_mem p
  have hb : peerFd p ∉ p.fds := fun h => hp (List.mem_append_left _ h)
  obtain ⟨hX, -⟩ := close_socketPair_recv p
  have hself : ((p.openNext.openNext.openNext.close (peerFd p)).close (commFd p)).close (commFd p) =
      (p.openNext.openNext.openNext.close (peerFd p)).close (commFd p) :=
    Process.close_of_not_mem (by
      rw [hX]; simpa [hc] using fun h => recvFd_not_mem p (by simp [h]))
  rcases fin with _ | _ | _ | _ | k
  · rfl
  · obtain ⟨hf, hs⟩ := finalize_socketPair p
    have hr : lowestFree (p.fds ++ [peerFd p]) = commFd p :=
      lowestFree_append_of_ne fun h => hp (by simp [h, commFd])
    simp only [withFinalizer, List.take_zero, List.drop_zero, List.nil_append, List.foldl_cons,
      List.foldl_nil, FdOp.exec, hf, hr, if_true]
    refine congrArg (·, _) (Process.ext' ?_ ?_)
    · rw [Process.close_fds, Process.close_fds, Process.openNext_fds, hf, hr,
        List.erase_append_left _ (by simp), List.erase_append_right _ hb, List.erase_cons_head,
        List.append_nil, List.erase_append_right _ hc, List.erase_cons_head, List.append_nil]
    · rw [Process.close_sessions, Process.close_sessions, Process.openNext_sessions, hs,
        Process.sessions_filter_of_not_mem hb, Process.sessions_filter_of_not_mem hc]
  · simp only [withFinalizer, List.take, List.drop, List.singleton_append, List.foldl_cons,
      List.foldl_nil, FdOp.exec, reduceCtorEq, if_false]
    rw [Process.close_comm _ (commFd p), hself]
    rfl
  · simp [withFinalizer, FdOp.exec, hself, recvFd]
  · simp [withFinalizer, FdOp.exec, hself, recvFd]

/-- `mountFusermount` fails with the table as it was, or returns the number of `fds[0]` (finalizer
before `Recvmsg`) or the received descriptor, open, with the table otherwise as it was. -/
theorem mountFusermount_spec (socketpairFails : Bool) (helper : List Char → Fusermount)
    (opts : MountFlags) (fin : Option ℕ) :
    match mountFusermount socketpairFails helper opts fin p with
    | (q, .error _) => q = p
    | (q, .ok fd) => if fin = some 0 then fd = commFd p ∧ q = p
      else fd = recvFd p ∧ q.fds = p.fds ++ [fd] ∧ q.sessions = p.sessions := by
  cases socketpairFails
  case true => rfl
  simp only [mountFusermount, Bool.false_eq_true, if_false, tailOps]
  by_cases hsw : ((helper (fusermountOpts opts)).startFails ||
    (helper (fusermountOpts opts)).waitFails) = true
  · simp [foldl_closes, fusermountResult, hsw]
  by_cases hd : (helper (fusermountOpts opts)).received = .descriptor
  · rw [if_neg hsw, if_pos hd, foldl_recv]
    by_cases h0 : fin = some 0
    · simp [fusermountResult, hsw, hd, h0]
    · simpa [fusermountResult, hsw, hd, h0] using close_socketPair_recv p
  · rw [if_neg hsw, if_neg hd, foldl_closes]
    cases hr : (helper (fusermountOpts opts)).received <;>
      simp [fusermountResult, hsw, hr] at hd ⊢

end Fusermount

/-- `mountDirect` fails with the table as it was, or returns the descriptor it opened. -/
theorem mountDirect_spec (openFails : Bool) (mountOk : List Char → Bool) (uid gid : ℕ)
    (opts : MountFlags) (p : Process) :
    match mountDirect openFails mountOk uid gid opts p with
    | (q, .error _) => q = p
    | (q, .ok fd) => fd = lowestFree p.fds ∧ q = p.openNext := by
  cases openFails
  case true => rfl
  by_cases hm : mountOk (mountDirectData (lowestFree p.fds) uid gid opts) = true
  · simp [mountDirect, sysOpen, hm]
  · simp [mountDirect, sysOpen, hm, Process.openNext_close]

/-- `mount` fails with the table as it was, or returns a descriptor that was not open, with the
table the old one plus it; except when the finalizer runs before `Recvmsg`, when the descriptor
it returns is not open. -/
theorem mount_descriptors (env : MountEnv) (opts : MountFlags) (fin : Option ℕ) (p : Process) :
    match mount env opts fin p with
    | (q, .error _) => q = p
    | (q, .ok fd) => fd ∉ p.fds ∧
      if opts.directMount = false ∧ fin = some 0 then fd = commFd p ∧ q = p
      else q.fds = p.fds ++ [fd] ∧ q.sessions = p.sessions := by
  unfold mount
  cases env.stat
  case missing => rfl
  case file => rfl
  cases hd : opts.directMount
  · have h := mountFusermount_spec p env.socketpairFails env.helper opts fin
    simp only [Bool.false_eq_true, if_false, true_and]
    generalize mountFusermount env.socketpairFails env.helper opts fin p = res at h ⊢
    rcases res with ⟨q, e | fd⟩
    · exact h
    · by_cases h0 : fin = some 0
      · simp only [h0, if_true] at h ⊢
        exact ⟨h.1 ▸ commFd_not_mem p, h⟩
      · simp only [h0, if_false] at h ⊢
        obtain ⟨rfl, hq⟩ := h
        exact ⟨fun hm => recvFd_not_mem p (by simp [hm]), hq⟩
  · have h := mountDirect_spec env.openFails env.mountOk env.uid env.gid opts p
    simp only [if_true, reduceCtorEq, false_and, if_false]
    generalize mountDirect env.openFails env.mountOk env.uid env.gid opts p = res at h ⊢
    rcases res with ⟨q, e | fd⟩
    · exact h
    · obtain ⟨rfl, rfl⟩ := h
      exact ⟨lowestFree_not_mem _, rfl, rfl⟩

/-- With descriptors 0, 1 and 2 open and the finalizer run before `Recvmsg`, `mount` returns
descriptor 3, which is not open. -/
theorem mount_returns_closed_descriptor :
    (mount ⟨.directory, 0, 0, false, fun _ => true, false, fun _ => ⟨false, false, .descriptor⟩⟩ {}
        (some 0) Process.stdio).2 = .ok 3 ∧
      3 ∉ (mount ⟨.directory, 0, 0, false, fun _ => true, false,
        fun _ => ⟨false, false, .descriptor⟩⟩ {} (some 0) Process.stdio).1.fds := by
  have h := mount_descriptors ⟨.directory, 0, 0, false, fun _ => true, false,
    fun _ => ⟨false, false, .descriptor⟩⟩ {} (some 0) Process.stdio
  rw [show mount ⟨.directory, 0, 0, false, fun _ => true, false,
    fun _ => ⟨false, false, .descriptor⟩⟩ {} (some 0) Process.stdio = (Process.stdio, .ok 3) from rfl]
    at h ⊢
  exact ⟨rfl, h.1⟩

/-! ### After the return -/

theorem cloneFuseFD_ok (master : ℤ) (q : Process) :
    (cloneFuseFD master false false q).2 = .ok (lowestFree q.fds) ∧
    (cloneFuseFD master false false q).1.fds = q.fds ++ [lowestFree q.fds] ∧
    (cloneFuseFD master false false q).1.sessions = q.sessions ++ [(lowestFree q.fds, master)] := by
  have h : false = false ∧ lowestFree q.fds ∈ q.openNext.fds := ⟨rfl, by simp [Process.openNext]⟩
  simp [cloneFuseFD, sysOpen, sysIoctlClone, h, Process.attach, Process.openNext]

/-- With the finalizer still pending, `mount` through `fusermount` returns the received
descriptor, with the table otherwise as it was. -/
theorem mount_fusermount_ok (p : Process) {env : MountEnv} {opts : MountFlags}
    (hfm : opts.directMount = false) {fd : ℕ} (hfd : (mount env opts none p).2 = .ok fd) :
    fd = recvFd p ∧ (mount env opts none p).1.fds = p.fds ++ [fd] ∧
      (mount env opts none p).1.sessions = p.sessions := by
  obtain ⟨stat, uid, gid, openFails, mountOk, socketpairFails, helper⟩ := env
  have h := mountFusermount_spec p socketpairFails helper opts none
  cases stat <;> simp only [mount, hfm, Bool.false_eq_true, if_false, reduceCtorEq] at hfd ⊢
  generalize mountFusermount socketpairFails helper opts none p = res at h hfd ⊢
  rcases res with ⟨q, e | fd'⟩
  · cases hfd
  · cases hfd
    simpa using h

/-- With the finalizer pending as `mount` returns, the next clone of the device takes the number
it will close; once it runs, the clone is closed and detached while its holder still uses it. -/
theorem mount_finalizer_closes_clone (env : MountEnv) (opts : MountFlags) (p : Process)
    (hfm : opts.directMount = false) (fd : ℕ) (hfd : (mount env opts none p).2 = .ok fd)
    (master : ℤ) :
    let clone := cloneFuseFD master false false (mount env opts none p).1
    let finalized := (FdOp.finalize.exec (commFd p) (peerFd p) (clone.1, none)).1
    clone.2 = .ok (commFd p) ∧ (commFd p, master) ∈ clone.1.sessions ∧
      fd ∈ finalized.fds ∧ commFd p ∉ finalized.fds ∧ (commFd p, master) ∉ finalized.sessions := by
  obtain ⟨rfl, hf, hs⟩ := mount_fusermount_ok p hfm hfd
  obtain ⟨hok, hcf, hcs⟩ := cloneFuseFD_ok master (mount env opts none p).1
  have hne : recvFd p ≠ commFd p := fun h => recvFd_not_mem p (by simp [h])
  have hlow : lowestFree (mount env opts none p).1.fds = commFd p := by
    rw [hf, lowestFree_append_of_ne hne]; rfl
  have hc : commFd p ∉ (mount env opts none p).1.fds := by
    rw [hf]; simpa [Ne.symm hne] using commFd_not_mem p
  simp only [FdOp.exec, Process.close_fds, Process.close_sessions, hok, hcf, hcs, hlow]
  refine ⟨trivial, by simp, ?_, ?_, by simp⟩
  · rw [List.erase_append_right _ hc, hf]; simp
  · rw [List.erase_append_right _ hc]; simpa using hc

/-- With descriptors 0, 1 and 2 open and the finalizer pending, `mount` returns 5 and the next
clone gets 3, the number of `fds[0]`. -/
theorem mount_finalizer_closes_clone_stdio :
    (mount ⟨.directory, 0, 0, false, fun _ => true, false, fun _ => ⟨false, false, .descriptor⟩⟩ {}
        none Process.stdio).2 = .ok 5 ∧ commFd Process.stdio = 3 ∧
      (cloneFuseFD 7 false false (mount ⟨.directory, 0, 0, false, fun _ => true, false,
        fun _ => ⟨false, false, .descriptor⟩⟩ {} none Process.stdio).1).2 = .ok 3 :=
  ⟨rfl, rfl, (mount_finalizer_closes_clone ⟨.directory, 0, 0, false, fun _ => true, false,
    fun _ => ⟨false, false, .descriptor⟩⟩ {} Process.stdio rfl 5 rfl 7).1⟩

end Rofuse
