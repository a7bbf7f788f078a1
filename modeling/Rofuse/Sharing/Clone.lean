import Mathlib

/-! `CloneFuseFD` and `CloneMultiple` (`sharing/clone.go`) against the process's descriptor table.
`open("/dev/fuse")` takes the lowest descriptor not open, `FUSE_DEV_IOC_CLONE` attaches an open
descriptor to the master's session, and `close` frees a descriptor and its attachment. Every
`open` and every `ioctl` of the loop may fail, as `Faults` says per iteration.

`CloneFuseFD` closes its own descriptor when the `ioctl` fails, and `CloneMultiple` closes the
descriptors it collected before returning an error. So the call is all or nothing
(`cloneMultiple_all_or_nothing`): it returns `count` distinct descriptors, each new, open and
attached to the master, with the table otherwise as it was; or an error with the table exactly as
it was before the call. -/

namespace Rofuse.Sharing

/-- The lowest descriptor not in `fds`; one of `0, ..., fds.length` is free. -/
def lowestFree (fds : List ℕ) : ℕ := ((List.range (fds.length + 1)).find? (· ∉ fds)).getD 0

theorem lowestFree_not_mem (fds : List ℕ) : lowestFree fds ∉ fds := by
  unfold lowestFree
  cases h : (List.range (fds.length + 1)).find? (· ∉ fds) with
  | some k => simpa using List.find?_some h
  | none =>
    have hsub : (List.range (fds.length + 1)).toFinset ⊆ fds.toFinset := fun k hk => by
      simpa using List.find?_eq_none.mp h k (by simpa using hk)
    have := (Finset.card_le_card hsub).trans (List.toFinset_card_le fds)
    rw [List.toFinset_card_of_nodup (List.nodup_range _), List.length_range] at this
    omega

/-- The descriptor table: the open descriptors, and the descriptors attached to a master's
session with that master. Only an open descriptor is attached. -/
structure Process where
  fds : List ℕ
  sessions : List (ℕ × ℤ)
  nodup : fds.Nodup
  attached : ∀ e ∈ sessions, e.1 ∈ fds

namespace Process

/-- `open(2)` succeeding: the lowest free descriptor is opened. -/
def openNext (p : Process) : Process where
  fds := p.fds ++ [lowestFree p.fds]
  sessions := p.sessions
  nodup := p.nodup.append (List.nodup_singleton _) fun _ ha hb =>
    lowestFree_not_mem p.fds (List.eq_of_mem_singleton hb ▸ ha)
  attached e he := List.mem_append_left _ (p.attached e he)

/-- `FUSE_DEV_IOC_CLONE` succeeding on the open descriptor `fd`. -/
def attach (p : Process) (fd : ℕ) (master : ℤ) (h : fd ∈ p.fds) : Process where
  fds := p.fds
  sessions := p.sessions ++ [(fd, master)]
  nodup := p.nodup
  attached e he := by
    rcases List.mem_append.mp he with he | he
    · exact p.attached e he
    · rw [List.eq_of_mem_singleton he]; exact h

/-- `close(2)`. -/
def close (p : Process) (fd : ℕ) : Process where
  fds := p.fds.erase fd
  sessions := p.sessions.filter (·.1 != fd)
  nodup := p.nodup.erase fd
  attached e he := by
    obtain ⟨he, hne⟩ := List.mem_filter.mp he
    exact (List.mem_erase_of_ne (by simpa using hne)).mpr (p.attached e he)

@[simp] theorem close_fds (p : Process) (fd : ℕ) : (p.close fd).fds = p.fds.erase fd := rfl

@[simp] theorem close_sessions (p : Process) (fd : ℕ) :
    (p.close fd).sessions = p.sessions.filter (·.1 != fd) := rfl

@[simp] theorem openNext_fds (p : Process) : p.openNext.fds = p.fds ++ [lowestFree p.fds] := rfl

@[simp] theorem openNext_sessions (p : Process) : p.openNext.sessions = p.sessions := rfl

@[simp] theorem attach_fds (p : Process) (fd : ℕ) (master : ℤ) (h : fd ∈ p.fds) :
    (p.attach fd master h).fds = p.fds := rfl

@[simp] theorem attach_sessions (p : Process) (fd : ℕ) (master : ℤ) (h : fd ∈ p.fds) :
    (p.attach fd master h).sessions = p.sessions ++ [(fd, master)] := rfl

end Process

/-- Whether the `open` and the `ioctl` of each iteration of the loop fail. -/
structure Faults where
  openFails : ℕ → Bool
  ioctlFails : ℕ → Bool

/-- The errors `CloneFuseFD` and `CloneMultiple` wrap with `fmt.Errorf`. -/
inductive CloneError
  | «open»
  | ioctl
  | clone (i : ℕ) (e : CloneError)
  deriving DecidableEq, Repr

/-- `syscall.Open("/dev/fuse", ...)`. -/
def sysOpen (fails : Bool) (p : Process) : Process × Option ℕ :=
  if fails then (p, none) else (p.openNext, some (lowestFree p.fds))

/-- The `FUSE_DEV_IOC_CLONE` ioctl on `fd`; `false` is a nonzero errno. -/
def sysIoctlClone (fails : Bool) (fd : ℕ) (master : ℤ) (p : Process) : Process × Bool :=
  if h : fails = false ∧ fd ∈ p.fds then (p.attach fd master h.2, true) else (p, false)

/-- `CloneFuseFD(masterFd)`. -/
def cloneFuseFD (master : ℤ) (openFails ioctlFails : Bool) (p : Process) :
    Process × Except CloneError ℕ :=
  match sysOpen openFails p with
  | (p, none) => (p, .error .open)
  | (p, some fd) =>
    match sysIoctlClone ioctlFails fd master p with
    | (p, true) => (p, .ok fd)
    | (p, false) => (p.close fd, .error .ioctl)

/-- The loop of `CloneMultiple` from iteration `i`, with `n` iterations left and `fds` collected. -/
def cloneLoop (master : ℤ) (faults : Faults) : ℕ → ℕ → List ℕ → Process →
    Process × Except CloneError (List ℕ)
  | _, 0, fds, p => (p, .ok fds)
  | i, n + 1, fds, p =>
    match cloneFuseFD master (faults.openFails i) (faults.ioctlFails i) p with
    | (p, .error e) => (fds.foldl Process.close p, .error (.clone i e))
    | (p, .ok fd) => cloneLoop master faults (i + 1) n (fds ++ [fd]) p

/-- `CloneMultiple(masterFd, count)`. -/
def cloneMultiple (master : ℤ) (count : ℕ) (faults : Faults) (p : Process) :
    Process × Except CloneError (List ℕ) :=
  cloneLoop master faults 0 count [] p

/-! ### One clone -/

/-- `CloneFuseFD` fails with the table as it was, or opens one new descriptor and attaches it. -/
theorem cloneFuseFD_cases (master : ℤ) (openFails ioctlFails : Bool) (p : Process) :
    (∃ e, (cloneFuseFD master openFails ioctlFails p).2 = .error e ∧
      (cloneFuseFD master openFails ioctlFails p).1.fds = p.fds ∧
      (cloneFuseFD master openFails ioctlFails p).1.sessions = p.sessions) ∨
    (∃ fd, (cloneFuseFD master openFails ioctlFails p).2 = .ok fd ∧ fd ∉ p.fds ∧
      (cloneFuseFD master openFails ioctlFails p).1.fds = p.fds ++ [fd] ∧
      (cloneFuseFD master openFails ioctlFails p).1.sessions = p.sessions ++ [(fd, master)]) := by
  have hfree := lowestFree_not_mem p.fds
  cases openFails
  case true => exact .inl ⟨_, rfl, rfl, rfl⟩
  cases ioctlFails
  case false =>
    have h : false = false ∧ lowestFree p.fds ∈ p.openNext.fds := ⟨rfl, by simp [Process.openNext]⟩
    exact .inr ⟨_, by simp [cloneFuseFD, sysOpen, sysIoctlClone, h], hfree,
      by simp [cloneFuseFD, sysOpen, sysIoctlClone, h, Process.attach, Process.openNext],
      by simp [cloneFuseFD, sysOpen, sysIoctlClone, h, Process.attach, Process.openNext]⟩
  case true =>
    refine .inl ⟨.ioctl, by simp [cloneFuseFD, sysOpen, sysIoctlClone], ?_, ?_⟩
    · simp [cloneFuseFD, sysOpen, sysIoctlClone, List.erase_append_right _ hfree]
    · simp only [cloneFuseFD, sysOpen, sysIoctlClone, Process.close, Process.openNext]
      simp only [Bool.true_eq_false, false_and, dite_false, if_false]
      exact List.filter_eq_self.mpr fun e he => by
        simpa using fun h : e.1 = lowestFree p.fds => hfree (h ▸ p.attached e he)

/-- `CloneFuseFD` succeeds exactly when neither its `open` nor its `ioctl` fails. -/
theorem cloneFuseFD_ok_iff (master : ℤ) (openFails ioctlFails : Bool) (p : Process) :
    (∃ fd, (cloneFuseFD master openFails ioctlFails p).2 = .ok fd) ↔
      openFails = false ∧ ioctlFails = false := by
  cases openFails <;> cases ioctlFails <;> simp [cloneFuseFD, sysOpen, sysIoctlClone]

/-! ### The loop -/

/-- Closing descriptors that were opened and attached after the table `fds`, `sessions` gives
that table back. -/
theorem foldl_close (master : ℤ) (fds : List ℕ) (sessions : List (ℕ × ℤ))
    (hs : ∀ e ∈ sessions, e.1 ∈ fds) (acc : List ℕ) (hacc : acc.Nodup)
    (hdisj : ∀ fd ∈ acc, fd ∉ fds) (p : Process) (hp : p.fds = fds ++ acc)
    (hps : p.sessions = sessions ++ acc.map (·, master)) :
    (acc.foldl Process.close p).fds = fds ∧ (acc.foldl Process.close p).sessions = sessions := by
  induction acc generalizing p with
  | nil => exact ⟨by simpa using hp, by simpa using hps⟩
  | cons a acc ih =>
    have ha : a ∉ fds := hdisj a (List.mem_cons_self _ _)
    have hna : a ∉ acc := (List.nodup_cons.mp hacc).1
    refine ih (List.nodup_cons.mp hacc).2 (fun fd h => hdisj fd (List.mem_cons_of_mem _ h))
      (p.close a) ?_ ?_
    · rw [Process.close_fds, hp, List.erase_append_right _ ha, List.erase_cons_head]
    · rw [Process.close_sessions, hps, List.filter_append, List.map_cons,
        List.filter_cons_of_neg (by simp)]
      congr 1
      · exact List.filter_eq_self.mpr fun e he => by
          simpa using fun h : e.1 = a => ha (h ▸ hs e he)
      · exact List.filter_eq_self.mpr fun e he => by
          obtain ⟨b, hb, rfl⟩ := List.mem_map.mp he
          simpa using fun h : b = a => hna (h ▸ hb)

/-- From a table `fds ++ acc` with `acc` collected, the loop ends all or nothing. -/
theorem cloneLoop_spec (master : ℤ) (faults : Faults) (fds : List ℕ) (sessions : List (ℕ × ℤ))
    (hs : ∀ e ∈ sessions, e.1 ∈ fds) (n i : ℕ) (acc : List ℕ) (hacc : acc.Nodup)
    (hdisj : ∀ fd ∈ acc, fd ∉ fds) (p : Process) (hp : p.fds = fds ++ acc)
    (hps : p.sessions = sessions ++ acc.map (·, master)) :
    match cloneLoop master faults i n acc p with
    | (p', .ok out) => out.length = acc.length + n ∧ out.Nodup ∧ (∀ fd ∈ out, fd ∉ fds) ∧
        p'.fds = fds ++ out ∧ p'.sessions = sessions ++ out.map (·, master)
    | (p', .error _) => p'.fds = fds ∧ p'.sessions = sessions := by
  induction n generalizing i acc p with
  | zero => exact ⟨rfl, hacc, hdisj, hp, hps⟩
  | succ n ih =>
    rcases cloneFuseFD_cases master (faults.openFails i) (faults.ioctlFails i) p with
      ⟨e, he, hf, hse⟩ | ⟨fd, hok, hfd, hf, hse⟩
    · simp only [cloneLoop]
      rw [show cloneFuseFD master (faults.openFails i) (faults.ioctlFails i) p =
        (_, .error e) from Prod.ext rfl he]
      exact foldl_close master fds sessions hs acc hacc hdisj _ (hf.trans hp) (hse.trans hps)
    · simp only [cloneLoop]
      rw [show cloneFuseFD master (faults.openFails i) (faults.ioctlFails i) p =
        (_, .ok fd) from Prod.ext rfl hok]
      have hfd' : fd ∉ fds ∧ fd ∉ acc := by simpa [hp, not_or] using hfd
      have := ih (i + 1) (acc ++ [fd]) (hacc.append (List.nodup_singleton _)
          fun _ ha hb => hfd'.2 (List.eq_of_mem_singleton hb ▸ ha))
        (fun x hx => by
          rcases List.mem_append.mp hx with hx | hx
          · exact hdisj x hx
          · exact List.eq_of_mem_singleton hx ▸ hfd'.1)
        _ (by rw [hf, hp, List.append_assoc]) (by rw [hse, hps, List.map_append, List.append_assoc]; rfl)
      dsimp only
      generalize cloneLoop master faults (i + 1) n (acc ++ [fd]) _ = r at this ⊢
      rcases r with ⟨p', e | out⟩
      · exact this
      · exact ⟨by rw [this.1, List.length_append, List.length_singleton]; omega, this.2⟩

/-- The loop from iteration `i` succeeds exactly when none of its `n` iterations fails. -/
theorem cloneLoop_ok_iff (master : ℤ) (faults : Faults) (n : ℕ) : ∀ (i : ℕ) (acc : List ℕ)
    (p : Process), (∃ out, (cloneLoop master faults i n acc p).2 = .ok out) ↔
      ∀ j < n, faults.openFails (i + j) = false ∧ faults.ioctlFails (i + j) = false := by
  induction n with
  | zero => intro i acc p; simp [cloneLoop]
  | succ n ih =>
    intro i acc p
    have hstep := cloneFuseFD_ok_iff master (faults.openFails i) (faults.ioctlFails i) p
    simp only [cloneLoop]
    rcases h : cloneFuseFD master (faults.openFails i) (faults.ioctlFails i) p with ⟨p', e | fd⟩ <;>
      rw [h] at hstep
    case error =>
      have hbad : ¬(faults.openFails i = false ∧ faults.ioctlFails i = false) := by simpa using hstep
      exact ⟨fun ⟨_, h'⟩ => (nomatch h'), fun hall => (hbad (by simpa using hall 0 n.succ_pos)).elim⟩
    case ok =>
      have hgood := hstep.mp ⟨fd, rfl⟩
      rw [ih]
      constructor
      · intro hall j hj
        cases j with
        | zero => simpa using hgood
        | succ j => simpa only [Nat.add_assoc, Nat.add_comm 1 j] using hall j (by omega)
      · intro hall j hj
        simpa only [Nat.add_assoc, Nat.add_comm 1 j] using hall (j + 1) (by omega)

/-- `CloneMultiple` is all or nothing: `count` new distinct descriptors, open and attached, or an
error with the table as before; it succeeds exactly when no `open` and no `ioctl` fails. -/
theorem cloneMultiple_all_or_nothing (master : ℤ) (count : ℕ) (faults : Faults) (p : Process) :
    (match cloneMultiple master count faults p with
    | (p', .ok fds) => fds.length = count ∧ fds.Nodup ∧
        (∀ fd ∈ fds, fd ∉ p.fds ∧ fd ∈ p'.fds ∧ (fd, master) ∈ p'.sessions) ∧
        p'.fds = p.fds ++ fds ∧ p'.sessions = p.sessions ++ fds.map (·, master)
    | (p', .error _) => p'.fds = p.fds ∧ p'.sessions = p.sessions) ∧
    ((∃ fds, (cloneMultiple master count faults p).2 = .ok fds) ↔
      ∀ i < count, faults.openFails i = false ∧ faults.ioctlFails i = false) := by
  refine ⟨?_, by simpa [cloneMultiple] using cloneLoop_ok_iff master faults count 0 [] p⟩
  have := cloneLoop_spec master faults p.fds p.sessions p.attached count 0 [] List.nodup_nil
    (fun _ h => absurd h (List.not_mem_nil _)) p (by simp) (by simp)
  unfold cloneMultiple
  revert this
  split
  · rintro ⟨hlen, hnd, hdisj, hf, hs⟩
    refine ⟨by simpa using hlen, hnd, fun fd hfd => ⟨hdisj fd hfd, ?_, ?_⟩, hf, hs⟩
    · rw [hf]; exact List.mem_append_right _ hfd
    · rw [hs]; exact List.mem_append_right _ (List.mem_map_of_mem _ hfd)
  · exact id

end Rofuse.Sharing
