import Mathlib

/-! The coordinator's table of workers (`Coordinator.AcceptWorker`, `RemoveWorker`, `Close` and
`Worker.Close`) under every interleaving of its calls. Each call is a thread that stops where it
touches shared state (`c.closed`, the listener, `c.workers`) and at each step that can fail;
connections and clones are numbered as they are made, and their closes are logged. A step moves
clones between their places (closed, in the table, held by a call) and drops only those an
insertion replaces (`step_moves`). So no clone is closed twice (`closedClones_nodup`), and with
distinct PIDs each is closed once when every call has returned and the table is empty
(`clones_accounted`). But an insertion drops an earlier worker of the same PID unclosed, and a
call past the `c.closed` check inserts after `Close` returned (`coordinator_leaks_clones`). -/

namespace Rofuse.Sharing

/-- A `Worker`: its PID, its connection and its clone. -/
structure Worker where
  pid : ℤ
  conn : ℕ
  fd : ℕ
  deriving DecidableEq, Repr

/-- The stage at which an `AcceptWorker` call fails. -/
inductive Stage
  | accept
  | decode
  | clone
  | encode
  | send
  deriving DecidableEq, Repr

/-- An `AcceptWorker` call: the PID its worker registers, and where it fails, if it does. -/
structure AcceptCall where
  pid : ℤ
  fails : Option Stage
  deriving DecidableEq, Repr

/-- Where an `AcceptWorker` call is, from the `c.closed` check to the insertion into the table,
or returned (`none` is an error). -/
inductive AcceptPc
  | check
  | accept
  | decode (conn : ℕ)
  | clone (conn : ℕ)
  | encode (conn fd : ℕ)
  | send (conn fd : ℕ)
  | insert (conn fd : ℕ)
  | returned (worker : Option Worker)
  deriving DecidableEq, Repr

/-- The clone a call holds while it builds its worker. -/
def AcceptPc.clone? : AcceptPc → Option ℕ
  | .encode _ fd | .send _ fd | .insert _ fd => some fd
  | _ => none

@[simp] theorem AcceptPc.clone?_returned (w : Option Worker) : (AcceptPc.returned w).clone? = none :=
  rfl

/-- Where a `RemoveWorker` call is: the lookup and delete, `worker.Close()`, returned. -/
inductive RemovePc
  | lookup
  | close (w : Worker)
  | done
  deriving DecidableEq, Repr

def RemovePc.clone? : RemovePc → Option ℕ
  | .close w => some w.fd
  | _ => none

/-- Where `Close` is: setting `c.closed`, closing the workers of the table, closing the
listener, returned. -/
inductive ClosePc
  | lock
  | sweep
  | listener
  | done
  deriving DecidableEq, Repr

inductive Thread
  | accept (i : ℕ)
  | remove (j : ℕ)
  | close
  deriving DecidableEq, Repr

structure Coordinator where
  accepts : List (AcceptCall × AcceptPc)
  /-- The `RemoveWorker` calls, with the PID each removes. -/
  removes : List (ℤ × RemovePc)
  closePc : ClosePc
  /-- `c.closed`. -/
  closed : Bool
  listenerClosed : Bool
  /-- `c.workers`, the map from PID to worker. -/
  workers : List (ℤ × Worker)
  nextConn : ℕ
  nextClone : ℕ
  closedConns : List ℕ
  closedClones : List ℕ
  deriving DecidableEq, Repr

/-- A coordinator from `NewCoordinator`, with the calls about to start. -/
def Coordinator.new (calls : List AcceptCall) (removes : List ℤ) : Coordinator :=
  ⟨calls.map (·, .check), removes.map (·, .lookup), .lock, false, false, [], 0, 0, [], []⟩

/-- `m[pid] = w`. -/
def assign (m : List (ℤ × Worker)) (pid : ℤ) (w : Worker) : List (ℤ × Worker) :=
  (pid, w) :: m.filter (·.1 != pid)

/-- `delete(m, pid)`. -/
def delete (m : List (ℤ × Worker)) (pid : ℤ) : List (ℤ × Worker) := m.filter (·.1 != pid)

namespace Coordinator

def setAccept (st : Coordinator) (i : ℕ) (call : AcceptCall) (pc : AcceptPc) : Coordinator :=
  { st with accepts := st.accepts.set i (call, pc) }

def setRemove (st : Coordinator) (j : ℕ) (pid : ℤ) (pc : RemovePc) : Coordinator :=
  { st with removes := st.removes.set j (pid, pc) }

/-- Close a connection, and a clone if there is one, on an error path of `AcceptWorker`. -/
def closeOnError (st : Coordinator) (conn : ℕ) (fd : Option ℕ) : Coordinator :=
  { st with closedConns := st.closedConns ++ [conn], closedClones := st.closedClones ++ fd.toList }

/-- One step of `AcceptWorker` call `i`. -/
def stepAccept (st : Coordinator) (i : ℕ) : Coordinator :=
  match st.accepts[i]? with
  | none => st
  | some (call, pc) =>
    let fails (s : Stage) : Bool := call.fails == some s
    match pc with
    | .check => st.setAccept i call (if st.closed then .returned none else .accept)
    | .accept =>
      if st.listenerClosed || fails .accept then st.setAccept i call (.returned none)
      else { st.setAccept i call (.decode st.nextConn) with nextConn := st.nextConn + 1 }
    | .decode conn =>
      if fails .decode then (st.closeOnError conn none).setAccept i call (.returned none)
      else st.setAccept i call (.clone conn)
    | .clone conn =>
      if fails .clone then (st.closeOnError conn none).setAccept i call (.returned none)
      else { st.setAccept i call (.encode conn st.nextClone) with nextClone := st.nextClone + 1 }
    | .encode conn fd =>
      if fails .encode then (st.closeOnError conn (some fd)).setAccept i call (.returned none)
      else st.setAccept i call (.send conn fd)
    | .send conn fd =>
      if fails .send then (st.closeOnError conn (some fd)).setAccept i call (.returned none)
      else st.setAccept i call (.insert conn fd)
    | .insert conn fd =>
      { st.setAccept i call (.returned (some ⟨call.pid, conn, fd⟩)) with
        workers := assign st.workers call.pid ⟨call.pid, conn, fd⟩ }
    | .returned _ => st

/-- One step of `RemoveWorker` call `j`. -/
def stepRemove (st : Coordinator) (j : ℕ) : Coordinator :=
  match st.removes[j]? with
  | some (pid, .lookup) =>
    match st.workers.lookup pid with
    | some w => { st.setRemove j pid (.close w) with workers := delete st.workers pid }
    | none => st.setRemove j pid .done
  | some (pid, .close w) =>
    { st.setRemove j pid .done with
      closedConns := st.closedConns ++ [w.conn], closedClones := st.closedClones ++ [w.fd] }
  | _ => st

/-- One step of `Close`. -/
def stepClose (st : Coordinator) : Coordinator :=
  match st.closePc with
  | .lock => { st with closed := true, closePc := .sweep }
  | .sweep =>
    { st with closedConns := st.closedConns ++ st.workers.map (·.2.conn),
              closedClones := st.closedClones ++ st.workers.map (·.2.fd),
              workers := [], closePc := .listener }
  | .listener => { st with listenerClosed := true, closePc := .done }
  | .done => st

def step (st : Coordinator) : Thread → Coordinator
  | .accept i => st.stepAccept i
  | .remove j => st.stepRemove j
  | .close => st.stepClose

def run (st : Coordinator) (sched : List Thread) : Coordinator := sched.foldl step st

/-! ### Where the clones are -/

/-- The clones outside the table: closed, held by `AcceptWorker` calls building their worker,
and held by `RemoveWorker` calls about to close theirs. -/
def loose (st : Coordinator) : Multiset ℕ :=
  ↑st.closedClones + ↑(st.accepts.filterMap (·.2.clone?)) + ↑(st.removes.filterMap (·.2.clone?))

/-- The clones of the table's workers. -/
def tabled (st : Coordinator) : Multiset ℕ := ↑(st.workers.map (·.2.fd))

/-- The clones held at one moment, one copy for each place that holds one. -/
def held (st : Coordinator) : Multiset ℕ := st.loose + st.tabled

/-- The clones of the entries that `c.workers[pid] = worker` replaces. -/
def replaced (ws : List (ℤ × Worker)) (pid : ℤ) : Multiset ℕ :=
  ↑((ws.filter (·.1 == pid)).map (·.2.fd))

/-- What a step drops without closing it: the clones an insertion replaces. -/
def dropped (st : Coordinator) : Thread → Multiset ℕ
  | .accept i =>
    match st.accepts[i]? with
    | some (call, .insert _ _) => replaced st.workers call.pid
    | _ => 0
  | _ => 0

/-- A step moves clones between places and drops `d` of them, or makes the next one. -/
def Moves (st st' : Coordinator) (d : Multiset ℕ) : Prop :=
  (st'.held + d = st.held ∧ st'.nextClone = st.nextClone) ∨
    (d = 0 ∧ st'.held = st.nextClone ::ₘ st.held ∧ st'.nextClone = st.nextClone + 1)

theorem moves_of_eq {st st' : Coordinator} (h : st'.held = st.held)
    (hn : st'.nextClone = st.nextClone) : Moves st st' 0 :=
  .inl ⟨by rw [add_zero, h], hn⟩

theorem coe_filterMap_cons {α β : Type} (f : α → Option β) (a : α) (l : List α) :
    (↑((a :: l).filterMap f) : Multiset β) = ↑(f a).toList + ↑(l.filterMap f) := by
  cases h : f a <;> simp [h]

/-- Replacing one element of a list changes its `filterMap` by that element's image. -/
theorem filterMap_set_add {α β : Type} (f : α → Option β) {l : List α} {i : ℕ} {y : α} (x : α)
    (h : l[i]? = some y) :
    (↑((l.set i x).filterMap f) : Multiset β) + ↑(f y).toList = ↑(l.filterMap f) + ↑(f x).toList := by
  induction l generalizing i with
  | nil => simp at h
  | cons z l ih =>
    cases i with
    | zero =>
      obtain rfl : z = y := by simpa using h
      rw [List.set_cons_zero, coe_filterMap_cons, coe_filterMap_cons]
      abel
    | succ i =>
      rw [List.set_cons_succ, coe_filterMap_cons, coe_filterMap_cons, add_assoc,
        ih (by simpa using h), ← add_assoc]

theorem loose_setAccept {st : Coordinator} {i : ℕ} {call : AcceptCall} {pc : AcceptPc}
    (h : st.accepts[i]? = some (call, pc)) (call' : AcceptCall) (pc' : AcceptPc) :
    (st.setAccept i call' pc').loose + ↑pc.clone?.toList = st.loose + ↑pc'.clone?.toList := by
  simp only [loose, setAccept]
  rw [add_right_comm, add_assoc (↑st.closedClones : Multiset ℕ),
    filterMap_set_add (fun a : AcceptCall × AcceptPc => a.2.clone?) (call', pc') h]
  abel

theorem loose_setRemove {st : Coordinator} {j : ℕ} {pid : ℤ} {pc : RemovePc}
    (h : st.removes[j]? = some (pid, pc)) (pid' : ℤ) (pc' : RemovePc) :
    (st.setRemove j pid' pc').loose + ↑pc.clone?.toList = st.loose + ↑pc'.clone?.toList := by
  simp only [loose, setRemove]
  rw [add_assoc, filterMap_set_add (fun a : ℤ × RemovePc => a.2.clone?) (pid', pc') h, ← add_assoc]

@[simp] theorem tabled_setAccept (st : Coordinator) (i : ℕ) (call : AcceptCall) (pc : AcceptPc) :
    (st.setAccept i call pc).tabled = st.tabled := rfl

@[simp] theorem tabled_setRemove (st : Coordinator) (j : ℕ) (pid : ℤ) (pc : RemovePc) :
    (st.setRemove j pid pc).tabled = st.tabled := rfl

@[simp] theorem accepts_closeOnError (st : Coordinator) (conn : ℕ) (fd : Option ℕ) :
    (st.closeOnError conn fd).accepts = st.accepts := rfl

theorem loose_closeOnError (st : Coordinator) (conn : ℕ) (fd : Option ℕ) :
    (st.closeOnError conn fd).loose = st.loose + ↑fd.toList := by
  simp only [loose, closeOnError, ← Multiset.coe_add, add_comm, add_left_comm, add_assoc]

/-- A call that moves on keeping the clone it holds, or none. -/
theorem held_setAccept {st : Coordinator} {i : ℕ} {call : AcceptCall} {pc : AcceptPc}
    (h : st.accepts[i]? = some (call, pc)) (call' : AcceptCall) {pc' : AcceptPc}
    (hc : pc'.clone? = pc.clone?) : (st.setAccept i call' pc').held = st.held := by
  have := loose_setAccept h call' pc'
  rw [hc] at this
  rw [held, held, tabled_setAccept, add_right_cancel this]

/-- A call that fails, closing its connection and the clone it holds, if any. -/
theorem held_closeOnError {st : Coordinator} {i : ℕ} {call : AcceptCall} {pc : AcceptPc}
    (h : st.accepts[i]? = some (call, pc)) (conn : ℕ) :
    ((st.closeOnError conn pc.clone?).setAccept i call (.returned none)).held = st.held := by
  have := @loose_setAccept (st.closeOnError conn pc.clone?) i call pc h call (.returned none)
  rw [loose_closeOnError, AcceptPc.clone?_returned, Option.toList_none, Multiset.coe_nil,
    add_zero] at this
  rw [held, held, tabled_setAccept, add_right_cancel this]
  rfl

/-- The table after `c.workers[pid] = w`, with what it replaced, is the table with `w` added. -/
theorem tabled_assign (ws : List (ℤ × Worker)) (pid : ℤ) (w : Worker) :
    (↑((assign ws pid w).map (·.2.fd)) : Multiset ℕ) + replaced ws pid =
      w.fd ::ₘ ↑(ws.map (·.2.fd)) := by
  have hperm := (List.filter_append_perm (·.1 != pid) ws).map (·.2.fd)
  have hsame : ws.filter (fun e => !(e.1 != pid)) = ws.filter (·.1 == pid) :=
    List.filter_congr fun e _ => by simp only [bne, Bool.not_not]
  rw [hsame, List.map_append] at hperm
  rw [replaced, assign, List.map_cons, ← Multiset.cons_coe, Multiset.cons_add, Multiset.coe_add,
    Multiset.coe_eq_coe.mpr hperm]

/-- In a table with one entry per PID, the entry found under `pid` and the rest of the table
once `pid` is deleted make up the table. -/
theorem perm_cons_delete {ws : List (ℤ × Worker)} {pid : ℤ} {w : Worker}
    (hk : (ws.map (·.1)).Nodup) (h : (pid, w) ∈ ws) : List.Perm ((pid, w) :: delete ws pid) ws := by
  induction ws with
  | nil => simp at h
  | cons e ws ih =>
    rw [List.map_cons, List.nodup_cons] at hk
    have hfree : ∀ e' ∈ ws, e'.1 ≠ e.1 := fun e' he' heq => hk.1 (heq ▸ List.mem_map_of_mem _ he')
    rcases List.mem_cons.mp h with rfl | h
    · have : ws.filter (·.1 != pid) = ws :=
        List.filter_eq_self.mpr fun e' he' => by simpa using hfree e' he'
      simp [delete, this]
    · have hne : e.1 ≠ pid := fun heq => hfree _ h heq.symm
      simpa [delete, hne] using (List.Perm.swap e (pid, w) _).trans ((ih hk.2 h).cons e)

/-! ### What one step does -/

/-- A step changes at most one `AcceptWorker` call that has not returned, and the table only by
that call's insertion, a deletion or emptying it. -/
theorem step_cases (st : Coordinator) (t : Thread) :
    ((st.step t).accepts = st.accepts ∧ ((st.step t).workers = st.workers ∨
      (∃ pid, (st.step t).workers = delete st.workers pid) ∨ (st.step t).workers = [])) ∨
    ∃ i call pc pc', st.accepts[i]? = some (call, pc) ∧ (∀ w, pc ≠ .returned w) ∧
      (st.step t).accepts = st.accepts.set i (call, pc') ∧ ((st.step t).workers = st.workers ∨
        ∃ w, pc' = .returned (some w) ∧ (st.step t).workers = assign st.workers call.pid w) := by
  cases t with
  | accept i =>
    simp only [step, stepAccept]
    split
    · exact .inl ⟨rfl, .inl rfl⟩
    · rename_i call pc h
      cases pc with
      | returned _ => exact .inl ⟨rfl, .inl rfl⟩
      | insert conn fd => exact .inr ⟨i, call, _, _, h, fun _ => nofun, rfl, .inr ⟨_, rfl, rfl⟩⟩
      | _ => dsimp only; split_ifs <;> exact .inr ⟨i, call, _, _, h, fun _ => nofun, rfl, .inl rfl⟩
  | remove j =>
    simp only [step, stepRemove]
    split
    · split
      · exact .inl ⟨rfl, .inr (.inl ⟨_, rfl⟩)⟩
      · exact .inl ⟨rfl, .inl rfl⟩
    · exact .inl ⟨rfl, .inl rfl⟩
    · exact .inl ⟨rfl, .inl rfl⟩
  | close =>
    simp only [step, stepClose]
    split
    · exact .inl ⟨rfl, .inl rfl⟩
    · exact .inl ⟨rfl, .inr (.inr rfl)⟩
    · exact .inl ⟨rfl, .inl rfl⟩
    · exact .inl ⟨rfl, .inl rfl⟩

/-- The table has one entry per PID, as a Go map does. -/
def Keyed (st : Coordinator) : Prop := (st.workers.map (·.1)).Nodup

theorem step_keyed (st : Coordinator) (t : Thread) (h : st.Keyed) : (st.step t).Keyed := by
  have hdel : ∀ pid, ((delete st.workers pid).map (·.1)).Nodup := fun pid =>
    h.sublist ((List.filter_sublist _).map _)
  rcases step_cases st t with ⟨-, hw | ⟨pid, hw⟩ | hw⟩ | ⟨i, call, pc, pc', -, -, -, hw | ⟨w, -, hw⟩⟩ <;>
    rw [Keyed, hw]
  · exact h
  · exact hdel pid
  · exact List.nodup_nil
  · exact h
  · refine List.nodup_cons.mpr ⟨fun hin => ?_, hdel call.pid⟩
    obtain ⟨e, he, heq⟩ := List.mem_map.mp hin
    simp [delete, heq] at he

theorem stepAccept_moves (st : Coordinator) (i : ℕ) :
    Moves st (st.stepAccept i) (st.dropped (.accept i)) := by
  unfold stepAccept
  split
  · rename_i h
    simp only [dropped, h]
    exact moves_of_eq rfl rfl
  · rename_i call pc h
    cases pc with
    | check =>
      simp only [dropped, h]
      split_ifs <;> exact moves_of_eq (held_setAccept h call rfl) rfl
    | accept =>
      simp only [dropped, h]
      split_ifs <;> exact moves_of_eq (held_setAccept h call rfl) rfl
    | decode conn =>
      simp only [dropped, h]
      split_ifs
      · exact moves_of_eq (held_closeOnError h conn) rfl
      · exact moves_of_eq (held_setAccept h call rfl) rfl
    | clone conn =>
      simp only [dropped, h]
      split_ifs
      · exact moves_of_eq (held_closeOnError h conn) rfl
      · refine .inr ⟨rfl, ?_, rfl⟩
        have := loose_setAccept h call (.encode conn st.nextClone)
        simp only [AcceptPc.clone?, Option.toList_none, Option.toList_some, Multiset.coe_nil,
          add_zero, Multiset.coe_singleton] at this
        show (st.setAccept i call _).loose + st.tabled = _
        rw [this, held, add_right_comm, add_comm _ {_}, Multiset.singleton_add]
    | encode conn fd =>
      simp only [dropped, h]
      split_ifs
      · exact moves_of_eq (held_closeOnError h conn) rfl
      · exact moves_of_eq (held_setAccept h call rfl) rfl
    | send conn fd =>
      simp only [dropped, h]
      split_ifs
      · exact moves_of_eq (held_closeOnError h conn) rfl
      · exact moves_of_eq (held_setAccept h call rfl) rfl
    | insert conn fd =>
      simp only [dropped, h]
      refine .inl ⟨?_, rfl⟩
      let w : Worker := ⟨call.pid, conn, fd⟩
      have hl := loose_setAccept h call (.returned (some w))
      simp only [AcceptPc.clone?, Option.toList_none, Option.toList_some, Multiset.coe_nil,
        add_zero, Multiset.coe_singleton] at hl
      show (st.setAccept i call (.returned (some w))).loose +
        ↑((assign st.workers call.pid w).map (·.2.fd)) + replaced st.workers call.pid = st.held
      rw [add_assoc, tabled_assign, held, ← hl, add_assoc, Multiset.singleton_add]
      rfl
    | returned _ =>
      simp only [dropped, h]
      exact moves_of_eq rfl rfl

theorem stepRemove_moves (st : Coordinator) (j : ℕ) (hk : st.Keyed) :
    Moves st (st.stepRemove j) 0 := by
  unfold stepRemove
  split
  · rename_i pid h
    have hl := loose_setRemove h pid
    split
    · rename_i w hw
      refine moves_of_eq ?_ rfl
      have hmem : (pid, w) ∈ st.workers := by
        obtain ⟨l₁, l₂, heq, -⟩ := List.lookup_eq_some_iff.mp hw
        simp [heq]
      have ht : {w.fd} + (↑((delete st.workers pid).map (·.2.fd)) : Multiset ℕ) = st.tabled := by
        rw [Multiset.singleton_add, Multiset.cons_coe]
        exact Multiset.coe_eq_coe.mpr (by simpa using (perm_cons_delete hk hmem).map (·.2.fd))
      have := hl (.close w)
      simp only [RemovePc.clone?, Option.toList_none, Option.toList_some, Multiset.coe_nil,
        add_zero, Multiset.coe_singleton] at this
      show (st.setRemove j pid _).loose + ↑((delete st.workers pid).map (·.2.fd)) = _
      rw [this, held, add_assoc, ht]
    · exact moves_of_eq (by simpa [held, RemovePc.clone?] using hl .done) rfl
  · rename_i pid w h
    refine moves_of_eq ?_ rfl
    have := loose_setRemove h pid .done
    simp only [RemovePc.clone?, Option.toList_none, Option.toList_some, Multiset.coe_nil,
      add_zero, Multiset.coe_singleton] at this
    simp only [held, loose, setRemove] at this ⊢
    rw [← this]
    simp only [tabled, ← Multiset.coe_add, Multiset.coe_singleton]
    abel
  · exact moves_of_eq rfl rfl

theorem stepClose_moves (st : Coordinator) : Moves st st.stepClose 0 := by
  unfold stepClose
  split
  · exact moves_of_eq rfl rfl
  · refine moves_of_eq ?_ rfl
    simp only [held, loose, tabled, ← Multiset.coe_add, List.map_nil, Multiset.coe_nil, add_zero]
    abel
  · exact moves_of_eq rfl rfl
  · exact moves_of_eq rfl rfl

theorem step_moves (st : Coordinator) (t : Thread) (hk : st.Keyed) :
    Moves st (st.step t) (st.dropped t) := by
  cases t with
  | accept i => exact stepAccept_moves st i
  | remove j => exact stepRemove_moves st j hk
  | close => exact stepClose_moves st

/-! ### Every interleaving -/

/-- Every clone made is in one place at a time, and the table is a map. -/
structure Inv (st : Coordinator) : Prop where
  nodup : st.held.Nodup
  fresh : ∀ fd ∈ st.held, fd < st.nextClone
  keyed : st.Keyed

theorem Inv.step {st : Coordinator} (h : st.Inv) (t : Thread) : (st.step t).Inv := by
  rcases step_moves st t h.keyed with ⟨heq, hnext⟩ | ⟨-, heq, hnext⟩
  · have hle : (st.step t).held ≤ st.held := heq ▸ Multiset.le_add_right _ _
    exact ⟨Multiset.nodup_of_le hle h.nodup,
      fun fd hfd => hnext ▸ h.fresh fd (Multiset.mem_of_le hle hfd), step_keyed st t h.keyed⟩
  · refine ⟨heq ▸ Multiset.nodup_cons.mpr ⟨fun hin => Nat.lt_irrefl _ (h.fresh _ hin), h.nodup⟩,
      fun fd hfd => ?_, step_keyed st t h.keyed⟩
    rw [heq, Multiset.mem_cons] at hfd
    rcases hfd with rfl | hfd
    · omega
    · have := h.fresh fd hfd; omega

theorem run_inv (st : Coordinator) (sched : List Thread) (h : st.Inv) : (st.run sched).Inv := by
  induction sched generalizing st with
  | nil => exact h
  | cons t sched ih => exact ih _ (h.step t)

/-- With distinct PIDs: the table's entries were inserted by calls that have returned their
worker, and every clone made is in exactly one place. -/
structure Exact (st : Coordinator) : Prop where
  pids : (st.accepts.map (·.1.pid)).Nodup
  keyed : st.Keyed
  registered : ∀ e ∈ st.workers, ∃ call w, (call, AcceptPc.returned (some w)) ∈ st.accepts ∧
    call.pid = e.1
  held : st.held = Multiset.range st.nextClone

/-- A call's `AcceptCall` never changes. -/
theorem map_set_fst {α β γ : Type} (f : α → γ) {l : List (α × β)} {i : ℕ} {a : α} {b : β}
    (h : l[i]? = some (a, b)) (b' : β) : (l.set i (a, b')).map (f ·.1) = l.map (f ·.1) := by
  induction l generalizing i with
  | nil => simp at h
  | cons x l ih =>
    cases i with
    | zero =>
      obtain rfl : x = (a, b) := by simpa using h
      rfl
    | succ i => simpa using ih (by simpa using h)

theorem mem_set_of_ne {α : Type} {l : List α} {i : ℕ} {x y z : α} (hx : x ∈ l) (hi : l[i]? = some y)
    (hne : x ≠ y) : x ∈ l.set i z := by
  obtain ⟨n, hn⟩ := List.mem_iff_getElem?.mp hx
  have : i ≠ n := by rintro rfl; exact hne (Option.some.inj (hn.symm.trans hi))
  exact List.mem_iff_getElem?.mpr ⟨n, by rw [List.getElem?_set_ne this, hn]⟩

/-- With distinct PIDs an insertion replaces nothing. -/
theorem dropped_eq_zero {st : Coordinator} (h : st.Exact) (t : Thread) : st.dropped t = 0 := by
  cases t with
  | accept i =>
    simp only [dropped]
    split
    · rename_i call conn fd hi
      simp only [replaced, Multiset.coe_eq_zero, List.map_eq_nil_iff, List.filter_eq_nil_iff,
        beq_iff_eq]
      intro e he heq
      obtain ⟨call', w, hmem, hpid⟩ := h.registered e he
      have := List.inj_on_of_nodup_map h.pids (List.getElem?_mem hi) hmem (by simp [hpid, heq])
      simp at this
    · rfl
  | remove j => rfl
  | close => rfl

theorem Exact.step {st : Coordinator} (h : st.Exact) (t : Thread) : (st.step t).Exact := by
  have hheld : (st.step t).held = Multiset.range (st.step t).nextClone := by
    rcases step_moves st t h.keyed with ⟨heq, hnext⟩ | ⟨-, heq, hnext⟩
    · rw [dropped_eq_zero h, add_zero] at heq
      rw [heq, hnext, h.held]
    · rw [heq, hnext, h.held, Multiset.range_succ]
  rcases step_cases st t with ⟨ha, hw⟩ | ⟨i, call, pc, pc', hi, hpc, ha, hw⟩
  · refine ⟨ha ▸ h.pids, step_keyed st t h.keyed, fun e he => ?_, hheld⟩
    rw [ha]
    rcases hw with hw | ⟨pid, hw⟩ | hw <;> rw [hw] at he
    · exact h.registered e he
    · exact h.registered e (List.mem_of_mem_filter he)
    · simp at he
  · have hkeep : ∀ e ∈ st.workers, ∃ call w, (call, AcceptPc.returned (some w)) ∈ (st.step t).accepts ∧
        call.pid = e.1 := fun e he => by
      obtain ⟨call', w, hmem, hpid⟩ := h.registered e he
      exact ⟨call', w, ha ▸ mem_set_of_ne hmem hi fun heq => hpc _ (Prod.ext_iff.mp heq).2.symm,
        hpid⟩
    refine ⟨by rw [ha, map_set_fst (·.pid) hi]; exact h.pids, step_keyed st t h.keyed,
      fun e he => ?_, hheld⟩
    rcases hw with hw | ⟨w, rfl, hw⟩
    · exact hkeep e (hw ▸ he)
    · rw [hw, assign, List.mem_cons] at he
      rcases he with rfl | he
      · exact ⟨call, w, ha ▸ List.mem_iff_getElem?.mpr ⟨i, by
          simp [List.getElem?_set, (List.getElem?_eq_some_iff.mp hi).1]⟩, rfl⟩
      · exact hkeep e (List.mem_of_mem_filter he)

theorem run_exact (st : Coordinator) (sched : List Thread) (h : st.Exact) :
    (st.run sched).Exact := by
  induction sched generalizing st with
  | nil => exact h
  | cons t sched ih => exact ih _ (h.step t)

end Coordinator

open Coordinator

theorem held_new (calls : List AcceptCall) (removes : List ℤ) :
    (Coordinator.new calls removes).held = 0 := by
  simp [held, loose, tabled, Coordinator.new, List.filterMap_map, Function.comp_def,
    AcceptPc.clone?, RemovePc.clone?]

/-- Every clone is closed at most once, in every interleaving of `AcceptWorker` calls with any
PIDs and failures, `RemoveWorker` calls and `Close`. -/
theorem closedClones_nodup (calls : List AcceptCall) (removes : List ℤ) (sched : List Thread) :
    ((Coordinator.new calls removes).run sched).closedClones.Nodup := by
  have h := run_inv (Coordinator.new calls removes) sched
    ⟨by simp [held_new], by simp [held_new], List.nodup_nil⟩
  have hle : (↑((Coordinator.new calls removes).run sched).closedClones : Multiset ℕ) ≤
      ((Coordinator.new calls removes).run sched).held := by
    simp only [held, loose, add_assoc]
    exact Multiset.le_add_right _ _
  exact Multiset.coe_nodup.mp (Multiset.nodup_of_le hle h.nodup)

/-- With distinct PIDs every clone is at every moment in exactly one place; once every call has
returned and the table is empty, each has been closed exactly once. -/
theorem clones_accounted (calls : List AcceptCall) (removes : List ℤ)
    (hpids : (calls.map (·.pid)).Nodup) (sched : List Thread) :
    let st := (Coordinator.new calls removes).run sched
    st.held = Multiset.range st.nextClone ∧
      (st.workers = [] → (∀ a ∈ st.accepts, ∃ w, a.2 = .returned w) →
        (∀ r ∈ st.removes, r.2 = .done) → List.Perm st.closedClones (List.range st.nextClone)) := by
  have h := run_exact (Coordinator.new calls removes) sched
    ⟨by simpa [Coordinator.new, Function.comp_def] using hpids, List.nodup_nil, by simp [Coordinator.new],
      by rw [held_new]; rfl⟩
  refine ⟨h.held, fun hw ha hr => ?_⟩
  have hacc : ((Coordinator.new calls removes).run sched).accepts.filterMap (·.2.clone?) = [] :=
    List.filterMap_eq_nil_iff.mpr fun a h => by obtain ⟨w, hw⟩ := ha a h; simp [hw]
  have hrem : ((Coordinator.new calls removes).run sched).removes.filterMap (·.2.clone?) = [] :=
    List.filterMap_eq_nil_iff.mpr fun r h => by simp [hr r h, RemovePc.clone?]
  have := h.held
  simp only [held, loose, tabled, hw, hacc, hrem, List.map_nil, Multiset.coe_nil, add_zero,
    ← Multiset.coe_range] at this
  exact Multiset.coe_eq_coe.mp this

/-- Calls registering PIDs 7 and 8 run one after the other, then `Close`: every call has
returned, the table is empty, and so both clones are closed. -/
theorem clones_accounted_two_pids :
    (([⟨7, none⟩, ⟨8, none⟩] : List AcceptCall).map (·.pid)).Nodup ∧
    (let st := (Coordinator.new [⟨7, none⟩, ⟨8, none⟩] []).run
      (List.replicate 7 (.accept 0) ++ List.replicate 7 (.accept 1) ++ List.replicate 3 .close)
    st.workers = [] ∧
      st.accepts.map (·.2) = [.returned (some ⟨7, 0, 0⟩), .returned (some ⟨8, 1, 1⟩)] ∧
      st.held = Multiset.range st.nextClone ∧
      (st.workers = [] → (∀ a ∈ st.accepts, ∃ w, a.2 = .returned w) →
        (∀ r ∈ st.removes, r.2 = .done) → List.Perm st.closedClones (List.range st.nextClone))) :=
  ⟨by decide, by decide, by decide, clones_accounted _ _ (by decide) _⟩

/-- Two calls registering PID 7, then `Close`: the second worker replaces the first, so clone 0
is never closed; a call that accepted before `Close` inserts its worker after it. -/
theorem coordinator_leaks_clones :
    (let st := (Coordinator.new [⟨7, none⟩, ⟨7, none⟩] []).run
      (List.replicate 7 (.accept 0) ++ List.replicate 7 (.accept 1) ++ List.replicate 3 .close)
    st.nextClone = 2 ∧ st.closedClones = [1] ∧ st.closedConns = [1] ∧ st.workers = [] ∧
      st.closePc = .done ∧
      st.accepts.map (·.2) = [.returned (some ⟨7, 0, 0⟩), .returned (some ⟨7, 1, 1⟩)]) ∧
    (let st := (Coordinator.new [⟨7, none⟩] []).run
      (List.replicate 2 (.accept 0) ++ List.replicate 3 .close ++ List.replicate 5 (.accept 0))
    st.closePc = .done ∧ st.workers = [(7, ⟨7, 0, 0⟩)] ∧ st.closedClones = [] ∧
      st.accepts.map (·.2) = [.returned (some ⟨7, 0, 0⟩)]) := by
  decide

end Rofuse.Sharing
