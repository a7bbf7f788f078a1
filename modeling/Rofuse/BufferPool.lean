import Rofuse.Handlers

/-! The buffer pool (`buffer.go`) between the serve loop and the request workers. A buffer is a
Go slice: the identity of its backing array, its length and its capacity. `sync.Pool` may hand
back any pooled buffer or call `New`, and may drop pooled buffers at any time; the serve loop
takes a buffer (`fetch`), then reads into it and either puts it back (a failed or short read) or
spawns a request that holds the first `n` bytes (`complete`); a worker releases its request,
possibly more than once. Every interleaving of these steps is a run. Proved over every run from
the pool `Mount` makes: the arrays held by the pool, the reader and the live requests are
pairwise distinct, every pooled buffer has the pool's size as length and capacity, a release
returns its buffer once, and the size covers the `max_write` that `handleInit` advertises. -/

namespace Rofuse

open Proto

/-- The defaults `Mount` writes into the options. -/
def MountOptions.withDefaults (o : MountOptions) : MountOptions :=
  { o with
    maxReadahead := if o.maxReadahead = 0 then defaultMaxReadahead else o.maxReadahead
    maxWrite := if o.maxWrite = 0 then defaultMaxWrite else o.maxWrite
    maxBackground := if o.maxBackground = 0 then defaultMaxBackground else o.maxBackground }

/-- The size `newBufferPool` settles on. -/
def newBufferPool (size : ℕ) : ℕ := if size < minBufferSize then minBufferSize else size

/-- A Go slice: its backing array, its length and its capacity. -/
structure Slice where
  array : ℕ
  len : ℕ
  cap : ℕ
  deriving DecidableEq, Repr

structure PoolState where
  size : ℕ
  pool : List Slice
  /-- The buffer the serve loop is reading into. -/
  reading : Option Slice
  /-- `r.data` of every request spawned so far; nil once released. -/
  requests : List (Option Slice)
  /-- The identity of the next array `New` makes. -/
  next : ℕ
  deriving DecidableEq, Repr

/-- The pool and server of `Mount(mountPoint, fs, opts)`. -/
def mountPool (o : MountOptions) : PoolState :=
  ⟨newBufferPool (o.withDefaults.maxWrite.toNat + inHeaderSize + 4096), [], none, [], 0⟩

def mountServer (o : MountOptions) : Server := { opts := o.withDefaults }

/-! ### The operations -/

namespace PoolState

/-- `p.get()`: the pooled buffer at `pick`, or a new one of `p.size` bytes. -/
def get (st : PoolState) (pick : ℕ) : Slice × PoolState :=
  match st.pool[pick]? with
  | some buf => (buf, { st with pool := st.pool.erase buf })
  | none => (⟨st.next, st.size, st.size⟩, { st with next := st.next + 1 })

/-- `p.put(buf)`: kept with length `p.size` when its capacity is `p.size`, dropped otherwise. -/
def put (st : PoolState) (buf : Slice) : PoolState :=
  if buf.cap = st.size then { st with pool := ⟨buf.array, st.size, buf.cap⟩ :: st.pool } else st

/-- The start of `readRequest`: `pool.get()`, while no read is in progress. -/
def fetch (st : PoolState) (pick : ℕ) : PoolState :=
  match st.reading with
  | some _ => st
  | none => let (buf, st) := st.get pick; { st with reading := some buf }

/-- The rest of `readRequest`: a failed or short read puts the buffer back, otherwise a request
holding `buf[:n]` is spawned. -/
def complete (st : PoolState) (result : Option ℕ) : PoolState :=
  match st.reading with
  | none => st
  | some buf =>
    let st := { st with reading := none }
    match result with
    | some n =>
      if min n buf.len < inHeaderSize then st.put buf
      else { st with requests := st.requests ++ [some ⟨buf.array, min n buf.len, buf.cap⟩] }
    | none => st.put buf

/-- `r.release()` of the `i`-th request: `put(r.data[:cap(r.data)])` and `r.data = nil`, when
`r.data` is not nil. -/
def release (st : PoolState) (i : ℕ) : PoolState :=
  match st.requests[i]? with
  | some (some data) =>
    { st.put ⟨data.array, data.cap, data.cap⟩ with requests := st.requests.set i none }
  | _ => st

/-- The garbage collector drops the pooled buffer at `i`. -/
def collect (st : PoolState) (i : ℕ) : PoolState :=
  match st.pool[i]? with
  | some buf => { st with pool := st.pool.erase buf }
  | none => st

end PoolState

inductive PoolOp
  | fetch (pick : ℕ)
  | complete (result : Option ℕ)
  | release (i : ℕ)
  | collect (i : ℕ)
  deriving DecidableEq, Repr

def PoolState.step (st : PoolState) : PoolOp → PoolState
  | .fetch pick => st.fetch pick
  | .complete result => st.complete result
  | .release i => st.release i
  | .collect i => st.collect i

def PoolState.run (st : PoolState) (ops : List PoolOp) : PoolState := ops.foldl PoolState.step st

/-! ### The invariant -/

namespace PoolState

/-- The arrays held at one moment: by the reader, by the pool and by the live requests. -/
def owned (st : PoolState) : List ℕ :=
  st.reading.toList.map Slice.array ++ st.pool.map Slice.array ++
    st.requests.filterMap (Option.map Slice.array)

structure Inv (st : PoolState) : Prop where
  pooled : ∀ buf ∈ st.pool, buf.len = st.size ∧ buf.cap = st.size
  read : ∀ buf ∈ st.reading, buf.len = st.size ∧ buf.cap = st.size
  held : ∀ d ∈ st.requests, ∀ data ∈ d, data.cap = st.size
  fresh : ∀ a ∈ st.owned, a < st.next
  distinct : st.owned.Nodup

/-- A step that keeps the size and moves buffers between owners without making any. -/
theorem inv_of_sublist {st st' : PoolState} (h : st.Inv) (hsub : List.Sublist st'.owned st.owned ∨
      List.Perm st'.owned st.owned)
    (hsize : st'.size = st.size) (hnext : st.next ≤ st'.next)
    (hpooled : ∀ buf ∈ st'.pool, buf.len = st.size ∧ buf.cap = st.size)
    (hread : ∀ buf ∈ st'.reading, buf.len = st.size ∧ buf.cap = st.size)
    (hheld : ∀ d ∈ st'.requests, ∀ data ∈ d, data.cap = st.size) : st'.Inv := by
  have hmem : ∀ a ∈ st'.owned, a ∈ st.owned := by
    rcases hsub with hsub | hperm
    · exact fun a ha => hsub.subset ha
    · exact fun a ha => hperm.subset ha
  refine ⟨hsize ▸ hpooled, hsize ▸ hread, hsize ▸ hheld,
    fun a ha => Nat.lt_of_lt_of_le (h.fresh a (hmem a ha)) hnext, ?_⟩
  rcases hsub with hsub | hperm
  · exact h.distinct.sublist hsub
  · exact hperm.nodup_iff.mpr h.distinct

theorem perm_filterMap_set_none {l : List (Option Slice)} {i : ℕ} {data : Slice}
    (h : l[i]? = some (some data)) :
    List.Perm (data.array :: (l.set i none).filterMap (Option.map Slice.array))
      (l.filterMap (Option.map Slice.array)) := by
  induction l generalizing i with
  | nil => simp at h
  | cons x xs ih =>
    cases i with
    | zero => simp at h; simp [h]
    | succ i =>
      simp only [List.getElem?_cons_succ] at h
      cases x with
      | none => simpa using ih h
      | some y => simpa using (List.Perm.swap _ _ _).trans ((ih h).cons y.array)

theorem get_of_some {st : PoolState} {pick : ℕ} {buf : Slice} (h : st.pool[pick]? = some buf) :
    st.get pick = (buf, { st with pool := st.pool.erase buf }) := by
  simp [get, h]

theorem get_of_none {st : PoolState} {pick : ℕ} (h : st.pool[pick]? = none) :
    st.get pick = (⟨st.next, st.size, st.size⟩, { st with next := st.next + 1 }) := by
  simp [get, h]

/-- Every buffer the pool hands out has the pool's size as its length. -/
theorem get_fst (st : PoolState) (h : st.Inv) (pick : ℕ) :
    (st.get pick).1.len = st.size ∧ (st.get pick).1.cap = st.size := by
  cases hp : st.pool[pick]? with
  | some buf => rw [get_of_some hp]; exact h.pooled buf (List.getElem?_mem hp)
  | none => rw [get_of_none hp]; exact ⟨rfl, rfl⟩

theorem fetch_inv (st : PoolState) (h : st.Inv) (pick : ℕ) : (st.fetch pick).Inv := by
  cases hr : st.reading with
  | some _ => simpa [fetch, hr] using h
  | none =>
    have hbuf := st.get_fst h pick
    cases hp : st.pool[pick]? with
    | some buf =>
      rw [get_of_some hp] at hbuf
      simp only [fetch, hr, get_of_some hp]
      refine inv_of_sublist h (.inr ?_) rfl le_rfl (fun b hb => h.pooled b (List.mem_of_mem_erase hb))
        (fun b hb => by cases hb; exact hbuf) h.held
      simp only [owned, hr, Option.toList_some, Option.toList_none, List.map_cons, List.map_nil,
        List.nil_append, List.singleton_append, List.cons_append]
      exact (((List.perm_cons_erase (List.getElem?_mem hp)).map Slice.array).append_right
        _).symm
    | none =>
      simp only [fetch, hr, get_of_none hp]
      have hnew : st.next ∉ st.owned := fun hin => Nat.lt_irrefl _ (h.fresh _ hin)
      refine ⟨h.pooled, fun b hb => by cases hb; exact ⟨rfl, rfl⟩, h.held, ?_, ?_⟩
      · intro a ha
        simp only [owned, hr, Option.toList_some, Option.toList_none, List.map_cons, List.map_nil,
          List.nil_append, List.singleton_append, List.cons_append, List.mem_cons] at ha
        rcases ha with rfl | ha
        · exact Nat.lt_succ_self _
        · exact Nat.lt_succ_of_lt (h.fresh a (by simpa [owned, hr] using ha))
      · have hd := h.distinct
        simp only [owned, hr, Option.toList_some, Option.toList_none, List.map_cons, List.map_nil,
          List.nil_append, List.singleton_append, List.cons_append] at hnew hd ⊢
        exact List.nodup_cons.mpr ⟨hnew, hd⟩


theorem put_of_cap {st : PoolState} {buf : Slice} (h : buf.cap = st.size) :
    st.put buf = { st with pool := ⟨buf.array, st.size, buf.cap⟩ :: st.pool } := by
  simp [put, h]

theorem complete_inv (st : PoolState) (h : st.Inv) (result : Option ℕ) :
    (st.complete result).Inv := by
  cases hr : st.reading with
  | none => simpa [complete, hr] using h
  | some buf =>
    have hbuf := h.read buf (by simp [hr])
    have hback : ({ st with reading := none } : PoolState).put buf =
        { st with reading := none, pool := ⟨buf.array, st.size, buf.cap⟩ :: st.pool } :=
      put_of_cap hbuf.2
    have hbackInv :
        ({ st with reading := none, pool := ⟨buf.array, st.size, buf.cap⟩ :: st.pool } : PoolState).Inv := by
      refine inv_of_sublist h (.inr ?_) rfl le_rfl ?_ (by simp) h.held
      · simp [owned, hr]
      · simp only [List.mem_cons]
        rintro b (rfl | hb)
        · exact ⟨rfl, hbuf.2⟩
        · exact h.pooled b hb
    cases result with
    | none => simp only [complete, hr, hback]; exact hbackInv
    | some n =>
      simp only [complete, hr]
      split_ifs
      · rw [hback]; exact hbackInv
      · refine inv_of_sublist h (.inr ?_) rfl le_rfl h.pooled (by simp) ?_
        · simp only [owned, hr, Option.toList_some, Option.toList_none, List.map_cons, List.map_nil,
            List.nil_append, List.filterMap_append, List.filterMap_cons, List.filterMap_nil,
            Option.map_some', List.singleton_append, List.cons_append]
          refine List.perm_append_comm.trans ?_
          rw [List.append_assoc, List.singleton_append]
          exact List.perm_middle.trans (List.Perm.cons _ List.perm_append_comm)
        · simp only [List.mem_append, List.mem_singleton]
          rintro d (hd | rfl)
          · exact h.held d hd
          · rintro data hdata; cases hdata; exact hbuf.2

theorem release_inv (st : PoolState) (h : st.Inv) (i : ℕ) : (st.release i).Inv := by
  cases hi : st.requests[i]? with
  | none => simpa [release, hi] using h
  | some d =>
    cases d with
    | none => simpa [release, hi] using h
    | some data =>
      have hcap : data.cap = st.size := h.held _ (List.getElem?_mem hi) data rfl
      simp only [release, hi, put_of_cap (show (⟨data.array, data.cap, data.cap⟩ : Slice).cap =
        st.size from hcap)]
      refine inv_of_sublist h (.inr ?_) rfl le_rfl ?_ h.read ?_
      · simp only [owned, List.map_cons, List.cons_append, List.append_assoc]
        exact List.Perm.append_left _
          (List.perm_middle.symm.trans (List.Perm.append_left _ (perm_filterMap_set_none hi)))
      · simp only [List.mem_cons]
        rintro b (rfl | hb)
        · exact ⟨rfl, hcap⟩
        · exact h.pooled b hb
      · intro d hd
        rcases List.mem_or_eq_of_mem_set hd with hd | rfl
        · exact h.held d hd
        · intro data hdata; cases hdata

theorem collect_inv (st : PoolState) (h : st.Inv) (i : ℕ) : (st.collect i).Inv := by
  cases hp : st.pool[i]? with
  | none => simpa [collect, hp] using h
  | some buf =>
    simp only [collect, hp]
    refine inv_of_sublist h (.inl ?_) rfl le_rfl (fun b hb => h.pooled b (List.mem_of_mem_erase hb))
      h.read h.held
    exact (((List.erase_sublist buf st.pool).map Slice.array).append_left _).append_right _

theorem step_inv (st : PoolState) (h : st.Inv) : ∀ op, (st.step op).Inv
  | .fetch pick => st.fetch_inv h pick
  | .complete result => st.complete_inv h result
  | .release i => st.release_inv h i
  | .collect i => st.collect_inv h i

theorem step_size (st : PoolState) (op : PoolOp) : (st.step op).size = st.size := by
  cases op with
  | fetch pick =>
    simp only [step, fetch]; split
    · rfl
    · cases hp : st.pool[pick]? <;> simp [get, hp]
  | complete result =>
    simp only [step, complete]; split
    · rfl
    · cases result <;> simp only [put] <;> split_ifs <;> rfl
  | release i => simp only [step, release, put]; split <;> (try split_ifs) <;> rfl
  | collect i => simp only [step, collect]; split <;> rfl

theorem run_inv (st : PoolState) (h : st.Inv) (ops : List PoolOp) : (st.run ops).Inv := by
  induction ops generalizing st with
  | nil => exact h
  | cons op ops ih => exact ih _ (st.step_inv h op)

theorem run_size (st : PoolState) (ops : List PoolOp) : (st.run ops).size = st.size := by
  induction ops generalizing st with
  | nil => rfl
  | cons op ops ih => exact (ih _).trans (st.step_size op)

/-- The first release of a request puts its buffer back with the pool's size. -/
theorem release_pool {st : PoolState} (h : st.Inv) {i : ℕ} {data : Slice}
    (hi : st.requests[i]? = some (some data)) :
    (st.release i).pool = ⟨data.array, st.size, st.size⟩ :: st.pool := by
  have hcap : data.cap = st.size := h.held _ (List.getElem?_mem hi) data rfl
  simp [release, hi, put, hcap]

/-- A second release of a request changes nothing. -/
theorem release_release (st : PoolState) (i : ℕ) : (st.release i).release i = st.release i := by
  cases hi : st.requests[i]? with
  | none => simp [release, hi]
  | some d =>
    cases d with
    | none => simp [release, hi]
    | some data =>
      have hlt : i < st.requests.length := (List.getElem?_eq_some_iff.mp hi).1
      simp [release, hi, put, List.getElem?_set, hlt]

end PoolState

theorem mountPool_inv (o : MountOptions) : (mountPool o).Inv :=
  ⟨by simp [mountPool], by simp [mountPool], by simp [mountPool], by simp [mountPool,
    PoolState.owned], by simp [mountPool, PoolState.owned]⟩

/-! ### The size against `max_write` -/

/-- The `max_write` the kernel reads from an INIT reply frame. -/
def initMaxWrite (f : List UInt8) : UInt32 := getU32 f (outHeaderSize + 20)

theorem initMaxWrite_responseBytes (req : Request) (out : InitOut) :
    initMaxWrite (responseBytes req (initOutBytes out)) = out.maxWrite := by
  simp [initMaxWrite, responseBytes, initOutBytes, List.append_assoc, getU32_append_of_le,
    outHeaderSize]

/-- Every frame `handleInit` writes advertises 0 (the version mismatch reply) or the server's
`MaxWrite`. -/
theorem handleInit_maxWrite {fs : Filesystem} {s : Server} {req : Request} {r : Reply}
    (h : handleInit fs s req = some r) :
    ∀ f ∈ frames r.events, initMaxWrite f = 0 ∨ initMaxWrite f = s.opts.maxWrite := by
  unfold handleInit at h
  cases hb : req.body InitIn.decode with
  | none => simp only [hb, Option.bind_eq_bind, Option.none_bind, reduceCtorEq] at h
  | some inp =>
    simp only [hb, Option.bind_eq_bind, Option.some_bind] at h
    split_ifs at h
    · cases h; simp [initMaxWrite_responseBytes]
    · cases h; simp
    all_goals split at h <;> cases h <;> simp [initMaxWrite_responseBytes]

theorem mountPool_size (o : MountOptions) {w : UInt32} (hw : w = 0 ∨ w = o.withDefaults.maxWrite) :
    max minBufferSize (80 + max 4096 w.toNat) ≤ (mountPool o).size := by
  have : w.toNat = 0 ∨ w.toNat = o.withDefaults.maxWrite.toNat := by
    rcases hw with rfl | rfl <;> simp
  simp only [mountPool, newBufferPool, minBufferSize, inHeaderSize]
  split_ifs <;> omega

/-- Over every run of the pool `Mount` makes: every buffer a read uses has the pool's size, which
covers any advertised `max_write`; no array has two owners; a buffer goes back once. -/
theorem pool_buffers_sound (o : MountOptions) (ops : List PoolOp) :
    let st := (mountPool o).run ops
    (∀ buf ∈ st.reading, buf.len = st.size) ∧ (∀ pick, (st.get pick).1.len = st.size) ∧
    (∀ fs s req r, s.opts = o.withDefaults → handleInit fs s req = some r →
      ∀ f ∈ frames r.events, max minBufferSize (80 + max 4096 (initMaxWrite f).toNat) ≤ st.size) ∧
    st.owned.Nodup ∧
    (∀ i data, st.requests[i]? = some (some data) →
      (st.release i).pool = ⟨data.array, st.size, st.size⟩ :: st.pool ∧
      (st.release i).release i = st.release i) := by
  intro st
  have hinv : st.Inv := (mountPool o).run_inv (mountPool_inv o) ops
  have hsize : st.size = (mountPool o).size := (mountPool o).run_size ops
  refine ⟨fun buf hb => (hinv.read buf hb).1, fun pick => (st.get_fst hinv pick).1, ?_, hinv.distinct,
    fun i data hi => ⟨PoolState.release_pool hinv hi, st.release_release i⟩⟩
  intro fs s req r hs hinit f hf
  rw [hsize]
  exact mountPool_size o (hs ▸ handleInit_maxWrite hinit f hf)

end Rofuse

