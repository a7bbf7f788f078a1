import Rofuse.Forget
import Rofuse.Init

/-! The server state over a session: `Serve` hands every request to its own goroutine, and the
handlers share the `Server`. Only `handleInit` and `handleDestroy` write it, and the only field
any handler reads is `s.opts`, which none writes. So a request writes and calls the same
whatever was served before it (`serveAll_effect`), the version stored is none or 7 with a minor
in `[26, 41]` (`serveAll_negotiated`), and the effects of two requests commute unless both
negotiate. Over a filesystem whose answers do not depend on earlier calls and whose state does
not depend on their order, a set of requests with at most one `INIT` ends alike in every
order (`StatefulFilesystem.serveAll_perm`). -/

namespace Rofuse

open Proto

/-! ### Effects -/

/-- A minor version `handleInit` may store: `min(kernel minor, 41)` for a kernel of minor at
least 26. -/
def SupportedMinor : Type := { m : UInt32 // 26 ≤ m.toNat ∧ m.toNat ≤ 41 }

/-- What serving one request does to the server state. -/
inductive Effect
  | keep
  | destroy
  /-- The version and `Config` stored by `handleInit`; `ok` is `Init` returning nil. -/
  | negotiate (minor : SupportedMinor) (config : Config) (ok : Bool)

namespace Effect

def apply : Effect → Server → Server
  | keep, s => s
  | destroy, s => { s with destroyed := true }
  | negotiate minor config ok, s =>
    { s with protoMajor := fuseKernelVersion, protoMinor := minor.1, config := some config,
             initialized := s.initialized || ok }

/-- The effects of a run, applied in order. -/
def applyAll (es : List Effect) (s : Server) : Server := es.foldl (fun s e => e.apply s) s

@[simp] theorem apply_opts (e : Effect) (s : Server) : (e.apply s).opts = s.opts := by
  cases e <;> rfl

@[simp] theorem applyAll_nil (s : Server) : applyAll [] s = s := rfl

@[simp] theorem applyAll_cons (e : Effect) (es : List Effect) (s : Server) :
    applyAll (e :: es) s = applyAll es (e.apply s) := rfl

@[simp] theorem applyAll_opts (es : List Effect) (s : Server) : (applyAll es s).opts = s.opts := by
  induction es generalizing s with
  | nil => rfl
  | cons e es ih => rw [applyAll_cons, ih, apply_opts]

def IsNegotiate : Effect → Bool
  | negotiate .. => true
  | _ => false

/-- Two updates commute unless both store a version: `INIT` and `DESTROY` write disjoint
fields, and `DESTROY` is idempotent. -/
theorem apply_comm (e₁ e₂ : Effect) (h : ¬(e₁.IsNegotiate ∧ e₂.IsNegotiate)) (s : Server) :
    e₁.apply (e₂.apply s) = e₂.apply (e₁.apply s) := by
  cases e₁ <;> cases e₂ <;> simp_all [apply, IsNegotiate]

end Effect

/-- `initConfig` reads the server only through its options. -/
theorem initConfig_opts {s t : Server} (h : t.opts = s.opts) (inp : InitIn) :
    initConfig t inp = initConfig s inp := by
  simp only [initConfig, h]

/-- What serving `req` does to the server: `FUSE_INIT` past the version checks stores the version
and `Config`, `FUSE_DESTROY` marks it destroyed, and every other request leaves it. -/
def effect (fs : Filesystem) (opts : MountOptions) (req : Request) : Effect :=
  if req.header.opcode = opInit then
    match req.body InitIn.decode with
    | some inp =>
      if h : inp.major = fuseKernelVersion ∧ ¬inp.minor < minSupportedMinor then
        let r := fs.init (newContext req) (initConfig { opts } inp)
        .negotiate ⟨(initConfig { opts } inp).protoMinor,
          initConfig_protoMinor { opts } inp ▸ min_minor_mem (UInt32.not_lt.mp h.2)⟩
          r.1 r.2.isNone
      else .keep
    | none => .keep
  else if req.header.opcode = opDestroy then .destroy else .keep

/-- Only `FUSE_INIT` stores a version. -/
theorem effect_isNegotiate {fs : Filesystem} {opts : MountOptions} {req : Request}
    (h : (effect fs opts req).IsNegotiate) : req.header.opcode = opInit := by
  unfold effect at h
  split_ifs at h with hop
  · exact hop
  all_goals simp [Effect.IsNegotiate] at h

/-! ### The handlers that leave the state -/

/-- A handler that neither reads nor writes the server state: run on `t`, it does what it does
on `s`, and leaves `t`. -/
def Stateless (h : Handler) : Prop :=
  ∀ fs s t req, h fs t req = (h fs s req).map fun r => { r with server := t }

theorem answer_stateless {α : Type} (s t : Server) (req : Request) (c : Call)
    (res : Option α × Option GoError) (payload : α → List UInt8) :
    answer t req c res payload = (answer s req c res payload).map fun r => { r with server := t } := by
  rcases res with ⟨_ | _, _ | _⟩ <;> rfl

theorem handleLookup_stateless : Stateless handleLookup := fun _ s t _ => answer_stateless s t ..

theorem handleReadlink_stateless : Stateless handleReadlink := fun _ s t _ => answer_stateless s t ..

theorem handleStatfs_stateless : Stateless handleStatfs := fun _ s t _ => answer_stateless s t ..

theorem handleFlush_stateless : Stateless handleFlush := fun _ _ _ _ => rfl

theorem handleInterrupt_stateless : Stateless handleInterrupt := fun _ _ _ _ => rfl

theorem handleForget_stateless : Stateless handleForget := fun _ _ _ req => by
  unfold handleForget
  cases req.body ForgetIn.decode <;> rfl

theorem handleBatchForget_stateless : Stateless handleBatchForget := fun _ _ _ req => by
  dsimp only [handleBatchForget]
  split_ifs
  · rfl
  · cases req.body BatchForgetIn.decode <;> rfl

/-- A handler that reads its record through `req.body()` and ends in `answer`. -/
theorem body_answer_stateless {β α : Type} (decode : List UInt8 → β)
    (c : Filesystem → Request → β → Call) (res : Filesystem → Request → β → Option α × Option GoError)
    (payload : β → α → List UInt8) :
    Stateless fun fs s req => (req.body decode).bind fun inp =>
      answer s req (c fs req inp) (res fs req inp) (payload inp) := fun _ s t req => by
  dsimp only
  cases req.body decode with
  | none => rfl
  | some inp => exact answer_stateless s t ..

theorem handleGetattr_stateless : Stateless handleGetattr :=
  body_answer_stateless GetAttrIn.decode _ _ _

theorem openHandler_stateless (call : Context → Inode → UInt32 → Call)
    (callback : Filesystem → Context → Inode → UInt32 → Option OpenResponse × Option GoError) :
    Stateless (openHandler call callback) :=
  body_answer_stateless OpenIn.decode _ _ _

theorem readHandler_stateless {β : Type} (call : Context → Inode → FileHandle → ℤ → UInt32 → Call)
    (callback : Filesystem → Context → Inode → FileHandle → ℤ → UInt32 → β × Option GoError)
    (encode : β → UInt32 → List UInt8) : Stateless (readHandler call callback encode) :=
  body_answer_stateless ReadIn.decode _ _ _

theorem releaseHandler_stateless (call : Context → Inode → FileHandle → Call)
    (callback : Filesystem → Context → Inode → FileHandle → Option GoError) :
    Stateless (releaseHandler call callback) :=
  body_answer_stateless ReleaseIn.decode _ _ _

theorem handleAccess_stateless : Stateless handleAccess :=
  body_answer_stateless AccessIn.decode _ _ _

/-! ### The two handlers that write the state -/

theorem handleDestroy_effect (fs : Filesystem) (s t : Server) (req : Request) :
    handleDestroy fs t req =
      (handleDestroy fs s req).map fun r => { r with server := Effect.destroy.apply t } := rfl

theorem handleInit_effect (fs : Filesystem) {s t : Server} (req : Request) (hst : t.opts = s.opts)
    (hop : req.header.opcode = opInit) :
    handleInit fs t req =
      (handleInit fs s req).map fun r => { r with server := (effect fs s.opts req).apply t } := by
  simp only [effect, if_pos hop]
  cases hb : req.body InitIn.decode with
  | none => simp only [handleInit, hb, Option.bind_eq_bind, Option.none_bind, Option.map_none']
  | some inp =>
    simp only [hb]
    by_cases hmaj : inp.major = fuseKernelVersion
    swap
    · rw [dif_neg fun h => hmaj h.1, handleInit_mismatch hb hmaj, handleInit_mismatch hb hmaj]; rfl
    by_cases hmin : inp.minor < minSupportedMinor
    · rw [dif_neg fun h => h.2 hmin, handleInit_old_minor hb hmaj hmin,
        handleInit_old_minor hb hmaj hmin]; rfl
    rw [dif_pos ⟨hmaj, hmin⟩]
    simp only [handleInit, hb, hst, hmaj, hmin, initConfig, Option.bind_eq_bind, Option.some_bind,
      ne_eq, not_true_eq_false, if_false]
    split <;> rename_i h <;> simp [Effect.apply, h, hst]

/-! ### One request -/

theorem effect_keep {fs : Filesystem} {opts : MountOptions} {req : Request}
    (hi : req.header.opcode ≠ opInit) (hd : req.header.opcode ≠ opDestroy) :
    effect fs opts req = .keep := by
  simp [effect, hi, hd]

theorem Stateless.effect {h : Handler} (hh : Stateless h) {fs : Filesystem} {s t : Server}
    {req : Request} (hi : req.header.opcode ≠ opInit) (hd : req.header.opcode ≠ opDestroy) :
    h fs t req = (h fs s req).map fun r => { r with server := (Rofuse.effect fs s.opts req).apply t } := by
  rw [effect_keep hi hd]; exact hh fs s t req

/-- Every handler of the table leaves the state as the request's effect says. -/
theorem handlers_effect {h : Handler} {fs : Filesystem} {s t : Server} {req : Request}
    (hl : handlers.lookup req.header.opcode = some h) (hst : t.opts = s.opts) :
    h fs t req = (h fs s req).map fun r => { r with server := (effect fs s.opts req).apply t } := by
  obtain ⟨l₁, l₂, hsplit, -⟩ := List.lookup_eq_some_iff.mp hl
  have hmem : (req.header.opcode, h) ∈ handlers := hsplit ▸ by simp
  simp only [handlers, List.mem_cons, Prod.mk.injEq, List.mem_nil_iff, or_false] at hmem
  rcases hmem with ⟨hop, rfl⟩ | ⟨hop, rfl⟩ | ⟨hop, rfl⟩ | ⟨hop, rfl⟩ | ⟨hop, rfl⟩ | ⟨hop, rfl⟩ |
    ⟨hop, rfl⟩ | ⟨hop, rfl⟩ | ⟨hop, rfl⟩ | ⟨hop, rfl⟩ | ⟨hop, rfl⟩ | ⟨hop, rfl⟩ | ⟨hop, rfl⟩ |
    ⟨hop, rfl⟩ | ⟨hop, rfl⟩ | ⟨hop, rfl⟩ | ⟨hop, rfl⟩ | ⟨hop, rfl⟩
  · exact handleInit_effect fs req hst hop
  · rw [show effect fs s.opts req = .destroy by
      rw [effect, if_neg (by rw [hop]; decide), if_pos hop]]
    exact handleDestroy_effect fs s t req
  all_goals refine Stateless.effect ?_ (by rw [hop]; decide) (by rw [hop]; decide)
  exacts [handleLookup_stateless, handleForget_stateless, handleBatchForget_stateless,
    handleGetattr_stateless, handleReadlink_stateless, openHandler_stateless _ _,
    readHandler_stateless _ _ _, releaseHandler_stateless _ _, openHandler_stateless _ _,
    readHandler_stateless _ _ _, readHandler_stateless _ _ _, releaseHandler_stateless _ _,
    handleStatfs_stateless, handleAccess_stateless, handleFlush_stateless,
    handleInterrupt_stateless]

/-- One request: served on `t`, it writes and calls what it does on `s`, panics exactly when it
panics there, and leaves `t` updated by its effect, for every `t` with the options of `s`. -/
theorem handleRequest_effect (fs : Filesystem) {s t : Server} (req : Request)
    (hst : t.opts = s.opts) :
    handleRequest fs t req =
      (handleRequest fs s req).map fun p => ((effect fs s.opts req).apply t, p.2) := by
  unfold handleRequest
  cases hw : isWriteOp req.header.opcode
  case true =>
    have hi : req.header.opcode ≠ opInit := fun h => absurd (h ▸ hw) (by decide)
    have hd : req.header.opcode ≠ opDestroy := fun h => absurd (h ▸ hw) (by decide)
    simp [hw, effect_keep hi hd, Effect.apply]
  simp only [hw, Bool.false_eq_true, if_false]
  cases hl : handlers.lookup req.header.opcode with
  | none =>
    have hi : req.header.opcode ≠ opInit := fun h => by
      rw [h] at hl; exact nomatch hl.symm.trans (rfl : handlers.lookup opInit = some handleInit)
    have hd : req.header.opcode ≠ opDestroy := fun h => by
      rw [h] at hl; exact nomatch hl.symm.trans (rfl : handlers.lookup opDestroy = some handleDestroy)
    simp [effect_keep hi hd, Effect.apply]
  | some h =>
    dsimp only
    rw [handlers_effect hl hst, Option.map_map, Option.map_map]
    congr 1
    funext r
    rcases r with ⟨_, _, _ | _⟩ <;> rfl

theorem handleRequest_state {fs : Filesystem} {s s' : Server} {req : Request} {evs : List Event}
    (h : handleRequest fs s req = some (s', evs)) : s' = (effect fs s.opts req).apply s := by
  have := handleRequest_effect fs req (rfl : s.opts = s.opts)
  rw [h] at this
  exact (Prod.mk.inj (Option.some.inj this)).1

/-! ### Runs -/

/-- A run on `t` writes and calls what the same run does on `s`, for every `t` with the options
of `s`, and ends in `t` updated by the effects of the requests in order. -/
theorem serveAll_effect (fs : Filesystem) {s t : Server} (reqs : List Request)
    (hst : t.opts = s.opts) :
    serveAll fs t reqs = (serveAll fs s reqs).map fun p =>
      (Effect.applyAll (reqs.map (effect fs s.opts)) t, p.2) := by
  induction reqs generalizing s t with
  | nil => rfl
  | cons req reqs ih =>
    simp only [serveAll, handleRequest_effect fs req hst]
    cases h : handleRequest fs s req with
    | none => rfl
    | some p =>
      obtain ⟨s₁, es⟩ := p
      have hs₁ := handleRequest_state h
      have ht₁ : ((effect fs s.opts req).apply t).opts = s₁.opts := by simp [hs₁, hst]
      simp only [Option.map_some', Option.some_bind, ih ht₁, Option.map_map, List.map_cons,
        Effect.applyAll_cons, hs₁, Effect.apply_opts]
      rfl

/-- A `READ` served by a server that has been destroyed: what it writes and calls is what a fresh
server does. -/
theorem serveAll_effect_after_destroy :
    ({ mountServer {} with destroyed := true } : Server).opts = (mountServer {}).opts ∧
    serveAll (blankDirectory 0) { mountServer {} with destroyed := true }
        [readFrame opRead 1 1 ⟨0, 0, 4096⟩] =
      (serveAll (blankDirectory 0) (mountServer {}) [readFrame opRead 1 1 ⟨0, 0, 4096⟩]).map
        fun p => (Effect.applyAll ([readFrame opRead 1 1 ⟨0, 0, 4096⟩].map
          (effect (blankDirectory 0) (mountServer {}).opts)) { mountServer {} with destroyed := true },
          p.2) :=
  ⟨rfl, serveAll_effect _ _ rfl⟩

theorem serveAll_state {fs : Filesystem} {s : Server} {reqs : List Request} {p : Server × List Event}
    (h : p ∈ serveAll fs s reqs) : p.1 = Effect.applyAll (reqs.map (effect fs s.opts)) s := by
  have := serveAll_effect fs reqs (rfl : s.opts = s.opts)
  rw [Option.mem_def.mp h] at this
  exact (Prod.mk.inj (Option.some.inj this)).1.trans rfl

/-! ### The version stored -/

/-- The version on the connection: none, or 7 with a minor in `[26, 41]` and a `Config`; the
server is initialized only with one. -/
def Negotiated (s : Server) : Prop :=
  (s.protoMajor = 0 ∧ s.protoMinor = 0 ∧ s.config = none ∧ s.initialized = false) ∨
  (s.protoMajor = fuseKernelVersion ∧ 26 ≤ s.protoMinor.toNat ∧ s.protoMinor.toNat ≤ 41 ∧
    s.config.isSome)

theorem negotiated_mountServer (o : MountOptions) : Negotiated (mountServer o) :=
  .inl ⟨rfl, rfl, rfl, rfl⟩

theorem Negotiated.apply {s : Server} (hs : Negotiated s) (e : Effect) : Negotiated (e.apply s) := by
  cases e with
  | keep => exact hs
  | destroy => exact hs
  | negotiate m _ _ => exact .inr ⟨rfl, m.2.1, m.2.2, rfl⟩

theorem Negotiated.applyAll {s : Server} (hs : Negotiated s) (es : List Effect) :
    Negotiated (Effect.applyAll es s) := by
  induction es generalizing s with
  | nil => exact hs
  | cons e es ih => exact ih (hs.apply e)

/-- Over every run from a server whose version is none or negotiated, it stays so however many
`INIT` requests come, and the options are never written. -/
theorem serveAll_negotiated (fs : Filesystem) {s : Server} (hs : Negotiated s) (reqs : List Request) :
    ∀ p ∈ serveAll fs s reqs, Negotiated p.1 ∧ p.1.opts = s.opts := by
  intro p hp
  rw [serveAll_state hp]
  exact ⟨hs.applyAll _, Effect.applyAll_opts _ _⟩

/-- The server `Mount` makes, after a `FUSE_INIT` from a 7.41 kernel. -/
theorem serveAll_negotiated_mount :
    Negotiated (mountServer {}) ∧
    ∀ p ∈ serveAll (blankDirectory 0) (mountServer {}) [initFrame 1 ⟨7, 41, 131072, 0⟩],
      Negotiated p.1 ∧ p.1.opts = (mountServer {}).opts :=
  ⟨negotiated_mountServer {}, serveAll_negotiated _ (negotiated_mountServer {}) _⟩

/-! ### Order -/

/-- Two outcomes of a run that agree: both panicked, or both returned the same state and the
same events up to order. -/
def SameOutcome (o₁ o₂ : Option (Server × List Event)) : Prop :=
  Option.Rel (fun p q => p.1 = q.1 ∧ p.2.Perm q.2) o₁ o₂

theorem SameOutcome.refl (o : Option (Server × List Event)) : SameOutcome o o := by
  cases o
  · exact .none
  · exact .some ⟨rfl, .refl _⟩

theorem SameOutcome.trans {o₁ o₂ o₃ : Option (Server × List Event)} (h₁₂ : SameOutcome o₁ o₂)
    (h₂₃ : SameOutcome o₂ o₃) : SameOutcome o₁ o₃ := by
  cases h₁₂ with
  | none => exact h₂₃
  | some h => cases h₂₃ with
    | some h' => exact .some ⟨h.1.trans h'.1, h.2.trans h'.2⟩

/-- Events written before a run keep two agreeing outcomes agreeing. -/
theorem SameOutcome.prepend {o₁ o₂ : Option (Server × List Event)} (es : List Event)
    (h : SameOutcome o₁ o₂) :
    SameOutcome (o₁.map fun q => (q.1, es ++ q.2)) (o₂.map fun q => (q.1, es ++ q.2)) := by
  cases h with
  | none => exact .none
  | some h => exact .some ⟨h.1, h.2.append_left es⟩

/-- Two requests served one after the other: each writes what it writes alone, and the state
after both is the second effect applied over the first. -/
theorem serveAll_cons_cons (fs : Filesystem) (s : Server) (a b : Request) (l : List Request) :
    serveAll fs s (a :: b :: l) = (handleRequest fs s a).bind fun pa =>
      (handleRequest fs s b).bind fun pb =>
        (serveAll fs ((effect fs s.opts b).apply ((effect fs s.opts a).apply s)) l).map
          fun q => (q.1, pa.2 ++ (pb.2 ++ q.2)) := by
  simp only [serveAll]
  cases ha : handleRequest fs s a with
  | none => rfl
  | some pa =>
    obtain ⟨s₁, ea⟩ := pa
    have hs₁ := handleRequest_state ha
    rw [Option.some_bind, Option.some_bind,
      handleRequest_effect fs b (show s₁.opts = s.opts by simp [hs₁])]
    cases handleRequest fs s b with
    | none => rfl
    | some pb =>
      simp only [Option.map_some', Option.some_bind, Option.map_map, hs₁, Effect.apply_opts]
      rfl

/-- Whether a request is a `FUSE_INIT`. -/
def isInit (req : Request) : Bool := req.header.opcode == opInit

/-- Over a filesystem without state, a set of requests of which at most one is a `FUSE_INIT`
ends in the same state with the same events up to order, or panics, in every order. -/
theorem serveAll_sameOutcome (fs : Filesystem) (s : Server) {l₁ l₂ : List Request} (hperm : l₁.Perm l₂)
    (hinit : l₁.countP isInit ≤ 1) : SameOutcome (serveAll fs s l₂) (serveAll fs s l₁) := by
  induction hperm generalizing s with
  | nil => exact .refl _
  | @cons x t₁ _ _ ih =>
    simp only [serveAll]
    cases handleRequest fs s x with
    | none => exact .none
    | some p =>
      have : t₁.countP isInit ≤ 1 := by rw [List.countP_cons] at hinit; split at hinit <;> omega
      exact (ih p.1 this).prepend p.2
  | swap x y l =>
    have hne : ¬((effect fs s.opts x).IsNegotiate ∧ (effect fs s.opts y).IsNegotiate) :=
      fun ⟨hx, hy⟩ => by
        simp [List.countP_cons, isInit, effect_isNegotiate hx, effect_isNegotiate hy] at hinit
    rw [serveAll_cons_cons, serveAll_cons_cons, Effect.apply_comm _ _ hne]
    cases handleRequest fs s x with
    | none => cases handleRequest fs s y <;> exact .none
    | some px =>
      cases handleRequest fs s y with
      | none => exact .none
      | some py =>
        cases serveAll fs ((effect fs s.opts y).apply ((effect fs s.opts x).apply s)) l with
        | none => exact .none
        | some q => exact .some ⟨rfl, List.perm_append_comm_assoc ..⟩
  | trans h₁₂ _ ih₁₂ ih₂₃ =>
    exact (ih₂₃ s ((h₁₂.countP_eq _).symm ▸ hinit)).trans (ih₁₂ s hinit)

/-! ### A filesystem with state -/

namespace StatefulFilesystem

variable {σ : Type}

/-- `Serve` over a filesystem with state: each request is served by the filesystem of the state
it finds, and its callbacks move that state. -/
def serveAll (F : StatefulFilesystem σ) : σ → Server → List Request → Option (σ × Server × List Event)
  | q, s, [] => some (q, s, [])
  | q, s, req :: reqs => (handleRequest (F.fs q) s req).bind fun (s', es) =>
    (serveAll F ((calls es).foldl F.next q) s' reqs).map fun (q', s'', es') => (q', s'', es ++ es')

section Independent

variable {F : StatefulFilesystem σ} (hind : ∀ q c, F.fs (F.next q c) = F.fs q)
include hind

theorem fs_foldl_next (cs : List Call) (q : σ) : F.fs (cs.foldl F.next q) = F.fs q := by
  induction cs generalizing q with
  | nil => rfl
  | cons c cs ih => rw [List.foldl_cons, ih, hind]

/-- When no answer depends on the calls made before it, a run is the run over the filesystem
of the first state, and ends in the state its callbacks lead to. -/
theorem serveAll_eq (q : σ) (s : Server) (reqs : List Request) :
    F.serveAll q s reqs =
      (Rofuse.serveAll (F.fs q) s reqs).map fun p => ((calls p.2).foldl F.next q, p.1, p.2) := by
  induction reqs generalizing q s with
  | nil => rfl
  | cons req reqs ih =>
    simp only [serveAll, Rofuse.serveAll]
    cases handleRequest (F.fs q) s req with
    | none => rfl
    | some p =>
      simp only [Option.some_bind, ih, fs_foldl_next hind, Option.map_map]
      congr 1
      funext r
      simp [List.foldl_append]

/-- Over a filesystem whose answers do not depend on earlier calls and whose state does not depend
on their order, requests with at most one `FUSE_INIT` end alike in every order. -/
theorem serveAll_perm (hcomm : ∀ q c₁ c₂, F.next (F.next q c₁) c₂ = F.next (F.next q c₂) c₁)
    (q : σ) (s : Server) {l₁ l₂ : List Request} (hperm : l₁.Perm l₂) (hinit : l₁.countP isInit ≤ 1) :
    Option.Rel (fun a b => a.1 = b.1 ∧ a.2.1 = b.2.1 ∧ a.2.2.Perm b.2.2)
      (F.serveAll q s l₂) (F.serveAll q s l₁) := by
  rw [serveAll_eq hind, serveAll_eq hind]
  have h := serveAll_sameOutcome (F.fs q) s hperm hinit
  revert h
  generalize Rofuse.serveAll (F.fs q) s l₂ = o₂
  generalize Rofuse.serveAll (F.fs q) s l₁ = o₁
  rintro (⟨⟨hs, he⟩⟩ | _)
  · exact .some ⟨(he.filterMap _).foldl_eq' (fun c _ c' _ q => hcomm q c c') q, hs, he⟩
  · exact .none

end Independent

/-- A filesystem that counts the callbacks made on it and answers as `blankDirectory n`. -/
def countingDirectory (n : ℕ) : StatefulFilesystem ℕ := ⟨fun _ => blankDirectory n, fun k _ => k + 1⟩

/-- A `FUSE_INIT` and a `READ` served in either order by a filesystem that counts its calls. -/
theorem serveAll_perm_counting :
    (∀ q c, (countingDirectory 0).fs ((countingDirectory 0).next q c) = (countingDirectory 0).fs q) ∧
    (∀ q c₁ c₂, (countingDirectory 0).next ((countingDirectory 0).next q c₁) c₂ =
      (countingDirectory 0).next ((countingDirectory 0).next q c₂) c₁) ∧
    [initFrame 1 ⟨7, 41, 131072, 0⟩, readFrame opRead 2 1 ⟨0, 0, 4096⟩].Perm
      [readFrame opRead 2 1 ⟨0, 0, 4096⟩, initFrame 1 ⟨7, 41, 131072, 0⟩] ∧
    [initFrame 1 ⟨7, 41, 131072, 0⟩, readFrame opRead 2 1 ⟨0, 0, 4096⟩].countP isInit ≤ 1 ∧
    Option.Rel (fun a b => a.1 = b.1 ∧ a.2.1 = b.2.1 ∧ a.2.2.Perm b.2.2)
      ((countingDirectory 0).serveAll 0 (mountServer {})
        [readFrame opRead 2 1 ⟨0, 0, 4096⟩, initFrame 1 ⟨7, 41, 131072, 0⟩])
      ((countingDirectory 0).serveAll 0 (mountServer {})
        [initFrame 1 ⟨7, 41, 131072, 0⟩, readFrame opRead 2 1 ⟨0, 0, 4096⟩]) := by
  have hperm := List.Perm.swap (readFrame opRead 2 1 ⟨0, 0, 4096⟩) (initFrame 1 ⟨7, 41, 131072, 0⟩) []
  have hinit : [initFrame 1 ⟨7, 41, 131072, 0⟩, readFrame opRead 2 1 ⟨0, 0, 4096⟩].countP isInit ≤ 1 := by
    simp [isInit, initFrame, readFrame]; decide
  exact ⟨fun _ _ => rfl, fun _ _ _ => rfl, hperm, hinit,
    serveAll_perm (fun _ _ => rfl) (fun _ _ _ => rfl) _ _ hperm hinit⟩

end StatefulFilesystem

end Rofuse
