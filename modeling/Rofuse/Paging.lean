import Rofuse.Kernel

/-! The kernel's paging loop over a directory. It sends a READDIR (or READDIRPLUS) request at
a cookie, decodes the payload of the one reply, stops at an empty reply, and otherwise sends the
next request at the `off` field of the last record it decoded. `pageDirectory` takes each
payload as it stands; `kernelPageDirectory` takes it only from a reply that `kernelReply`
completes with status 0. A directory served by `listing` returns the entries whose cookie is
past the offset, read back as unsigned. When every cookie is positive and increasing and every
record fits the size, both loops decode every entry once and in order, the checked one when the
fit check does not wrap. A cookie of 0 is never returned, and READDIRPLUS resumes at the
generation. -/

namespace Rofuse

open Proto

/-- The payload of the one frame a request got, when that frame carries no error. -/
def replyPayload (events : List Event) : Option (List UInt8) :=
  match frames events with
  | [f] => if errorField f = 0 then some (f.drop outHeaderSize) else none
  | _ => none

/-- The payload the kernel takes from the one frame a request got: only from a frame that
`kernelReply` accepts and that completes the request of `size` bytes with status 0. -/
def kernelPayload (size : UInt32) (events : List Event) : Option (List UInt8) :=
  match frames events with
  | [f] => if kernelReply size.toNat true f = some 0 then some (f.drop outHeaderSize) else none
  | _ => none

theorem replyPayload_reply (c : Call) (req : Request) (p : List UInt8) :
    replyPayload [.call c, .write (responseBytes req p)] = some p := by
  simp [replyPayload, errorField_responseBytes, drop_responseBytes]

theorem kernelPayload_reply (size : UInt32) (c : Call) {req : Request} {p : List UInt8}
    (hu : req.header.unique ≠ 0) (hp : outHeaderSize + p.length < 2 ^ 32)
    (hsize : p.length ≤ size.toNat) :
    kernelPayload size [.call c, .write (responseBytes req p)] = some p := by
  simp [kernelPayload, kernelReply_responseBytes size.toNat true hp hu, hsize, drop_responseBytes]

/-- The kernel's loop over directory `ino`, open as `fh`, with a fixed size: every request
carries `unique`, and `payloadOf` takes the payload out of the events of its reply. -/
def pageLoop (payloadOf : List Event → Option (List UInt8)) (unique : UInt64) (opcode : UInt32)
    (decode : List UInt8 → Option (List ReplyRecord)) (fs : Filesystem) (ino fh : UInt64)
    (size : UInt32) : ℕ → Server → UInt64 → Option (List ReplyRecord)
  | 0, _, _ => none
  | fuel + 1, s, offset => do
    let (s', events) ← handleRequest fs s (readFrame opcode unique ino ⟨fh, offset, size⟩)
    let payload ← payloadOf events
    if payload = [] then some []
    else do
      let recs ← decode payload
      let last ← recs.getLast?
      (recs ++ ·) <$> pageLoop payloadOf unique opcode decode fs ino fh size fuel s' last.dirent.off

/-- The loop taking every reply's payload as it stands. -/
def pageDirectory (opcode : UInt32) (decode : List UInt8 → Option (List ReplyRecord))
    (fs : Filesystem) (ino fh : UInt64) (size : UInt32) : ℕ → Server → UInt64 →
      Option (List ReplyRecord) :=
  pageLoop replyPayload 0 opcode decode fs ino fh size

/-- The loop with the kernel's checks on every reply: a reply it refuses, or one that completes
the request with an error, ends the loop without a listing. -/
def kernelPageDirectory (unique : UInt64) (opcode : UInt32)
    (decode : List UInt8 → Option (List ReplyRecord)) (fs : Filesystem) (ino fh : UInt64)
    (size : UInt32) : ℕ → Server → UInt64 → Option (List ReplyRecord) :=
  pageLoop (kernelPayload size) unique opcode decode fs ino fh size

section Loop

variable {payloadOf : List Event → Option (List UInt8)} {unique : UInt64} {opcode : UInt32}
  {decode : List UInt8 → Option (List ReplyRecord)} {fs : Filesystem} {ino fh : UInt64}
  {size : UInt32} {s s' : Server} {offset : UInt64} {events : List Event} {p : List UInt8}

theorem pageLoop_empty (fuel : ℕ)
    (h : handleRequest fs s (readFrame opcode unique ino ⟨fh, offset, size⟩) = some (s', events))
    (hpay : payloadOf events = some []) :
    pageLoop payloadOf unique opcode decode fs ino fh size (fuel + 1) s offset = some [] := by
  simp [pageLoop, h, hpay]

theorem pageLoop_step (fuel : ℕ) {recs : List ReplyRecord} {last : ReplyRecord}
    (h : handleRequest fs s (readFrame opcode unique ino ⟨fh, offset, size⟩) = some (s', events))
    (hpay : payloadOf events = some p) (hp : p ≠ []) (hd : decode p = some recs)
    (hl : recs.getLast? = some last) :
    pageLoop payloadOf unique opcode decode fs ino fh size (fuel + 1) s offset =
      (recs ++ ·) <$> pageLoop payloadOf unique opcode decode fs ino fh size fuel s' last.dirent.off := by
  simp [pageLoop, h, hpay, hp, hd, hl]

end Loop

/-! ### A READDIR listing -/

/-- A filesystem serving one directory: `ReadDir(offset)` returns, in order, the entries whose
cookie is past `uint64(offset)`. -/
def listing (dir : List DirEntry) : Filesystem :=
  FilesystemBase.extend (fun _ _ _ => (none, some (.errno enoent)))
    (fun _ _ _ => (none, some (.errno enoent))) (fun _ _ _ _ _ => ([], none))
    (fun _ _ _ offset _ => (dir.filter fun e => uint64OfInt offset < e.offset, none))

/-- The entries of `dir` still to come after cookie `offset`: those before them have cookies up
to `offset`, they have cookies past it. -/
def Remaining (dir rest : List DirEntry) (offset : UInt64) : Prop :=
  ∃ pre, dir = pre ++ rest ∧ (∀ x ∈ pre, x.offset ≤ offset) ∧ ∀ y ∈ rest, offset < y.offset

theorem filter_of_remaining {dir rest : List DirEntry} {offset : UInt64}
    (h : Remaining dir rest offset) : dir.filter (fun e => offset < e.offset) = rest := by
  obtain ⟨pre, rfl, hpre, hrest⟩ := h
  rw [List.filter_append, List.filter_eq_nil_iff.mpr, List.filter_eq_self.mpr, List.nil_append]
  · exact fun y hy => decide_eq_true (hrest y hy)
  · intro x hx
    have := hpre x hx
    rw [u64_le_iff] at this
    simp only [decide_eq_true_eq, u64_lt_iff]
    omega

/-- After a reply that ends with entry `z`, the loop resumes at `z`'s cookie, past which come
the entries the reply left out. -/
theorem remaining_next {dir rest ys : List DirEntry} {z : DirEntry} {offset : UInt64} {k : ℕ}
    (hsorted : dir.Pairwise fun a b => a.offset < b.offset) (h : Remaining dir rest offset)
    (hk : rest.take k = ys ++ [z]) : Remaining dir (rest.drop k) z.offset := by
  obtain ⟨pre, rfl, hpre, hrest⟩ := h
  have hsplit : pre ++ rest = (pre ++ ys) ++ z :: rest.drop k :=
    calc pre ++ rest = pre ++ (rest.take k ++ rest.drop k) := by rw [List.take_append_drop]
      _ = (pre ++ ys) ++ z :: rest.drop k := by rw [hk]; simp
  rw [hsplit] at hsorted ⊢
  obtain ⟨-, hz, hbefore⟩ := List.pairwise_append.mp hsorted
  have hzrest : offset < z.offset :=
    hrest z (List.mem_of_mem_take (hk ▸ List.mem_append_right _ (List.mem_singleton_self z)))
  refine ⟨pre ++ ys ++ [z], by simp, ?_, fun y hy => (List.pairwise_cons.mp hz).1 y hy⟩
  intro x hx
  simp only [List.mem_append, List.mem_singleton] at hx
  rcases hx with (hx | hx) | rfl
  · have := hpre x hx
    rw [u64_le_iff] at this ⊢; rw [u64_lt_iff] at hzrest; omega
  · have := hbefore x (List.mem_append_right _ hx) z (List.mem_cons_self _ _)
    rw [u64_lt_iff] at this; rw [u64_le_iff]; omega
  · exact (u64_le_iff _ _).mpr le_rfl

section Listing

variable {fs : Filesystem} {dir : List DirEntry} {size : UInt32}

theorem mem_of_remaining {rest : List DirEntry} {offset : UInt64} (h : Remaining dir rest offset)
    {e : DirEntry} (he : e ∈ rest) : e ∈ dir := by
  obtain ⟨pre, rfl, -, -⟩ := h
  exact List.mem_append_right _ he

/-- One request of the loop: the filesystem hands back the entries still to come, and the reply
is their serialization. -/
theorem handleRequest_listing
    (hfs : ∀ ctx ino fh offset size, fs.readDir ctx ino fh offset size =
      (dir.filter fun e => uint64OfInt offset < e.offset, none))
    (s : Server) (unique ino fh offset : UInt64) (size : UInt32) {rest : List DirEntry}
    (h : Remaining dir rest offset) :
    handleRequest fs s (readFrame opReaddir unique ino ⟨fh, offset, size⟩) =
      some (s, [.call (.readDir (newContext (readFrame opReaddir unique ino ⟨fh, offset, size⟩)) ino
          fh (int64 offset) size),
        .write (responseBytes (readFrame opReaddir unique ino ⟨fh, offset, size⟩)
          (serializeDirents rest size))]) :=
  handleRequest_readFrame rfl rfl (by rw [hfs, uint64OfInt_int64, filter_of_remaining h])

/-- The loop over a listing, for a way of taking the payload that takes every payload `P`
holds of, and `P` holding of every reply the listing serves. -/
theorem pageLoop_listing {payloadOf : List Event → Option (List UInt8)} {unique : UInt64}
    {P : List UInt8 → Prop}
    (hpay : ∀ (req : Request) c p, req.header.unique = unique → P p →
      payloadOf [.call c, .write (responseBytes req p)] = some p)
    (hP : ∀ rest : List DirEntry, (∀ e ∈ rest, e ∈ dir) → P (serializeDirents rest size))
    (hfs : ∀ ctx ino fh offset size, fs.readDir ctx ino fh offset size =
      (dir.filter fun e => uint64OfInt offset < e.offset, none))
    (hsorted : dir.Pairwise fun a b => a.offset < b.offset)
    (hfit : ∀ e ∈ dir, pad8 (direntSize + e.name.length) ≤ size.toNat) (ino fh : UInt64)
    (fuel : ℕ) : ∀ (s : Server) (offset : UInt64) (rest : List DirEntry),
      Remaining dir rest offset → rest.length < fuel →
      pageLoop payloadOf unique opReaddir decodeDirents fs ino fh size fuel s offset =
        some (rest.map DirEntry.replyRecord) := by
  induction fuel with
  | zero => intro _ _ _ _ hlt; exact absurd hlt (Nat.not_lt_zero _)
  | succ fuel ih =>
    intro s offset rest h hlt
    have hreq := handleRequest_listing hfs s unique ino fh offset size h
    have hpl := hpay (readFrame opReaddir unique ino ⟨fh, offset, size⟩)
      (.readDir (newContext (readFrame opReaddir unique ino ⟨fh, offset, size⟩)) ino fh
        (int64 offset) size) _ (by simp) (hP rest fun e he => mem_of_remaining h he)
    cases rest with
    | nil => exact pageLoop_empty fuel hreq hpl
    | cons e es =>
      have hnames : ∀ x ∈ dir, x.name.length < 2 ^ 32 := fun x hx => by
        have := hfit x hx; have := le_pad8 (direntSize + x.name.length)
        have := size.toNat_lt_size; unfold UInt32.size direntSize at *; omega
      set k := fitCount direntSize (·.name.length) size (e :: es) 0
      have hk : 0 < k := fitCount_pos size e es (hfit e (mem_of_remaining h (List.mem_cons_self _ _)))
      obtain ⟨ys, z, hyz⟩ : ∃ ys z, (e :: es).take k = ys ++ [z] := by
        rcases List.eq_nil_or_concat ((e :: es).take k) with h0 | ⟨ys, z, hz⟩
        · rcases List.take_eq_nil_iff.mp h0 with h0 | h0
          · omega
          · exact absurd h0 (List.cons_ne_nil _ _)
        · exact ⟨ys, z, by simpa using hz⟩
      have hyzdir : ∀ x ∈ ys ++ [z], x ∈ dir := fun x hx =>
        mem_of_remaining h (List.mem_of_mem_take (hyz ▸ hx))
      have hpay : serializeDirents (e :: es) size = (ys ++ [z]).flatMap direntBytes := by
        rw [serializeDirents_eq, hyz]
      have hne : (ys ++ [z]).flatMap direntBytes ≠ [] := by
        simp [List.flatMap_eq_nil_iff, ← List.length_eq_zero, pad8, direntSize]; omega
      have hlast : ((ys ++ [z]).map DirEntry.replyRecord).getLast? = some z.replyRecord := by simp
      have happ : (ys ++ [z]).map DirEntry.replyRecord ++ ((e :: es).drop k).map DirEntry.replyRecord =
          (e :: es).map DirEntry.replyRecord := by
        rw [← List.map_append, ← hyz, List.take_append_drop]
      rw [hpay] at hpl hreq
      rw [pageLoop_step fuel hreq hpl hne (decodeDirents_flatMap _ fun x hx => hnames x (hyzdir x hx))
        hlast, ih s z.replyRecord.dirent.off _ (remaining_next hsorted h hyz)
          (by simp only [List.length_drop, List.length_cons] at hlt ⊢; omega)]
      exact congrArg some happ

/-- Paging through a READDIR listing with positive increasing cookies, under a size every
record fits, decodes every entry once and in order. -/
theorem readdir_paging_complete (fs : Filesystem) (dir : List DirEntry) (size : UInt32)
    (s : Server) (ino fh : UInt64)
    (hfs : ∀ ctx ino fh offset size, fs.readDir ctx ino fh offset size =
      (dir.filter fun e => uint64OfInt offset < e.offset, none))
    (hsorted : dir.Pairwise fun a b => a.offset < b.offset) (hpos : ∀ e ∈ dir, 0 < e.offset)
    (hfit : ∀ e ∈ dir, pad8 (direntSize + e.name.length) ≤ size.toNat) :
    ∃ fuel, pageDirectory opReaddir decodeDirents fs ino fh size fuel s 0 =
      some (dir.map DirEntry.replyRecord) :=
  ⟨dir.length + 1, pageLoop_listing (P := fun _ => True) (fun _ _ _ _ _ => replyPayload_reply ..)
    (fun _ _ => trivial) hfs hsorted hfit ino fh _ s 0 dir ⟨[], rfl, by simp, hpos⟩
    (Nat.lt_succ_self _)⟩

/-- The loop with the kernel's checks, over the same listing, decodes every entry once and in
order when the requests carry a nonzero `unique` and the fit check does not wrap. -/
theorem kernel_readdir_paging_complete (fs : Filesystem) (dir : List DirEntry) (size : UInt32)
    (s : Server) (unique ino fh : UInt64) (hu : unique ≠ 0)
    (hfs : ∀ ctx ino fh offset size, fs.readDir ctx ino fh offset size =
      (dir.filter fun e => uint64OfInt offset < e.offset, none))
    (hsorted : dir.Pairwise fun a b => a.offset < b.offset) (hpos : ∀ e ∈ dir, 0 < e.offset)
    (hfit : ∀ e ∈ dir, pad8 (direntSize + e.name.length) ≤ size.toNat)
    (hwrap : ∀ e ∈ dir, size.toNat + pad8 (direntSize + e.name.length) < 2 ^ 32) :
    ∃ fuel, kernelPageDirectory unique opReaddir decodeDirents fs ino fh size fuel s 0 =
      some (dir.map DirEntry.replyRecord) :=
  ⟨dir.length + 1, pageLoop_listing
    (P := fun p => outHeaderSize + p.length < 2 ^ 32 ∧ p.length ≤ size.toNat)
    (fun _ c _ hreq hp => kernelPayload_reply size c (hreq ▸ hu) hp.1 hp.2)
    (fun rest hrest => ⟨outHeaderSize_add_length_appendFitting length_direntBytes size (by decide)
      rest fun e he => hwrap e (hrest e he), length_appendFitting_le length_direntBytes size rest []
      (Nat.zero_le _) fun e he => hwrap e (hrest e he)⟩)
    hfs hsorted hfit ino fh _ s 0 dir ⟨[], rfl, by simp, hpos⟩ (Nat.lt_succ_self _)⟩

end Listing

/-- Three entries with cookies 1, 2 and 3 under a size that holds one record: three replies of
one record each, then an empty one. -/
theorem readdir_paging_three_entries :
    (∀ ctx ino fh offset size, (listing [⟨1, 1, dtReg, [97]⟩, ⟨2, 2, dtReg, [98]⟩,
        ⟨3, 3, dtReg, [99]⟩]).readDir ctx ino fh offset size =
      ([⟨1, 1, dtReg, [97]⟩, ⟨2, 2, dtReg, [98]⟩, ⟨3, 3, dtReg, [99]⟩].filter
        fun e => uint64OfInt offset < e.offset, none)) ∧
    [(⟨1, 1, dtReg, [97]⟩ : DirEntry), ⟨2, 2, dtReg, [98]⟩, ⟨3, 3, dtReg, [99]⟩].Pairwise
      (fun a b => a.offset < b.offset) ∧
    (∀ e ∈ [(⟨1, 1, dtReg, [97]⟩ : DirEntry), ⟨2, 2, dtReg, [98]⟩, ⟨3, 3, dtReg, [99]⟩],
      0 < e.offset) ∧
    (∀ e ∈ [(⟨1, 1, dtReg, [97]⟩ : DirEntry), ⟨2, 2, dtReg, [98]⟩, ⟨3, 3, dtReg, [99]⟩],
      pad8 (direntSize + e.name.length) ≤ (32 : UInt32).toNat) ∧
    ∃ fuel, pageDirectory opReaddir decodeDirents (listing [⟨1, 1, dtReg, [97]⟩,
        ⟨2, 2, dtReg, [98]⟩, ⟨3, 3, dtReg, [99]⟩]) 1 0 32 fuel { opts := {} } 0 =
      some ([⟨1, 1, dtReg, [97]⟩, ⟨2, 2, dtReg, [98]⟩, ⟨3, 3, dtReg, [99]⟩].map
        DirEntry.replyRecord) :=
  ⟨fun _ _ _ _ _ => rfl, by decide, by decide, by decide, readdir_paging_complete _ _ _ _ _ _
    (fun _ _ _ _ _ => rfl) (by decide) (by decide) (by decide)⟩

/-- The checked loop over the same three entries, with requests carrying `unique` 1. -/
theorem kernel_readdir_paging_three_entries :
    (1 : UInt64) ≠ 0 ∧
    (∀ ctx ino fh offset size, (listing [⟨1, 1, dtReg, [97]⟩, ⟨2, 2, dtReg, [98]⟩,
        ⟨3, 3, dtReg, [99]⟩]).readDir ctx ino fh offset size =
      ([⟨1, 1, dtReg, [97]⟩, ⟨2, 2, dtReg, [98]⟩, ⟨3, 3, dtReg, [99]⟩].filter
        fun e => uint64OfInt offset < e.offset, none)) ∧
    [(⟨1, 1, dtReg, [97]⟩ : DirEntry), ⟨2, 2, dtReg, [98]⟩, ⟨3, 3, dtReg, [99]⟩].Pairwise
      (fun a b => a.offset < b.offset) ∧
    (∀ e ∈ [(⟨1, 1, dtReg, [97]⟩ : DirEntry), ⟨2, 2, dtReg, [98]⟩, ⟨3, 3, dtReg, [99]⟩],
      0 < e.offset) ∧
    (∀ e ∈ [(⟨1, 1, dtReg, [97]⟩ : DirEntry), ⟨2, 2, dtReg, [98]⟩, ⟨3, 3, dtReg, [99]⟩],
      pad8 (direntSize + e.name.length) ≤ (32 : UInt32).toNat) ∧
    (∀ e ∈ [(⟨1, 1, dtReg, [97]⟩ : DirEntry), ⟨2, 2, dtReg, [98]⟩, ⟨3, 3, dtReg, [99]⟩],
      (32 : UInt32).toNat + pad8 (direntSize + e.name.length) < 2 ^ 32) ∧
    ∃ fuel, kernelPageDirectory 1 opReaddir decodeDirents (listing [⟨1, 1, dtReg, [97]⟩,
        ⟨2, 2, dtReg, [98]⟩, ⟨3, 3, dtReg, [99]⟩]) 1 0 32 fuel { opts := {} } 0 =
      some ([⟨1, 1, dtReg, [97]⟩, ⟨2, 2, dtReg, [98]⟩, ⟨3, 3, dtReg, [99]⟩].map
        DirEntry.replyRecord) :=
  ⟨by decide, fun _ _ _ _ _ => rfl, by decide, by decide, by decide, by decide,
    kernel_readdir_paging_complete _ _ _ _ _ _ _ (by decide) (fun _ _ _ _ _ => rfl) (by decide)
      (by decide) (by decide) (by decide)⟩

/-- An entry whose cookie is 0 is never decoded: the loop starts at offset 0, and the listing
returns only the entries past it. -/
theorem readdir_paging_loses_cookie_zero :
    (∀ ctx ino fh offset size, (listing [⟨1, 0, dtReg, [97]⟩]).readDir ctx ino fh offset size =
      ([⟨1, 0, dtReg, [97]⟩].filter fun e => uint64OfInt offset < e.offset, none)) ∧
    (∀ e ∈ [(⟨1, 0, dtReg, [97]⟩ : DirEntry)], pad8 (direntSize + e.name.length) ≤ (64 : UInt32).toNat) ∧
    ∀ fuel, pageDirectory opReaddir decodeDirents (listing [⟨1, 0, dtReg, [97]⟩]) 1 0 64 fuel
      { opts := {} } 0 ≠ some ([⟨1, 0, dtReg, [97]⟩].map DirEntry.replyRecord) := by
  have hfs : ∀ ctx ino fh offset size, (listing [⟨1, 0, dtReg, [97]⟩]).readDir ctx ino fh offset size =
      ([⟨1, 0, dtReg, [97]⟩].filter fun e => uint64OfInt offset < e.offset, none) :=
    fun _ _ _ _ _ => rfl
  refine ⟨hfs, by decide, fun fuel => ?_⟩
  cases fuel with
  | zero => simp [pageDirectory, pageLoop]
  | succ fuel =>
    have hrem : Remaining [⟨1, 0, dtReg, [97]⟩] [] 0 :=
      ⟨[⟨1, 0, dtReg, [97]⟩], rfl, by simp, by simp⟩
    have hreq := handleRequest_listing hfs { opts := {} } 0 1 0 0 64 hrem
    rw [show serializeDirents [] 64 = [] from rfl] at hreq
    rw [pageDirectory, pageLoop_empty fuel hreq (replyPayload_reply _ _ _)]
    simp

/-! ### A READDIRPLUS listing -/

/-- A filesystem serving one directory to READDIRPLUS: `ReadDirPlus(offset)` returns, in order,
the entries whose cookie is past `uint64(offset)`. -/
def plusListing (dir : List (UInt64 × DirEntryPlus)) : Filesystem :=
  { listing [] with
    readDirPlus := fun _ _ _ offset _ =>
      ((dir.filter fun p => uint64OfInt offset < p.1).map Prod.snd, none) }

/-- One entry with cookie 1 and generation 0: every reply holds it with `off` 0, so the loop
asks for offset 0 again and never ends. -/
theorem readdirplus_paging_repeats (fuel : ℕ) :
    pageDirectory opReaddirplus decodeDirentsPlus
      (plusListing [(1, ⟨⟨1, 0, .zero, .zero, .zero⟩, [97]⟩)]) 1 0 160 fuel { opts := {} } 0 = none := by
  induction fuel with
  | zero => rfl
  | succ fuel ih =>
    have hone : serializeDirentsPlus [⟨⟨1, 0, .zero, .zero, .zero⟩, [97]⟩] 160 =
        direntPlusBytes ⟨⟨1, 0, .zero, .zero, .zero⟩, [97]⟩ :=
      appendFitting_single _ _ (by decide)
    have hreq := @handleRequest_readFrame (plusListing [(1, ⟨⟨1, 0, .zero, .zero, .zero⟩, [97]⟩)])
      { opts := {} } opReaddirplus 0 1 ⟨0, 0, 160⟩ _ _ _ _ [⟨⟨1, 0, .zero, .zero, .zero⟩, [97]⟩]
      rfl rfl (by simp [plusListing, uint64OfInt_int64])
    rw [hone] at hreq
    have hne : direntPlusBytes ⟨⟨1, 0, .zero, .zero, .zero⟩, [97]⟩ ≠ [] := by
      simp [← List.length_eq_zero, pad8, direntPlusSize, entryOutSize, direntSize]
    have hd := decodeDirentsPlus_flatMap [⟨⟨1, 0, .zero, .zero, .zero⟩, [97]⟩] (by simp)
    simp only [List.flatMap_cons, List.flatMap_nil, List.append_nil, List.map_cons, List.map_nil] at hd
    rw [pageDirectory, pageLoop_step fuel hreq (replyPayload_reply _ _ _) hne hd rfl]
    exact congrArg _ ih

end Rofuse
