import Rofuse.Encode

/-! The kernel's reading of the reply records `fuse_attr`, `fuse_entry_out`, `fuse_attr_out` and
`fuse_init_out`: every field read little-endian at its offset, as the kernel's struct overlays
read them. Each decoder inverts its encoder. Through them, an `Entry` gives back its inode, its
generation and its attributes to the nanosecond, seconds read as signed 64-bit numbers; and each
timeout gives back the pair `durationToTimespec` computes with Go's truncating `/` and `%`,
which denotes the duration exactly when the duration is non-negative or a whole number of
seconds (`entry_round_trip`). -/

namespace Rofuse

open Proto

namespace Proto

/-- The kernel's `struct fuse_attr`. -/
def Attr.decode (b : List UInt8) : Attr where
  ino := getU64 b 0
  size := getU64 b 8
  blocks := getU64 b 16
  atime := getU64 b 24
  mtime := getU64 b 32
  ctime := getU64 b 40
  atimeNsec := getU32 b 48
  mtimeNsec := getU32 b 52
  ctimeNsec := getU32 b 56
  mode := getU32 b 60
  nlink := getU32 b 64
  uid := getU32 b 68
  gid := getU32 b 72
  rdev := getU32 b 76
  blksize := getU32 b 80
  flags := getU32 b 84

/-- The kernel's `struct fuse_entry_out`. -/
def EntryOut.decode (b : List UInt8) : EntryOut :=
  ⟨getU64 b 0, getU64 b 8, getU64 b 16, getU64 b 24, getU32 b 32, getU32 b 36,
    Attr.decode (b.drop 40)⟩

/-- The kernel's `struct fuse_attr_out`. -/
def AttrOut.decode (b : List UInt8) : AttrOut :=
  ⟨getU64 b 0, getU32 b 8, getU32 b 12, Attr.decode (b.drop 16)⟩

/-- The kernel's `struct fuse_init_out`. -/
def InitOut.decode (b : List UInt8) : InitOut where
  major := getU32 b 0
  minor := getU32 b 4
  maxReadahead := getU32 b 8
  flags := getU32 b 12
  maxBackground := getU16 b 16
  congestionThreshold := getU16 b 18
  maxWrite := getU32 b 20
  timeGran := getU32 b 24
  maxPages := getU16 b 28
  mapAlignment := getU16 b 30
  flags2 := getU32 b 32
  maxStackDepth := getU32 b 36

end Proto

/-! ### Each decoder inverts its encoder -/

theorem decode_writeAttr (a : Proto.Attr) (rest : List UInt8) :
    Proto.Attr.decode (writeAttr a ++ rest) = a := by
  simp only [Proto.Attr.decode, writeAttr, List.append_assoc, getU64_putU64, length_putU64, le_refl,
    getU64_append_of_le, tsub_self, Nat.reduceLeDiff, Nat.reduceSub, getU32_append_of_le,
    getU32_putU32, length_putU32]

theorem decode_entryOutBytes (out : EntryOut) : EntryOut.decode (entryOutBytes out) = out := by
  have : (entryOutBytes out).drop 40 = writeAttr out.attr ++ [] := by
    rw [List.append_nil]; exact List.drop_left' (by simp)
  rw [EntryOut.decode, this, decode_writeAttr]
  simp [entryOutBytes, getU32_append_of_le, getU64_append_of_le]

theorem decode_attrOutBytes (out : AttrOut) : AttrOut.decode (attrOutBytes out) = out := by
  have : (attrOutBytes out).drop 16 = writeAttr out.attr ++ [] := by
    rw [List.append_nil]; exact List.drop_left' (by simp)
  rw [AttrOut.decode, this, decode_writeAttr]
  simp [attrOutBytes, getU32_append_of_le, getU64_append_of_le]

theorem decode_initOutBytes (out : InitOut) : InitOut.decode (initOutBytes out) = out := by
  simp only [InitOut.decode, initOutBytes, List.append_assoc, List.reduceReplicate, getU32_putU32,
    length_putU32, le_refl, getU32_append_of_le, tsub_self, Nat.reduceLeDiff, Nat.reduceSub,
    getU16_append_of_le, getU16_putU16, length_putU16]

/-! ### Signed seconds and truncated timeouts -/

/-- A signed 64-bit number stored with `uint64(i)` reads back as itself. -/
theorem int64_uint64OfInt {i : ℤ} (h₁ : -2 ^ 63 ≤ i) (h₂ : i < 2 ^ 63) :
    int64 (uint64OfInt i) = i := by
  have : ((uint64OfInt i).toNat : ℤ) = i % 2 ^ 64 := by
    rw [uint64OfInt, show UInt64.toNat (UInt64.ofNat _) = _ from BitVec.toNat_ofNat _ 64]
    omega
  unfold int64; split_ifs <;> omega

/-- A `(sec, nsec)` pair as the kernel reads it denotes `d` nanoseconds. -/
def Denotes (sec : ℤ) (nsec : ℕ) (d : ℤ) : Prop := nsec < 10 ^ 9 ∧ sec * 10 ^ 9 + nsec = d

/-- Go's `d / time.Second` and `d % time.Second` truncate toward zero; in floor arithmetic they
are these. -/
theorem tdiv_tmod_second (d : ℤ) :
    (0 ≤ d → d.tdiv 1000000000 = d / 1000000000 ∧ d.tmod 1000000000 = d % 1000000000) ∧
    (d < 0 → d.tdiv 1000000000 = -(-d / 1000000000) ∧
      d.tmod 1000000000 = d + 1000000000 * (-d / 1000000000)) := by
  refine ⟨fun h => ⟨Int.tdiv_eq_ediv h (by omega), Int.tmod_eq_emod h (by omega)⟩, fun h => ?_⟩
  have hq : d.tdiv 1000000000 = -(-d / 1000000000) := by
    rw [← neg_neg d, Int.neg_tdiv, Int.tdiv_eq_ediv (by omega) (by omega), neg_neg]
  exact ⟨hq, by rw [Int.tmod_def, hq]; ring⟩

/-- What the kernel reads of `durationToTimespec d`: exactly `d` when it is non-negative or whole
seconds; otherwise the negative remainder wraps to at least `2 ^ 32 - 10⁹` nanoseconds. -/
theorem durationToTimespec_denotes_iff (d : Duration) :
    Denotes (int64 (durationToTimespec d).1) (durationToTimespec d).2.toNat d.nanoseconds ↔
      0 ≤ d.nanoseconds ∨ d.nanoseconds % 1000000000 = 0 := by
  obtain ⟨hpos, hneg⟩ := tdiv_tmod_second d.nanoseconds
  have hq : -2 ^ 63 ≤ d.nanoseconds.tdiv 1000000000 ∧ d.nanoseconds.tdiv 1000000000 < 2 ^ 63 := by
    have := d.ge; have := d.lt
    rcases le_or_lt 0 d.nanoseconds with h | h
    · have := (hpos h).1; omega
    · have := (hneg h).1; omega
  have hnsec := toNat_uint32OfInt (d.nanoseconds.tmod 1000000000)
  simp only [Denotes, durationToTimespec, int64_uint64OfInt hq.1 hq.2]
  rcases le_or_lt 0 d.nanoseconds with h | h
  · have := hpos h; omega
  · have := hneg h; omega

/-! ### Attributes read back -/

/-- What the kernel reads back of an `Attr` from its `fuse_attr`; the mode is left to `Mode`. -/
structure Attr.ReadBack (a : Proto.Attr) (attr : Attr) : Prop where
  ino : a.ino = attr.ino
  size : a.size = attr.size
  blocks : a.blocks = attr.blocks
  nlink : a.nlink = attr.nlink
  uid : a.uid = attr.uid
  gid : a.gid = attr.gid
  rdev : a.rdev = attr.rdev
  blksize : a.blksize = attr.blksize
  atime : int64 a.atime = attr.atime.unix ∧ a.atimeNsec.toNat = attr.atime.nanosecond
  mtime : int64 a.mtime = attr.mtime.unix ∧ a.mtimeNsec.toNat = attr.mtime.nanosecond
  ctime : int64 a.ctime = attr.ctime.unix ∧ a.ctimeNsec.toNat = attr.ctime.nanosecond

/-- A timestamp, any second since year 1 or before 1970 included, reads back to the
nanosecond. -/
theorem time_readBack (t : Time) :
    int64 (uint64OfInt t.unix) = t.unix ∧ (uint32 t.nanosecond).toNat = t.nanosecond :=
  ⟨int64_uint64OfInt t.unix_ge t.unix_lt,
    uint32_of_lt (lt_trans t.nanosecond_lt (by norm_num))⟩

theorem attrToProto_readBack (attr : Attr) : Attr.ReadBack (attrToProto attr) attr :=
  ⟨rfl, rfl, rfl, rfl, rfl, rfl, rfl, rfl, time_readBack _, time_readBack _, time_readBack _⟩

/-- Decoding the `fuse_entry_out` and `fuse_attr_out` the handlers send gives the entry and the
attributes back; a timeout is exact when non-negative or whole seconds. -/
theorem entry_round_trip (e : Entry) (a : Attr) :
    EntryOut.decode (entryOutBytes (entryToProto e)) = entryToProto e ∧
    (entryToProto e).nodeId = e.ino ∧ (entryToProto e).generation = e.generation ∧
    Attr.ReadBack (entryToProto e).attr e.attr ∧
    (Denotes (int64 (entryToProto e).entryValid) (entryToProto e).entryValidNsec.toNat
        e.entryTimeout.nanoseconds ↔
      0 ≤ e.entryTimeout.nanoseconds ∨ e.entryTimeout.nanoseconds % 1000000000 = 0) ∧
    (Denotes (int64 (entryToProto e).attrValid) (entryToProto e).attrValidNsec.toNat
        e.attrTimeout.nanoseconds ↔
      0 ≤ e.attrTimeout.nanoseconds ∨ e.attrTimeout.nanoseconds % 1000000000 = 0) ∧
    AttrOut.decode (attrOutBytes { attrValid := 1, attrValidNsec := 0, attr := attrToProto a }) =
      { attrValid := 1, attrValidNsec := 0, attr := attrToProto a } ∧
    Attr.ReadBack (attrToProto a) a :=
  ⟨decode_entryOutBytes _, rfl, rfl, attrToProto_readBack _,
    durationToTimespec_denotes_iff _, durationToTimespec_denotes_iff _, decode_attrOutBytes _,
    attrToProto_readBack _⟩

/-- A timeout of minus one nanosecond is sent as `(0, 2 ^ 32 - 1)`: zero seconds and more than
four seconds of nanoseconds. -/
theorem durationToTimespec_minus_one_ns :
    durationToTimespec ⟨-1, by decide, by decide⟩ = (0, 4294967295) ∧
      ¬Denotes (int64 (durationToTimespec ⟨-1, by decide, by decide⟩).1)
        (durationToTimespec ⟨-1, by decide, by decide⟩).2.toNat (-1) :=
  ⟨by decide, fun h => by simpa using (durationToTimespec_denotes_iff _).mp h⟩

end Rofuse
