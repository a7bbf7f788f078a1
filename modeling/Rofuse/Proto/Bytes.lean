import Mathlib

/-! Little-endian byte codecs and Go's integer conversions. `putU16`, `putU32` and `putU64`
are `binary.LittleEndian.PutUint16/32/64`, and `getU16`, `getU32` and `getU64` read a field at
a byte offset as `binary.LittleEndian.Uint16/32/64` and the kernel's struct overlays do. Every
record of the FUSE wire format is a concatenation of these encodings, so the layout proofs of
later modules reduce to the round trips and the two append laws stated here. The conversions
`uint32`, `uint64`, `int64` and `uint32OfInt` are Go's truncating `uintN(x)` and `int64(x)`. -/

namespace Rofuse.Proto

/-! ### Go integer conversions -/

/-- Go's `uint16(n)` on a non-negative integer: its low 16 bits. -/
def uint16 (n : ℕ) : UInt16 := UInt16.ofNat n

/-- Go's `uint32(n)` on a non-negative integer: its low 32 bits. -/
def uint32 (n : ℕ) : UInt32 := UInt32.ofNat n

/-- Go's `uint64(n)` on a non-negative integer: its low 64 bits. -/
def uint64 (n : ℕ) : UInt64 := UInt64.ofNat n

/-- Go's `uint32(i)` on a signed integer: two's complement, low 32 bits. -/
def uint32OfInt (i : ℤ) : UInt32 := UInt32.ofNat (i % 2 ^ 32).toNat

/-- Go's `uint64(i)` on a signed integer: two's complement, low 64 bits. -/
def uint64OfInt (i : ℤ) : UInt64 := UInt64.ofNat (i % 2 ^ 64).toNat

/-- Go's `int64(x)` on a `uint64`: the same bits read as a signed number. -/
def int64 (x : UInt64) : ℤ := if x.toNat < 2 ^ 63 then x.toNat else x.toNat - 2 ^ 64

@[simp] theorem toNat_uint16 (n : ℕ) : (uint16 n).toNat = n % 2 ^ 16 := BitVec.toNat_ofNat n 16

@[simp] theorem toNat_uint32 (n : ℕ) : (uint32 n).toNat = n % 2 ^ 32 := BitVec.toNat_ofNat n 32

@[simp] theorem toNat_uint64 (n : ℕ) : (uint64 n).toNat = n % 2 ^ 64 := BitVec.toNat_ofNat n 64

theorem toNat_uint8 (n : ℕ) : (UInt8.ofNat n).toNat = n % 256 := BitVec.toNat_ofNat n 8

@[simp] theorem uint16_toNat (x : UInt16) : uint16 x.toNat = x :=
  UInt16.toNat.inj (by rw [toNat_uint16]; exact Nat.mod_eq_of_lt x.toNat_lt_size)

@[simp] theorem uint32_toNat (x : UInt32) : uint32 x.toNat = x :=
  UInt32.toNat.inj (by rw [toNat_uint32]; exact Nat.mod_eq_of_lt x.toNat_lt_size)

@[simp] theorem uint64_toNat (x : UInt64) : uint64 x.toNat = x :=
  UInt64.toNat.inj (by rw [toNat_uint64]; exact Nat.mod_eq_of_lt x.toNat_lt_size)

theorem u32_lt_iff (a b : UInt32) : a < b ↔ a.toNat < b.toNat := Iff.rfl

theorem u32_le_iff (a b : UInt32) : a ≤ b ↔ a.toNat ≤ b.toNat := Iff.rfl

theorem u64_lt_iff (a b : UInt64) : a < b ↔ a.toNat < b.toNat := Iff.rfl

theorem u64_le_iff (a b : UInt64) : a ≤ b ↔ a.toNat ≤ b.toNat := Iff.rfl

theorem uint32_of_lt {n : ℕ} (h : n < 2 ^ 32) : (uint32 n).toNat = n := by
  rw [toNat_uint32, Nat.mod_eq_of_lt h]

/-- Converting a `uint64` to `int64` and back is the identity, as Go's conversions are. -/
@[simp] theorem uint64OfInt_int64 (x : UInt64) : uint64OfInt (int64 x) = x := by
  have hx : x.toNat < 2 ^ 64 := x.toNat_lt_size
  apply UInt64.toNat.inj
  simp only [uint64OfInt, int64]
  rw [show UInt64.toNat (UInt64.ofNat _) = _ from BitVec.toNat_ofNat _ 64]
  split <;> omega

theorem toNat_uint32OfInt (i : ℤ) : ((uint32OfInt i).toNat : ℤ) = i % 2 ^ 32 := by
  rw [uint32OfInt, show UInt32.toNat (UInt32.ofNat _) = _ from BitVec.toNat_ofNat _ 32]
  omega

/-! ### Little-endian words -/

/-- The `w` little-endian bytes of `n`; bits above `8 w` are dropped. -/
def leBytes : ℕ → ℕ → List UInt8
  | 0, _ => []
  | w + 1, n => UInt8.ofNat n :: leBytes w (n / 256)

/-- The value of a little-endian byte string. -/
def leValue : List UInt8 → ℕ
  | [] => 0
  | b :: bs => b.toNat + 256 * leValue bs

@[simp] theorem length_leBytes (w n : ℕ) : (leBytes w n).length = w := by
  induction w generalizing n with
  | zero => rfl
  | succ w ih => simp [leBytes, ih]

theorem leValue_leBytes (w n : ℕ) : leValue (leBytes w n) = n % 256 ^ w := by
  induction w generalizing n with
  | zero => simp [leBytes, leValue, Nat.mod_one]
  | succ w ih => rw [leBytes, leValue, ih, toNat_uint8, Nat.pow_succ', Nat.mod_mul]

theorem leBytes_zero (w : ℕ) : leBytes w 0 = List.replicate w 0 := by
  induction w with
  | zero => rfl
  | succ w ih => simp only [leBytes, Nat.zero_div, ih, List.replicate_succ]; rfl

/-- `binary.LittleEndian.PutUint16`. -/
def putU16 (x : UInt16) : List UInt8 := leBytes 2 x.toNat

/-- `binary.LittleEndian.PutUint32`. -/
def putU32 (x : UInt32) : List UInt8 := leBytes 4 x.toNat

/-- `binary.LittleEndian.PutUint64`. -/
def putU64 (x : UInt64) : List UInt8 := leBytes 8 x.toNat

/-- `binary.LittleEndian.Uint16(b[off:])`. -/
def getU16 (b : List UInt8) (off : ℕ) : UInt16 := uint16 (leValue ((b.drop off).take 2))

/-- `binary.LittleEndian.Uint32(b[off:])`. -/
def getU32 (b : List UInt8) (off : ℕ) : UInt32 := uint32 (leValue ((b.drop off).take 4))

/-- `binary.LittleEndian.Uint64(b[off:])`. -/
def getU64 (b : List UInt8) (off : ℕ) : UInt64 := uint64 (leValue ((b.drop off).take 8))

@[simp] theorem length_putU16 (x : UInt16) : (putU16 x).length = 2 := length_leBytes _ _

@[simp] theorem length_putU32 (x : UInt32) : (putU32 x).length = 4 := length_leBytes _ _

@[simp] theorem length_putU64 (x : UInt64) : (putU64 x).length = 8 := length_leBytes _ _

theorem putU32_zero : putU32 0 = List.replicate 4 0 := leBytes_zero 4

theorem putU16_zero : putU16 0 = List.replicate 2 0 := leBytes_zero 2

/-! ### Reading what was written -/

section Reading

variable (pre rest : List UInt8) (off : ℕ)

@[simp] theorem getU16_putU16 (x : UInt16) : getU16 (putU16 x ++ rest) 0 = x := by
  simp only [getU16, List.drop_zero, putU16, List.take_left' (length_leBytes 2 _),
    leValue_leBytes, Nat.mod_eq_of_lt (show x.toNat < 256 ^ 2 from x.toNat_lt_size), uint16_toNat]

@[simp] theorem getU32_putU32 (x : UInt32) : getU32 (putU32 x ++ rest) 0 = x := by
  simp only [getU32, List.drop_zero, putU32, List.take_left' (length_leBytes 4 _),
    leValue_leBytes, Nat.mod_eq_of_lt (show x.toNat < 256 ^ 4 from x.toNat_lt_size), uint32_toNat]

@[simp] theorem getU64_putU64 (x : UInt64) : getU64 (putU64 x ++ rest) 0 = x := by
  simp only [getU64, List.drop_zero, putU64, List.take_left' (length_leBytes 8 _),
    leValue_leBytes, Nat.mod_eq_of_lt (show x.toNat < 256 ^ 8 from x.toNat_lt_size), uint64_toNat]

@[simp] theorem getU32_putU32_self (x : UInt32) : getU32 (putU32 x) 0 = x := by
  simpa using getU32_putU32 [] x

@[simp] theorem getU64_putU64_self (x : UInt64) : getU64 (putU64 x) 0 = x := by
  simpa using getU64_putU64 [] x

/-- A field behind a prefix is read in what follows the prefix. -/
theorem getU16_append_of_le (h : pre.length ≤ off) :
    getU16 (pre ++ rest) off = getU16 rest (off - pre.length) := by
  simp only [getU16, List.drop_append_eq_append_drop, List.drop_eq_nil_of_le h, List.nil_append]

theorem getU32_append_of_le (h : pre.length ≤ off) :
    getU32 (pre ++ rest) off = getU32 rest (off - pre.length) := by
  simp only [getU32, List.drop_append_eq_append_drop, List.drop_eq_nil_of_le h, List.nil_append]

theorem getU64_append_of_le (h : pre.length ≤ off) :
    getU64 (pre ++ rest) off = getU64 rest (off - pre.length) := by
  simp only [getU64, List.drop_append_eq_append_drop, List.drop_eq_nil_of_le h, List.nil_append]

/-- A field inside a prefix does not see what follows the prefix. -/
theorem getU32_append_of_lt (h : off + 4 ≤ pre.length) : getU32 (pre ++ rest) off = getU32 pre off := by
  simp only [getU32, List.drop_append_of_le_length (by omega : off ≤ pre.length)]
  rw [List.take_append_of_le_length (by simp; omega)]

end Reading

end Rofuse.Proto
