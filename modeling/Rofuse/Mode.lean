import Rofuse.Types

/-! The mode conversions `fileModeToUnix` and `fileModeToType` over every `os.FileMode`. Both
switch on `mode.Type()`, which holds every type bit of the mode, so a character device, whose
type is `ModeDevice|ModeCharDevice`, matches no case and falls to the regular-file default; the
test of `ModeCharDevice` inside the `ModeDevice` case never succeeds. For the other six types the
`S_IF` code and the `DT_` code are the type's, and for every mode the low twelve bits are the
permission bits with setuid, setgid and sticky (`fileMode_conversions`).

`UInt32` has no distributivity law in the core library of this toolchain; `u32_or_and` is proved
bitwise once, and every other step folds mode constants by `decide`. -/

namespace Rofuse

open Proto

/-! ### Bitwise laws on `UInt32` -/

theorem u32_or_and (a b k : UInt32) : (a ||| b) &&& k = (a &&& k) ||| (b &&& k) :=
  UInt32.eq_of_toBitVec_eq <| BitVec.eq_of_getLsbD_eq fun i => by
    show ((a.toBitVec ||| b.toBitVec) &&& k.toBitVec).getLsbD i =
      ((a.toBitVec &&& k.toBitVec) ||| (b.toBitVec &&& k.toBitVec)).getLsbD i
    simp only [BitVec.getLsbD_and, BitVec.getLsbD_or, Bool.and_or_distrib_right]

theorem u32_and_assoc (a b c : UInt32) : a &&& b &&& c = a &&& (b &&& c) :=
  UInt32.eq_of_toBitVec_eq (BitVec.and_assoc _ _ _)

theorem u32_or_assoc (a b c : UInt32) : a ||| b ||| c = a ||| (b ||| c) :=
  UInt32.eq_of_toBitVec_eq (BitVec.or_assoc _ _ _)

theorem u32_and_zero (a : UInt32) : a &&& 0 = 0 := UInt32.eq_of_toBitVec_eq BitVec.and_zero

theorem u32_or_zero (a : UInt32) : a ||| 0 = a := UInt32.eq_of_toBitVec_eq BitVec.or_zero

theorem u32_zero_or (a : UInt32) : 0 ||| a = a := UInt32.eq_of_toBitVec_eq BitVec.zero_or

/-- A bit set only when `c` holds, as `if c { m |= k }` sets it. -/
theorem ite_or_else (c : Prop) [Decidable c] (x k : UInt32) :
    (if c then x ||| k else x) = x ||| (if c then k else 0) := by
  split <;> simp [u32_or_zero]

/-- Every branch of the type switch starts from the permission bits. -/
theorem ite_or_or (c : Prop) [Decidable c] (x a b : UInt32) :
    (if c then x ||| a else x ||| b) = x ||| (if c then a else b) := by
  split <;> rfl

theorem ite_and (c : Prop) [Decidable c] (a b k : UInt32) :
    (if c then a else b) &&& k = if c then a &&& k else b &&& k :=
  apply_ite (· &&& k) c a b

theorem u32_zero_and (a : UInt32) : 0 &&& a = 0 := UInt32.eq_of_toBitVec_eq BitVec.zero_and

/-- The permission bits lie in the low twelve bits, below `S_IFMT`. -/
theorem perm_and_masks (m : FileMode) :
    FileMode.perm m &&& 0o7777 = FileMode.perm m ∧ FileMode.perm m &&& modeTypeMask = 0 := by
  simp only [FileMode.perm, u32_and_assoc]
  exact ⟨congrArg _ (by decide), by rw [show FileMode.modePerm &&& modeTypeMask = 0 by decide,
    u32_and_zero]⟩

/-- The `S_IF` codes are bits of `S_IFMT`; the set-id and sticky codes are permission bits. -/
theorem mode_codes_and :
    Proto.modeDir &&& 0o7777 = 0 ∧ Proto.modeSymlink &&& 0o7777 = 0 ∧ modeFifo &&& 0o7777 = 0 ∧
    Proto.modeSocket &&& 0o7777 = 0 ∧ modeChar &&& 0o7777 = 0 ∧ modeBlock &&& 0o7777 = 0 ∧
    modeRegular &&& 0o7777 = 0 ∧
    Proto.modeDir &&& modeTypeMask = Proto.modeDir ∧
    Proto.modeSymlink &&& modeTypeMask = Proto.modeSymlink ∧ modeFifo &&& modeTypeMask = modeFifo ∧
    Proto.modeSocket &&& modeTypeMask = Proto.modeSocket ∧ modeChar &&& modeTypeMask = modeChar ∧
    modeBlock &&& modeTypeMask = modeBlock ∧ modeRegular &&& modeTypeMask = modeRegular ∧
    Proto.modeSetuid &&& 0o7777 = Proto.modeSetuid ∧ Proto.modeSetgid &&& 0o7777 = Proto.modeSetgid ∧
    Proto.modeSticky &&& 0o7777 = Proto.modeSticky ∧ Proto.modeSetuid &&& modeTypeMask = 0 ∧
    Proto.modeSetgid &&& modeTypeMask = 0 ∧ Proto.modeSticky &&& modeTypeMask = 0 := by
  decide

/-- `ModeCharDevice` is a type bit, so it is seen through `Type()`. -/
theorem and_modeCharDevice (m : FileMode) :
    m &&& FileMode.modeCharDevice = FileMode.type m &&& FileMode.modeCharDevice := by
  rw [FileMode.type, u32_and_assoc,
    show FileMode.modeType &&& FileMode.modeCharDevice = FileMode.modeCharDevice by decide]

/-! ### The seven file types -/

/-- The file types of `io/fs`, each named by the bits `FileMode.Type()` holds for it. -/
inductive FileType
  | regular
  | dir
  | symlink
  | namedPipe
  | socket
  | blockDevice
  | charDevice
  deriving DecidableEq, Repr

namespace FileType

/-- What `FileMode.Type()` holds for a mode of the type. -/
def typeBits : FileType → FileMode
  | regular => 0
  | dir => FileMode.modeDir
  | symlink => FileMode.modeSymlink
  | namedPipe => FileMode.modeNamedPipe
  | socket => FileMode.modeSocket
  | blockDevice => FileMode.modeDevice
  | charDevice => FileMode.modeDevice ||| FileMode.modeCharDevice

/-- The kernel's `S_IF` code of the type. -/
def sIF : FileType → UInt32
  | regular => modeRegular
  | dir => Proto.modeDir
  | symlink => Proto.modeSymlink
  | namedPipe => modeFifo
  | socket => Proto.modeSocket
  | blockDevice => modeBlock
  | charDevice => modeChar

/-- The `DT_` code of the type. -/
def dt : FileType → UInt32
  | regular => dtReg
  | dir => dtDir
  | symlink => dtLnk
  | namedPipe => dtFifo
  | socket => dtSock
  | blockDevice => dtBlk
  | charDevice => dtChr

/-- The `DT_` code is the `S_IF` code shifted down by twelve bits. -/
theorem dt_eq_sIF (t : FileType) : t.dt = t.sIF >>> 12 := by
  cases t <;> decide

end FileType

/-! ### The conversions -/

section Conversions

variable (m : FileMode)

/-- The low twelve bits of `fileModeToUnix` are the permission bits with setuid, setgid and
sticky, whatever the type. -/
theorem fileModeToUnix_and_perm : fileModeToUnix m &&& 0o7777 =
    FileMode.perm m ||| (if m &&& FileMode.modeSetuid ≠ 0 then Proto.modeSetuid else 0) |||
      (if m &&& FileMode.modeSetgid ≠ 0 then Proto.modeSetgid else 0) |||
      (if m &&& FileMode.modeSticky ≠ 0 then Proto.modeSticky else 0) := by
  simp only [fileModeToUnix, ite_or_or, ite_or_else]
  simp only [u32_or_assoc, u32_or_and, ite_and, mode_codes_and, perm_and_masks, ite_self,
    u32_zero_and, u32_zero_or]

variable {m} (t : FileType)

/-- The `S_IF` code `fileModeToUnix` sets: the type's, except that a character device is
given the regular-file code. -/
theorem fileModeToUnix_and_typeMask (ht : FileMode.type m = t.typeBits) :
    fileModeToUnix m &&& modeTypeMask = (if t = .charDevice then FileType.regular else t).sIF := by
  have hc := (and_modeCharDevice m).trans (congrArg (· &&& _) ht)
  cases t <;>
  · simp +decide only [fileModeToUnix, ht, hc, FileType.typeBits, ↓reduceIte, ite_or_else]
    simp only [u32_or_assoc, u32_or_and, ite_and, mode_codes_and, perm_and_masks, ite_self,
      u32_zero_and, u32_zero_or, u32_or_zero]
    rfl

/-- The `DT_` code `fileModeToType` returns: the type's, except that a character device is a
regular file. -/
theorem fileModeToType_of_type (ht : FileMode.type m = t.typeBits) :
    fileModeToType m = (if t = .charDevice then FileType.regular else t).dt := by
  have hc := (and_modeCharDevice m).trans (congrArg (· &&& _) ht)
  cases t <;> simp +decide [fileModeToType, ht, hc, FileType.typeBits, FileType.dt]

end Conversions

/-- For every mode of the seven file types the conversions keep the type, a character device
becoming a regular file, and the permission bits; the `DT_` code is the `S_IF` code shifted. -/
theorem fileMode_conversions (m : FileMode) (t : FileType) (ht : FileMode.type m = t.typeBits) :
    fileModeToUnix m &&& modeTypeMask = (if t = .charDevice then FileType.regular else t).sIF ∧
    fileModeToUnix m &&& 0o7777 =
      FileMode.perm m ||| (if m &&& FileMode.modeSetuid ≠ 0 then Proto.modeSetuid else 0) |||
        (if m &&& FileMode.modeSetgid ≠ 0 then Proto.modeSetgid else 0) |||
        (if m &&& FileMode.modeSticky ≠ 0 then Proto.modeSticky else 0) ∧
    fileModeToType m = (if t = .charDevice then FileType.regular else t).dt ∧
    fileModeToType m = (fileModeToUnix m &&& modeTypeMask) >>> 12 := by
  refine ⟨fileModeToUnix_and_typeMask t ht, fileModeToUnix_and_perm m,
    fileModeToType_of_type t ht, ?_⟩
  rw [fileModeToType_of_type t ht, fileModeToUnix_and_typeMask t ht, FileType.dt_eq_sIF]

/-- A character device with permissions `0620`, as `/dev/tty` has: the kernel is told it is a
regular file. -/
theorem fileMode_conversions_char_device :
    FileMode.type (FileMode.modeDevice ||| FileMode.modeCharDevice ||| 0o620) =
      FileType.charDevice.typeBits ∧
    fileModeToUnix (FileMode.modeDevice ||| FileMode.modeCharDevice ||| 0o620) &&& modeTypeMask =
      modeRegular ∧
    fileModeToType (FileMode.modeDevice ||| FileMode.modeCharDevice ||| 0o620) = dtReg := by
  have ht : FileMode.type (FileMode.modeDevice ||| FileMode.modeCharDevice ||| 0o620) =
      FileType.charDevice.typeBits := by decide
  obtain ⟨h₁, -, h₃, -⟩ := fileMode_conversions _ _ ht
  exact ⟨ht, h₁, h₃⟩

end Rofuse
