import Rofuse.Proto.Types

/-! The library's own types and their conversions to the wire records (`mount.go`,
`attrToProto` to `fileModeToType`). A `time.Time` is modelled by what the library reads of it,
`Unix()` and `Nanosecond()`; a `time.Duration` by its count of nanoseconds. Both carry the
ranges of the Go values as fields. `os.FileMode` is Go's `uint32` with the `io/fs` bit
assignment. -/

namespace Rofuse

open Proto

abbrev Inode := UInt64

abbrev FileHandle := UInt64

abbrev OpenFlags := UInt32

/-- A `time.Time`, as seen through `Unix()` and `Nanosecond()`. -/
structure Time where
  unix : ℤ
  nanosecond : ℕ
  unix_ge : -2 ^ 63 ≤ unix
  unix_lt : unix < 2 ^ 63
  nanosecond_lt : nanosecond < 10 ^ 9
  deriving DecidableEq

/-- A `time.Duration`: a signed 64-bit count of nanoseconds. -/
structure Duration where
  nanoseconds : ℤ
  ge : -2 ^ 63 ≤ nanoseconds
  lt : nanoseconds < 2 ^ 63
  deriving DecidableEq

/-- The zero `time.Time{}`: January 1 of year 1, UTC. -/
def Time.zero : Time := ⟨-62135596800, 0, by decide, by decide, by decide⟩

def Duration.zero : Duration := ⟨0, by decide, by decide⟩

abbrev FileMode := UInt32

namespace FileMode

/-! The `io/fs` mode bits. -/

def modeDir : FileMode := (1 : UInt32) <<< 31
def modeSymlink : FileMode := (1 : UInt32) <<< 27
def modeDevice : FileMode := (1 : UInt32) <<< 26
def modeNamedPipe : FileMode := (1 : UInt32) <<< 25
def modeSocket : FileMode := (1 : UInt32) <<< 24
def modeSetuid : FileMode := (1 : UInt32) <<< 23
def modeSetgid : FileMode := (1 : UInt32) <<< 22
def modeCharDevice : FileMode := (1 : UInt32) <<< 21
def modeSticky : FileMode := (1 : UInt32) <<< 20
def modeIrregular : FileMode := (1 : UInt32) <<< 19

def modeType : FileMode :=
  modeDir ||| modeSymlink ||| modeNamedPipe ||| modeSocket ||| modeDevice ||| modeCharDevice |||
    modeIrregular

def modePerm : FileMode := 0o777

/-- `FileMode.Perm`. -/
def perm (m : FileMode) : FileMode := m &&& modePerm

/-- `FileMode.Type`. -/
def type (m : FileMode) : FileMode := m &&& modeType

end FileMode

structure Attr where
  ino : Inode
  size : UInt64
  blocks : UInt64
  atime : Time
  mtime : Time
  ctime : Time
  mode : FileMode
  nlink : UInt32
  uid : UInt32
  gid : UInt32
  rdev : UInt32
  blksize : UInt32
  deriving DecidableEq

/-- The zero `Attr{}`. -/
def Attr.zero : Attr := ⟨0, 0, 0, .zero, .zero, .zero, 0, 0, 0, 0, 0, 0⟩

structure Entry where
  ino : Inode
  generation : UInt64
  attr : Attr
  attrTimeout : Duration
  entryTimeout : Duration
  deriving DecidableEq

structure DirEntry where
  ino : Inode
  offset : UInt64
  type : UInt32
  name : List UInt8
  deriving DecidableEq, Repr

structure DirEntryPlus where
  entry : Entry
  name : List UInt8
  deriving DecidableEq

structure OpenResponse where
  handle : FileHandle
  flags : OpenFlags
  deriving DecidableEq, Repr

structure StatFS where
  blocks : UInt64
  bfree : UInt64
  bavail : UInt64
  files : UInt64
  ffree : UInt64
  bsize : UInt32
  namelen : UInt32
  frsize : UInt32
  deriving DecidableEq, Repr

structure ForgetEntry where
  ino : Inode
  nlookup : UInt64
  deriving DecidableEq, Repr

structure Config where
  protoMajor : UInt32
  protoMinor : UInt32
  maxReadahead : UInt32
  maxWrite : UInt32
  maxPages : UInt16
  deriving DecidableEq, Repr

/-- The options the modelled code reads; the mount helper's options are out of scope. -/
structure MountOptions where
  debug : Bool := false
  maxReadahead : UInt32 := 0
  maxWrite : UInt32 := 0
  maxBackground : UInt16 := 0
  deriving DecidableEq, Repr

/-! ### Conversions -/

def fileModeToUnix (mode : FileMode) : UInt32 :=
  let m := mode.perm
  let m :=
    if mode.type = FileMode.modeDir then m ||| Proto.modeDir
    else if mode.type = FileMode.modeSymlink then m ||| Proto.modeSymlink
    else if mode.type = FileMode.modeNamedPipe then m ||| modeFifo
    else if mode.type = FileMode.modeSocket then m ||| Proto.modeSocket
    else if mode.type = FileMode.modeDevice then
      if mode &&& FileMode.modeCharDevice ≠ 0 then m ||| modeChar else m ||| modeBlock
    else m ||| modeRegular
  let m := if mode &&& FileMode.modeSetuid ≠ 0 then m ||| Proto.modeSetuid else m
  let m := if mode &&& FileMode.modeSetgid ≠ 0 then m ||| Proto.modeSetgid else m
  if mode &&& FileMode.modeSticky ≠ 0 then m ||| Proto.modeSticky else m

def fileModeToType (mode : FileMode) : UInt32 :=
  if mode.type = FileMode.modeDir then dtDir
  else if mode.type = FileMode.modeSymlink then dtLnk
  else if mode.type = FileMode.modeNamedPipe then dtFifo
  else if mode.type = FileMode.modeSocket then dtSock
  else if mode.type = FileMode.modeDevice then
    if mode &&& FileMode.modeCharDevice ≠ 0 then dtChr else dtBlk
  else dtReg

/-- `durationToTimespec`: Go's `/` and `%` truncate toward zero, then convert to unsigned. -/
def durationToTimespec (d : Duration) : UInt64 × UInt32 :=
  (uint64OfInt (d.nanoseconds.tdiv 1000000000), uint32OfInt (d.nanoseconds.tmod 1000000000))

def attrToProto (a : Attr) : Proto.Attr where
  ino := a.ino
  size := a.size
  blocks := a.blocks
  atime := uint64OfInt a.atime.unix
  mtime := uint64OfInt a.mtime.unix
  ctime := uint64OfInt a.ctime.unix
  atimeNsec := uint32 a.atime.nanosecond
  mtimeNsec := uint32 a.mtime.nanosecond
  ctimeNsec := uint32 a.ctime.nanosecond
  mode := fileModeToUnix a.mode
  nlink := a.nlink
  uid := a.uid
  gid := a.gid
  rdev := a.rdev
  blksize := a.blksize

end Rofuse
