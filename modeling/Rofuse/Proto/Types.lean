import Rofuse.Proto.Bytes

/-! The `proto` package: opcodes, protocol constants and the fixed-layout wire records of
`proto/types.go` and `proto/init.go`. Go reads a request record by casting a pointer into the
request buffer; `decode` is that overlay, reading each field at its byte offset. Only the
fields a handler reads are kept. `InHeader.encode` and `ReadIn.encode` are the kernel's side of
the same layouts, used to build the requests of the paging runs. -/

namespace Rofuse.Proto

/-! ### Opcodes -/

def opLookup : UInt32 := 1
def opForget : UInt32 := 2
def opGetattr : UInt32 := 3
def opSetattr : UInt32 := 4
def opReadlink : UInt32 := 5
def opSymlink : UInt32 := 6
def opMknod : UInt32 := 8
def opMkdir : UInt32 := 9
def opUnlink : UInt32 := 10
def opRmdir : UInt32 := 11
def opRename : UInt32 := 12
def opLink : UInt32 := 13
def opOpen : UInt32 := 14
def opRead : UInt32 := 15
def opWrite : UInt32 := 16
def opStatfs : UInt32 := 17
def opRelease : UInt32 := 18
def opSetxattr : UInt32 := 21
def opRemovexattr : UInt32 := 24
def opFlush : UInt32 := 25
def opInit : UInt32 := 26
def opOpendir : UInt32 := 27
def opReaddir : UInt32 := 28
def opReleasedir : UInt32 := 29
def opAccess : UInt32 := 34
def opCreate : UInt32 := 35
def opInterrupt : UInt32 := 36
def opDestroy : UInt32 := 38
def opBatchForget : UInt32 := 42
def opFallocate : UInt32 := 43
def opReaddirplus : UInt32 := 44
def opRename2 : UInt32 := 45
def opCopyFileRange : UInt32 := 47
def opTmpfile : UInt32 := 51

/-! ### Protocol constants -/

def fuseKernelVersion : UInt32 := 7
def fuseKernelMinorVersion : UInt32 := 41
def minSupportedMinor : UInt32 := 26

def defaultMaxReadahead : UInt32 := 128 * 1024
def defaultMaxWrite : UInt32 := 128 * 1024
def defaultMaxBackground : UInt16 := 12
def defaultTimeGran : UInt32 := 1
def defaultMaxPages : UInt16 := 32

/-- `MinBufferSize`, the kernel's `FUSE_MIN_READ_BUFFER`. -/
def minBufferSize : ℕ := 8192

def inHeaderSize : ℕ := 40
def outHeaderSize : ℕ := 16
def attrSize : ℕ := 88
def entryOutSize : ℕ := 128
def attrOutSize : ℕ := 104
def getAttrInSize : ℕ := 16
def openInSize : ℕ := 8
def openOutSize : ℕ := 16
def readInSize : ℕ := 40
def releaseInSize : ℕ := 24
def forgetInSize : ℕ := 8
def batchForgetInSize : ℕ := 8
def forgetOneSize : ℕ := 16
def accessInSize : ℕ := 8
def direntSize : ℕ := 24
def direntPlusSize : ℕ := entryOutSize + direntSize
def statfsOutSize : ℕ := 64
def initInSize : ℕ := 64
def initOutSize : ℕ := 64

/-- The capabilities `handleInit` advertises (the rest of the table is never read). -/
def capAsyncRead : UInt64 := (1 : UInt64) <<< 0
def capExportSupport : UInt64 := (1 : UInt64) <<< 4
def capAutoInvalData : UInt64 := (1 : UInt64) <<< 12
def capReaddirplus : UInt64 := (1 : UInt64) <<< 13
def capReaddirplusAuto : UInt64 := (1 : UInt64) <<< 14
def capParallelDirops : UInt64 := (1 : UInt64) <<< 18
def capMaxPages : UInt64 := (1 : UInt64) <<< 22
def capCacheSymlinks : UInt64 := (1 : UInt64) <<< 23

def getattrFh : UInt32 := (1 : UInt32) <<< 0

def dtFifo : UInt32 := 1
def dtChr : UInt32 := 2
def dtDir : UInt32 := 4
def dtBlk : UInt32 := 6
def dtReg : UInt32 := 8
def dtLnk : UInt32 := 10
def dtSock : UInt32 := 12

def modeTypeMask : UInt32 := 0o170000
def modeSocket : UInt32 := 0o140000
def modeSymlink : UInt32 := 0o120000
def modeRegular : UInt32 := 0o100000
def modeBlock : UInt32 := 0o060000
def modeDir : UInt32 := 0o040000
def modeChar : UInt32 := 0o020000
def modeFifo : UInt32 := 0o010000
def modeSetuid : UInt32 := 0o4000
def modeSetgid : UInt32 := 0o2000
def modeSticky : UInt32 := 0o1000

/-! ### Request records -/

/-- The 40-byte header of every request. -/
structure InHeader where
  len : UInt32
  opcode : UInt32
  unique : UInt64
  nodeId : UInt64
  uid : UInt32
  gid : UInt32
  pid : UInt32
  padding : UInt32
  deriving DecidableEq, Repr

def InHeader.decode (b : List UInt8) : InHeader :=
  ⟨getU32 b 0, getU32 b 4, getU64 b 8, getU64 b 16, getU32 b 24, getU32 b 28, getU32 b 32,
    getU32 b 36⟩

def InHeader.encode (h : InHeader) : List UInt8 :=
  putU32 h.len ++ putU32 h.opcode ++ putU64 h.unique ++ putU64 h.nodeId ++ putU32 h.uid ++
    putU32 h.gid ++ putU32 h.pid ++ putU32 h.padding

structure InitIn where
  major : UInt32
  minor : UInt32
  maxReadahead : UInt32
  flags : UInt32
  deriving DecidableEq, Repr

def InitIn.decode (b : List UInt8) : InitIn := ⟨getU32 b 0, getU32 b 4, getU32 b 8, getU32 b 12⟩

structure GetAttrIn where
  flags : UInt32
  fh : UInt64
  deriving DecidableEq, Repr

def GetAttrIn.decode (b : List UInt8) : GetAttrIn := ⟨getU32 b 0, getU64 b 8⟩

structure OpenIn where
  flags : UInt32
  deriving DecidableEq, Repr

def OpenIn.decode (b : List UInt8) : OpenIn := ⟨getU32 b 0⟩

structure ReadIn where
  fh : UInt64
  offset : UInt64
  size : UInt32
  deriving DecidableEq, Repr

def ReadIn.decode (b : List UInt8) : ReadIn := ⟨getU64 b 0, getU64 b 8, getU32 b 16⟩

/-- The kernel's `fuse_read_in`, with the fields no handler reads left zero. -/
def ReadIn.encode (r : ReadIn) : List UInt8 :=
  putU64 r.fh ++ putU64 r.offset ++ putU32 r.size ++ List.replicate 20 0

structure ReleaseIn where
  fh : UInt64
  deriving DecidableEq, Repr

def ReleaseIn.decode (b : List UInt8) : ReleaseIn := ⟨getU64 b 0⟩

structure ForgetIn where
  nlookup : UInt64
  deriving DecidableEq, Repr

def ForgetIn.decode (b : List UInt8) : ForgetIn := ⟨getU64 b 0⟩

structure BatchForgetIn where
  count : UInt32
  deriving DecidableEq, Repr

def BatchForgetIn.decode (b : List UInt8) : BatchForgetIn := ⟨getU32 b 0⟩

structure ForgetOne where
  nodeId : UInt64
  nlookup : UInt64
  deriving DecidableEq, Repr

def ForgetOne.decode (b : List UInt8) : ForgetOne := ⟨getU64 b 0, getU64 b 8⟩

structure AccessIn where
  mask : UInt32
  deriving DecidableEq, Repr

def AccessIn.decode (b : List UInt8) : AccessIn := ⟨getU32 b 0⟩

/-! ### Reply records -/

structure Attr where
  ino : UInt64
  size : UInt64
  blocks : UInt64
  atime : UInt64
  mtime : UInt64
  ctime : UInt64
  atimeNsec : UInt32
  mtimeNsec : UInt32
  ctimeNsec : UInt32
  mode : UInt32
  nlink : UInt32
  uid : UInt32
  gid : UInt32
  rdev : UInt32
  blksize : UInt32
  flags : UInt32 := 0
  deriving DecidableEq, Repr

structure EntryOut where
  nodeId : UInt64
  generation : UInt64
  entryValid : UInt64
  attrValid : UInt64
  entryValidNsec : UInt32
  attrValidNsec : UInt32
  attr : Attr
  deriving DecidableEq, Repr

structure AttrOut where
  attrValid : UInt64
  attrValidNsec : UInt32
  dummy : UInt32 := 0
  attr : Attr
  deriving DecidableEq, Repr

structure OpenOut where
  fh : UInt64
  openFlags : UInt32
  padding : UInt32 := 0
  deriving DecidableEq, Repr

structure InitOut where
  major : UInt32 := 0
  minor : UInt32 := 0
  maxReadahead : UInt32 := 0
  flags : UInt32 := 0
  maxBackground : UInt16 := 0
  congestionThreshold : UInt16 := 0
  maxWrite : UInt32 := 0
  timeGran : UInt32 := 0
  maxPages : UInt16 := 0
  mapAlignment : UInt16 := 0
  flags2 : UInt32 := 0
  maxStackDepth : UInt32 := 0
  deriving DecidableEq, Repr

structure Kstatfs where
  blocks : UInt64
  bfree : UInt64
  bavail : UInt64
  files : UInt64
  ffree : UInt64
  bsize : UInt32
  namelen : UInt32
  frsize : UInt32
  deriving DecidableEq, Repr

/-! ### Layout facts -/

@[simp] theorem length_InHeader_encode (h : InHeader) : h.encode.length = inHeaderSize := by
  simp [InHeader.encode, inHeaderSize]

@[simp] theorem length_ReadIn_encode (r : ReadIn) : r.encode.length = readInSize := by
  simp [ReadIn.encode, readInSize]

theorem InHeader.decode_encode (h : InHeader) (rest : List UInt8) :
    InHeader.decode (h.encode ++ rest) = h := by
  simp [InHeader.decode, InHeader.encode, getU32_append_of_le, getU64_append_of_le]

theorem ReadIn.decode_encode (r : ReadIn) (rest : List UInt8) :
    ReadIn.decode (r.encode ++ rest) = r := by
  simp [ReadIn.decode, ReadIn.encode, getU32_append_of_le, getU64_append_of_le]

end Rofuse.Proto
