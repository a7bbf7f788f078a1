import Rofuse.Types

/-! The reply encoders of the handler file: `initOutBytes`, `entryOutBytes`, `attrOutBytes`,
`openOutBytes`, `statfsOutBytes`, `writeAttr` and `entryToProto`. Go allocates a zeroed buffer of
the record's size and writes each field at its offset; the fields are contiguous, so the buffer
is the concatenation of the field encodings followed by the bytes left zero. -/

namespace Rofuse

open Proto

def writeAttr (attr : Proto.Attr) : List UInt8 :=
  putU64 attr.ino ++ putU64 attr.size ++ putU64 attr.blocks ++ putU64 attr.atime ++
    putU64 attr.mtime ++ putU64 attr.ctime ++ putU32 attr.atimeNsec ++ putU32 attr.mtimeNsec ++
    putU32 attr.ctimeNsec ++ putU32 attr.mode ++ putU32 attr.nlink ++ putU32 attr.uid ++
    putU32 attr.gid ++ putU32 attr.rdev ++ putU32 attr.blksize ++ putU32 attr.flags

def initOutBytes (out : InitOut) : List UInt8 :=
  putU32 out.major ++ putU32 out.minor ++ putU32 out.maxReadahead ++ putU32 out.flags ++
    putU16 out.maxBackground ++ putU16 out.congestionThreshold ++ putU32 out.maxWrite ++
    putU32 out.timeGran ++ putU16 out.maxPages ++ putU16 out.mapAlignment ++ putU32 out.flags2 ++
    putU32 out.maxStackDepth ++ List.replicate 24 0

def entryOutBytes (out : EntryOut) : List UInt8 :=
  putU64 out.nodeId ++ putU64 out.generation ++ putU64 out.entryValid ++ putU64 out.attrValid ++
    putU32 out.entryValidNsec ++ putU32 out.attrValidNsec ++ writeAttr out.attr

def attrOutBytes (out : AttrOut) : List UInt8 :=
  putU64 out.attrValid ++ putU32 out.attrValidNsec ++ putU32 out.dummy ++ writeAttr out.attr

def openOutBytes (out : OpenOut) : List UInt8 :=
  putU64 out.fh ++ putU32 out.openFlags ++ putU32 out.padding

def statfsOutBytes (st : Kstatfs) : List UInt8 :=
  putU64 st.blocks ++ putU64 st.bfree ++ putU64 st.bavail ++ putU64 st.files ++ putU64 st.ffree ++
    putU32 st.bsize ++ putU32 st.namelen ++ putU32 st.frsize ++ List.replicate 12 0

def entryToProto (entry : Entry) : EntryOut :=
  let (entrySec, entryNsec) := durationToTimespec entry.entryTimeout
  let (attrSec, attrNsec) := durationToTimespec entry.attrTimeout
  { nodeId := entry.ino
    generation := entry.generation
    entryValid := entrySec
    entryValidNsec := entryNsec
    attrValid := attrSec
    attrValidNsec := attrNsec
    attr := attrToProto entry.attr }

@[simp] theorem length_writeAttr (attr : Proto.Attr) : (writeAttr attr).length = attrSize := by
  simp [writeAttr, attrSize]

@[simp] theorem length_initOutBytes (out : InitOut) : (initOutBytes out).length = initOutSize := by
  simp [initOutBytes, initOutSize]

@[simp] theorem length_entryOutBytes (out : EntryOut) :
    (entryOutBytes out).length = entryOutSize := by
  simp [entryOutBytes, entryOutSize, attrSize]

@[simp] theorem length_attrOutBytes (out : AttrOut) : (attrOutBytes out).length = attrOutSize := by
  simp [attrOutBytes, attrOutSize, attrSize]

@[simp] theorem length_openOutBytes (out : OpenOut) : (openOutBytes out).length = openOutSize := by
  simp [openOutBytes, openOutSize]

@[simp] theorem length_statfsOutBytes (st : Kstatfs) :
    (statfsOutBytes st).length = statfsOutSize := by
  simp [statfsOutBytes, statfsOutSize]

end Rofuse
