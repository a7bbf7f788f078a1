import Rofuse.Errors
import Rofuse.Types

/-! The `Filesystem` interface (`filesystem.go`) and what a handler does with it. A `Filesystem`
is a record of its callbacks as functions of their arguments: a method returning a pointer
returns an `Option` (`none` is nil) beside its error, one returning a slice or a string returns
the value beside its error, and `Init` also returns the `Config` it wrote. A filesystem with
state is a `StatefulFilesystem`: the callbacks of each state, and the state each call leads to.
A handler's effects are the callbacks it made and the frames it wrote. `FilesystemBase.extend`
embeds `FilesystemBase`, which leaves `Lookup`, `GetAttr`, `Read` and `ReadDir` to its user.
`NonNil` and `Small` are the assumptions the request contract makes of a filesystem. -/

namespace Rofuse

/-- The `Context` handed to every callback: the caller's credentials and the request's id. -/
structure Context where
  uid : UInt32
  gid : UInt32
  pid : UInt32
  unique : UInt64
  deriving DecidableEq, Repr

structure Filesystem where
  init : Context → Config → Config × Option GoError
  lookup : Context → Inode → List UInt8 → Option Entry × Option GoError
  getAttr : Context → Inode → Option FileHandle → Option Attr × Option GoError
  readLink : Context → Inode → List UInt8 × Option GoError
  «open» : Context → Inode → UInt32 → Option OpenResponse × Option GoError
  read : Context → Inode → FileHandle → ℤ → UInt32 → List UInt8 × Option GoError
  release : Context → Inode → FileHandle → Option GoError
  openDir : Context → Inode → UInt32 → Option OpenResponse × Option GoError
  readDir : Context → Inode → FileHandle → ℤ → UInt32 → List DirEntry × Option GoError
  readDirPlus : Context → Inode → FileHandle → ℤ → UInt32 → List DirEntryPlus × Option GoError
  releaseDir : Context → Inode → FileHandle → Option GoError
  statFS : Context → Inode → Option StatFS × Option GoError
  access : Context → Inode → UInt32 → Option GoError

/-- A filesystem embedding `FilesystemBase`: the four methods it does not implement are
given, every other method is the base's. -/
def FilesystemBase.extend
    (lookup : Context → Inode → List UInt8 → Option Entry × Option GoError)
    (getAttr : Context → Inode → Option FileHandle → Option Attr × Option GoError)
    (read : Context → Inode → FileHandle → ℤ → UInt32 → List UInt8 × Option GoError)
    (readDir : Context → Inode → FileHandle → ℤ → UInt32 → List DirEntry × Option GoError) :
    Filesystem where
  init _ config := (config, none)
  lookup := lookup
  getAttr := getAttr
  readLink _ _ := ([], some (.errno enosys))
  «open» _ _ _ := (some ⟨0, 0⟩, none)
  read := read
  release _ _ _ := none
  openDir _ _ _ := (some ⟨0, 0⟩, none)
  readDir := readDir
  readDirPlus _ _ _ _ _ := ([], some (.errno enosys))
  releaseDir _ _ _ := none
  statFS _ _ := (some ⟨0, 0, 0, 0, 0, 4096, 255, 4096⟩, none)
  access _ _ _ := none

/-! ### Calls and events -/

/-- A callback invocation with its arguments. -/
inductive Call
  | init (ctx : Context) (config : Config)
  | destroy (ctx : Context)
  | lookup (ctx : Context) (parent : Inode) (name : List UInt8)
  | getAttr (ctx : Context) (ino : Inode) (fh : Option FileHandle)
  | readLink (ctx : Context) (ino : Inode)
  | «open» (ctx : Context) (ino : Inode) (flags : UInt32)
  | read (ctx : Context) (ino : Inode) (fh : FileHandle) (offset : ℤ) (size : UInt32)
  | release (ctx : Context) (ino : Inode) (fh : FileHandle)
  | openDir (ctx : Context) (ino : Inode) (flags : UInt32)
  | readDir (ctx : Context) (ino : Inode) (fh : FileHandle) (offset : ℤ) (size : UInt32)
  | readDirPlus (ctx : Context) (ino : Inode) (fh : FileHandle) (offset : ℤ) (size : UInt32)
  | releaseDir (ctx : Context) (ino : Inode) (fh : FileHandle)
  | statFS (ctx : Context) (ino : Inode)
  | access (ctx : Context) (ino : Inode) (mask : UInt32)
  | forget (ctx : Context) (ino : Inode) (nlookup : UInt64)
  | batchForget (ctx : Context) (entries : List ForgetEntry)
  deriving DecidableEq

inductive Event
  | call (c : Call)
  | write (frame : List UInt8)
  deriving DecidableEq

def Event.frame? : Event → Option (List UInt8)
  | .write f => some f
  | .call _ => none

def Event.call? : Event → Option Call
  | .call c => some c
  | .write _ => none

/-- The frames written, in order. -/
def frames (events : List Event) : List (List UInt8) := events.filterMap Event.frame?

/-- The callbacks made, in order. -/
def calls (events : List Event) : List Call := events.filterMap Event.call?

@[simp] theorem frames_nil : frames [] = [] := rfl

@[simp] theorem frames_cons_call (c : Call) (es : List Event) :
    frames (.call c :: es) = frames es := rfl

@[simp] theorem frames_cons_write (f : List UInt8) (es : List Event) :
    frames (.write f :: es) = f :: frames es := rfl

@[simp] theorem frames_append (es es' : List Event) : frames (es ++ es') = frames es ++ frames es' :=
  List.filterMap_append _ _ _

@[simp] theorem calls_nil : calls [] = [] := rfl

@[simp] theorem calls_cons_call (c : Call) (es : List Event) : calls (.call c :: es) = c :: calls es :=
  rfl

@[simp] theorem calls_cons_write (f : List UInt8) (es : List Event) :
    calls (.write f :: es) = calls es := rfl

@[simp] theorem calls_append (es es' : List Event) : calls (es ++ es') = calls es ++ calls es' :=
  List.filterMap_append _ _ _

/-- A filesystem whose callbacks read and write its own state: `fs q` answers in state `q`, and
each callback moves the state by `next`. A handler makes at most one callback. -/
structure StatefulFilesystem (σ : Type) where
  fs : σ → Filesystem
  next : σ → Call → σ

/-! ### Assumptions on a filesystem -/

/-- A callback result that is a non-nil pointer or an error. -/
def Answered {α : Type} (r : Option α × Option GoError) : Prop := r.1.isSome ∨ r.2.isSome

/-- Every callback that returns a pointer returns a non-nil one or an error. -/
structure Filesystem.NonNil (fs : Filesystem) : Prop where
  lookup : ∀ ctx parent name, Answered (fs.lookup ctx parent name)
  getAttr : ∀ ctx ino fh, Answered (fs.getAttr ctx ino fh)
  «open» : ∀ ctx ino flags, Answered (fs.open ctx ino flags)
  openDir : ∀ ctx ino flags, Answered (fs.openDir ctx ino flags)
  statFS : ∀ ctx ino, Answered (fs.statFS ctx ino)

/-- The data a read returns and a link target are shorter than `2^31` bytes. -/
structure Filesystem.Small (fs : Filesystem) : Prop where
  read : ∀ ctx ino fh offset size, (fs.read ctx ino fh offset size).1.length < 2 ^ 31
  readLink : ∀ ctx ino, (fs.readLink ctx ino).1.length < 2 ^ 31

/-- The base's pointer methods never return nil, so an extension is `NonNil` as soon as its own
`Lookup` and `GetAttr` are. -/
theorem FilesystemBase.extend_nonNil {lookup getAttr read readDir}
    (hl : ∀ ctx parent name, Answered (lookup ctx parent name))
    (hg : ∀ ctx ino fh, Answered (getAttr ctx ino fh)) :
    (FilesystemBase.extend lookup getAttr read readDir).NonNil :=
  ⟨hl, hg, fun _ _ _ => .inl rfl, fun _ _ _ => .inl rfl, fun _ _ => .inl rfl⟩

theorem FilesystemBase.extend_small {lookup getAttr read readDir}
    (hr : ∀ ctx ino fh offset size, (read ctx ino fh offset size).1.length < 2 ^ 31) :
    (FilesystemBase.extend lookup getAttr read readDir).Small :=
  ⟨hr, fun _ _ => by simp [FilesystemBase.extend]⟩

/-- A filesystem embedding `FilesystemBase` whose directories hold `n` entries with empty names
and whose lookups fail. -/
def blankDirectory (n : ℕ) : Filesystem :=
  FilesystemBase.extend (fun _ _ _ => (none, some (.errno enoent)))
    (fun _ _ _ => (none, some (.errno enoent))) (fun _ _ _ _ _ => ([], none))
    (fun _ _ _ _ _ => (List.replicate n ⟨0, 0, 0, []⟩, none))

end Rofuse
