import Rofuse.Encode

/-! Directory replies. `serializeDirents` and `serializeDirentsPlus` run one loop,
`appendFitting`, over different records: it appends each entry's padded record while
`uint32(len(buf)+paddedSize) ≤ maxSize` and stops at the first entry that fails the check.
`decodeDirents` and `decodeDirentsPlus` are the kernel's reading of such a reply. Proved: the
output is the records of a prefix of the entries, that prefix is never empty when the first
record fits the budget, and decoding gives the emitted entries back with zero padding. The fit
check truncates the sum to 32 bits, so a record of at least `2 ^ 32` bytes passes it whatever
the budget. -/

namespace Rofuse

open Proto

/-- `(n + 7) &^ 7`: `n` rounded up to a multiple of 8. -/
def pad8 (n : ℕ) : ℕ := (n + 7) / 8 * 8

theorem le_pad8 (n : ℕ) : n ≤ pad8 n := by unfold pad8; omega

/-! ### The serializers -/

/-- The loop of `serializeDirents` and `serializeDirentsPlus`. -/
def appendFitting {α : Type} (prefixSize : ℕ) (nameLen : α → ℕ) (record : α → List UInt8)
    (maxSize : UInt32) : List α → List UInt8 → List UInt8
  | [], buf => buf
  | entry :: rest, buf =>
    if uint32 (buf.length + pad8 (prefixSize + nameLen entry)) > maxSize then buf
    else appendFitting prefixSize nameLen record maxSize rest (buf ++ record entry)

/-- The dirent part of a record whose fixed part is `prefixSize` bytes: `ino`, `off`, the
name's length and `type`, then the name, then zeros up to the next multiple of 8. Both
serializers write it in the same way. -/
def direntTail (prefixSize : ℕ) (ino off : UInt64) (type : UInt32) (name : List UInt8) :
    List UInt8 :=
  putU64 ino ++ putU64 off ++ putU32 (uint32 name.length) ++ putU32 type ++ name ++
    List.replicate (pad8 (prefixSize + name.length) - (prefixSize + name.length)) 0

/-- One READDIR record. -/
def direntBytes (entry : DirEntry) : List UInt8 :=
  direntTail direntSize entry.ino entry.offset entry.type entry.name

def serializeDirents (entries : List DirEntry) (maxSize : UInt32) : List UInt8 :=
  appendFitting direntSize (·.name.length) direntBytes maxSize entries []

/-- One READDIRPLUS record: the entry's `EntryOut`, then a dirent whose `off` field holds the
entry's generation. -/
def direntPlusBytes (entry : DirEntryPlus) : List UInt8 :=
  entryOutBytes (entryToProto entry.entry) ++
    direntTail direntPlusSize entry.entry.ino entry.entry.generation
      (fileModeToType entry.entry.attr.mode) entry.name

def serializeDirentsPlus (entries : List DirEntryPlus) (maxSize : UInt32) : List UInt8 :=
  appendFitting direntPlusSize (·.name.length) direntPlusBytes maxSize entries []

theorem length_direntTail (prefixSize : ℕ) (ino off : UInt64) (type : UInt32) (name : List UInt8) :
    (direntTail prefixSize ino off type name).length =
      pad8 (prefixSize + name.length) - prefixSize + direntSize := by
  have := le_pad8 (prefixSize + name.length)
  simp only [direntTail, List.length_append, length_putU64, length_putU32, List.length_replicate,
    direntSize]
  omega

@[simp] theorem length_direntBytes (entry : DirEntry) :
    (direntBytes entry).length = pad8 (direntSize + entry.name.length) := by
  have := le_pad8 (direntSize + entry.name.length)
  rw [direntBytes, length_direntTail]
  simp only [direntSize] at this ⊢
  omega

@[simp] theorem length_direntPlusBytes (entry : DirEntryPlus) :
    (direntPlusBytes entry).length = pad8 (direntPlusSize + entry.name.length) := by
  have := le_pad8 (direntPlusSize + entry.name.length)
  rw [direntPlusBytes, List.length_append, length_direntTail, length_entryOutBytes]
  simp only [direntPlusSize, entryOutSize, direntSize] at this ⊢
  omega

/-! ### What the loop emits -/

/-- How many entries `appendFitting` emits after `used` bytes of output. -/
def fitCount {α : Type} (prefixSize : ℕ) (nameLen : α → ℕ) (maxSize : UInt32) :
    List α → ℕ → ℕ
  | [], _ => 0
  | entry :: rest, used =>
    if uint32 (used + pad8 (prefixSize + nameLen entry)) > maxSize then 0
    else fitCount prefixSize nameLen maxSize rest (used + pad8 (prefixSize + nameLen entry)) + 1

section Loop

variable {α : Type} {prefixSize : ℕ} {nameLen : α → ℕ} {record : α → List UInt8}
  (hrec : ∀ e, (record e).length = pad8 (prefixSize + nameLen e)) (maxSize : UInt32)

include hrec in
/-- The loop appends exactly the records of the first `fitCount` entries. -/
theorem appendFitting_eq (entries : List α) (buf : List UInt8) :
    appendFitting prefixSize nameLen record maxSize entries buf =
      buf ++ (entries.take (fitCount prefixSize nameLen maxSize entries buf.length)).flatMap record := by
  induction entries generalizing buf with
  | nil => simp [appendFitting, fitCount]
  | cons e es ih =>
    simp only [appendFitting, fitCount]
    split
    · simp
    · rw [ih, List.length_append, hrec, List.take_succ_cons, List.flatMap_cons, List.append_assoc]

/-- The first entry is always emitted when its record fits the budget on its own. -/
theorem fitCount_pos (e : α) (es : List α) (h : pad8 (prefixSize + nameLen e) ≤ maxSize.toNat) :
    0 < fitCount prefixSize nameLen maxSize (e :: es) 0 := by
  have hlt : pad8 (prefixSize + nameLen e) < 2 ^ 32 := lt_of_le_of_lt h maxSize.toNat_lt_size
  simp only [fitCount, Nat.zero_add]
  rw [if_neg (by rw [gt_iff_lt, u32_lt_iff, toNat_uint32, Nat.mod_eq_of_lt hlt]; omega)]
  omega

include hrec in
/-- Without wraparound in the fit check, the loop keeps within the budget. -/
theorem length_appendFitting_le (entries : List α) (buf : List UInt8)
    (hbuf : buf.length ≤ maxSize.toNat)
    (hwrap : ∀ e ∈ entries, maxSize.toNat + pad8 (prefixSize + nameLen e) < 2 ^ 32) :
    (appendFitting prefixSize nameLen record maxSize entries buf).length ≤ maxSize.toNat := by
  induction entries generalizing buf with
  | nil => exact hbuf
  | cons e es ih =>
    have hlt : buf.length + pad8 (prefixSize + nameLen e) < 2 ^ 32 := by
      have := hwrap e (List.mem_cons_self _ _); omega
    simp only [appendFitting]
    split
    · exact hbuf
    · rename_i hfit
      rw [gt_iff_lt, u32_lt_iff, toNat_uint32, Nat.mod_eq_of_lt hlt] at hfit
      exact ih _ (by rw [List.length_append, hrec]; omega) fun e' he' =>
        hwrap e' (List.mem_cons_of_mem _ he')

include hrec in
/-- A directory reply leaves room for the reply header below `2 ^ 32`. -/
theorem outHeaderSize_add_length_appendFitting (hpre : outHeaderSize ≤ prefixSize) (entries : List α)
    (hwrap : ∀ e ∈ entries, maxSize.toNat + pad8 (prefixSize + nameLen e) < 2 ^ 32) :
    outHeaderSize + (appendFitting prefixSize nameLen record maxSize entries []).length < 2 ^ 32 := by
  cases entries with
  | nil => simp [appendFitting, outHeaderSize]
  | cons e es =>
    have hle := length_appendFitting_le hrec maxSize (e :: es) [] (Nat.zero_le _) hwrap
    have := hwrap e (List.mem_cons_self _ _)
    have := le_pad8 (prefixSize + nameLen e)
    omega

end Loop

/-! ### The kernel's reading of a reply -/

structure Dirent where
  ino : UInt64
  off : UInt64
  namelen : UInt32
  type : UInt32
  deriving DecidableEq, Repr

def Dirent.decode (b : List UInt8) : Dirent := ⟨getU64 b 0, getU64 b 8, getU32 b 16, getU32 b 20⟩

/-- One record as the kernel reads it; `entryOut` is empty in a READDIR reply. -/
structure ReplyRecord where
  entryOut : List UInt8
  dirent : Dirent
  name : List UInt8
  padding : List UInt8
  deriving DecidableEq, Repr

/-- The kernel's parse of a directory reply whose records start with `entryOutLen` bytes of
`EntryOut`: then a 24-byte dirent, `namelen` name bytes and padding to the next multiple of 8,
until the bytes run out. `fuel` bounds the number of records. -/
def parseReply (entryOutLen : ℕ) : ℕ → List UInt8 → Option (List ReplyRecord)
  | 0, b => if b = [] then some [] else none
  | fuel + 1, b =>
    if b = [] then some [] else
    let d := Dirent.decode (b.drop entryOutLen)
    let nameEnd := entryOutLen + direntSize + d.namelen.toNat
    if b.length < pad8 nameEnd then none
    else (⟨b.take entryOutLen, d, (b.take nameEnd).drop (entryOutLen + direntSize),
        (b.take (pad8 nameEnd)).drop nameEnd⟩ :: ·) <$> parseReply entryOutLen fuel (b.drop (pad8 nameEnd))

/-- The kernel's parse of a READDIR reply. -/
def decodeDirents (b : List UInt8) : Option (List ReplyRecord) := parseReply 0 b.length b

/-- The kernel's parse of a READDIRPLUS reply. -/
def decodeDirentsPlus (b : List UInt8) : Option (List ReplyRecord) :=
  parseReply entryOutSize b.length b

section Parse

variable (entryOutLen : ℕ)

theorem parseReply_nil (fuel : ℕ) : parseReply entryOutLen fuel [] = some [] := by
  cases fuel <;> simp [parseReply]

private theorem take_drop_record (h n z rest : List UInt8) :
    ((h ++ n ++ z ++ rest).take (h.length + n.length)).drop h.length = n ∧
    ((h ++ n ++ z ++ rest).take (h.length + n.length + z.length)).drop (h.length + n.length) = z ∧
    (h ++ n ++ z ++ rest).drop (h.length + n.length + z.length) = rest := by
  refine ⟨?_, ?_, ?_⟩ <;> simp only [List.append_assoc, Nat.add_assoc, List.take_append,
    List.drop_append, List.drop_left, List.take_left, List.take_zero, List.drop_zero, List.append_nil]

/-- Reading one record back: its `EntryOut` bytes, its dirent, its name and its padding. -/
theorem parseReply_record (head : List UInt8) (hhead : head.length = entryOutLen) (ino off : UInt64)
    (type : UInt32) (name : List UInt8) (hname : name.length < 2 ^ 32) (fuel : ℕ) (rest : List UInt8) :
    parseReply entryOutLen (fuel + 1)
        (head ++ direntTail (entryOutLen + direntSize) ino off type name ++ rest) =
      (⟨head, ⟨ino, off, uint32 name.length, type⟩, name,
        List.replicate (pad8 (entryOutLen + direntSize + name.length) -
          (entryOutLen + direntSize + name.length)) 0⟩ :: ·) <$> parseReply entryOutLen fuel rest := by
  set z := List.replicate (pad8 (entryOutLen + direntSize + name.length) -
    (entryOutLen + direntSize + name.length)) (0 : UInt8)
  set hdr := putU64 ino ++ putU64 off ++ putU32 (uint32 name.length) ++ putU32 type
  have hpad := le_pad8 (entryOutLen + direntSize + name.length)
  have hhdr : hdr.length = direntSize := by simp [hdr, direntSize]
  have hz : z.length = pad8 (entryOutLen + direntSize + name.length) -
      (entryOutLen + direntSize + name.length) := List.length_replicate _ _
  have hb : head ++ direntTail (entryOutLen + direntSize) ino off type name ++ rest =
      (head ++ hdr) ++ name ++ z ++ rest := by simp [direntTail, hdr, z, List.append_assoc]
  have hd : Dirent.decode ((head ++ hdr ++ name ++ z ++ rest).drop entryOutLen) =
      ⟨ino, off, uint32 name.length, type⟩ := by
    rw [List.append_assoc, List.append_assoc, List.append_assoc, List.drop_left' hhead]
    simp [Dirent.decode, hdr, List.append_assoc, getU64_append_of_le, getU32_append_of_le]
  have hne : head ++ hdr ++ name ++ z ++ rest ≠ [] := by
    intro h; have := congrArg List.length h; simp [hhdr, direntSize] at this
  have h0 : (head ++ hdr ++ name ++ z ++ rest).take entryOutLen = head := by
    rw [List.append_assoc, List.append_assoc, List.append_assoc, List.take_left' hhead]
  obtain ⟨h1, h2, h3⟩ := take_drop_record (head ++ hdr) name z rest
  simp only [List.length_append, hhead, hhdr] at h1 h2 h3
  have hend : entryOutLen + direntSize + name.length + z.length =
      pad8 (entryOutLen + direntSize + name.length) := by omega
  rw [hb, parseReply, if_neg hne]
  simp only [hd, uint32_of_lt hname, List.length_append, hhead, hhdr, hz]
  rw [if_neg (by omega), ← hend, h0, h1, h2, h3]

theorem parseReply_flatMap {β : Type} (f : β → List UInt8) (view : β → ReplyRecord) (es : List β)
    (hstep : ∀ e ∈ es, ∀ fuel rest, parseReply entryOutLen (fuel + 1) (f e ++ rest) =
      (view e :: ·) <$> parseReply entryOutLen fuel rest)
    (fuel : ℕ) (hfuel : es.length ≤ fuel) :
    parseReply entryOutLen fuel (es.flatMap f) = some (es.map view) := by
  induction es generalizing fuel with
  | nil => exact parseReply_nil entryOutLen fuel
  | cons e es ih =>
    obtain ⟨fuel, rfl⟩ : ∃ k, fuel = k + 1 := ⟨fuel - 1, by simp at hfuel; omega⟩
    rw [List.flatMap_cons, hstep e (List.mem_cons_self _ _),
      ih (fun e he => hstep e (List.mem_cons_of_mem _ he)) fuel (by simpa using hfuel)]
    rfl

end Parse

theorem length_le_length_flatMap {β : Type} (f : β → List UInt8) (es : List β)
    (h : ∀ e, 0 < (f e).length) : es.length ≤ (es.flatMap f).length := by
  induction es with
  | nil => simp
  | cons e es ih => simp only [List.flatMap_cons, List.length_append, List.length_cons]; have := h e; omega

/-- The record the kernel reads back for a READDIR entry. -/
def DirEntry.replyRecord (e : DirEntry) : ReplyRecord :=
  ⟨[], ⟨e.ino, e.offset, uint32 e.name.length, e.type⟩, e.name,
    List.replicate (pad8 (direntSize + e.name.length) - (direntSize + e.name.length)) 0⟩

/-- The record the kernel reads back for a READDIRPLUS entry. -/
def DirEntryPlus.replyRecord (e : DirEntryPlus) : ReplyRecord :=
  ⟨entryOutBytes (entryToProto e.entry),
    ⟨e.entry.ino, e.entry.generation, uint32 e.name.length, fileModeToType e.entry.attr.mode⟩,
    e.name, List.replicate (pad8 (entryOutSize + direntSize + e.name.length) -
      (entryOutSize + direntSize + e.name.length)) 0⟩

theorem parseReply_direntBytes (e : DirEntry) (he : e.name.length < 2 ^ 32) (fuel : ℕ)
    (rest : List UInt8) :
    parseReply 0 (fuel + 1) (direntBytes e ++ rest) = (e.replyRecord :: ·) <$> parseReply 0 fuel rest := by
  simpa only [Nat.zero_add, List.nil_append] using
    parseReply_record 0 [] rfl e.ino e.offset e.type e.name he fuel rest

theorem parseReply_direntPlusBytes (e : DirEntryPlus) (he : e.name.length < 2 ^ 32) (fuel : ℕ)
    (rest : List UInt8) :
    parseReply entryOutSize (fuel + 1) (direntPlusBytes e ++ rest) =
      (e.replyRecord :: ·) <$> parseReply entryOutSize fuel rest :=
  parseReply_record entryOutSize _ (length_entryOutBytes _) _ _ _ e.name he fuel rest

theorem serializeDirents_eq (entries : List DirEntry) (maxSize : UInt32) :
    serializeDirents entries maxSize =
      (entries.take (fitCount direntSize (·.name.length) maxSize entries 0)).flatMap direntBytes := by
  rw [serializeDirents, appendFitting_eq length_direntBytes]; rfl

theorem serializeDirentsPlus_eq (entries : List DirEntryPlus) (maxSize : UInt32) :
    serializeDirentsPlus entries maxSize =
      (entries.take (fitCount direntPlusSize (·.name.length) maxSize entries 0)).flatMap
        direntPlusBytes := by
  rw [serializeDirentsPlus, appendFitting_eq length_direntPlusBytes]; rfl

theorem decodeDirents_flatMap (es : List DirEntry) (hnames : ∀ e ∈ es, e.name.length < 2 ^ 32) :
    decodeDirents (es.flatMap direntBytes) = some (es.map DirEntry.replyRecord) :=
  parseReply_flatMap 0 _ _ _ (fun e he => parseReply_direntBytes e (hnames e he)) _
    (length_le_length_flatMap _ _ fun e => by simp [direntSize, pad8]; omega)

theorem decodeDirentsPlus_flatMap (es : List DirEntryPlus)
    (hnames : ∀ e ∈ es, e.name.length < 2 ^ 32) :
    decodeDirentsPlus (es.flatMap direntPlusBytes) = some (es.map DirEntryPlus.replyRecord) :=
  parseReply_flatMap entryOutSize _ _ _ (fun e he => parseReply_direntPlusBytes e (hnames e he)) _
    (length_le_length_flatMap _ _ fun e => by simp [direntPlusSize, entryOutSize, pad8]; omega)

/-- What the kernel reads back from the READDIR reply of `entries`: the records of a prefix of
them, with their inode, cookie, type and name, and zero padding. -/
def DirentsDecode (entries : List DirEntry) (maxSize : UInt32) : Prop :=
  ∃ emitted, emitted <+: entries ∧ serializeDirents entries maxSize = emitted.flatMap direntBytes ∧
    ∃ recs, decodeDirents (serializeDirents entries maxSize) = some recs ∧
      recs.map (fun r => (r.dirent.ino, r.dirent.off, r.dirent.type, r.name)) =
        emitted.map (fun e => (e.ino, e.offset, e.type, e.name)) ∧
      ∀ r ∈ recs, ∀ x ∈ r.padding, x = 0

/-- What the kernel reads back from the READDIRPLUS reply of `entries`: for each entry of a
prefix of them, its `EntryOut` bytes, its inode, its name and its type, and zero padding. -/
def DirentsPlusDecode (entries : List DirEntryPlus) (maxSize : UInt32) : Prop :=
  ∃ emitted, emitted <+: entries ∧
    serializeDirentsPlus entries maxSize = emitted.flatMap direntPlusBytes ∧
    ∃ recs, decodeDirentsPlus (serializeDirentsPlus entries maxSize) = some recs ∧
      recs.map (fun r => (r.entryOut, r.dirent.ino, r.name, r.dirent.type)) =
        emitted.map (fun e => (entryOutBytes (entryToProto e.entry), e.entry.ino, e.name,
          fileModeToType e.entry.attr.mode)) ∧
      ∀ r ∈ recs, ∀ x ∈ r.padding, x = 0

theorem zero_padding {β : Type} (view : β → ReplyRecord)
    (hz : ∀ e, ∃ k, (view e).padding = List.replicate k 0) (es : List β) :
    ∀ r ∈ es.map view, ∀ x ∈ r.padding, x = 0 := by
  simp only [List.mem_map]
  rintro _ ⟨e, -, rfl⟩ x hx
  obtain ⟨k, hk⟩ := hz e
  exact List.eq_of_mem_replicate (hk ▸ hx)

theorem serializeDirents_decodes (entries : List DirEntry) (maxSize : UInt32)
    (hnames : ∀ e ∈ entries, e.name.length < 2 ^ 32) : DirentsDecode entries maxSize :=
  ⟨_, List.take_prefix _ _, serializeDirents_eq entries maxSize, _,
    (serializeDirents_eq entries maxSize).symm ▸
      decodeDirents_flatMap _ fun e he => hnames e (List.mem_of_mem_take he),
    by simp [DirEntry.replyRecord, Function.comp_def], zero_padding _ (fun _ => ⟨_, rfl⟩) _⟩

theorem serializeDirentsPlus_decodes (entries : List DirEntryPlus) (maxSize : UInt32)
    (hnames : ∀ e ∈ entries, e.name.length < 2 ^ 32) : DirentsPlusDecode entries maxSize :=
  ⟨_, List.take_prefix _ _, serializeDirentsPlus_eq entries maxSize, _,
    (serializeDirentsPlus_eq entries maxSize).symm ▸
      decodeDirentsPlus_flatMap _ fun e he => hnames e (List.mem_of_mem_take he),
    by simp [DirEntryPlus.replyRecord, Function.comp_def], zero_padding _ (fun _ => ⟨_, rfl⟩) _⟩

/-- The records of every directory reply decode back to the entries the serializer emitted. -/
theorem decode_serialized_replies (entries : List DirEntry) (plus : List DirEntryPlus)
    (maxSize : UInt32) (hnames : ∀ e ∈ entries, e.name.length < 2 ^ 32)
    (hplus : ∀ e ∈ plus, e.name.length < 2 ^ 32) :
    DirentsDecode entries maxSize ∧ DirentsPlusDecode plus maxSize :=
  ⟨serializeDirents_decodes entries maxSize hnames, serializeDirentsPlus_decodes plus maxSize hplus⟩

/-- Two entries named `a` and `bc` and one READDIRPLUS entry named `a`, under a 4096-byte budget. -/
theorem decode_two_entries_one_plus :
    (∀ e ∈ [(⟨1, 1, dtReg, [97]⟩ : DirEntry), ⟨2, 2, dtDir, [98, 99]⟩], e.name.length < 2 ^ 32) ∧
    (∀ e ∈ [(⟨⟨1, 0, .zero, .zero, .zero⟩, [97]⟩ : DirEntryPlus)], e.name.length < 2 ^ 32) ∧
    DirentsDecode [⟨1, 1, dtReg, [97]⟩, ⟨2, 2, dtDir, [98, 99]⟩] 4096 ∧
      DirentsPlusDecode [⟨⟨1, 0, .zero, .zero, .zero⟩, [97]⟩] 4096 := by
  have h₁ : ∀ e ∈ [(⟨1, 1, dtReg, [97]⟩ : DirEntry), ⟨2, 2, dtDir, [98, 99]⟩],
      e.name.length < 2 ^ 32 := by simp
  have h₂ : ∀ e ∈ [(⟨⟨1, 0, .zero, .zero, .zero⟩, [97]⟩ : DirEntryPlus)], e.name.length < 2 ^ 32 := by
    simp
  exact ⟨h₁, h₂, decode_serialized_replies _ _ 4096 h₁ h₂⟩

/-- The largest budget never stops the loop: every entry is emitted. -/
theorem appendFitting_of_max {α : Type} {prefixSize : ℕ} {nameLen : α → ℕ}
    {record : α → List UInt8} {maxSize : UInt32} (hmax : maxSize.toNat = 2 ^ 32 - 1)
    (entries : List α) (buf : List UInt8) :
    appendFitting prefixSize nameLen record maxSize entries buf = buf ++ entries.flatMap record := by
  induction entries generalizing buf with
  | nil => simp [appendFitting]
  | cons e es ih =>
    have hlt := (uint32 (buf.length + pad8 (prefixSize + nameLen e))).toNat_lt_size
    have hfit : ¬ uint32 (buf.length + pad8 (prefixSize + nameLen e)) > maxSize := by
      rw [gt_iff_lt, u32_lt_iff, hmax]; unfold UInt32.size at hlt; omega
    rw [appendFitting, if_neg hfit, ih, List.flatMap_cons, List.append_assoc]

/-! ### The fit check wraps -/

/-- The fit check compares `uint32(len(buf)+paddedSize)`: a single entry is emitted whole when
its padded size is within the budget modulo `2 ^ 32`, whatever its real size. -/
theorem appendFitting_single {α : Type} {prefixSize : ℕ} {nameLen : α → ℕ}
    {record : α → List UInt8} (e : α) (maxSize : UInt32)
    (h : pad8 (prefixSize + nameLen e) % 2 ^ 32 ≤ maxSize.toNat) :
    appendFitting prefixSize nameLen record maxSize [e] [] = record e := by
  have hfit : ¬ uint32 (([] : List UInt8).length + pad8 (prefixSize + nameLen e)) > maxSize := by
    rw [gt_iff_lt, u32_lt_iff, List.length_nil, Nat.zero_add, toNat_uint32]; omega
  rw [appendFitting, if_neg hfit]
  rfl

theorem serializeDirents_length_of_name (name : List UInt8) (h : name.length = 2 ^ 32) :
    (serializeDirents [⟨0, 0, 0, name⟩] 24).length = 2 ^ 32 + 24 := by
  rw [serializeDirents, appendFitting_single _ _ (by simp only [h]; decide), length_direntBytes]
  simp only [h]
  decide

theorem serializeDirentsPlus_length_of_name (name : List UInt8) (h : name.length = 2 ^ 32) :
    (serializeDirentsPlus [⟨⟨0, 0, .zero, .zero, .zero⟩, name⟩] 152).length = 2 ^ 32 + 152 := by
  rw [serializeDirentsPlus, appendFitting_single _ _ (by simp only [h]; decide),
    length_direntPlusBytes]
  simp only [h]
  decide

/-- A name of `2 ^ 32` bytes: its 24-byte-budget READDIR record is `2 ^ 32 + 24` bytes long,
and its 152-byte-budget READDIRPLUS record `2 ^ 32 + 152` bytes long. -/
theorem serializeDirents_overruns_budget :
    (serializeDirents [⟨0, 0, 0, List.replicate (2 ^ 32) 0⟩] 24).length = 2 ^ 32 + 24 ∧
    (serializeDirentsPlus [⟨⟨0, 0, .zero, .zero, .zero⟩, List.replicate (2 ^ 32) 0⟩] 152).length =
      2 ^ 32 + 152 :=
  ⟨serializeDirents_length_of_name _ (List.length_replicate _ _),
    serializeDirentsPlus_length_of_name _ (List.length_replicate _ _)⟩

end Rofuse
