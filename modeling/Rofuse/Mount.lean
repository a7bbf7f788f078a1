import Rofuse.Types

/-! The option strings `mount` hands over (`mount.go`). `mountDirect` passes `mount(2)` the data
`fd=%d,rootmode=%o,user_id=%d,group_id=%d` and the flags; the kernel splits it at every comma
(`readOptions`). `mountFusermount` passes `fusermount -o` the string `rw`, the flags, `fsname=`
and `subtype=`; `fusermount`'s `do_mount` also splits at commas, but in an `fsname=` or
`subtype=` option a backslash escapes the next character (`fusermountOptions`). Proved: the
kernel reads back the numbers and flags `mountDirect` wrote (`mountDirect_readBack`);
`fusermount` reads back the options asked for when the name and subtype hold no comma and no
backslash (`fusermountOpts_readBack`); and a comma in `FSName` starts an option of its own
(`fusermountOpts_fsName_splits`). Neither string asks for a read-only mount. -/

namespace Rofuse

/-! ### Numbers -/

/-- `fmt`'s `%d` (base 10) and `%o` (base 8) of a non-negative number: its digits, most
significant first, and `0` for zero. -/
def fmtNum (base n : ℕ) : List Char :=
  if n = 0 then ['0'] else (Nat.digits base n).reverse.map Nat.digitChar

/-- The kernel's reading of a number written in `base`. -/
def readNum (base : ℕ) (ds : List Char) : ℕ :=
  ds.foldl (fun acc c => acc * base + (c.toNat - '0'.toNat)) 0

theorem digitChar_toNat : ∀ d < 10, (Nat.digitChar d).toNat - '0'.toNat = d := by decide

/-- The digits of a number are digit characters, none of them a comma or `=`. -/
theorem mem_fmtNum {base n : ℕ} (h₁ : 2 ≤ base) (h₂ : base ≤ 10) {c : Char}
    (hc : c ∈ fmtNum base n) : ∃ d < 10, c = Nat.digitChar d := by
  unfold fmtNum at hc
  split_ifs at hc
  · exact ⟨0, by decide, List.eq_of_mem_singleton hc⟩
  · obtain ⟨d, hd, rfl⟩ := List.mem_map.mp hc
    exact ⟨d, (Nat.digits_lt_base h₁ (List.mem_reverse.mp hd)).trans_le h₂, rfl⟩

theorem readNum_reverse_digits (base : ℕ) :
    ∀ ds : List ℕ, (∀ d ∈ ds, d < 10) →
      readNum base (ds.reverse.map Nat.digitChar) = Nat.ofDigits base ds
  | [], _ => rfl
  | d :: ds, h => by
    have ih := readNum_reverse_digits base ds fun d hd => h d (List.mem_cons_of_mem _ hd)
    rw [readNum] at ih ⊢
    rw [List.reverse_cons, List.map_append, List.foldl_append, ih, List.map_singleton,
      List.foldl_cons, List.foldl_nil, digitChar_toNat d (h d (List.mem_cons_self _ _)),
      Nat.ofDigits_cons]
    ring

/-- The kernel reads back the number `fmt` printed. -/
theorem readNum_fmtNum {base : ℕ} (h₁ : 2 ≤ base) (h₂ : base ≤ 10) (n : ℕ) :
    readNum base (fmtNum base n) = n := by
  unfold fmtNum
  split_ifs with hn
  · simp [hn, readNum]
  · rw [readNum_reverse_digits base _ fun d hd => (Nat.digits_lt_base h₁ hd).trans_le h₂,
      Nat.ofDigits_digits]

/-- No digit is a comma or `=`. -/
theorem digitChar_ne : ∀ d < 10, Nat.digitChar d ≠ ',' ∧ Nat.digitChar d ≠ '=' := by decide

theorem comma_not_mem_fmtNum {base n : ℕ} (h₁ : 2 ≤ base) (h₂ : base ≤ 10) :
    ',' ∉ fmtNum base n ∧ '=' ∉ fmtNum base n := by
  refine ⟨fun h => ?_, fun h => ?_⟩ <;> obtain ⟨d, hd, he⟩ := mem_fmtNum h₁ h₂ h
  · exact (digitChar_ne d hd).1 he.symm
  · exact (digitChar_ne d hd).2 he.symm

/-! ### Option lists -/

/-- An option string: its options joined by commas. -/
def joinOpts (first : List Char) (rest : List (List Char)) : List Char :=
  first ++ (rest.map (',' :: ·)).flatten

theorem joinOpts_append (first : List Char) (rest xs : List (List Char)) :
    joinOpts first (rest ++ xs) = joinOpts first rest ++ (xs.map (',' :: ·)).flatten := by
  simp [joinOpts]

/-- An option that holds a comma is, once joined, the two options on either side of it. -/
theorem joinOpts_split (first : List Char) (xs : List (List Char)) (a b : List Char)
    (ys : List (List Char)) :
    joinOpts first (xs ++ (a ++ ',' :: b) :: ys) = joinOpts first (xs ++ a :: b :: ys) := by
  simp [joinOpts]

/-- One option as the kernel reads it: the key up to the first `=`, and the value after it. -/
def readOption (opt : List Char) : List Char × List Char :=
  (opt.takeWhile (· != '='), (opt.dropWhile (· != '=')).drop 1)

/-- The kernel's reading of the `mount(2)` data: split at every comma, then option by option. -/
def readOptions (s : List Char) : List (List Char × List Char) := (s.splitOn ',').map readOption

theorem readOption_kv {key : List Char} (hk : '=' ∉ key) (val : List Char) :
    readOption (key ++ '=' :: val) = (key, val) := by
  have hk' : ∀ c ∈ key, (c != '=') = true := fun c hc => by
    simpa using fun h : c = '=' => hk (h ▸ hc)
  simp [readOption, List.takeWhile_append_of_pos hk', List.dropWhile_append_of_pos hk']

theorem readOption_flag {key : List Char} (hk : '=' ∉ key) : readOption key = (key, []) := by
  have hk' : ∀ c ∈ key, (c != '=') = true := fun c hc => by
    simpa using fun h : c = '=' => hk (h ▸ hc)
  simp [readOption, List.takeWhile_eq_self_iff.mpr hk', List.dropWhile_eq_nil_iff.mpr hk']

/-- Split at the commas, an option string gives back its options when none holds a comma. -/
theorem splitOn_joinOpts (first : List Char) (rest : List (List Char)) (h₁ : ',' ∉ first)
    (h₂ : ∀ x ∈ rest, ',' ∉ x) : (joinOpts first rest).splitOn ',' = first :: rest := by
  have hnone : ∀ l : List Char, ',' ∉ l → ∀ c ∈ l, ¬(c == ',') = true := fun l hl c hc => by
    simpa using fun h : c = ',' => hl (h ▸ hc)
  induction rest generalizing first with
  | nil => simpa [joinOpts, List.splitOn] using List.splitOnP_eq_single _ first (hnone _ h₁)
  | cons x rest ih =>
    have : joinOpts first (x :: rest) = first ++ ',' :: joinOpts x rest := by simp [joinOpts]
    rw [this, List.splitOn, List.splitOnP_first _ first (hnone _ h₁) ',' (by simp),
      ← List.splitOn, ih x (h₂ x (List.mem_cons_self _ _)) fun y hy => h₂ y (List.mem_cons_of_mem _ hy)]

/-! ### `fusermount`'s reading -/

/-- `begins_with(s, "fsname=") || begins_with(s, "subtype=")`: a backslash escapes in the option
that starts `s`. -/
def escapeOk (s : List Char) : Bool :=
  "fsname=".toList.isPrefixOf s || "subtype=".toList.isPrefixOf s

/-- `do_mount`'s loop over the options: an option ends at a comma, except that where `esc` holds
a backslash takes the next character with it (`escaped`); `cur` is the option scanned so far. -/
def scanOptions (esc escaped : Bool) (cur : List Char) : List Char → List (List Char)
  | [] => [cur]
  | c :: rest =>
    if escaped then scanOptions esc false (cur ++ [c]) rest
    else if c = ',' then cur :: if rest = [] then [] else scanOptions (escapeOk rest) false [] rest
    else scanOptions esc (esc && c == '\\') (cur ++ [c]) rest

/-- `get_string_opt`'s copy of a value: a backslash with a character after it is dropped, and
that character copied whatever it is. -/
def unescape (escaped : Bool) : List Char → List Char
  | [] => []
  | c :: rest =>
    if ¬escaped ∧ c = '\\' ∧ rest ≠ [] then unescape true rest else c :: unescape false rest

/-- One option as `do_mount` reads it: the value of `fsname=` and `subtype=` through
`get_string_opt`, any other option by its key up to the first `=`. -/
def fusermountOption (opt : List Char) : List Char × List Char :=
  if "fsname=".toList.isPrefixOf opt then ("fsname".toList, unescape false (opt.drop 7))
  else if "subtype=".toList.isPrefixOf opt then ("subtype".toList, unescape false (opt.drop 8))
  else readOption opt

/-- The options `fusermount` reads from its `-o` string. -/
def fusermountOptions (s : List Char) : List (List Char × List Char) :=
  (if s = [] then [] else scanOptions (escapeOk s) false [] s).map fusermountOption

example : fusermountOptions "rw,fsname=x\\,allow_other".toList =
    [("rw".toList, []), ("fsname".toList, "x,allow_other".toList)] := by decide

/-- An option with no comma and no backslash is scanned whole. -/
theorem scanOptions_append (esc : Bool) (cur : List Char) {x : List Char} (hc : ',' ∉ x)
    (hb : '\\' ∉ x) (tail : List Char) :
    scanOptions esc false cur (x ++ tail) = scanOptions esc false (cur ++ x) tail := by
  induction x generalizing cur with
  | nil => simp
  | cons c x ih =>
    simp only [List.mem_cons, not_or] at hc hb
    rw [List.cons_append]
    simp only [scanOptions, Bool.false_eq_true, if_false, if_neg (Ne.symm hc.1),
      beq_false_of_ne (Ne.symm hb.1), Bool.and_false, ih _ hc.2 hb.2, List.append_assoc,
      List.singleton_append]

theorem scanOptions_comma (esc : Bool) (cur rest : List Char) :
    scanOptions esc false cur (',' :: rest) =
      cur :: if rest = [] then [] else scanOptions (escapeOk rest) false [] rest := by
  simp [scanOptions]

/-- Options with no comma and no backslash, joined, are scanned back one by one. -/
theorem scanOptions_joinOpts (esc : Bool) (first : List Char) (rest : List (List Char))
    (h₁ : ',' ∉ first ∧ '\\' ∉ first) (h₂ : ∀ x ∈ rest, ',' ∉ x ∧ '\\' ∉ x ∧ x ≠ []) :
    scanOptions esc false [] (joinOpts first rest) = first :: rest := by
  induction rest generalizing first esc with
  | nil => simpa [joinOpts] using scanOptions_append esc [] h₁.1 h₁.2 []
  | cons x rest ih =>
    have hx := h₂ x (List.mem_cons_self _ _)
    have hj : joinOpts first (x :: rest) = first ++ ',' :: joinOpts x rest := by simp [joinOpts]
    have hne : joinOpts x rest ≠ [] := by simp [joinOpts, hx.2.2]
    rw [hj, scanOptions_append _ _ h₁.1 h₁.2, scanOptions_comma, if_neg hne, List.nil_append,
      ih _ _ ⟨hx.1, hx.2.1⟩ fun y hy => h₂ y (List.mem_cons_of_mem _ hy)]

theorem fusermountOptions_joinOpts (first : List Char) (rest : List (List Char))
    (h₁ : ',' ∉ first ∧ '\\' ∉ first ∧ first ≠ []) (h₂ : ∀ x ∈ rest, ',' ∉ x ∧ '\\' ∉ x ∧ x ≠ []) :
    fusermountOptions (joinOpts first rest) = (first :: rest).map fusermountOption := by
  rw [fusermountOptions, if_neg (by simp [joinOpts, h₁.2.2]),
    scanOptions_joinOpts _ _ _ ⟨h₁.1, h₁.2.1⟩ h₂]

theorem unescape_of_not_mem {v : List Char} (hv : '\\' ∉ v) : unescape false v = v := by
  induction v with
  | nil => rfl
  | cons c v ih =>
    simp only [List.mem_cons, not_or] at hv
    simp only [unescape, Ne.symm hv.1, false_and, and_false, if_false, ih hv.2]

theorem fusermountOption_fsname (v : List Char) :
    fusermountOption ("fsname".toList ++ '=' :: v) = ("fsname".toList, unescape false v) := by
  simp [fusermountOption, List.isPrefixOf]

theorem fusermountOption_subtype (v : List Char) :
    fusermountOption ("subtype".toList ++ '=' :: v) = ("subtype".toList, unescape false v) := by
  simp [fusermountOption, List.isPrefixOf]

/-! ### The two option strings -/

/-- The fields of `MountOptions` that `mount` reads. -/
structure MountFlags where
  directMount : Bool := false
  allowOther : Bool := false
  defaultPermissions : Bool := false
  fsName : String := ""
  subtype : String := ""
  deriving DecidableEq, Repr

/-- `mountDirect`'s data for `mount(2)`, with the descriptor it opened and the caller's ids. -/
def mountDirectData (fd uid gid : ℕ) (opts : MountFlags) : List Char :=
  let mountOpts := "fd=".toList ++ fmtNum 10 fd ++ ",rootmode=".toList ++ fmtNum 8 0o40755 ++
    ",user_id=".toList ++ fmtNum 10 uid ++ ",group_id=".toList ++ fmtNum 10 gid
  let mountOpts := if opts.allowOther then mountOpts ++ ",allow_other".toList else mountOpts
  if opts.defaultPermissions then mountOpts ++ ",default_permissions".toList else mountOpts

/-- `mountFusermount`'s option string for `fusermount -o`. -/
def fusermountOpts (opts : MountFlags) : List Char :=
  let o := "rw".toList
  let o := if opts.allowOther then o ++ ",allow_other".toList else o
  let o := if opts.defaultPermissions then o ++ ",default_permissions".toList else o
  let o := if opts.fsName ≠ "" then o ++ ",fsname=".toList ++ opts.fsName.toList else o
  if opts.subtype ≠ "" then o ++ ",subtype=".toList ++ opts.subtype.toList else o

/-- The flags the options ask for, one option each. -/
def flagOptions (opts : MountFlags) : List (List Char) :=
  (if opts.allowOther then ["allow_other".toList] else []) ++
    (if opts.defaultPermissions then ["default_permissions".toList] else [])

/-- The options asked of `fusermount`, after `rw` and the flags. -/
def nameOptions (opts : MountFlags) : List (List Char) :=
  (if opts.fsName ≠ "" then ["fsname".toList ++ '=' :: opts.fsName.toList] else []) ++
    (if opts.subtype ≠ "" then ["subtype".toList ++ '=' :: opts.subtype.toList] else [])

/-- The flags `mount` appends to the options before them. -/
theorem append_flags (m : List Char) (opts : MountFlags) :
    (if opts.defaultPermissions then
        (if opts.allowOther then m ++ ",allow_other".toList else m) ++ ",default_permissions".toList
      else if opts.allowOther then m ++ ",allow_other".toList else m) =
      m ++ ((flagOptions opts).map (',' :: ·)).flatten := by
  unfold flagOptions
  split_ifs <;> simp only [List.append_assoc, List.nil_append, List.append_nil, List.map_nil,
    List.flatten_nil] <;> rfl

/-- What `fmt.Sprintf` writes, whatever the numbers print as, is four options. -/
theorem direct_prefix (a b c d : List Char) :
    "fd=".toList ++ a ++ ",rootmode=".toList ++ b ++ ",user_id=".toList ++ c ++ ",group_id=".toList ++ d =
      joinOpts ("fd".toList ++ '=' :: a)
        ["rootmode".toList ++ '=' :: b, "user_id".toList ++ '=' :: c, "group_id".toList ++ '=' :: d] := by
  simp only [joinOpts, List.map_cons, List.map_nil, List.flatten_cons, List.flatten_nil, List.append_nil,
    List.append_assoc]
  rfl

/-- The direct mount data is its four numbered options followed by the flags. -/
theorem mountDirectData_eq (fd uid gid : ℕ) (opts : MountFlags) :
    mountDirectData fd uid gid opts = joinOpts ("fd".toList ++ '=' :: fmtNum 10 fd)
      (["rootmode".toList ++ '=' :: fmtNum 8 0o40755, "user_id".toList ++ '=' :: fmtNum 10 uid,
        "group_id".toList ++ '=' :: fmtNum 10 gid] ++ flagOptions opts) := by
  rw [joinOpts_append, ← direct_prefix, ← append_flags]
  rfl

/-- `fusermount`'s option string is `rw`, the flags, the name and the subtype, one option each. -/
theorem fusermountOpts_eq (opts : MountFlags) :
    fusermountOpts opts = joinOpts "rw".toList (flagOptions opts ++ nameOptions opts) := by
  simp only [fusermountOpts]
  rw [append_flags, joinOpts_append, joinOpts]
  unfold nameOptions
  split_ifs <;> simp only [List.append_assoc, List.nil_append, List.append_nil, List.map_append,
    List.map_cons, List.map_nil, List.flatten_cons, List.flatten_nil, List.flatten_append] <;> rfl

theorem comma_not_mem_kv {key val : List Char} (hk : ',' ∉ key) (hv : ',' ∉ val) :
    ',' ∉ key ++ '=' :: val := by
  simp [hk, hv]

theorem comma_not_mem_flagOptions (opts : MountFlags) : ∀ x ∈ flagOptions opts, ',' ∉ x := by
  unfold flagOptions; split_ifs <;> decide

theorem readOption_flagOptions (opts : MountFlags) :
    (flagOptions opts).map readOption = (flagOptions opts).map (·, []) := by
  unfold flagOptions; split_ifs <;> decide

/-- The kernel reads back from the direct mount data the descriptor, the root mode `040755`, the
caller's user and group ids, each digit for digit, and the flags the options ask for, and
nothing else: no read-only flag. -/
theorem mountDirect_readBack (fd uid gid : ℕ) (opts : MountFlags) :
    readOptions (mountDirectData fd uid gid opts) =
      [("fd".toList, fmtNum 10 fd), ("rootmode".toList, fmtNum 8 0o40755),
        ("user_id".toList, fmtNum 10 uid), ("group_id".toList, fmtNum 10 gid)] ++
        (flagOptions opts).map (·, []) ∧
    readNum 10 (fmtNum 10 fd) = fd ∧ readNum 8 (fmtNum 8 0o40755) = 0o40755 ∧
    readNum 10 (fmtNum 10 uid) = uid ∧ readNum 10 (fmtNum 10 gid) = gid := by
  have h10 : ∀ n, ',' ∉ fmtNum 10 n := fun n => (comma_not_mem_fmtNum (by norm_num) le_rfl).1
  have h8 : ',' ∉ fmtNum 8 0o40755 := (comma_not_mem_fmtNum (by norm_num) (by norm_num)).1
  refine ⟨?_, readNum_fmtNum (by norm_num) le_rfl _, readNum_fmtNum (by norm_num) (by norm_num) _,
    readNum_fmtNum (by norm_num) le_rfl _, readNum_fmtNum (by norm_num) le_rfl _⟩
  rw [readOptions, mountDirectData_eq, splitOn_joinOpts _ _ (comma_not_mem_kv (by decide) (h10 _))]
  · simp only [List.map_cons, List.map_append, readOption_flagOptions,
      readOption_kv (show '=' ∉ "fd".toList by decide), readOption_kv (show '=' ∉ "rootmode".toList by decide),
      readOption_kv (show '=' ∉ "user_id".toList by decide),
      readOption_kv (show '=' ∉ "group_id".toList by decide)]
    rfl
  · intro x hx
    simp only [List.mem_append, List.mem_cons, List.not_mem_nil, or_false] at hx
    rcases hx with (rfl | rfl | rfl) | hx
    · exact comma_not_mem_kv (by decide) h8
    · exact comma_not_mem_kv (by decide) (h10 _)
    · exact comma_not_mem_kv (by decide) (h10 _)
    · exact comma_not_mem_flagOptions opts x hx

theorem fusermountOption_rw : fusermountOption "rw".toList = ("rw".toList, []) := by decide

/-- The options after the flags as `fusermount` reads them: the name and the subtype, when set. -/
def namePairs (opts : MountFlags) : List (List Char × List Char) :=
  (if opts.fsName ≠ "" then [("fsname".toList, opts.fsName.toList)] else []) ++
    (if opts.subtype ≠ "" then [("subtype".toList, opts.subtype.toList)] else [])

theorem plain_kv {key val : List Char} (hk : ',' ∉ key ∧ '\\' ∉ key) (hv : ',' ∉ val ∧ '\\' ∉ val) :
    ',' ∉ key ++ '=' :: val ∧ '\\' ∉ key ++ '=' :: val ∧ key ++ '=' :: val ≠ [] := by
  simp [hk, hv]

theorem plain_flagOptions (opts : MountFlags) :
    ∀ x ∈ flagOptions opts, ',' ∉ x ∧ '\\' ∉ x ∧ x ≠ [] := by
  unfold flagOptions; split_ifs <;> decide

theorem fusermountOption_flagOptions (opts : MountFlags) :
    (flagOptions opts).map fusermountOption = (flagOptions opts).map (·, []) := by
  unfold flagOptions; split_ifs <;> decide

theorem plain_nameOptions {opts : MountFlags} (hfs : ',' ∉ opts.fsName.toList ∧ '\\' ∉ opts.fsName.toList)
    (hsub : ',' ∉ opts.subtype.toList ∧ '\\' ∉ opts.subtype.toList) :
    ∀ x ∈ nameOptions opts, ',' ∉ x ∧ '\\' ∉ x ∧ x ≠ [] := by
  have hf := plain_kv (show ',' ∉ "fsname".toList ∧ '\\' ∉ "fsname".toList by decide) hfs
  have hs := plain_kv (show ',' ∉ "subtype".toList ∧ '\\' ∉ "subtype".toList by decide) hsub
  intro x hx
  unfold nameOptions at hx
  split_ifs at hx <;>
    simp only [List.mem_append, List.mem_singleton, List.not_mem_nil, or_false, false_or] at hx <;>
    rcases hx with rfl | rfl <;> assumption

theorem fusermountOption_nameOptions {opts : MountFlags} (hfs : '\\' ∉ opts.fsName.toList)
    (hsub : '\\' ∉ opts.subtype.toList) :
    (nameOptions opts).map fusermountOption = namePairs opts := by
  unfold nameOptions namePairs
  split_ifs <;> simp only [List.map_append, List.map_cons, List.map_nil, fusermountOption_fsname,
    fusermountOption_subtype, unescape_of_not_mem hfs, unescape_of_not_mem hsub]

/-- When `FSName` and `Subtype` hold no comma and no backslash, `fusermount` reads back `rw`, the
flags, the name and the subtype the options ask for, and nothing else. -/
theorem fusermountOpts_readBack (opts : MountFlags)
    (hfs : ',' ∉ opts.fsName.toList ∧ '\\' ∉ opts.fsName.toList)
    (hsub : ',' ∉ opts.subtype.toList ∧ '\\' ∉ opts.subtype.toList) :
    fusermountOptions (fusermountOpts opts) =
      ("rw".toList, []) :: (flagOptions opts).map (·, []) ++ namePairs opts := by
  have hall : ∀ x ∈ flagOptions opts ++ nameOptions opts, ',' ∉ x ∧ '\\' ∉ x ∧ x ≠ [] := fun x hx =>
    (List.mem_append.mp hx).elim (plain_flagOptions opts x) (plain_nameOptions hfs hsub x)
  rw [fusermountOpts_eq, fusermountOptions_joinOpts _ _ (by decide) hall, List.map_cons,
    List.map_append, fusermountOption_rw, fusermountOption_flagOptions,
    fusermountOption_nameOptions hfs.2 hsub.2]
  rfl

theorem fusermountOpts_readBack_named :
    fusermountOptions (fusermountOpts { allowOther := true, fsName := "myfs", subtype := "rofuse" }) =
      [("rw".toList, []), ("allow_other".toList, []), ("fsname".toList, "myfs".toList),
        ("subtype".toList, "rofuse".toList)] :=
  (fusermountOpts_readBack { allowOther := true, fsName := "myfs", subtype := "rofuse" } (by decide)
    (by decide)).trans (by decide)

/-- A comma in `FSName` that no backslash escapes ends the name there, and `fusermount` reads
what follows it as an option of its own, as if the options had asked for it. -/
theorem fusermountOpts_fsName_splits (opts : MountFlags) (pre opt : List Char)
    (hpre : ',' ∉ pre ∧ '\\' ∉ pre) (hopt : ',' ∉ opt ∧ '\\' ∉ opt ∧ opt ≠ [])
    (hfs : opts.fsName.toList = pre ++ ',' :: opt)
    (hsub : ',' ∉ opts.subtype.toList ∧ '\\' ∉ opts.subtype.toList) :
    fusermountOptions (fusermountOpts opts) = ("rw".toList, []) :: (flagOptions opts).map (·, []) ++
      ("fsname".toList, pre) :: fusermountOption opt ::
        (if opts.subtype ≠ "" then [("subtype".toList, opts.subtype.toList)] else []) := by
  have hne : opts.fsName ≠ "" := fun h => by simp [h] at hfs
  have hsplit : flagOptions opts ++ nameOptions opts = flagOptions opts ++
      ("fsname".toList ++ '=' :: pre ++ ',' :: opt) ::
        (if opts.subtype ≠ "" then ["subtype".toList ++ '=' :: opts.subtype.toList] else []) := by
    simp only [nameOptions, if_pos hne, hfs, List.singleton_append, List.append_assoc, List.cons_append,
      List.nil_append]
  have hall : ∀ x ∈ flagOptions opts ++ ("fsname".toList ++ '=' :: pre) :: opt ::
      (if opts.subtype ≠ "" then ["subtype".toList ++ '=' :: opts.subtype.toList] else []),
      ',' ∉ x ∧ '\\' ∉ x ∧ x ≠ [] := by
    intro x hx
    simp only [List.mem_append, List.mem_cons] at hx
    rcases hx with hx | rfl | rfl | hx
    · exact plain_flagOptions opts x hx
    · exact plain_kv (by decide) hpre
    · exact hopt
    · split_ifs at hx
      · rw [List.mem_singleton.mp hx]; exact plain_kv (by decide) hsub
      · exact absurd hx (List.not_mem_nil x)
  rw [fusermountOpts_eq, hsplit, joinOpts_split, fusermountOptions_joinOpts _ _ (by decide) hall]
  simp only [List.map_cons, List.map_append, fusermountOption_rw, fusermountOption_flagOptions,
    fusermountOption_fsname, unescape_of_not_mem hpre.2]
  split_ifs <;> simp only [List.map_cons, List.map_nil, fusermountOption_subtype,
    unescape_of_not_mem hsub.2] <;> rfl

/-- The name `x,allow_other` asks for `allow_other`, which the options did not set. -/
theorem fusermountOpts_fsName_allow_other :
    fusermountOptions (fusermountOpts { fsName := "x,allow_other" }) =
      [("rw".toList, []), ("fsname".toList, "x".toList), ("allow_other".toList, [])] :=
  (fusermountOpts_fsName_splits { fsName := "x,allow_other" } "x".toList "allow_other".toList
    (by decide) (by decide) rfl (by decide)).trans (by decide)

end Rofuse
