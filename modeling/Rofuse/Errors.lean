import Rofuse.Proto.Bytes

/-! Go `error` values and `toErrno` (`mount.go`). An error is a `syscall.Errno` (a `uintptr`),
one of the sentinels `toErrno` looks for, a plain error that matches nothing, a single wrap
(`fmt.Errorf` with `%w`, `*os.PathError`) or an `errors.Join`. `asErrno` and `is` are
`errors.As` with a `syscall.Errno` target and `errors.Is`, walking the wrap tree depth first
as the standard library does, with `Errno.Is` mapping errno values to the `os` sentinels.
`toErrno` returns a Go `int32`, modelled as an integer in range; `-int32(errno)` truncates the
64-bit errno and negates with wraparound. -/

namespace Rofuse

open Proto

/-! ### Errno values (Linux) -/

def eperm : UInt64 := 1
def enoent : UInt64 := 2
def eintr : UInt64 := 4
def eio : UInt64 := 5
def ebadf : UInt64 := 9
def eacces : UInt64 := 13
def eexist : UInt64 := 17
def enodev : UInt64 := 19
def einval : UInt64 := 22
def erofs : UInt64 := 30
def enosys : UInt64 := 38
def enotempty : UInt64 := 39
def eproto : UInt64 := 71
def etimedout : UInt64 := 110

/-- The sentinels `toErrno` tests with `errors.Is`. -/
inductive Sentinel
  | errNotExist
  | errExist
  | errPermission
  | errClosed
  | errInvalid
  | eof
  | canceled
  | deadlineExceeded
  deriving DecidableEq, Repr

inductive GoError
  | errno (n : UInt64)
  | sentinel (s : Sentinel)
  | plain
  | wrap (e : GoError)
  | join (es : List GoError)
  deriving Repr

/-- `syscall.Errno.Is`: the errno values that stand for an `os` sentinel. -/
def errnoIs (n : UInt64) : Sentinel → Bool
  | .errPermission => n == eacces || n == eperm
  | .errExist => n == eexist || n == enotempty
  | .errNotExist => n == enoent
  | _ => false

mutual

/-- `errors.As(err, &errno)` with a `syscall.Errno` target. -/
def GoError.asErrno : GoError → Option UInt64
  | .errno n => some n
  | .sentinel _ => none
  | .plain => none
  | .wrap e => e.asErrno
  | .join es => asErrnoAll es

def asErrnoAll : List GoError → Option UInt64
  | [] => none
  | e :: es => match e.asErrno with
    | some n => some n
    | none => asErrnoAll es

end

mutual

/-- `errors.Is(err, target)` for a sentinel target. -/
def GoError.is (s : Sentinel) : GoError → Bool
  | .errno n => errnoIs n s
  | .sentinel t => t == s
  | .plain => false
  | .wrap e => e.is s
  | .join es => isAny s es

def isAny (s : Sentinel) : List GoError → Bool
  | [] => false
  | e :: es => e.is s || isAny s es

end

/-- The value of a Go `int32` that holds `i` after wraparound. -/
def int32Wrap (i : ℤ) : ℤ := if i % 2 ^ 32 < 2 ^ 31 then i % 2 ^ 32 else i % 2 ^ 32 - 2 ^ 32

/-- `-int32(errno)`. -/
def negErrno (n : UInt64) : ℤ := int32Wrap (-int32Wrap n.toNat)

/-- `toErrno`: 0 for nil, otherwise the negated errno (`EIO` when nothing matches). -/
def toErrno : Option GoError → ℤ
  | none => 0
  | some err =>
    match err.asErrno with
    | some n => negErrno n
    | none =>
      if err.is .errNotExist then negErrno enoent
      else if err.is .errExist then negErrno eexist
      else if err.is .errPermission then negErrno eacces
      else if err.is .errClosed then negErrno ebadf
      else if err.is .errInvalid then negErrno einval
      else if err.is .eof then 0
      else if err.is .canceled then negErrno eintr
      else if err.is .deadlineExceeded then negErrno etimedout
      else negErrno eio

theorem int32Wrap_of_lt {i : ℤ} (h₁ : -2 ^ 31 ≤ i) (h₂ : i < 2 ^ 31) : int32Wrap i = i := by
  unfold int32Wrap; split_ifs <;> omega

theorem int32Wrap_mem (i : ℤ) : -2 ^ 31 ≤ int32Wrap i ∧ int32Wrap i < 2 ^ 31 := by
  unfold int32Wrap; split_ifs <;> omega

/-- A status in the range of `int32`, stored with `uint32(errno)`, reads back as itself when the
kernel reads the field as signed. -/
theorem int32Wrap_uint32OfInt {x : ℤ} (h₁ : -2 ^ 31 ≤ x) (h₂ : x < 2 ^ 31) :
    int32Wrap (uint32OfInt x).toNat = x := by
  rw [toNat_uint32OfInt]; unfold int32Wrap; split_ifs <;> omega

/-- `-int32(errno)` in closed form: with `r` the low 32 bits of the errno, `-r` up to `2 ^ 31`,
and `2 ^ 32 - r` above it, where the negation wraps to a positive status. -/
theorem negErrno_eq (n : UInt64) : negErrno n = if n.toNat % 2 ^ 32 ≤ 2 ^ 31
    then -((n.toNat % 2 ^ 32 : ℕ) : ℤ) else 2 ^ 32 - ((n.toNat % 2 ^ 32 : ℕ) : ℤ) := by
  unfold negErrno int32Wrap; split_ifs <;> omega

theorem negErrno_pos_iff (n : UInt64) : 0 < negErrno n ↔ 2 ^ 31 < n.toNat % 2 ^ 32 := by
  rw [negErrno_eq]; split_ifs <;> omega

theorem negErrno_eq_zero_iff (n : UInt64) : negErrno n = 0 ↔ n.toNat % 2 ^ 32 = 0 := by
  rw [negErrno_eq]; split_ifs <;> omega

/-- The `os` sentinels that `toErrno` tests before `io.EOF`. -/
def GoError.isOsSentinel (err : GoError) : Bool :=
  err.is .errNotExist || err.is .errExist || err.is .errPermission || err.is .errClosed ||
    err.is .errInvalid

/-- Past `errors.As`, every branch of `toErrno` is a small negated errno, except `io.EOF`'s 0. -/
theorem toErrno_of_asErrno_none {err : GoError} (h : err.asErrno = none) :
    -110 ≤ toErrno (some err) ∧ toErrno (some err) ≤ 0 ∧
      (toErrno (some err) = 0 ↔ err.is .eof ∧ err.isOsSentinel = false) := by
  obtain ⟨h₁, h₂, h₃, h₄, h₅, h₇, h₈, h₉⟩ : negErrno enoent = -2 ∧ negErrno eexist = -17 ∧
      negErrno eacces = -13 ∧ negErrno ebadf = -9 ∧ negErrno einval = -22 ∧
      negErrno eintr = -4 ∧ negErrno etimedout = -110 ∧ negErrno eio = -5 := by decide
  simp only [toErrno, h, GoError.isOsSentinel, h₁, h₂, h₃, h₄, h₅, h₇, h₈, h₉]
  generalize err.is .errNotExist = b₁, err.is .errExist = b₂, err.is .errPermission = b₃,
    err.is .errClosed = b₄, err.is .errInvalid = b₅, err.is .eof = b₆, err.is .canceled = b₇,
    err.is .deadlineExceeded = b₈
  revert b₁ b₂ b₃ b₄ b₅ b₆ b₇ b₈
  decide

/-- `toErrno` is positive exactly on the errors whose first errno has low 32 bits above
`2 ^ 31`. -/
theorem toErrno_pos_iff (err : GoError) :
    0 < toErrno (some err) ↔ ∃ n, err.asErrno = some n ∧ 2 ^ 31 < n.toNat % 2 ^ 32 := by
  cases h : err.asErrno with
  | some n => simp [toErrno, h, negErrno_pos_iff]
  | none => simpa using (toErrno_of_asErrno_none h).2.1

/-- `toErrno` is 0 on an errno whose low 32 bits are 0, and on `io.EOF` past the `os`
sentinels. -/
theorem toErrno_eq_zero_iff (err : GoError) :
    toErrno (some err) = 0 ↔ (∃ n, err.asErrno = some n ∧ n.toNat % 2 ^ 32 = 0) ∨
      (err.asErrno = none ∧ err.is .eof ∧ err.isOsSentinel = false) := by
  cases h : err.asErrno with
  | some n => simp [toErrno, h, negErrno_eq_zero_iff]
  | none => simpa using (toErrno_of_asErrno_none h).2.2

theorem toErrno_mem (err : Option GoError) :
    -2 ^ 31 ≤ toErrno err ∧ toErrno err < 2 ^ 31 := by
  rcases err with _ | err
  · decide
  cases h : err.asErrno with
  | some n => simpa only [toErrno, h] using int32Wrap_mem _
  | none => have := toErrno_of_asErrno_none h; omega

/-- An errno below `2 ^ 31` is sent negated. -/
theorem toErrno_errno (n : UInt64) (h : n.toNat < 2 ^ 31) :
    toErrno (some (.errno n)) = -(n.toNat : ℤ) := by
  have hn : int32Wrap n.toNat = n.toNat := int32Wrap_of_lt (by omega) (by omega)
  simp only [toErrno, GoError.asErrno, negErrno]
  rw [hn, int32Wrap_of_lt (by omega) (by omega)]

end Rofuse
