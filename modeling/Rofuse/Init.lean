import Rofuse.BufferPool
import Rofuse.Replies
import Rofuse.Server

/-! `FUSE_INIT` through `handleRequest`, for every `InitIn` and every server whose options `Mount`
defaulted. A kernel of another major version gets our version in an `InitOut` and a kernel older
than minor 26 gets `-EPROTO`, both with the server state left as it was. Otherwise the version
is stored, the filesystem's `Init` is called with the negotiated `Config`, and when it succeeds
the reply the kernel decodes carries major 7, the minor `min(kernel minor, 41)`, the advertised
capabilities the kernel offered, the read-ahead the `Config` holds after `Init` and the options'
`max_write` (`init_negotiation`). The congestion threshold is computed in `uint16`, so
`MaxBackground * 3` wraps for a `MaxBackground` above 21845. -/

namespace Rofuse

open Proto

/-- The kernel's `fuse_init_in`, with `flags2` and the unused words left zero. -/
def Proto.InitIn.encode (inp : InitIn) : List UInt8 :=
  putU32 inp.major ++ putU32 inp.minor ++ putU32 inp.maxReadahead ++ putU32 inp.flags ++
    List.replicate 48 0

theorem Proto.InitIn.decode_encode (inp : InitIn) : InitIn.decode inp.encode = inp := by
  simp [InitIn.decode, InitIn.encode, getU32_append_of_le]

/-- The kernel's `FUSE_INIT` request. -/
def initFrame (unique : UInt64) (inp : InitIn) : Request :=
  .ofFrame ⟨uint32 (inHeaderSize + initInSize), opInit, unique, 0, 0, 0, 0, 0⟩ inp.encode

theorem body_initFrame (unique : UInt64) (inp : InitIn) :
    (initFrame unique inp).body InitIn.decode = some inp := by
  rw [initFrame, Request.body_ofFrame _ _ _ (by simp [InitIn.encode]), InitIn.decode_encode]

/-! ### The three ways `handleInit` goes -/

/-- The `Config` `handleInit` builds and hands to `Init`. -/
def initConfig (s : Server) (inp : InitIn) : Config :=
  { protoMajor := inp.major
    protoMinor := if inp.minor > fuseKernelMinorVersion then fuseKernelMinorVersion else inp.minor
    maxReadahead := min inp.maxReadahead s.opts.maxReadahead
    maxWrite := s.opts.maxWrite
    maxPages := defaultMaxPages }

/-- The negotiated minor is the smaller of the kernel's and ours. -/
theorem initConfig_protoMinor (s : Server) (inp : InitIn) :
    (initConfig s inp).protoMinor = min inp.minor 41 := by
  show (if inp.minor > 41 then 41 else inp.minor) = if inp.minor ≤ 41 then inp.minor else 41
  by_cases h : inp.minor ≤ 41
  · rw [if_neg (UInt32.not_lt.mpr h), if_pos h]
  · rw [if_pos (UInt32.not_le.mp h), if_neg h]

section Branches

variable {fs : Filesystem} {s : Server} {req : Request} {inp : InitIn}

theorem handleInit_mismatch (hin : req.body InitIn.decode = some inp)
    (hmaj : inp.major ≠ fuseKernelVersion) :
    handleInit fs s req = some ⟨s, [.write (responseBytes req (initOutBytes
      { major := fuseKernelVersion, minor := fuseKernelMinorVersion }))], none⟩ := by
  simp [handleInit, hin, hmaj]

theorem handleInit_old_minor (hin : req.body InitIn.decode = some inp)
    (hmaj : inp.major = fuseKernelVersion) (hmin : inp.minor < minSupportedMinor) :
    handleInit fs s req = some ⟨s, [], some (.errno eproto)⟩ := by
  simp [handleInit, hin, hmaj, hmin]

/-- A negotiation whose `Init` returns `config'` and no error: the version is stored, the
server is initialized and the reply reads the read-ahead back from `config'`. -/
theorem handleInit_negotiates {config' : Config} (hin : req.body InitIn.decode = some inp)
    (hmaj : inp.major = fuseKernelVersion) (hmin : ¬inp.minor < minSupportedMinor)
    (hinit : fs.init (newContext req) (initConfig s inp) = (config', none)) :
    handleInit fs s req =
      some ⟨{ s with protoMajor := inp.major, protoMinor := (initConfig s inp).protoMinor,
                     config := some config', initialized := true },
        [.call (.init (newContext req) (initConfig s inp)),
          .write (responseBytes req (initOutBytes
            { major := fuseKernelVersion, minor := (initConfig s inp).protoMinor,
              maxReadahead := config'.maxReadahead, flags := initFlags &&& inp.flags,
              maxBackground := s.opts.maxBackground,
              congestionThreshold := s.opts.maxBackground * 3 / 4, maxWrite := s.opts.maxWrite,
              timeGran := defaultTimeGran, maxPages := defaultMaxPages }))], none⟩ := by
  simp only [initConfig, hmaj] at hinit ⊢
  simp only [handleInit, hin, hmaj, hmin, hinit, Option.bind_eq_bind, Option.some_bind, ne_eq,
    not_true_eq_false, if_false]

end Branches

/-- `MaxBackground * 3 / 4` in `uint16`. -/
theorem toNat_congestion (mb : UInt16) : (mb * 3 / 4).toNat = mb.toNat * 3 % 2 ^ 16 / 4 := by
  rw [UInt16.toNat_div]
  exact congrArg (· / 4) (BitVec.toNat_mul _ _)

/-- The threshold never exceeds `MaxBackground`, wrapped or not. -/
theorem congestion_le (mb : UInt16) : (mb * 3 / 4).toNat ≤ mb.toNat := by
  rw [toNat_congestion]
  rcases Nat.lt_or_ge (mb.toNat * 3) (2 ^ 16) with h | h
  · rw [Nat.mod_eq_of_lt h]; omega
  · have := Nat.mod_lt (mb.toNat * 3) (by norm_num : 2 ^ 16 > 0); omega

/-- The minor `handleInit` negotiates with a kernel of minor at least 26 lies in `[26, 41]`. -/
theorem min_minor_mem {minor : UInt32} (h : minSupportedMinor ≤ minor) :
    26 ≤ (min minor 41).toNat ∧ (min minor 41).toNat ≤ 41 := by
  have h' : 26 ≤ minor.toNat := h
  show 26 ≤ (if minor ≤ 41 then minor else 41).toNat ∧ (if minor ≤ 41 then minor else 41).toNat ≤ 41
  split_ifs with hle
  · exact ⟨h', hle⟩
  · exact ⟨by decide, by decide⟩

/-- `FUSE_INIT` for every `InitIn` and server state: another major gets 7.41 and a minor below 26
`-EPROTO`, with no callback and no state change; otherwise `Init` is called once, the state
stores the negotiated version and `Config`, and the reply decodes to them and the options. -/
theorem init_negotiation (fs : Filesystem) (s : Server) (req : Request) (inp : InitIn)
    (hop : req.header.opcode = opInit) (hin : req.body InitIn.decode = some inp) :
    ∃ s' events, handleRequest fs s req = some (s', events) ∧
      (inp.major ≠ 7 → s' = s ∧ calls events = [] ∧ ∃ f, frames events = [f] ∧
        (InitOut.decode (f.drop outHeaderSize)).major = 7 ∧
        (InitOut.decode (f.drop outHeaderSize)).minor = 41) ∧
      (inp.major = 7 → inp.minor < 26 → s' = s ∧ calls events = [] ∧
        frames events = [errorBytes req (-71)]) ∧
      (inp.major = 7 → 26 ≤ inp.minor → ∀ config',
        fs.init (newContext req) (initConfig s inp) = (config', none) →
        initConfig s inp = ⟨7, min inp.minor 41, min inp.maxReadahead s.opts.maxReadahead,
          s.opts.maxWrite, defaultMaxPages⟩ ∧
        calls events = [.init (newContext req) (initConfig s inp)] ∧
        s'.protoMajor = 7 ∧ s'.protoMinor = min inp.minor 41 ∧ s'.config = some config' ∧
        s'.initialized = true ∧
        ∃ f out, frames events = [f] ∧ InitOut.decode (f.drop outHeaderSize) = out ∧
          out.major = 7 ∧ out.minor = min inp.minor 41 ∧
          26 ≤ out.minor.toNat ∧ out.minor.toNat ≤ 41 ∧ out.flags = initFlags &&& inp.flags ∧
          out.maxReadahead = config'.maxReadahead ∧ out.maxWrite = s.opts.maxWrite ∧
          out.maxBackground = s.opts.maxBackground ∧
          out.congestionThreshold.toNat = s.opts.maxBackground.toNat * 3 % 2 ^ 16 / 4 ∧
          out.congestionThreshold.toNat ≤ out.maxBackground.toNat) := by
  have hl : handlers.lookup req.header.opcode = some handleInit := by rw [hop]; rfl
  have hw : isWriteOp req.header.opcode = false := by rw [hop]; rfl
  have hsend : ¬(req.header.opcode = opForget ∨ req.header.opcode = opBatchForget) := by
    rw [hop]; decide
  by_cases hmaj : inp.major = fuseKernelVersion
  case neg =>
    refine ⟨_, _, handleRequest_of_handler hw hl (handleInit_mismatch hin hmaj),
      fun _ => ⟨rfl, rfl, _, rfl, ?_⟩, fun h => absurd h hmaj, fun h => absurd h hmaj⟩
    rw [drop_responseBytes, decode_initOutBytes]
    exact ⟨rfl, rfl⟩
  by_cases hmin : inp.minor < minSupportedMinor
  case pos =>
    refine ⟨_, _, handleRequest_of_handler hw hl (handleInit_old_minor hin hmaj hmin),
      fun h => absurd hmaj h, fun _ _ => ⟨rfl, by simp [calls_sendError], ?_⟩,
      fun _ h => absurd hmin (UInt32.not_lt.mpr h)⟩
    simp only [Option.map_some', Option.getD_some, List.nil_append, frames_sendError, hsend,
      if_false, toErrno_errno eproto (by decide)]
    rfl
  cases hinit : fs.init (newContext req) (initConfig s inp) with
  | mk config' err =>
    cases err with
    | some err =>
      have hr : handleInit fs s req = some
          ⟨{ s with protoMajor := inp.major, protoMinor := (initConfig s inp).protoMinor,
                    config := some config' },
            [.call (.init (newContext req) (initConfig s inp))], some err⟩ := by
        simp only [initConfig, hmaj] at hinit ⊢
        simp only [handleInit, hin, hmaj, hmin, hinit, Option.bind_eq_bind, Option.some_bind,
          ne_eq, not_true_eq_false, if_false]
      exact ⟨_, _, handleRequest_of_handler hw hl hr, fun h => absurd hmaj h,
        fun _ h => absurd h hmin, fun _ _ _ h => by simp at h⟩
    | none =>
      refine ⟨_, _, handleRequest_of_handler hw hl (handleInit_negotiates hin hmaj hmin hinit),
        fun h => absurd hmaj h, fun _ h => absurd h hmin, fun _ hle c hc => ?_⟩
      obtain rfl : config' = c := congrArg Prod.fst hc
      have hm := initConfig_protoMinor s inp
      refine ⟨by rw [← hm, initConfig, hmaj]; rfl, rfl, hmaj, hm, rfl, rfl, _, _, rfl, rfl, ?_⟩
      rw [drop_responseBytes, decode_initOutBytes]
      have hmem := min_minor_mem hle
      rw [← hm] at hmem
      exact ⟨rfl, hm, hmem.1, hmem.2, rfl, rfl, rfl, rfl, toNat_congestion _, congestion_le _⟩

/-- A server mounted with `MaxBackground: 21846` answers a 7.41 kernel with a congestion threshold
of 0, where `3 * 21846 / 4` is 16384. -/
theorem init_negotiation_congestion_wraps :
    (initFrame 1 ⟨7, 41, 131072, 0xFFFFFFFF⟩).header.opcode = opInit ∧
    (initFrame 1 ⟨7, 41, 131072, 0xFFFFFFFF⟩).body InitIn.decode =
      some ⟨7, 41, 131072, 0xFFFFFFFF⟩ ∧
    ∃ s' events, handleRequest (blankDirectory 0) (mountServer { maxBackground := 21846 })
        (initFrame 1 ⟨7, 41, 131072, 0xFFFFFFFF⟩) = some (s', events) ∧
      ∃ f out, frames events = [f] ∧ InitOut.decode (f.drop outHeaderSize) = out ∧
        out.maxBackground = 21846 ∧ out.congestionThreshold = 0 := by
  have hop : (initFrame 1 ⟨7, 41, 131072, 0xFFFFFFFF⟩).header.opcode = opInit := by
    simp [initFrame]
  obtain ⟨s', events, h, -, -, h₃⟩ := init_negotiation (blankDirectory 0)
    (mountServer { maxBackground := 21846 }) _ _ hop (body_initFrame _ _)
  obtain ⟨-, -, -, -, -, -, f, out, hf, hd, -, -, -, -, -, -, -, hmb, hc, -⟩ :=
    h₃ rfl (by decide) _ rfl
  exact ⟨hop, body_initFrame _ _, s', events, h, f, out, hf, hd, hmb.trans rfl,
    UInt16.toNat.inj (hc.trans (by decide))⟩

end Rofuse
