import CanSentinel.Broadcast.HexPayload
import CanSentinel.Ipc.Sender

/-!
# The sniffer's filter (`c/sniffer.c`)

`main` reads its options, `open_sniffer_socket` hands the requested id and mask to the
kernel, and the loop forwards what the kernel lets through. Without `-m` the mask is
`CAN_SFF_MASK`, which covers the eleven bits of a standard id and none of the flag bits
of the word.

- `parseOptions`: the option loop, up to an option that ends the program.
- `passes_default_iff`: under the default mask only the low eleven bits count.
- `default_filter_exact_iff`: a frame that is forwarded has the requested id exactly when
  it is not an extended frame with the same low bits.
-/

namespace CanSentinel.C

/-! ## The options -/

/-- The base that `strtoul` with base 0 reads off a numeral. -/
def numeralBase (s : List UInt8) : ℕ :=
  if stripRadix s ≠ s then 16 else if s.head? = some 48 then 8 else 10

/-- The value of the leading digits in a base of at most 16. -/
def digitsValue (base : ℕ) (s : List UInt8) : ℕ :=
  (s.takeWhile fun c => isHexDigit c ∧ hexValue c < base).foldl
    (fun n c => base * n + hexValue c) 0

/-- The result of `strtoul` for a sign and an absolute value. -/
def signedResult (negative : Bool) (value : ℕ) : ℕ :=
  if 2 ^ 64 ≤ value then 2 ^ 64 - 1 else if negative then (2 ^ 64 - value) % 2 ^ 64 else value

/-- `strtoul(s, NULL, 0)`. -/
def strtoul0 (s : List UInt8) : ℕ :=
  let (negative, s) := stripSign (s.dropWhile isSpace)
  signedResult negative (digitsValue (numeralBase s) (stripRadix s))

/-- `strtoull(s, NULL, 10)`. -/
def strtoull10 (s : List UInt8) : ℕ :=
  let (negative, s) := stripSign (s.dropWhile isSpace)
  signedResult negative (digitsValue 10 s)

/-- What `getopt_long` returns, with `optarg`. -/
inductive SnifferOption where
  | iface (optarg : CString)
  | filter (optarg : CString)
  | mask (optarg : CString)
  | ipcSocket (optarg : CString)
  | count (optarg : CString)
  | quiet
  | help
  | unknown

/-- The variables of `main` that the options set. -/
structure SnifferConfig where
  iface : CString
  filterId : UInt32
  filterMask : UInt32
  enableFilter : Bool
  ipcPath : Option CString
  maxCount : ℕ
  quiet : Bool

/-- Their values before the options are read; the interface is `vcan0`. -/
def SnifferConfig.default : SnifferConfig where
  iface := ⟨[118, 99, 97, 110, 48], by decide⟩
  filterId := 0
  filterMask := canSffMask
  enableFilter := false
  ipcPath := none
  maxCount := 0
  quiet := false

/-- A turn of the option loop; an error is the exit status of a program that has
printed its usage. -/
def SnifferConfig.option (config : SnifferConfig) : SnifferOption → Except ℕ SnifferConfig
  | .iface arg => .ok { config with iface := arg }
  | .filter arg =>
    .ok { config with filterId := UInt32.ofNat (strtoul0 arg.chars), enableFilter := true }
  | .mask arg => .ok { config with filterMask := UInt32.ofNat (strtoul0 arg.chars) }
  | .ipcSocket arg => .ok { config with ipcPath := some arg }
  | .count arg => .ok { config with maxCount := strtoull10 arg.chars }
  | .quiet => .ok { config with quiet := true }
  | .help => .error 0
  | .unknown => .error 1

/-- The option loop, up to an option that ends the program. -/
def parseOptions (opts : List SnifferOption) : Except ℕ SnifferConfig :=
  opts.foldlM SnifferConfig.option .default

/-- Only `-m` changes the mask. -/
theorem filterMask_of_option {config config' : SnifferConfig} {opt : SnifferOption}
    (hopt : config.option opt = .ok config') (hmask : ∀ arg, opt ≠ .mask arg) :
    config'.filterMask = config.filterMask := by
  cases opt with
  | iface arg | filter arg | ipcSocket arg | count arg | quiet =>
    cases hopt
    rfl
  | mask arg => exact absurd rfl (hmask arg)
  | help | unknown => cases hopt

theorem filterMask_of_options {config config' : SnifferConfig} {opts : List SnifferOption}
    (hopts : opts.foldlM SnifferConfig.option config = .ok config')
    (hmask : ∀ arg, SnifferOption.mask arg ∉ opts) : config'.filterMask = config.filterMask := by
  induction opts generalizing config with
  | nil =>
    cases hopts
    rfl
  | cons opt opts ih =>
    rw [List.foldlM_cons] at hopts
    obtain ⟨next, hnext, hrest⟩ := bind_eq_ok_iff.mp hopts
    have hhead : ∀ arg, opt ≠ .mask arg := by
      rintro arg rfl
      exact hmask arg (List.mem_cons_self ..)
    rw [ih hrest fun arg hmem => hmask arg (List.mem_cons_of_mem _ hmem)]
    exact filterMask_of_option hnext hhead

/-! ## The kernel's side -/

/-- `struct can_filter`. -/
structure CanFilter where
  canId : UInt32
  canMask : UInt32
deriving DecidableEq

/-- The kernel's rule, on the id word with its flag bits. -/
def CanFilter.passes (filter : CanFilter) (canId : UInt32) : Bool :=
  canId &&& filter.canMask = filter.canId &&& filter.canMask

/-- The filter `open_sniffer_socket` sets. -/
def SnifferConfig.installedFilter (config : SnifferConfig) : Option CanFilter :=
  if config.enableFilter then some ⟨config.filterId, config.filterMask⟩ else none

/-! ## The default mask -/

theorem and_sffMask {id : UInt32} (hid : id.toNat < 2 ^ 11) : id &&& canSffMask = id := by
  apply UInt32.toNat_inj.mp
  rw [UInt32.toNat_and]
  show id.toNat &&& (2 ^ 11 - 1) = id.toNat
  rw [Nat.and_two_pow_sub_one_eq_mod, Nat.mod_eq_of_lt hid]

/-- The filter of a program started without `-m`. -/
theorem installedFilter_default {opts : List SnifferOption} {config : SnifferConfig}
    {filter : CanFilter} (hparse : parseOptions opts = .ok config)
    (hmask : ∀ arg, SnifferOption.mask arg ∉ opts)
    (hfilter : config.installedFilter = some filter) :
    filter = ⟨config.filterId, canSffMask⟩ := by
  have hdefault : config.filterMask = canSffMask := filterMask_of_options hparse hmask
  rw [SnifferConfig.installedFilter] at hfilter
  split at hfilter
  · rw [← hdefault]
    exact (Option.some.inj hfilter).symm
  · cases hfilter

/-- Under the default mask only the low eleven bits of a word count. -/
theorem passes_default_iff {id : UInt32} (hid : id.toNat < 2 ^ 11) (word : UInt32) :
    (CanFilter.mk id canSffMask).passes word = true ↔ word &&& canSffMask = id := by
  rw [CanFilter.passes, decide_eq_true_iff, and_sffMask hid]

/-- What the packed record says about a standard frame, and about an extended one. -/
theorem snifferPack_standard {frame : CanFrame} (h : frame.canId &&& canEffFlag = 0)
    (tsUs : UInt64) : (snifferPack frame tsUs).canId = frame.canId &&& canSffMask ∧
      (snifferPack frame tsUs).isExtended = 0 := by
  constructor
  · show frame.canId &&& (if _ then _ else _) = _
    rw [if_neg (not_not.mpr h)]
  · show (if _ then _ else _) = _
    rw [if_neg (not_not.mpr h)]

theorem snifferPack_extended {frame : CanFrame} (h : frame.canId &&& canEffFlag ≠ 0)
    (tsUs : UInt64) : (snifferPack frame tsUs).isExtended = 1 := by
  show (if _ then _ else _) = _
  rw [if_pos h]

/-- **The default filter.** Without `-m`, a frame that passes is forwarded under the
requested id as a standard frame, unless it is an extended frame whose low eleven bits
are that id. -/
theorem default_filter_exact_iff {opts : List SnifferOption} {config : SnifferConfig}
    {filter : CanFilter} (hparse : parseOptions opts = .ok config)
    (hmask : ∀ arg, SnifferOption.mask arg ∉ opts)
    (hfilter : config.installedFilter = some filter) (hid : config.filterId.toNat < 2 ^ 11)
    (frame : CanFrame) (tsUs : UInt64) :
    (filter.passes frame.canId = true →
        (snifferPack frame tsUs).canId = config.filterId ∧
          (snifferPack frame tsUs).isExtended = 0) ↔
      (frame.canId &&& canEffFlag = 0 ∨ frame.canId &&& canSffMask ≠ config.filterId) := by
  rw [installedFilter_default hparse hmask hfilter, passes_default_iff hid]
  constructor
  · intro hexact
    by_contra hleak
    push Not at hleak
    obtain ⟨heff, hlow⟩ := hleak
    have hextended := snifferPack_extended heff tsUs
    rw [(hexact hlow).2] at hextended
    cases hextended
  · rintro (hstd | hother) hlow
    · obtain ⟨hpacked, hflag⟩ := snifferPack_standard hstd tsUs
      exact ⟨hpacked.trans hlow, hflag⟩
    · exact absurd hlow hother

/-- `0x110`. -/
def arg0x110 : CString := ⟨[48, 120, 49, 49, 48], by decide⟩

/-- The variables of `main` after `-f 0x110`. -/
def config0x110 : SnifferConfig :=
  { SnifferConfig.default with filterId := 0x110, enableFilter := true }

theorem default_filter_exact_0x110 :
    (snifferPack ⟨0x110, 4, .zero 8⟩ 0).canId = 0x110 ∧
      (snifferPack ⟨0x110, 4, .zero 8⟩ 0).isExtended = 0 :=
  have hparse : parseOptions [.filter arg0x110] = .ok config0x110 := rfl
  (default_filter_exact_iff hparse (by simp) rfl (by decide) ⟨0x110, 4, .zero 8⟩ 0).mpr
    (.inl (by decide)) (by decide)

/-- The J1939 frame `0x18DB3110` passes the filter of `-f 0x110` and is forwarded under its
own id. -/
theorem extended_frame_passes : ¬ ∀ (opts : List SnifferOption) (config : SnifferConfig)
    (filter : CanFilter), parseOptions opts = .ok config →
      (∀ arg, SnifferOption.mask arg ∉ opts) → config.installedFilter = some filter →
      config.filterId.toNat < 2 ^ 11 → ∀ (frame : CanFrame) (tsUs : UInt64),
        filter.passes frame.canId = true →
          (snifferPack frame tsUs).canId = config.filterId ∧
            (snifferPack frame tsUs).isExtended = 0 := by
  intro hexact
  have hid : (snifferPack ⟨0x98DB3110, 8, .zero 8⟩ 0).canId = 0x110 :=
    (hexact [.filter arg0x110] config0x110 ⟨0x110, canSffMask⟩ rfl (by simp) rfl (by decide)
      ⟨0x98DB3110, 8, .zero 8⟩ 0 (by decide)).1
  revert hid
  decide

end CanSentinel.C
