import CanSentinel.Lib.Python

/-!
# Text formats

The format specifications and readers a program uses for numbers and payloads,
with the round trips between them.

- `fmtFixed x n` is `f"{x:.nf}"` and `floatOfString` is `float(s)`:
  `floatOfString_fmtFixed` reads back every number with at most `n` decimals.
- `hexOfBytes` is `"".join(f"{b:02X}" for b in data)` and `bytesFromHex` is
  `bytes.fromhex`: `bytesFromHex_hexOfBytes`.
- `fmtHex n w` is `f"{n:0wX}"`, `fmtDec n w` is `f"{n:0wd}"`.
- `intOfString` is `int(s)`, with `intOfString_toString` as its round trip.
-/

namespace CanSentinel

/-! ## Hexadecimal payloads -/

/-- An upper-case hexadecimal digit. -/
def hexDigit (d : ℕ) : Char := d.digitChar.toUpper

/-- `f"{b:02X}"`. -/
def byteHex (b : UInt8) : List Char := [hexDigit (b.toNat / 16), hexDigit (b.toNat % 16)]

/-- `"".join(f"{b:02X}" for b in data)`. -/
def hexOfBytes (data : List UInt8) : String := String.ofList (data.flatMap byteHex)

/-- The value of a hexadecimal digit of either case. -/
def hexVal (c : Char) : Option ℕ :=
  if '0' ≤ c ∧ c ≤ '9' then some (c.toNat - '0'.toNat)
  else if 'a' ≤ c ∧ c ≤ 'f' then some (c.toNat - 'a'.toNat + 10)
  else if 'A' ≤ c ∧ c ≤ 'F' then some (c.toNat - 'A'.toNat + 10)
  else none

/-- The byte pairs of a hexadecimal text; white space may separate bytes. -/
def bytesOfHexChars : List Char → Option (List UInt8)
  | [] => some []
  | [c] => if c.isWhitespace then some [] else none
  | c :: d :: cs =>
    if c.isWhitespace then bytesOfHexChars (d :: cs)
    else do
      let hi ← hexVal c
      let lo ← hexVal d
      let bs ← bytesOfHexChars cs
      return UInt8.ofNat (16 * hi + lo) :: bs

/-- `bytes.fromhex(s)`. -/
def bytesFromHex (s : String) : Except PyError (List UInt8) :=
  match bytesOfHexChars s.toList with
  | some bs => .ok bs
  | none => .error (.valueError "non-hexadecimal number found in fromhex() arg")

theorem hexVal_hexDigit : ∀ d < 16, hexVal (hexDigit d) = some d := by decide

theorem hexDigit_not_whitespace : ∀ d < 16, (hexDigit d).isWhitespace = false := by decide

theorem bytesOfHexChars_flatMap (data : List UInt8) :
    bytesOfHexChars (data.flatMap byteHex) = some data := by
  induction data with
  | nil => rfl
  | cons b data ih =>
    have hb : b.toNat < 256 := b.toNat_lt
    have hhi : b.toNat / 16 < 16 := by omega
    have hlo : b.toNat % 16 < 16 := by omega
    have hval : 16 * (b.toNat / 16) + b.toNat % 16 = b.toNat := by omega
    rw [List.flatMap_cons, byteHex, List.cons_append, List.cons_append, List.nil_append,
      bytesOfHexChars, hexDigit_not_whitespace _ hhi, hexVal_hexDigit _ hhi,
      hexVal_hexDigit _ hlo, ih, if_neg Bool.false_ne_true]
    show some (UInt8.ofNat (16 * (b.toNat / 16) + b.toNat % 16) :: data) = _
    rw [hval, UInt8.ofNat_toNat]

/-- **Payload round trip.** -/
theorem bytesFromHex_hexOfBytes (data : List UInt8) :
    bytesFromHex (hexOfBytes data) = .ok data := by
  simp [bytesFromHex, hexOfBytes, bytesOfHexChars_flatMap]

theorem hexOfBytes_eq_empty_iff (data : List UInt8) : hexOfBytes data = "" ↔ data = [] := by
  cases data with
  | nil => exact ⟨fun _ => rfl, fun _ => rfl⟩
  | cons b data =>
    constructor
    · intro h
      have hchars := congrArg String.toList h
      simp [hexOfBytes, byteHex] at hchars
    · intro h
      cases h

/-! ## Padded integers -/

/-- `f"{n:0wX}"`: the sign counts towards the width. -/
def fmtHex (n : ℤ) (width : ℕ) : String :=
  let digits := (Nat.toDigits 16 n.natAbs).map Char.toUpper
  if n < 0 then String.ofList ('-' :: digits.leftpad (width - 1) '0')
  else String.ofList (digits.leftpad width '0')

/-- `f"{n:0wd}"`. -/
def fmtDec (n width : ℕ) : String := String.ofList ((Nat.toDigits 10 n).leftpad width '0')

/-- `int(s)` on plain decimal notation. -/
def intOfString (s : String) : Except PyError ℤ :=
  match s.toInt? with
  | some n => .ok n
  | none => .error (.valueError ("invalid literal for int() with base 10: '" ++ s ++ "'"))

theorem intOfString_toString (n : ℤ) : intOfString (toString n) = .ok n := by
  have h : (toString n).toInt? = some n := Int.toInt?_repr n
  rw [intOfString, h]

/-! ## Fixed-point decimals -/

/-- The decimal text of `n / 10 ^ ndigits`. -/
def fixedChars (n ndigits : ℕ) : List Char :=
  Nat.toDigits 10 (n / 10 ^ ndigits) ++
    '.' :: (Nat.toDigits 10 (n % 10 ^ ndigits)).leftpad ndigits '0'

section Fixed

variable {R : Type} [PyFloat R]

/-- `f"{x:.nf}"` for `0 < n`. -/
def fmtFixed (x : R) (ndigits : ℕ) : String :=
  let digits := fixedChars (roundHalfEven (|x| * (10 ^ ndigits : ℕ))).natAbs ndigits
  String.ofList (if x < 0 then '-' :: digits else digits)

/-- `str(x)` of a float with at most two decimals: the shortest text with at
least one. -/
def strFloat2 (x : R) : String :=
  let cs := (fmtFixed x 2).toList
  String.ofList (if cs.getLast? = some '0' then cs.dropLast else cs)

/-- An unsigned decimal number with an optional fraction. -/
def unsignedOfChars (cs : List Char) : Option R :=
  let whole := cs.takeWhile Char.isDigit
  match cs.dropWhile Char.isDigit with
  | [] => if whole = [] then none else some (Nat.ofDigitChars 10 whole 0 : R)
  | c :: frac =>
    if c = '.' ∧ frac.all Char.isDigit ∧ whole ++ frac ≠ [] then
      some ((Nat.ofDigitChars 10 (whole ++ frac) 0 : R) / (10 ^ frac.length : ℕ))
    else none

/-- `float(s)` on plain decimal notation (no exponent, no `inf`, no `nan`). -/
def floatOfString (s : String) : Except PyError R :=
  let parsed : Option R := match s.toList with
    | '-' :: cs => (unsignedOfChars cs).map Neg.neg
    | '+' :: cs => unsignedOfChars cs
    | cs => unsignedOfChars cs
  match parsed with
  | some x => .ok x
  | none => .error (.valueError ("could not convert string to float: '" ++ s ++ "'"))

theorem length_leftpad_toDigits {n ndigits : ℕ} (hd : 0 < ndigits) (hn : n < 10 ^ ndigits) :
    ((Nat.toDigits 10 n).leftpad ndigits '0').length = ndigits := by
  have := (Nat.length_toDigits_le_iff (n := n) (by decide : 1 < 10) hd).mpr hn
  rw [List.leftpad, List.length_append, List.length_replicate]
  omega

theorem ofDigitChars_leftpad (n ndigits init : ℕ) :
    Nat.ofDigitChars 10 ((Nat.toDigits 10 n).leftpad ndigits '0') init =
      10 ^ ((Nat.toDigits 10 n).leftpad ndigits '0').length * init + n := by
  rw [Nat.ofDigitChars_eq_ofDigitChars_zero]
  congr 1
  rw [List.leftpad, Nat.ofDigitChars_append, Nat.ofDigitChars_replicate_zero, Nat.mul_zero,
    Nat.ofDigitChars_ten_toDigits]

/-- Padded numbers are told apart, whatever the width. -/
theorem fmtDec_injective (width : ℕ) : Function.Injective fun n => fmtDec n width := by
  intro n m h
  have hchars := congrArg (fun s : String => Nat.ofDigitChars 10 s.toList 0) h
  simpa only [fmtDec, String.toList_ofList, ofDigitChars_leftpad, Nat.mul_zero, Nat.zero_add]
    using hchars

theorem isDigit_of_mem_leftpad {n ndigits : ℕ} {c : Char}
    (h : c ∈ (Nat.toDigits 10 n).leftpad ndigits '0') : c.isDigit = true := by
  rcases List.mem_append.mp h with h | h
  · rw [List.eq_of_mem_replicate h]
    decide
  · exact Nat.isDigit_of_mem_toDigits (by decide) (by decide) h

/-- Reading the digits of a fixed-point decimal. -/
theorem unsignedOfChars_fixedChars (n : ℕ) {ndigits : ℕ} (hd : 0 < ndigits) :
    unsignedOfChars (fixedChars n ndigits) = some ((n : R) / 10 ^ ndigits) := by
  have hwhole : ∀ c ∈ Nat.toDigits 10 (n / 10 ^ ndigits), c.isDigit = true :=
    fun c h => Nat.isDigit_of_mem_toDigits (by decide) (by decide) h
  have hdot : Char.isDigit '.' = false := by decide
  have hmod : n % 10 ^ ndigits < 10 ^ ndigits := Nat.mod_lt _ (by positivity)
  have hlen := length_leftpad_toDigits hd hmod
  have hval : Nat.ofDigitChars 10 (Nat.toDigits 10 (n / 10 ^ ndigits) ++
      (Nat.toDigits 10 (n % 10 ^ ndigits)).leftpad ndigits '0') 0 = n := by
    rw [Nat.ofDigitChars_append, Nat.ofDigitChars_ten_toDigits, ofDigitChars_leftpad, hlen]
    exact Nat.div_add_mod n _
  have hall : ((Nat.toDigits 10 (n % 10 ^ ndigits)).leftpad ndigits '0').all Char.isDigit = true :=
    List.all_eq_true.mpr fun c h => isDigit_of_mem_leftpad h
  rw [unsignedOfChars, fixedChars, List.takeWhile_append_of_pos hwhole,
    List.dropWhile_append_of_pos hwhole, List.takeWhile_cons_of_neg (by simp [hdot]),
    List.dropWhile_cons_of_neg (by simp [hdot]), List.append_nil]
  simp only
  rw [if_pos ⟨trivial, hall, by simp⟩, hval, hlen, Nat.cast_pow, Nat.cast_ofNat]

/-- The digits of a fixed-point decimal carry no sign. -/
theorem fixedChars_head (n ndigits : ℕ) :
    ∃ c cs, fixedChars n ndigits = c :: cs ∧ c.isDigit = true := by
  obtain ⟨c, cs, h⟩ := List.exists_cons_of_ne_nil
    (Nat.toDigits_ne_nil (n := n / 10 ^ ndigits) (b := 10))
  refine ⟨c, _, by rw [fixedChars, h]; rfl, ?_⟩
  exact Nat.isDigit_of_mem_toDigits (b := 10) (n := n / 10 ^ ndigits) (by decide) (by decide)
    (by rw [h]; exact List.mem_cons_self)

/-- **Decimal round trip**: a number with at most `ndigits` decimals is read
back exactly from its fixed-point text. -/
theorem floatOfString_fmtFixed (k : ℤ) {ndigits : ℕ} (hd : 0 < ndigits) :
    floatOfString (fmtFixed ((k : R) / 10 ^ ndigits) ndigits) =
      .ok ((k : R) / 10 ^ ndigits) := by
  have hpos : (0 : R) < 10 ^ ndigits := by positivity
  have habs : roundHalfEven (|(k : R) / 10 ^ ndigits| * 10 ^ ndigits) = |k| := by
    rw [abs_div, abs_of_pos hpos, div_mul_cancel₀ _ hpos.ne', ← Int.cast_abs,
      roundHalfEven_intCast]
  have hneg : (k : R) / 10 ^ ndigits < 0 ↔ k < 0 := by
    rw [div_lt_iff₀ hpos, zero_mul, Int.cast_lt_zero]
  have hread := unsignedOfChars_fixedChars (R := R) k.natAbs hd
  rw [floatOfString, fmtFixed, Nat.cast_pow, Nat.cast_ofNat, habs, Int.natAbs_abs]
  by_cases hk : k < 0
  · have hcast : ((k.natAbs : ℕ) : R) = -(k : R) := by
      rw [Nat.cast_natAbs, abs_of_neg hk, Int.cast_neg]
    simp only [if_pos (hneg.mpr hk), String.toList_ofList, hread, Option.map_some, hcast,
      neg_div, neg_neg]
  · have hcast : ((k.natAbs : ℕ) : R) = (k : R) := by
      rw [Nat.cast_natAbs, abs_of_nonneg (not_lt.mp hk)]
    obtain ⟨c, cs, hcs, hc⟩ := fixedChars_head k.natAbs ndigits
    -- a leading digit is neither sign, so the text is read as it stands
    have hminus : c ≠ '-' := by rintro rfl; exact absurd hc (by decide)
    have hplus : c ≠ '+' := by rintro rfl; exact absurd hc (by decide)
    simp only [if_neg (hneg.not.mpr hk), String.toList_ofList]
    rw [hcs] at hread ⊢
    simp [hminus, hplus, hread, hcast]

end Fixed

end CanSentinel
