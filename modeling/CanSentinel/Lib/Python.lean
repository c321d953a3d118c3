import Mathlib

/-!
# Python's built-in values

- `PyFloat`: Python's `float` without its rounding errors. Models are written
  over an arbitrary number type that is an ordered field with a floor and a
  `log2`, so that at `ℚ` the definitions run (`log2` is exact at the powers of
  two) and at `ℝ` they are the textbook real-valued quantities
  (`log2 = Real.logb 2`).
- `pyRound`: Python's `round`, ties to the even neighbour; `pyInt`: `int(x)`,
  which cuts the fraction off; `pyMod`: the remainder of two floats.
- `pySlice`: the slice `xs[:n]` for a possibly negative `n`.
- `Dict`: finite maps, equal when they hold the same items.
- `PyError`: the exceptions a program raises, by class and message.
-/

namespace CanSentinel

/-- A raised `Exception`, by class and message. -/
inductive PyError where
  | structError (msg : String)
  | valueError (msg : String)
  | keyError (key : String)
  | runtimeError (msg : String)
  | zeroDivisionError (msg : String)
  | osError (msg : String)
deriving DecidableEq, Repr

/-- A call that does not raise returns a value. -/
theorem isOk_iff {ε α : Type} {x : Except ε α} : x.isOk ↔ ∃ a, x = .ok a := by
  cases x with
  | error e => simp [Except.isOk, Except.toBool]
  | ok a => simp [Except.isOk, Except.toBool]

/-- A block returns when its first call and the rest do. -/
theorem bind_eq_ok_iff {ε α β : Type} {x : Except ε α} {f : α → Except ε β} {b : β} :
    x >>= f = .ok b ↔ ∃ a, x = .ok a ∧ f a = .ok b := by
  cases x with
  | error e =>
    constructor
    · intro h
      cases h
    · rintro ⟨a, ha, _⟩
      cases ha
  | ok a =>
    constructor
    · intro h
      exact ⟨a, rfl, h⟩
    · rintro ⟨a', ha, hb⟩
      cases ha
      exact hb

/-- Python's `dict`. -/
abbrev Dict (K V : Type) := Finmap fun _ : K => V

/-- The number type of a model: an ordered field with a floor function and
Python's `math.log2`. The field, order and floor laws come with the class, so
results about it need no hypotheses. -/
class PyFloat (R : Type) extends Field R, LinearOrder R, IsStrictOrderedRing R,
    FloorRing R where
  /-- `math.log2`. -/
  log2 : R → R

/-- The executable instance: `log2` of a quotient of powers of two is exact. -/
instance : PyFloat ℚ where
  log2 q := (Nat.log2 q.num.natAbs : ℚ) - (Nat.log2 q.den : ℚ)

/-- The real-valued instance. -/
noncomputable instance : PyFloat ℝ where
  log2 := Real.logb 2

section Float

variable {R : Type} [PyFloat R]

/-- The nearest integer, ties to the even one. -/
def roundHalfEven (x : R) : ℤ :=
  if x - ⌊x⌋ < 1 / 2 then ⌊x⌋
  else if 1 / 2 < x - ⌊x⌋ then ⌊x⌋ + 1
  else if ⌊x⌋ % 2 = 0 then ⌊x⌋ else ⌊x⌋ + 1

@[simp] theorem roundHalfEven_intCast (n : ℤ) : roundHalfEven (n : R) = n := by
  have h : (0 : R) < 1 / 2 := by positivity
  simp [roundHalfEven]

/-- Python's `round(x, ndigits)`. -/
def pyRound (x : R) (ndigits : ℕ) : R :=
  (roundHalfEven (x * 10 ^ ndigits) : R) / 10 ^ ndigits

/-- A decimal with no more digits than asked for is not rounded. -/
theorem pyRound_div_pow (n : ℤ) (ndigits : ℕ) :
    pyRound ((n : R) / 10 ^ ndigits) ndigits = (n : R) / 10 ^ ndigits := by
  have hpos : (10 : R) ^ ndigits ≠ 0 := by positivity
  rw [pyRound, div_mul_cancel₀ _ hpos, roundHalfEven_intCast]

/-- Python's `int(x)`: towards zero. -/
def pyInt (x : R) : ℤ := if 0 ≤ x then ⌊x⌋ else ⌈x⌉

@[simp] theorem pyInt_natCast (n : ℕ) : pyInt (n : R) = n := by
  simp [pyInt]

/-- Truncation does not cross an integer. -/
theorem le_pyInt {n : ℤ} {x : R} (h : (n : R) ≤ x) : n ≤ pyInt x := by
  rw [pyInt]
  by_cases hx : 0 ≤ x
  · rw [if_pos hx]
    exact Int.le_floor.mpr h
  · rw [if_neg hx]
    exact_mod_cast h.trans (Int.le_ceil x)

theorem pyInt_le {n : ℤ} {x : R} (h : x ≤ n) : pyInt x ≤ n := by
  rw [pyInt]
  by_cases hx : 0 ≤ x
  · rw [if_pos hx]
    exact_mod_cast (Int.floor_le x).trans h
  · rw [if_neg hx]
    exact Int.ceil_le.mpr h

theorem pyInt_lt {n : ℤ} {x : R} (hn : 0 < n) (h : x < n) : pyInt x < n := by
  rw [pyInt]
  by_cases hx : 0 ≤ x
  · rw [if_pos hx]
    exact Int.floor_lt.mpr h
  · rw [if_neg hx]
    exact (Int.ceil_le.mpr (by exact_mod_cast (not_le.mp hx).le)).trans_lt hn

/-- Python's `x % y` on floats: the sign of the result is that of `y`. -/
def pyMod (x y : R) : R := x - y * ⌊x / y⌋

theorem pyMod_nonneg (x : R) {y : R} (hy : 0 < y) : 0 ≤ pyMod x y := by
  have hfloor : y * ⌊x / y⌋ ≤ y * (x / y) := mul_le_mul_of_nonneg_left (Int.floor_le _) hy.le
  rw [mul_div_cancel₀ x hy.ne'] at hfloor
  exact sub_nonneg.mpr hfloor

/-- The remainder of multiples of `d` is that of the factors. -/
theorem pyMod_natCast_mul (a b : ℕ) {d : R} (hd : 0 < d) :
    pyMod (d * a) (d * b) = d * (a % b : ℕ) := by
  have hfloor : ⌊d * (a : R) / (d * b)⌋ = ((a / b : ℕ) : ℤ) := by
    rw [mul_div_mul_left _ _ hd.ne', Int.floor_div_natCast, Int.floor_natCast]
    rfl
  have hdivmod : (a : R) = b * (a / b : ℕ) + (a % b : ℕ) := by
    exact_mod_cast (Nat.div_add_mod a b).symm
  rw [pyMod, hfloor, Int.cast_natCast]
  linear_combination d * hdivmod

end Float

section Slice

variable {α : Type}

/-- Python's `xs[:n]`: the first `n` items, or all but the last `-n`. -/
def pySlice (xs : List α) (n : ℤ) : List α :=
  if 0 ≤ n then xs.take n.toNat else xs.take (xs.length - n.natAbs)

theorem pySlice_of_nonneg (xs : List α) {n : ℤ} (h : 0 ≤ n) :
    pySlice xs n = xs.take n.toNat := if_pos h

/-- Slicing twice with the same non-negative bound is slicing once. -/
theorem pySlice_pySlice (xs : List α) {n : ℤ} (h : 0 ≤ n) :
    pySlice (pySlice xs n) n = pySlice xs n := by
  simp [pySlice_of_nonneg _ h, List.take_take]

end Slice

end CanSentinel
