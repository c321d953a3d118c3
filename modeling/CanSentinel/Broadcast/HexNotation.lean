import CanSentinel.Broadcast.HexPayload

/-!
# The payload notations (`c/can_broadcaster.c`)

The documentation of `can_parse_hex_payload` lists three ways to write a payload:
`11223344`, `11 22 33 44` and `0x11,0x22`. Spaces and commas are no digits and fall out
of the first loop, but so does the `x` of `0x`, while its `0` stays and shifts every
digit after it.

- `PayloadForm`, `SpelledByte`, `render`: the notations, in either case of letters.
- `ParsesTo`: the call returns and stores exactly these bytes.
- `payloadDigits_pairs`, `payloadDigits_literals`: the digits that each notation leaves.
- `getElem?_byte_of_literals`: with the stray zeros, each byte is read from the digits of
  earlier bytes.
-/

namespace CanSentinel.C

/-! ## Writing a payload -/

/-- The character of a digit below sixteen. -/
def hexChar (upper : Bool) (n : ℕ) : UInt8 :=
  UInt8.ofNat (if n < 10 then 48 + n else if upper then 55 + n else 87 + n)

/-- A byte, and the case in which its two digits are written. -/
structure SpelledByte where
  byte : UInt8
  upperHigh : Bool
  upperLow : Bool

namespace SpelledByte

variable (w : SpelledByte)

def high : ℕ := w.byte.toNat / 16

def low : ℕ := w.byte.toNat % 16

def chars : List UInt8 := [hexChar w.upperHigh w.high, hexChar w.upperLow w.low]

theorem high_lt : w.high < 16 := by
  have h := w.byte.toNat_lt
  rw [high]
  omega

theorem low_lt : w.low < 16 := Nat.mod_lt _ (by norm_num)

/-- A byte is its high digit times sixteen plus its low digit. -/
theorem ofNat_digits : UInt8.ofNat (16 * w.high + w.low) = w.byte := by
  rw [high, low, Nat.div_add_mod, UInt8.ofNat_toNat]

end SpelledByte

/-- The notations of the documentation. -/
inductive PayloadForm where
  /-- `11223344` -/
  | plain
  /-- `11 22 33 44` -/
  | spaced
  /-- `0x11,0x22` -/
  | literals
deriving DecidableEq

namespace PayloadForm

/-- What stands between two bytes. -/
def separator : PayloadForm → List UInt8
  | .plain => []
  | .spaced => [32]
  | .literals => [44]

/-- What stands before each byte. -/
def marker : PayloadForm → List UInt8
  | .literals => [48, 120]
  | _ => []

end PayloadForm

def renderChars (form : PayloadForm) (ws : List SpelledByte) : List UInt8 :=
  form.separator.intercalate (ws.map fun w => form.marker ++ w.chars)

/-! ## Digits -/

/-- Each of the thirty-two characters reads back as its digit. -/
theorem hexChar_facts (upper : Bool) {n : ℕ} (h : n < 16) :
    isHexDigit (hexChar upper n) = true ∧ hexValue (hexChar upper n) = n := by
  cases upper <;> interval_cases n <;> decide

theorem isHexDigit_of_mem_chars {w : SpelledByte} {c : UInt8} (hc : c ∈ w.chars) :
    isHexDigit c = true := by
  rcases List.mem_pair.1 hc with rfl | rfl
  · exact (hexChar_facts _ w.high_lt).1
  · exact (hexChar_facts _ w.low_lt).1

/-- Filtering drops a separator that it drops alone. -/
theorem filter_intercalate {α : Type} (p : α → Bool) {sep : List α} (h : sep.filter p = [])
    (parts : List (List α)) :
    (sep.intercalate parts).filter p = parts.flatMap (List.filter p) := by
  induction parts with
  | nil => rfl
  | cons part parts ih =>
    cases parts with
    | nil => simp
    | cons next parts =>
      rw [List.intercalate_cons_cons, List.filter_append, List.filter_append, h,
        List.append_nil, ih]
      rfl

/-- No character of a rendering is NUL. -/
theorem zero_notMem_renderChars (form : PayloadForm) (ws : List SpelledByte) :
    0 ∉ renderChars form ws := by
  have hsep : form.separator.filter (· == 0) = [] := by cases form <;> decide
  have hmarker : 0 ∉ form.marker := by cases form <;> decide
  have hchars (w : SpelledByte) : 0 ∉ w.chars := by
    intro h
    exact absurd (isHexDigit_of_mem_chars h) (by decide)
  intro h
  have h0 : 0 ∈ (renderChars form ws).filter (· == 0) := List.mem_filter.2 ⟨h, rfl⟩
  rw [renderChars, filter_intercalate _ hsep, List.mem_flatMap] at h0
  obtain ⟨part, hpart, h0⟩ := h0
  obtain ⟨w, -, rfl⟩ := List.mem_map.1 hpart
  rcases List.mem_append.1 (List.mem_of_mem_filter h0) with h0 | h0
  · exact hmarker h0
  · exact hchars w h0

/-- The bytes written in a notation. -/
def render (form : PayloadForm) (ws : List SpelledByte) : CString where
  chars := renderChars form ws
  noNul := zero_notMem_renderChars form ws

/-- The digits of a rendering: those of the bytes, and those of the markers. -/
theorem filter_renderChars (form : PayloadForm) (ws : List SpelledByte) :
    (renderChars form ws).filter isHexDigit =
      ws.flatMap fun w => form.marker.filter isHexDigit ++ w.chars := by
  have hsep : form.separator.filter isHexDigit = [] := by cases form <;> decide
  have hchars (w : SpelledByte) : w.chars.filter isHexDigit = w.chars :=
    List.filter_eq_self.2 fun c => isHexDigit_of_mem_chars
  rw [renderChars, filter_intercalate _ hsep, List.flatMap_map]
  simp only [List.filter_append, hchars]

/-- Without markers the digits are two for each byte. -/
theorem payloadDigits_pairs {form : PayloadForm} (hform : form ≠ .literals)
    {ws : List SpelledByte} (hlen : ws.length ≤ 8) :
    payloadDigits (render form ws) = ws.flatMap SpelledByte.chars := by
  have hmarker : form.marker = [] := by
    cases form with
    | literals => exact absurd rfl hform
    | plain => rfl
    | spaced => rfl
  have hcount : (ws.flatMap SpelledByte.chars).length ≤ 16 := by
    simp only [List.length_flatMap, SpelledByte.chars, List.length_cons, List.length_nil,
      List.map_const', List.sum_replicate, smul_eq_mul]
    omega
  rw [payloadDigits, render, filter_renderChars, hmarker]
  exact List.take_of_length_le hcount

/-- The bytes of the pairs are the bytes written. -/
theorem payloadBytes_chars (ws : List SpelledByte) :
    payloadBytes (ws.flatMap SpelledByte.chars) = ws.map SpelledByte.byte := by
  induction ws with
  | nil => rfl
  | cons w ws ih =>
    rw [List.flatMap_cons, SpelledByte.chars, List.cons_append, List.cons_append,
      List.nil_append, payloadBytes, ih, (hexChar_facts _ w.high_lt).2,
      (hexChar_facts _ w.low_lt).2, w.ofNat_digits, List.map_cons]

/-! ## Parsing a payload -/

/-- The call returns, stores and counts exactly these bytes. -/
def ParsesTo (s : CString) (bytes : List UInt8) : Prop :=
  ∀ (data : List UInt8) (dlc : UInt8), 8 ≤ data.length →
    canParseHexPayload (some s) (some data) (some dlc) =
      some ⟨bytes.length, some (bytes ++ data.drop bytes.length),
        some (UInt8.ofNat bytes.length)⟩

theorem parsesTo_iff (s : CString) (bytes : List UInt8) :
    ParsesTo s bytes ↔ payloadBytes (payloadDigits s) = bytes := by
  constructor
  · intro h
    have hcall := h (List.replicate 8 0) 0 (by simp)
    rw [canParseHexPayload_eq _ _ _ (by simpa using length_payloadDigits_le s)] at hcall
    simp only [Option.some.injEq, ParseResult.mk.injEq, Nat.cast_inj] at hcall
    exact (List.append_inj hcall.2.1 (by rw [length_payloadBytes, hcall.1])).1
  · rintro rfl data dlc hdata
    rw [canParseHexPayload_eq _ _ _ ((length_payloadDigits_le s).trans hdata),
      length_payloadBytes]

/-! ## The stray zeros of `0x` -/

/-- What the first loop sees of `0x`-literals: three digits for each byte. -/
def literalDigits (ws : List SpelledByte) : List UInt8 := ws.flatMap fun w => 48 :: w.chars

@[simp] theorem length_literalDigits (ws : List SpelledByte) :
    (literalDigits ws).length = ws.length * 3 := by
  simp [literalDigits, SpelledByte.chars]

theorem payloadDigits_literals (ws : List SpelledByte) :
    payloadDigits (render .literals ws) = (literalDigits ws).take 16 := by
  rw [payloadDigits, render, filter_renderChars]
  rfl

theorem digitAt_literalDigits_cons (w : SpelledByte) (ws : List SpelledByte) (k : ℕ) :
    digitAt (literalDigits (w :: ws)) k =
      if k = 0 then 0 else if k = 1 then w.high else if k = 2 then w.low
      else digitAt (literalDigits ws) (k - 3) := by
  rw [literalDigits, List.flatMap_cons]
  cases k with
  | zero => rfl
  | succ k =>
    cases k with
    | zero => exact (hexChar_facts _ w.high_lt).2
    | succ k =>
      cases k with
      | zero => exact (hexChar_facts _ w.low_lt).2
      | succ k =>
        rw [if_neg (by omega), if_neg (by omega), if_neg (by omega)]
        rfl

/-- A digit is `0` if it is a marker's or belongs to a zero byte. -/
theorem digitAt_literalDigits_eq_zero {ws : List SpelledByte} {k : ℕ}
    (h : k % 3 ≠ 0 → (ws.map SpelledByte.byte)[k / 3]? = some 0) :
    digitAt (literalDigits ws) k = 0 := by
  induction ws generalizing k with
  | nil => simp [literalDigits, digitAt]
  | cons w ws ih =>
    have hbyte (hk : k / 3 = 0) (hk' : k % 3 ≠ 0) : w.byte = 0 := by
      have hw := h hk'
      rw [hk] at hw
      exact Option.some_inj.1 hw
    rw [digitAt_literalDigits_cons]
    split_ifs with h0 h1 h2
    · rfl
    · rw [SpelledByte.high, hbyte (by omega) (by omega)]
      rfl
    · rw [SpelledByte.low, hbyte (by omega) (by omega)]
      rfl
    · have hthird : k / 3 = (k - 3) / 3 + 1 := by omega
      rw [hthird] at h
      exact ih fun hk => h (by omega)

theorem digitAt_take {digits : List UInt8} {k : ℕ} (h : k < 16) :
    digitAt (digits.take 16) k = digitAt digits k := by
  simp only [digitAt, List.getD_eq_getElem?_getD, List.getElem?_map, List.getElem?_take_of_lt h]

/-- The bytes read from eight literals are made of the digits of earlier bytes, so if they
are the bytes written, all are zero. -/
theorem getElem?_byte_of_literals {ws : List SpelledByte} (hlen : ws.length = 8)
    (h : payloadBytes ((literalDigits ws).take 16) = ws.map SpelledByte.byte) (i : ℕ)
    (hi : i < 8) : (ws.map SpelledByte.byte)[i]? = some 0 := by
  induction i using Nat.strong_induction_on with
  | _ i ih =>
    have hread : (ws.map SpelledByte.byte)[i]? = some (UInt8.ofNat
        (16 * digitAt (literalDigits ws) (2 * i) + digitAt (literalDigits ws) (2 * i + 1))) := by
      rw [← h, getElem?_payloadBytes, if_pos, digitAt_take (by omega), digitAt_take (by omega)]
      simp [hlen, Nat.ceilDiv_eq_add_pred_div, hi]
    have hzero (k : ℕ) (hk : k % 3 ≠ 0 → k / 3 < i) : digitAt (literalDigits ws) k = 0 :=
      digitAt_literalDigits_eq_zero fun h3 => ih (k / 3) (hk h3) ((hk h3).trans hi)
    have hhigh : digitAt (literalDigits ws) (2 * i) = 0 := hzero _ (by omega)
    by_cases hi0 : i = 0
    · -- the first byte is read from its marker and its own high digit
      subst hi0
      obtain ⟨w, ws, rfl⟩ := List.exists_cons_of_length_pos (hlen ▸ hi)
      have hw : w.byte = UInt8.ofNat w.high := by
        rw [digitAt_literalDigits_cons] at hhigh hread
        simpa [digitAt_literalDigits_cons] using hread
      have hsame : w.byte.toNat = w.byte.toNat / 16 := by
        conv_lhs => rw [hw, UInt8.toNat_ofNat', Nat.mod_eq_of_lt (by linarith [w.high_lt])]
        rfl
      have hnone : w.byte.toNat = 0 := by omega
      exact congrArg some (UInt8.toNat_inj.1 hnone)
    · rw [hread, hhigh, hzero _ (by omega)]
      rfl

/-- Eight zeros are read from the literals of eight zeros. -/
theorem payloadBytes_literals_zero {ws : List SpelledByte}
    (h : ws.map SpelledByte.byte = List.replicate 8 0) :
    payloadBytes ((literalDigits ws).take 16) = List.replicate 8 0 := by
  have hlen : ws.length = 8 := by
    rw [← List.length_map (f := SpelledByte.byte), h, List.length_replicate]
  have hzero (k : ℕ) (hk : k < 16) : digitAt ((literalDigits ws).take 16) k = 0 := by
    rw [digitAt_take hk]
    refine digitAt_literalDigits_eq_zero fun _ => ?_
    rw [h, List.getElem?_replicate, if_pos (by omega)]
  have hcount : ((literalDigits ws).take 16).length ⌈/⌉ 2 = 8 := by
    simp [hlen, Nat.ceilDiv_eq_add_pred_div]
  refine List.ext_getElem? fun i => ?_
  rw [getElem?_payloadBytes, hcount, List.getElem?_replicate]
  split_ifs with hi
  · rw [hzero _ (by omega), hzero _ (by omega)]
    rfl
  · rfl

/-- **Which payloads parse.** Plain and spaced payloads all do; of the `0x`-literals only
eight zeros. -/
theorem payload_forms_iff (form : PayloadForm) (ws : List SpelledByte) (hpos : 0 < ws.length)
    (hlen : ws.length ≤ 8) :
    ParsesTo (render form ws) (ws.map SpelledByte.byte) ↔
      form ≠ .literals ∨ ws.map SpelledByte.byte = List.replicate 8 0 := by
  rw [parsesTo_iff]
  by_cases hform : form = .literals
  · subst hform
    rw [payloadDigits_literals]
    constructor
    · intro h
      -- sixteen digits make eight bytes, fewer make too many
      have hcount : ws.length = 8 := by
        have hbytes := congrArg List.length h
        rw [length_payloadBytes, Nat.ceilDiv_eq_add_pred_div, List.length_take,
          length_literalDigits, List.length_map] at hbytes
        omega
      refine .inr (List.ext_getElem? fun i => ?_)
      by_cases hi : i < 8
      · rw [getElem?_byte_of_literals hcount h i hi, List.getElem?_replicate, if_pos hi]
      · rw [List.getElem?_replicate, if_neg hi, List.getElem?_eq_none_iff, List.length_map]
        omega
    · rintro (h | h)
      · exact absurd rfl h
      · rw [payloadBytes_literals_zero h, h]
  · rw [payloadDigits_pairs hform hlen]
    exact iff_of_true (payloadBytes_chars ws) (.inl hform)

/-- `"1a FF"`. -/
theorem payload_forms_iff_spaced :
    let ws : List SpelledByte := [⟨0x1A, false, false⟩, ⟨0xFF, true, true⟩]
    (render .spaced ws).chars = [49, 97, 32, 70, 70] ∧ ParsesTo (render .spaced ws) [0x1A, 0xFF] :=
  ⟨by decide, (payload_forms_iff .spaced [⟨0x1A, false, false⟩, ⟨0xFF, true, true⟩] (by decide)
    (by decide)).2 (.inl (by decide))⟩

/-- `"0x11,0x22"`, the example of the documentation, is read as `01 10 22`. -/
theorem literals_shifted :
    let ws : List SpelledByte := [⟨0x11, false, false⟩, ⟨0x22, false, false⟩]
    (render .literals ws).chars = [48, 120, 49, 49, 44, 48, 120, 50, 50] ∧
    canParseHexPayload (some (render .literals ws)) (some (List.replicate 8 0)) (some 0) =
      some ⟨3, some [0x01, 0x10, 0x22, 0, 0, 0, 0, 0], some 3⟩ ∧
    ¬ParsesTo (render .literals ws) [0x11, 0x22] := by
  intro ws
  have hcall : canParseHexPayload (some (render .literals ws)) (some (List.replicate 8 0))
      (some 0) = some ⟨3, some [0x01, 0x10, 0x22, 0, 0, 0, 0, 0], some 3⟩ := by
    decide
  refine ⟨by decide, hcall, fun h => ?_⟩
  have htwo := h (List.replicate 8 0) 0 (by decide)
  rw [hcall] at htwo
  exact absurd htwo (by decide)

end CanSentinel.C
