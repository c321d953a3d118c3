import CanSentinel.Lib.Struct

/-!
# Payloads from the command line (`c/can_broadcaster.c`)

`can_parse_hex_payload` first copies the hexadecimal digits of its argument into a
buffer, up to sixteen, and then turns the buffer into bytes, two digits at a time.
The model keeps both loops and checks every array access: a result of `none` is an
access out of bounds.

- `canParseHexPayload`: the function, on pointers that may be null.
- `payloadBytes`: the bytes that a sequence of digits denotes, with a missing last
  digit read as `0`.
- `cleanLoop_eq`, `byteLoop_eq`: the loops, by induction on what is left to read.
- `canParseHexPayload_eq`: the function, on every string.
-/

namespace CanSentinel.C

/-! ## The C library -/

/-- A NUL-terminated string. -/
structure CString where
  chars : List UInt8
  noNul : 0 ∉ chars

/-- `a[i] = v`, if `i` is in bounds. -/
def store (a : List UInt8) (i : ℕ) (v : UInt8) : Option (List UInt8) :=
  if i < a.length then some (a.set i v) else none

def isHexDigit (c : UInt8) : Bool :=
  (48 ≤ c ∧ c ≤ 57) ∨ (97 ≤ c ∧ c ≤ 102) ∨ (65 ≤ c ∧ c ≤ 70)

/-- The value of a hexadecimal digit. -/
def hexValue (c : UInt8) : ℕ :=
  if c ≤ 57 then c.toNat - 48 else if c ≤ 70 then c.toNat - 55 else c.toNat - 87

def isSpace (c : UInt8) : Bool := c = 32 ∨ (9 ≤ c ∧ c ≤ 13)

/-- The sign of a numeral, and what follows it. -/
def stripSign (s : List UInt8) : Bool × List UInt8 :=
  match s with
  | [] => (false, [])
  | c :: cs => if c = 45 then (true, cs) else if c = 43 then (false, cs) else (false, c :: cs)

/-- A numeral without the letters `0x`, when a digit follows them. -/
def stripRadix (s : List UInt8) : List UInt8 :=
  match s with
  | zero :: x :: d :: cs =>
    if zero = 48 ∧ (x = 120 ∨ x = 88) ∧ isHexDigit d then d :: cs else zero :: x :: d :: cs
  | short => short

/-- `strtoul(s, NULL, 16)`: white space, a sign, `0x`, digits up to the first other
character; `ULONG_MAX` when the value is too large. -/
def strtoul16 (s : List UInt8) : ℕ :=
  let (negative, s) := stripSign (s.dropWhile isSpace)
  let value := ((stripRadix s).takeWhile isHexDigit).foldl (fun n c => 16 * n + hexValue c) 0
  if 2 ^ 64 ≤ value then 2 ^ 64 - 1 else if negative then (2 ^ 64 - value) % 2 ^ 64 else value

/-! ## The function -/

/-- The first loop: the digits among the characters left, while there is room. -/
def cleanLoop : List UInt8 → List UInt8 → ℕ → Option (List UInt8 × ℕ)
  | [], cleanHex, cleanLen => some (cleanHex, cleanLen)
  | c :: cs, cleanHex, cleanLen =>
    if cleanLen < 16 then
      if isHexDigit c then do
        let cleanHex ← store cleanHex cleanLen c
        cleanLoop cs cleanHex (cleanLen + 1)
      else cleanLoop cs cleanHex cleanLen
    else some (cleanHex, cleanLen)

/-- The second loop, for at most `fuel` iterations. -/
def byteLoop (cleanHex : List UInt8) (cleanLen : ℕ) :
    ℕ → ℕ → List UInt8 → ℕ → Option (List UInt8 × ℕ)
  | 0, _, _, _ => none
  | fuel + 1, i, data, byteCount =>
    if i < cleanLen then do
      let high ← cleanHex[i]?
      let low ← (if i + 1 < cleanLen then cleanHex[i + 1]? else some 48)
      let data ← store data byteCount (UInt8.ofNat (strtoul16 [high, low]))
      let byteCount := byteCount + 1
      if 8 ≤ byteCount then some (data, byteCount)
      else byteLoop cleanHex cleanLen fuel (i + 2) data byteCount
    else some (data, byteCount)

/-- What a call returns, and what it leaves in `data` and `*dlc`. -/
structure ParseResult where
  returned : ℤ
  data : Option (List UInt8)
  dlc : Option UInt8
deriving DecidableEq

/-- `can_parse_hex_payload`; a null pointer is `none`. Each iteration of the second loop
advances `i`, so `clean_len` of them and the last test are enough. -/
def canParseHexPayload (hexStr : Option CString) (data : Option (List UInt8))
    (dlc : Option UInt8) : Option ParseResult :=
  match hexStr, data, dlc with
  | some s, some buffer, some _ => do
    let (cleanHex, cleanLen) ← cleanLoop s.chars (List.replicate 32 0) 0
    let (buffer, byteCount) ← byteLoop cleanHex cleanLen (cleanLen + 1) 0 buffer 0
    return ⟨byteCount, some buffer, some (UInt8.ofNat byteCount)⟩
  | _, _, _ => some ⟨-1, data, dlc⟩

/-! ## The first loop -/

/-- `clean_hex` with some digits in it. -/
def cleanBuffer (digits : List UInt8) : List UInt8 :=
  digits ++ List.replicate (32 - digits.length) 0

theorem store_append (front : List UInt8) (old v : UInt8) (rest : List UInt8) :
    store (front ++ old :: rest) front.length v = some (front ++ v :: rest) := by
  rw [store, if_pos (by simp), List.set_append_right _ _ le_rfl, Nat.sub_self]
  rfl

theorem store_cleanBuffer {digits : List UInt8} (h : digits.length < 32) (c : UInt8) :
    store (cleanBuffer digits) digits.length c = some (cleanBuffer (digits ++ [c])) := by
  obtain ⟨k, hk⟩ : ∃ k, 32 - digits.length = k + 1 := ⟨31 - digits.length, by omega⟩
  have hk' : 32 - (digits ++ [c]).length = k := by
    rw [List.length_append, List.length_singleton]
    omega
  rw [cleanBuffer, cleanBuffer, hk, hk', List.replicate_succ, store_append, List.append_assoc]
  rfl

/-- **The first loop** appends the digits of the characters left, up to sixteen in all. -/
theorem cleanLoop_eq (cs : List UInt8) {digits : List UInt8} (h : digits.length ≤ 16) :
    cleanLoop cs (cleanBuffer digits) digits.length =
      some (cleanBuffer ((digits ++ cs.filter isHexDigit).take 16),
        ((digits ++ cs.filter isHexDigit).take 16).length) := by
  induction cs generalizing digits with
  | nil =>
    rw [List.filter_nil, List.append_nil, List.take_of_length_le h]
    rfl
  | cons c cs ih =>
    rw [cleanLoop]
    by_cases hroom : digits.length < 16
    · rw [if_pos hroom]
      by_cases hc : isHexDigit c = true
      · have hlen : (digits ++ [c]).length = digits.length + 1 := by simp
        rw [if_pos hc, store_cleanBuffer (by omega), List.filter_cons_of_pos hc]
        show cleanLoop cs (cleanBuffer (digits ++ [c])) (digits.length + 1) = _
        rw [← hlen, ih (by omega), List.append_assoc]
        rfl
      · rw [if_neg hc, List.filter_cons_of_neg hc]
        exact ih h
    · -- sixteen digits are enough
      have hfull : (digits ++ (c :: cs).filter isHexDigit).take 16 = digits :=
        List.take_left' (by omega)
      rw [if_neg hroom, hfull]

/-! ## The second loop -/

/-- The bytes that digits denote. -/
def payloadBytes : List UInt8 → List UInt8
  | [] => []
  | [a] => [UInt8.ofNat (16 * hexValue a)]
  | a :: b :: digits => UInt8.ofNat (16 * hexValue a + hexValue b) :: payloadBytes digits

@[simp] theorem length_payloadBytes (digits : List UInt8) :
    (payloadBytes digits).length = digits.length ⌈/⌉ 2 := by
  rw [Nat.ceilDiv_eq_add_pred_div]
  induction digits using payloadBytes.induct with
  | case1 => rfl
  | case2 a =>
    rw [payloadBytes, List.length_singleton, List.length_singleton]
  | case3 a b digits ih =>
    rw [payloadBytes, List.length_cons, ih, List.length_cons, List.length_cons]
    omega

/-- The digit at a position, `0` past the end. -/
def digitAt (digits : List UInt8) (k : ℕ) : ℕ := (digits.map hexValue).getD k 0

/-- The bytes, one by one. -/
theorem getElem?_payloadBytes (digits : List UInt8) (i : ℕ) :
    (payloadBytes digits)[i]? =
      if i < digits.length ⌈/⌉ 2 then
        some (UInt8.ofNat (16 * digitAt digits (2 * i) + digitAt digits (2 * i + 1)))
      else none := by
  rw [Nat.ceilDiv_eq_add_pred_div]
  induction digits using payloadBytes.induct generalizing i with
  | case1 => rfl
  | case2 a =>
    cases i with
    | zero => simp [payloadBytes, digitAt]
    | succ i =>
      rw [if_neg (by rw [List.length_singleton]; omega)]
      rfl
  | case3 a b digits ih =>
    cases i with
    | zero =>
      rw [if_pos (by simp only [List.length_cons]; omega)]
      rfl
    | succ i =>
      have hroom : i + 1 < ((a :: b :: digits).length + 2 - 1) / 2 ↔
          i < (digits.length + 2 - 1) / 2 := by
        simp only [List.length_cons]
        omega
      show (payloadBytes digits)[i]? = _
      simp only [ih, hroom]
      rfl

theorem isHexDigit_iff (c : UInt8) :
    isHexDigit c = true ↔ (48 ≤ c.toNat ∧ c.toNat ≤ 57) ∨ (97 ≤ c.toNat ∧ c.toNat ≤ 102) ∨
      (65 ≤ c.toNat ∧ c.toNat ≤ 70) := by
  simp [isHexDigit, UInt8.le_iff_toNat_le]

/-- A digit is neither white space nor a sign. -/
theorem hexDigit_facts {c : UInt8} (h : isHexDigit c = true) :
    isSpace c = false ∧ c ≠ 45 ∧ c ≠ 43 ∧ hexValue c < 16 := by
  have hrange := (isHexDigit_iff c).mp h
  have hdecimal : c ≤ 57 ↔ c.toNat ≤ 57 := UInt8.le_iff_toNat_le
  have hupper : c ≤ 70 ↔ c.toNat ≤ 70 := UInt8.le_iff_toNat_le
  refine ⟨?_, ?_, ?_, ?_⟩
  · rw [isSpace, decide_eq_false_iff_not]
    rintro (rfl | ⟨_, hc⟩)
    · exact absurd h (by decide)
    · have hlow : c.toNat ≤ 13 := UInt8.le_iff_toNat_le.mp hc
      omega
  · rintro rfl
    exact absurd h (by decide)
  · rintro rfl
    exact absurd h (by decide)
  · simp only [hexValue, hdecimal, hupper]
    split_ifs <;> omega

theorem strtoul16_pair {a b : UInt8} (ha : isHexDigit a = true) (hb : isHexDigit b = true) :
    strtoul16 [a, b] = 16 * hexValue a + hexValue b := by
  obtain ⟨hspace, hminus, hplus, hav⟩ := hexDigit_facts ha
  obtain ⟨-, -, -, hbv⟩ := hexDigit_facts hb
  have hsign : stripSign ([a, b].dropWhile isSpace) = (false, [a, b]) := by
    rw [List.dropWhile_cons_of_neg (by simp [hspace]), stripSign, if_neg hminus, if_neg hplus]
  have hdigits : (stripRadix [a, b]).takeWhile isHexDigit = [a, b] := by
    simp [stripRadix, ha, hb]
  have hvalue : [a, b].foldl (fun n c => 16 * n + hexValue c) 0 =
      16 * hexValue a + hexValue b := by
    simp
  have hsmall : ¬2 ^ 64 ≤ 16 * hexValue a + hexValue b := by
    norm_num
    omega
  simp only [strtoul16, hsign, hdigits, hvalue, if_neg hsmall]
  rfl

/-- A digit of the buffer, past the digits already read. -/
theorem getElem?_cleanBuffer (front rest : List UInt8) (k : ℕ) (hk : k < rest.length) :
    (cleanBuffer (front ++ rest))[front.length + k]? = rest[k]? := by
  rw [cleanBuffer, List.append_assoc, List.getElem?_append_right (Nat.le_add_right _ _),
    Nat.add_sub_cancel_left, List.getElem?_append_left hk]

/-- Storing one more byte after those already stored. -/
theorem store_next (stored tail : List UInt8) (v : UInt8) (h : 0 < tail.length) :
    store (stored ++ tail) stored.length v = some ((stored ++ [v]) ++ tail.drop 1) := by
  obtain ⟨old, rest, rfl⟩ := List.exists_cons_of_length_pos h
  rw [store_append, List.append_assoc]
  rfl

/-- One pass of the second loop: the pair read is stored, and the loop goes on unless it
was the eighth. -/
theorem byteLoop_pair {cleanHex : List UInt8} {cleanLen i : ℕ} {a b : UInt8} (fuel : ℕ)
    (stored tail : List UInt8) (hi : i < cleanLen) (hhigh : cleanHex[i]? = some a)
    (hlow : (if i + 1 < cleanLen then cleanHex[i + 1]? else some 48) = some b)
    (ha : isHexDigit a = true) (hb : isHexDigit b = true) (htail : 0 < tail.length) :
    byteLoop cleanHex cleanLen (fuel + 1) i (stored ++ tail) stored.length =
      if 8 ≤ stored.length + 1 then
        some ((stored ++ [UInt8.ofNat (16 * hexValue a + hexValue b)]) ++ tail.drop 1,
          stored.length + 1)
      else
        byteLoop cleanHex cleanLen fuel (i + 2)
          ((stored ++ [UInt8.ofNat (16 * hexValue a + hexValue b)]) ++ tail.drop 1)
          (stored.length + 1) := by
  rw [byteLoop, if_pos hi, hhigh, hlow]
  simp only [bind, Option.bind, strtoul16_pair ha hb, store_next stored tail _ htail]

/-- **The second loop** stores the bytes of the digits left and touches nothing else. It
ends at the last digit: the test for eight bytes comes true there or not at all. -/
theorem byteLoop_eq (front rest stored tail : List UInt8) (fuel : ℕ)
    (hhex : ∀ c ∈ rest, isHexDigit c = true)
    (htail : rest.length ⌈/⌉ 2 ≤ tail.length) (height : stored.length + rest.length ⌈/⌉ 2 ≤ 8)
    (hfuel : rest.length < fuel) :
    byteLoop (cleanBuffer (front ++ rest)) (front ++ rest).length fuel front.length
        (stored ++ tail) stored.length =
      some (stored ++ payloadBytes rest ++ tail.drop (rest.length ⌈/⌉ 2),
        stored.length + rest.length ⌈/⌉ 2) := by
  rw [Nat.ceilDiv_eq_add_pred_div] at htail height ⊢
  induction rest using payloadBytes.induct generalizing front stored tail fuel with
  | case1 =>
    obtain ⟨fuel, rfl⟩ : ∃ n, fuel = n + 1 := ⟨fuel - 1, by omega⟩
    rw [byteLoop, if_neg (by simp)]
    simp [payloadBytes]
  | case2 a =>
    -- the last digit stands alone, and `0` is put after it
    obtain ⟨fuel, rfl⟩ : ∃ n, fuel = n + 2 := ⟨fuel - 2, by simp at hfuel; omega⟩
    have hone : ([a].length + 2 - 1) / 2 = 1 := by simp
    have hread : (cleanBuffer (front ++ [a]))[front.length]? = some a :=
      getElem?_cleanBuffer front [a] 0 (by simp)
    rw [hone] at htail ⊢
    rw [byteLoop_pair (b := 48) (fuel + 1) stored tail (by simp) hread (if_neg (by simp))
      (hhex a List.mem_cons_self) (by decide) htail]
    split_ifs with hfull
    · rfl
    · rw [byteLoop, if_neg (by simp)]
      rfl
  | case3 a b rest ih =>
    obtain ⟨fuel, rfl⟩ : ∃ n, fuel = n + 1 := ⟨fuel - 1, by omega⟩
    have hcount : ((a :: b :: rest).length + 2 - 1) / 2 = (rest.length + 2 - 1) / 2 + 1 := by
      simp only [List.length_cons]
      omega
    have hhigh : (cleanBuffer (front ++ a :: b :: rest))[front.length]? = some a :=
      getElem?_cleanBuffer front (a :: b :: rest) 0 (by simp)
    have hlow : (cleanBuffer (front ++ a :: b :: rest))[front.length + 1]? = some b :=
      getElem?_cleanBuffer front (a :: b :: rest) 1 (by simp)
    rw [hcount] at htail height ⊢
    rw [byteLoop_pair fuel stored tail (by simp) hhigh ((if_pos (by simp)).trans hlow)
      (hhex a (by simp)) (hhex b (by simp)) (by omega)]
    have ih := ih (front ++ [a, b]) (stored ++ [UInt8.ofNat (16 * hexValue a + hexValue b)])
      (tail.drop 1) fuel (fun c hc => hhex c (by simp [hc])) (by rw [List.length_drop]; omega)
      (by rw [List.length_append, List.length_singleton]; omega)
      (by simp only [List.length_cons] at hfuel; omega)
    split_ifs with hfull
    · -- eight bytes: no digit is left
      have hrest : rest = [] := by
        rw [← List.length_eq_zero_iff]
        omega
      subst hrest
      rfl
    · simp only [List.append_assoc, List.length_append, List.length_cons, List.length_nil,
        List.cons_append, List.nil_append, List.drop_drop] at ih ⊢
      rw [ih, payloadBytes, Nat.add_comm 1, Nat.add_assoc, Nat.add_comm 1]
      rfl

/-! ## The function on every string -/

/-- The digits that count: the first sixteen. -/
def payloadDigits (s : CString) : List UInt8 := (s.chars.filter isHexDigit).take 16

theorem isHexDigit_of_mem_payloadDigits {s : CString} {c : UInt8}
    (h : c ∈ payloadDigits s) : isHexDigit c = true :=
  (List.mem_filter.1 (List.mem_of_mem_take h)).2

theorem length_payloadDigits_le (s : CString) : (payloadDigits s).length ⌈/⌉ 2 ≤ 8 := by
  have h : (payloadDigits s).length ≤ 16 := List.length_take_le _ _
  rw [Nat.ceilDiv_eq_add_pred_div]
  omega

/-- **The call**, on any string: the bytes of the digits go to the front of `data`. -/
theorem canParseHexPayload_eq (s : CString) (data : List UInt8) (dlc : UInt8)
    (hdata : (payloadDigits s).length ⌈/⌉ 2 ≤ data.length) :
    canParseHexPayload (some s) (some data) (some dlc) =
      some ⟨((payloadDigits s).length ⌈/⌉ 2 : ℕ),
        some (payloadBytes (payloadDigits s) ++ data.drop ((payloadDigits s).length ⌈/⌉ 2)),
        some (UInt8.ofNat ((payloadDigits s).length ⌈/⌉ 2))⟩ := by
  have hempty : ([] : List UInt8).length ≤ 16 := Nat.zero_le _
  have hclean : cleanLoop s.chars (List.replicate 32 0) 0 =
      some (cleanBuffer (payloadDigits s), (payloadDigits s).length) :=
    cleanLoop_eq s.chars hempty
  have hbytes := byteLoop_eq [] (payloadDigits s) [] data ((payloadDigits s).length + 1)
    (fun c => isHexDigit_of_mem_payloadDigits) hdata
    (by simpa using length_payloadDigits_le s) (Nat.lt_succ_self _)
  simp only [List.nil_append, List.length_nil, Nat.zero_add] at hbytes
  simp only [canParseHexPayload, hclean, bind, Option.bind, hbytes, pure]

theorem digitAt_lt (s : CString) (k : ℕ) : digitAt (payloadDigits s) k < 16 := by
  rw [digitAt, List.getD_eq_getElem?_getD, List.getElem?_map]
  cases hk : (payloadDigits s)[k]? with
  | none => exact Nat.zero_lt_succ 15
  | some c =>
    exact (hexDigit_facts (isHexDigit_of_mem_payloadDigits (List.mem_of_getElem? hk))).2.2.2

/-- **What a call does with an arbitrary string.** With `h` its first sixteen hexadecimal
digits, the call returns `⌈m/2⌉`, stores one byte for every two digits and leaves the rest
of `data` alone, in bounds throughout; and it treats alike all strings with these digits. -/
theorem hex_payload_exact (s : CString) :
    let h := payloadDigits s
    let n := h.length ⌈/⌉ 2
    n ≤ 8 ∧
    ∀ (data : List UInt8) (dlc : UInt8), n ≤ data.length →
      (∃ out, canParseHexPayload (some s) (some data) (some dlc) =
          some ⟨n, some out, some (UInt8.ofNat n)⟩ ∧
        out.length = data.length ∧
        (∀ i < n, out[i]?.map UInt8.toNat =
          some (16 * digitAt h (2 * i) + digitAt h (2 * i + 1))) ∧
        ∀ i, n ≤ i → out[i]? = data[i]?) ∧
      ∀ s' : CString, payloadDigits s' = h →
        canParseHexPayload (some s') (some data) (some dlc) =
          canParseHexPayload (some s) (some data) (some dlc) := by
  intro h n
  refine ⟨length_payloadDigits_le s, fun data dlc hdata => ⟨?_, fun s' hs' => ?_⟩⟩
  · have hlen : (payloadBytes h).length = n := length_payloadBytes h
    refine ⟨_, canParseHexPayload_eq s data dlc hdata, ?_, fun i hi => ?_, fun i hi => ?_⟩
    · rw [List.length_append, List.length_drop]
      show (payloadBytes h).length + (data.length - n) = _
      omega
    · have hhigh : digitAt h (2 * i) < 16 := digitAt_lt s _
      have hlow : digitAt h (2 * i + 1) < 16 := digitAt_lt s _
      have hbyte : (payloadBytes h)[i]? =
          some (UInt8.ofNat (16 * digitAt h (2 * i) + digitAt h (2 * i + 1))) :=
        (getElem?_payloadBytes h i).trans (if_pos hi)
      rw [List.getElem?_append_left (hlen.symm ▸ hi), hbyte, Option.map_some,
        UInt8.toNat_ofNat', Nat.mod_eq_of_lt (by omega)]
    · rw [List.getElem?_append_right (hlen.symm ▸ hi), List.getElem?_drop]
      show data[n + (i - (payloadBytes h).length)]? = _
      rw [hlen, Nat.add_sub_cancel' hi]
  · rw [canParseHexPayload_eq s' data dlc (by rw [hs']; exact hdata), hs',
      canParseHexPayload_eq s data dlc hdata]

/-- `-d "1g2:3"` into a buffer of `FF`s: `12` and `30`, and the junk is skipped. -/
theorem hex_payload_exact_odd :
    let s : CString := ⟨[49, 103, 50, 58, 51], by decide⟩
    ∃ out, canParseHexPayload (some s) (some (List.replicate 8 255)) (some 0) =
        some ⟨2, some out, some 2⟩ ∧
      out.length = 8 ∧ out[0]?.map UInt8.toNat = some 0x12 ∧
      out[1]?.map UInt8.toNat = some 0x30 ∧ ∀ i, 2 ≤ i → out[i]? = (List.replicate 8 255)[i]? := by
  intro s
  have hdigits : payloadDigits s = [49, 50, 51] := by decide
  have hn : (payloadDigits s).length ⌈/⌉ 2 = 2 := by
    rw [hdigits, Nat.ceilDiv_eq_add_pred_div]
    rfl
  obtain ⟨out, hcall, hlen, hbytes, hrest⟩ :=
    ((hex_payload_exact s).2 (List.replicate 8 255) 0 (by rw [hn]; decide)).1
  rw [hn, hdigits] at *
  exact ⟨out, hcall, hlen, hbytes 0 (by decide), hbytes 1 (by decide), hrest⟩

end CanSentinel.C
