import PsdkBridge.Lib.JsonReads

/-!
# Numerals with a fixed number of decimals

`fixedNumeral` writes a number of units of the last decimal, and `reads_fixedNumeral`
reads it back as a JSON number.  `IsFixed` is what the conversion `%.Nf` is good for: the
value up to half a unit of the last decimal.
-/

namespace PsdkBridge

/-- The decimals of `k` units of the `n`-th one. -/
def decimals (n k : Nat) : Bytes :=
  List.replicate (n - (decNat (k % 10 ^ n)).length) 48 ++ decNat (k % 10 ^ n)

/-- `k` units of the `n`-th decimal, behind a sign or not. -/
def fixedNumeral (neg : Bool) (n k : Nat) : Bytes :=
  (if neg then [45] else []) ++ decNat (k / 10 ^ n) ++ 46 :: decimals n k

/-- The number that is written. -/
def fixedVal (neg : Bool) (n k : Nat) : ℚ :=
  if neg then -(k / 10 ^ n) else k / 10 ^ n

/-- It is a number of units of the last decimal. -/
theorem exists_fixedVal
    (neg : Bool) (n k : Nat) :
    ∃ i : ℤ, fixedVal neg n k = i / 10 ^ n := by
  cases neg with
  | true =>
      refine ⟨-k, ?_⟩
      simp [fixedVal, neg_div]
  | false =>
      exact ⟨k, by simp [fixedVal]⟩

/-- The text writes the value with `n` decimals, up to half a unit of the last one. -/
def IsFixed (n : Nat) (q : ℚ) (text : Bytes) : Prop :=
  ∃ neg k, text = fixedNumeral neg n k ∧ |fixedVal neg n k - q| ≤ 1 / (2 * 10 ^ n)

/-! ## Digits -/

theorem digitsVal_append
    (ds fs : Bytes) :
    digitsVal (ds ++ fs) = digitsVal ds * 10 ^ fs.length + digitsVal fs := by
  simp only [digitsVal, List.reverse_append, List.map_append, Nat.ofDigits_append,
    List.length_map, List.length_reverse]
  ring

theorem digitsVal_zeros
    (m : Nat) :
    digitsVal (List.replicate m 48) = 0 := by
  induction m with
  | zero =>
      rfl
  | succ m ih =>
      rw [List.replicate_succ', digitsVal_append, ih]
      rfl

section Decimals

variable {n : Nat} (hn : 0 < n) (k : Nat)
include hn

theorem decNat_mod_length_le :
    (decNat (k % 10 ^ n)).length ≤ n :=
  decNat_length_le hn (Nat.mod_lt _ (Nat.pow_pos (by norm_num)))

theorem decimals_length :
    (decimals n k).length = n := by
  have hlen := decNat_mod_length_le hn k
  simp only [decimals, List.length_append, List.length_replicate]
  omega

theorem digitsVal_decimals :
    digitsVal (decNat (k / 10 ^ n) ++ decimals n k) = k := by
  have hlast : digitsVal (decimals n k) = k % 10 ^ n := by
    rw [decimals, digitsVal_append, digitsVal_zeros, digitsVal_decNat]
    omega
  rw [digitsVal_append, digitsVal_decNat, decimals_length hn, hlast]
  exact Nat.div_add_mod' k (10 ^ n)

omit hn in
theorem isDigit_of_mem_decimals
    {b : UInt8}
    (h : b ∈ decimals n k) :
    isDigit b = true := by
  rcases List.mem_append.mp h with h | h
  · rw [List.eq_of_mem_replicate h]
    rfl
  · exact isDigit_of_mem_decNat h

end Decimals

/-- Digits in front of something else are taken whole. -/
theorem takeWhile_isDigit_before
    {ds : Bytes} {b : UInt8}
    (hds : ∀ b ∈ ds, isDigit b = true)
    (hb : isDigit b = false)
    (r : Bytes) :
    (ds ++ b :: r).takeWhile isDigit = ds ∧ (ds ++ b :: r).dropWhile isDigit = b :: r := by
  constructor
  · rw [List.takeWhile_append_of_pos hds, List.takeWhile_cons_of_neg (by simp [hb]),
      List.append_nil]
  · rw [List.dropWhile_append_of_pos hds, List.dropWhile_cons_of_neg (by simp [hb])]

/-! ## Reading -/

/-- A text that starts like a number is read as one. -/
theorem readValue_numeral
    {b : UInt8}
    (hb : isDigit b = true ∨ b = 45)
    (n : Nat) (s : Bytes) :
    readValue (n + 1) (b :: s) = readNumber (b :: s) := by
  have hne : ∀ c : UInt8, isDigit c = false → c ≠ 45 → b ≠ c := by
    rintro c hdigit hminus rfl
    rcases hb with hb | hb
    · rw [hdigit] at hb
      cases hb
    · exact hminus hb
  have hws : isWs b = false := by
    simp [isWs, hne 32 (by decide) (by decide), hne 9 (by decide) (by decide),
      hne 10 (by decide) (by decide), hne 13 (by decide) (by decide)]
  simp [readValue, skipWs_of_not_ws hws, hne 34 (by decide) (by decide),
    hne 123 (by decide) (by decide), hne 91 (by decide) (by decide),
    hne 116 (by decide) (by decide), hne 102 (by decide) (by decide),
    hne 110 (by decide) (by decide)]

/-- The decimals behind the point. -/
theorem readFrac_decimals
    {n : Nat}
    (hn : 0 < n)
    (k : Nat) {r : Bytes}
    (hr : Delimited r) :
    readFrac (46 :: (decimals n k ++ r)) = some (some (decimals n k), r) := by
  obtain ⟨htake, hdrop⟩ := takeWhile_isDigit_append
    (fun _ => isDigit_of_mem_decimals k (n := n)) hr
  have hne : decimals n k ≠ [] := by
    intro hnil
    have hlen := decimals_length hn k
    rw [hnil, List.length_nil] at hlen
    omega
  simp only [readFrac, if_true, htake, hdrop, if_neg hne]

theorem numberValue_decimals
    {n : Nat}
    (hn : 0 < n)
    (neg : Bool) (k : Nat) :
    numberValue neg (decNat (k / 10 ^ n)) (some (decimals n k)) none =
      .dbl (.fin (fixedVal neg n k)) := by
  simp only [numberValue, Option.getD_some, Option.getD_none, zpow_zero, mul_one,
    decimals_length hn, digitsVal_decimals hn, fixedVal]

/-- A numeral without its sign starts with a digit. -/
theorem head_unsigned
    (n k : Nat) (r : Bytes) :
    ∃ b ds, decNat (k / 10 ^ n) ++ 46 :: r = b :: ds ∧ isDigit b = true := by
  cases hd : decNat (k / 10 ^ n) with
  | nil =>
      exact absurd hd (decNat_ne_nil _)
  | cons b ds =>
      exact ⟨b, ds ++ 46 :: r, rfl, isDigit_of_mem_decNat (by rw [hd]; exact .head _)⟩

theorem readNumber_fixedNumeral
    {n : Nat}
    (hn : 0 < n)
    (neg : Bool) (k : Nat) {r : Bytes}
    (hr : Delimited r) :
    readNumber (fixedNumeral neg n k ++ r) = some (.dbl (.fin (fixedVal neg n k)), r) := by
  have hzero := decNat_no_leading_zero (k / 10 ^ n)
  obtain ⟨htake, hdrop⟩ := takeWhile_isDigit_before (b := 46)
    (fun _ => isDigit_of_mem_decNat (n := k / 10 ^ n)) rfl (decimals n k ++ r)
  cases neg with
  | true =>
      have htext : fixedNumeral true n k ++ r =
          45 :: (decNat (k / 10 ^ n) ++ 46 :: (decimals n k ++ r)) := by
        simp [fixedNumeral]
      rw [htext]
      simp only [readNumber, List.head?_cons, beq_self_eq_true, if_true, List.tail_cons,
        htake, hdrop, if_neg hzero, readFrac_decimals hn k hr, readExp_delimited hr,
        numberValue_decimals hn]
  | false =>
      have htext : fixedNumeral false n k ++ r =
          decNat (k / 10 ^ n) ++ 46 :: (decimals n k ++ r) := by
        simp [fixedNumeral]
      have hneg : ((decNat (k / 10 ^ n) ++ 46 :: (decimals n k ++ r)).head? == some 45) =
          false := by
        obtain ⟨b, ds, hcons, hb⟩ := head_unsigned n k (decimals n k ++ r)
        rw [hcons]
        simpa using ne_of_isDigit hb (by decide)
      rw [htext]
      simp only [readNumber, hneg, Bool.false_eq_true, if_false, htake, hdrop, if_neg hzero,
        readFrac_decimals hn k hr, readExp_delimited hr, numberValue_decimals hn]

/-- Reading a numeral gives the number that is written. -/
theorem reads_fixedNumeral
    {n : Nat}
    (hn : 0 < n)
    (neg : Bool) (k : Nat) :
    Reads (fixedNumeral neg n k) (.dbl (.fin (fixedVal neg n k))) := by
  intro m r hm hr
  obtain ⟨m, rfl⟩ : ∃ m', m = m' + 1 := ⟨m - 1, by omega⟩
  have hnumber := readNumber_fixedNumeral hn neg k hr
  obtain ⟨b, ds, hcons, hb⟩ : ∃ b ds, fixedNumeral neg n k ++ r = b :: ds ∧
      (isDigit b = true ∨ b = 45) := by
    obtain ⟨b, ds, hcons, hb⟩ := head_unsigned n k (decimals n k ++ r)
    cases neg with
    | true =>
        exact ⟨45, b :: ds, by simp [fixedNumeral, ← hcons], Or.inr rfl⟩
    | false =>
        exact ⟨b, ds, by simp [fixedNumeral, ← hcons], Or.inl hb⟩
  rw [hcons] at hnumber ⊢
  rw [readValue_numeral hb, hnumber]

/-! ## Octets and lengths -/

/-- Digits, the point and the sign. -/
theorem notMem_fixedNumeral
    {b : UInt8}
    (hdigit : isDigit b = false)
    (hpoint : b ≠ 46)
    (hminus : b ≠ 45)
    (neg : Bool) (n k : Nat) :
    b ∉ fixedNumeral neg n k := by
  have hnat : b ∉ decNat (k / 10 ^ n) := fun h => by
    rw [isDigit_of_mem_decNat h] at hdigit
    cases hdigit
  have hfrac : b ∉ decimals n k := fun h => by
    rw [isDigit_of_mem_decimals k h] at hdigit
    cases hdigit
  cases neg <;> simp [fixedNumeral, hnat, hfrac, hpoint, hminus]

theorem fixedNumeral_length_le
    {n d : Nat}
    (hn : 0 < n)
    (hd : 0 < d)
    (neg : Bool) {k : Nat}
    (hk : k < 10 ^ (d + n)) :
    (fixedNumeral neg n k).length ≤ d + n + 2 := by
  have hint : k / 10 ^ n < 10 ^ d := by
    rw [Nat.div_lt_iff_lt_mul (Nat.pow_pos (by norm_num)), ← pow_add]
    exact hk
  have hlen := decNat_length_le hd hint
  have hfrac := decimals_length hn k
  cases neg <;> simp [fixedNumeral, hfrac] <;> omega

/-- A value below a power of ten is written with as many digits. -/
theorem IsFixed.length_le
    {n d : Nat} {q : ℚ} {text : Bytes}
    (h : IsFixed n q text)
    (hn : 0 < n)
    (hd : 0 < d)
    (hq : |q| + 1 ≤ 10 ^ d) :
    text.length ≤ d + n + 2 := by
  obtain ⟨neg, k, rfl, herr⟩ := h
  refine fixedNumeral_length_le hn hd neg ?_
  have hpow : (1 : ℚ) ≤ 10 ^ n := one_le_pow₀ (by norm_num)
  have habs : |fixedVal neg n k| = k / 10 ^ n := by
    have hnonneg : (0 : ℚ) ≤ k / 10 ^ n := by positivity
    cases neg <;> simp [fixedVal, abs_of_nonneg hnonneg]
  have hhalf : 1 / (2 * (10 : ℚ) ^ n) < 1 := by
    rw [div_lt_one (by positivity)]
    linarith
  have hbound : (k : ℚ) / 10 ^ n < 10 ^ d := by
    have htriangle := abs_sub_abs_le_abs_sub (fixedVal neg n k) q
    rw [habs] at htriangle
    linarith
  rw [div_lt_iff₀ (by positivity), ← pow_add] at hbound
  exact_mod_cast hbound

end PsdkBridge
