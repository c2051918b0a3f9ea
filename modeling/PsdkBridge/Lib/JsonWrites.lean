import PsdkBridge.Lib.Fixed
import PsdkBridge.Lib.Rounding

/-!
# Writing JSON values

Every octet string has a string literal that denotes it (`reads_quoted`), and so has every
finite value of a binary format a numeral (`reads_numeral`): such a value is a whole number
of units of the least quantum of its format, and a negative power of two has finitely many
decimals.
-/

namespace PsdkBridge

/-! ## String literals -/

/-- A hexadecimal digit. -/
def hexDigit (n : Nat) : UInt8 :=
  if n < 10 then UInt8.ofNat (48 + n) else UInt8.ofNat (87 + n)

/-- An octet in a string literal. -/
def escape (b : UInt8) : Bytes :=
  if b = 34 ∨ b = 92 then [92, b]
  else if b < 32 then [92, 117, 48, 48, hexDigit (b.toNat / 16), hexDigit (b.toNat % 16)]
  else [b]

/-- What the octet is read as. -/
def unitOf (b : UInt8) : StrUnit :=
  if b < 32 then .code b.toNat else .byte b

/-- The string literal of an octet string. -/
def quoted (s : Bytes) : Bytes :=
  34 :: s.flatMap escape ++ [34]

theorem hexVal_hexDigit
    {n : Nat}
    (h : n < 16) :
    hexVal (hexDigit n) = some n := by
  interval_cases n <;> rfl

/-- Reading one octet. -/
theorem readString_escape
    (b : UInt8) (r : Bytes) :
    readString .text (escape b ++ r) =
      (readString .text r).map (fun p => (unitOf b :: p.1, p.2)) := by
  unfold escape unitOf
  by_cases hmark : b = 34 ∨ b = 92
  · have hcontrol : ¬ b < 32 := by
      rcases hmark with rfl | rfl <;> decide
    have hsimple : b ≠ 117 ∧ simpleEscape b = some b := by
      rcases hmark with rfl | rfl <;> decide
    simp [if_pos hmark, if_neg hcontrol, readString, hsimple]
  rw [if_neg hmark]
  by_cases hcontrol : b < 32
  · have hlt : b.toNat < 32 := by
      simpa [UInt8.lt_iff_toNat_lt] using hcontrol
    have hhigh := hexVal_hexDigit (n := b.toNat / 16) (by omega)
    have hlow := hexVal_hexDigit (n := b.toNat % 16) (by omega)
    have hzero : hexVal 48 = some 0 := rfl
    simp [if_pos hcontrol, readString, hzero, hhigh, hlow, Nat.div_add_mod']
  · rw [not_or] at hmark
    simp [if_neg hcontrol, readString, hmark]

theorem readString_escapes
    (s r : Bytes) :
    readString .text (s.flatMap escape ++ 34 :: r) = some (s.map unitOf, r) := by
  induction s with
  | nil =>
      simp [readString]
  | cons b s ih =>
      rw [List.flatMap_cons, List.append_assoc, readString_escape, ih]
      rfl

/-- A small code unit is one octet. -/
theorem assemble_code
    {u : Nat}
    (h : u < 32)
    (us : List StrUnit) :
    assemble (.code u :: us) = UInt8.ofNat u :: assemble us := by
  have hchar : utf8Encode (scalarOf u) = [UInt8.ofNat u] := by
    interval_cases u <;> rfl
  cases us with
  | nil =>
      simp [assemble, hchar]
  | cons v us =>
      cases v with
      | byte c =>
          simp [assemble, hchar]
      | code v =>
          have hlow : ¬ 0xD800 ≤ u := by omega
          simp [assemble, hchar, hlow]

theorem assemble_unitOf
    (s : Bytes) :
    assemble (s.map unitOf) = s := by
  induction s with
  | nil =>
      rfl
  | cons b s ih =>
      rw [List.map_cons, unitOf]
      by_cases hcontrol : b < 32
      · have hlt : b.toNat < 32 := by
          simpa [UInt8.lt_iff_toNat_lt] using hcontrol
        rw [if_pos hcontrol, assemble_code hlt, ih, UInt8.ofNat_toNat]
      · rw [if_neg hcontrol, assemble, ih]

/-- The literal of an octet string denotes it. -/
theorem reads_quoted
    (s : Bytes) :
    Reads (quoted s) (.str s) := by
  intro n r hn _
  obtain ⟨n, rfl⟩ : ∃ m, n = m + 1 := ⟨n - 1, by omega⟩
  have hstr := readString_escapes s r
  have htext : quoted s ++ r = 34 :: (s.flatMap escape ++ 34 :: r) := by
    simp [quoted]
  rw [htext]
  simp [readValue, skipWs_of_not_ws (b := 34) rfl, hstr, assemble_unitOf]

/-- No control character stands in a literal. -/
theorem not_control_of_mem_quoted
    {s : Bytes} {b : UInt8}
    (h : b ∈ quoted s) :
    ¬ b < 32 := by
  have hdigit : ∀ n < 16, ¬ hexDigit n < 32 := by decide
  simp only [quoted, List.cons_append, List.mem_cons, List.mem_append, List.mem_flatMap,
    List.not_mem_nil, or_false] at h
  rcases h with rfl | ⟨c, _, hc⟩ | rfl
  · decide
  · unfold escape at hc
    split_ifs at hc with hmark hcontrol
    · simp only [List.mem_cons, List.not_mem_nil, or_false] at hc
      rcases hc with rfl | rfl
      · decide
      · rcases hmark with rfl | rfl <;> decide
    · have hlt : c.toNat < 32 := by
        simpa [UInt8.lt_iff_toNat_lt] using hcontrol
      simp only [List.mem_cons, List.not_mem_nil, or_false] at hc
      rcases hc with rfl | rfl | rfl | rfl | rfl | rfl
      · decide
      · decide
      · decide
      · decide
      · exact hdigit _ (by omega)
      · exact hdigit _ (by omega)
    · rw [List.mem_singleton.mp hc]
      exact hcontrol
  · decide

theorem quoted_length_le
    (s : Bytes) :
    (quoted s).length ≤ 6 * s.length + 2 := by
  have hescape : ∀ b, (escape b).length ≤ 6 := by
    intro b
    unfold escape
    split_ifs <;> simp
  have hbody : (s.flatMap escape).length ≤ 6 * s.length := by
    induction s with
    | nil =>
        rfl
    | cons b s ih =>
        have hb := hescape b
        simp only [List.flatMap_cons, List.length_append, List.length_cons]
        omega
  simp only [quoted, List.length_append, List.length_cons, List.length_nil]
  omega

/-! ## Numerals -/

/-- The numeral of a number with at most `n` decimals. -/
def numeral (n : Nat) (q : ℚ) : Bytes :=
  fixedNumeral (decide (q < 0)) n ⌊|q| * 10 ^ n⌋₊

/-- The number has at most `n` decimals. -/
def HasDecimals (n : Nat) (q : ℚ) : Prop :=
  ∃ i : ℤ, q * 10 ^ n = i

section Decimals

variable {n : Nat} {q : ℚ} (h : HasDecimals n q)
include h

theorem fixedVal_numeral :
    fixedVal (decide (q < 0)) n ⌊|q| * 10 ^ n⌋₊ = q := by
  obtain ⟨i, hi⟩ := h
  have hpow : (0 : ℚ) < 10 ^ n := by positivity
  have habs : |q| * 10 ^ n = (i.natAbs : ℚ) := by
    calc |q| * 10 ^ n
        = |q * 10 ^ n| := by rw [abs_mul, abs_of_pos hpow]
      _ = (i.natAbs : ℚ) := by rw [hi, Nat.cast_natAbs, Int.cast_abs]
  have hfloor : ((⌊|q| * 10 ^ n⌋₊ : ℕ) : ℚ) = |q| * 10 ^ n := by
    rw [habs, Nat.floor_natCast]
  unfold fixedVal
  rw [hfloor, mul_div_cancel_right₀ _ hpow.ne']
  by_cases hneg : q < 0
  · rw [decide_eq_true hneg, if_pos rfl, abs_of_neg hneg, neg_neg]
  · rw [decide_eq_false hneg, if_neg (by simp), abs_of_nonneg (not_lt.mp hneg)]

theorem reads_numeral
    (hn : 0 < n) :
    Reads (numeral n q) (.dbl (.fin q)) := by
  have hreads := reads_fixedNumeral hn (decide (q < 0)) ⌊|q| * 10 ^ n⌋₊
  rwa [fixedVal_numeral h] at hreads

theorem numeral_length_le
    {d : Nat}
    (hn : 0 < n)
    (hd : 0 < d)
    (hq : |q| + 1 ≤ 10 ^ d) :
    (numeral n q).length ≤ d + n + 2 := by
  have hfixed : IsFixed n q (numeral n q) :=
    ⟨_, _, rfl, by rw [fixedVal_numeral h, sub_self, abs_zero]; positivity⟩
  exact hfixed.length_le hn hd hq

end Decimals

/-! ## The values of a binary format -/

namespace BinFormat

/-- The number is a value of the format. -/
def Holds (f : BinFormat) (q : ℚ) : Prop :=
  f.round q = .fin q

instance (f : BinFormat) (q : ℚ) : Decidable (f.Holds q) :=
  inferInstanceAs (Decidable (f.round q = .fin q))

section Holds

variable {f g : BinFormat} {q : ℚ}

/-- A value of the format is a whole number of quanta, and in range. -/
theorem holds_iff :
    f.Holds q ↔ (∃ k : ℤ, q = k * f.quantum q) ∧ |q| < (2 : ℚ) ^ (f.emax + 1) := by
  have hpos : 0 < f.quantum q := quantum_pos
  constructor
  · intro h
    have hround : (if |f.roundVal q| < (2 : ℚ) ^ (f.emax + 1) then FNum.fin (f.roundVal q)
        else .inf (decide (q < 0))) = .fin q := h
    split_ifs at hround with hrange
    have hval : f.roundVal q = q := FNum.fin.inj hround
    rw [hval] at hrange
    exact ⟨⟨_, hval.symm⟩, hrange⟩
  · rintro ⟨⟨k, hk⟩, hrange⟩
    have hdiv : q / f.quantum q = k := by
      rw [div_eq_iff hpos.ne']
      exact hk
    have hval : f.roundVal q = q := by
      rw [roundVal, hdiv, roundHalfEven_intCast, ← hk]
    show (if |f.roundVal q| < (2 : ℚ) ^ (f.emax + 1) then FNum.fin (f.roundVal q)
        else .inf (decide (q < 0))) = .fin q
    rw [hval, if_pos hrange]

/-- The values of a format are values of every wider one. -/
theorem Holds.widen
    (h : f.Holds q)
    (hmin : g.emin ≤ f.emin)
    (hprec : f.prec ≤ g.prec)
    (hmax : f.emax ≤ g.emax) :
    g.Holds q := by
  obtain ⟨⟨k, hk⟩, hrange⟩ := holds_iff.mp h
  obtain ⟨m, hm⟩ := exists_multiple (f := g) (q := q)
    (e := max (Int.log 2 |q|) f.emin - (f.prec - 1)) (by omega)
  refine holds_iff.mpr ⟨⟨k * m, ?_⟩, hrange.trans_le (zpow_le_zpow_right₀ (by norm_num) ?_)⟩
  · push_cast
    rw [mul_assoc, ← hm]
    exact hk
  · omega

/-- The values of a format have finitely many decimals. -/
theorem Holds.decimals
    (h : f.Holds q)
    {n : Nat}
    (hn : (f.prec : ℤ) - 1 - f.emin ≤ n) :
    HasDecimals n q := by
  obtain ⟨⟨k, hk⟩, _⟩ := holds_iff.mp h
  obtain ⟨m, hm⟩ := Int.eq_ofNat_of_zero_le
    (show 0 ≤ max (Int.log 2 |q|) f.emin - (f.prec - 1) + n by omega)
  have hquantum : f.quantum q * 2 ^ n = 2 ^ m := by
    rw [quantum, ← zpow_natCast, ← zpow_natCast, ← zpow_add₀ (by norm_num), hm]
  have hten : (10 : ℚ) ^ n = 2 ^ n * 5 ^ n := by
    rw [← mul_pow]
    norm_num
  refine ⟨k * 2 ^ m * 5 ^ n, ?_⟩
  push_cast
  calc q * 10 ^ n
      = k * (f.quantum q * 2 ^ n) * 5 ^ n := by rw [hten, ← mul_assoc, ← mul_assoc, ← hk]
    _ = k * 2 ^ m * 5 ^ n := by rw [hquantum]

end Holds

end BinFormat

end PsdkBridge
