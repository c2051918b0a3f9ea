import PsdkBridge.Lib.Ieee
import Mathlib.Tactic.Linarith

/-!
# Rounding is monotone

`roundVal` is the value that `BinFormat.round` computes before it looks at the range of
the format.  It is monotone and odd (`roundVal_mono`, `roundVal_neg`), so the rounded bound
is a bound of the rounded value (`round_eq_fin`).  The `within` rules carry bounds through
the operations, and `abs_roundVal_sub_le_of_lt` bounds the error of one of them.
-/

namespace PsdkBridge

/-! ## Rounding to an integer -/

section RoundHalfEven

variable {p q : ℚ}

theorem floor_le_roundHalfEven
    (q : ℚ) :
    ⌊q⌋ ≤ roundHalfEven q ∧ roundHalfEven q ≤ ⌊q⌋ + 1 := by
  unfold roundHalfEven
  split_ifs <;> omega

theorem abs_roundHalfEven_sub_le
    (q : ℚ) :
    |(roundHalfEven q : ℚ) - q| ≤ 1 / 2 := by
  have hlo := Int.floor_le q
  have hhi := Int.lt_floor_add_one q
  unfold roundHalfEven
  split_ifs with h₁ h₂ h₃
  · rw [abs_le]
    constructor <;> linarith
  · rw [abs_le]
    push_cast
    constructor <;> linarith
  · rw [abs_le]
    constructor <;> linarith
  · rw [abs_le]
    push_cast
    constructor <;> linarith

theorem roundHalfEven_intCast
    (k : ℤ) :
    roundHalfEven k = k := by
  simp [roundHalfEven]

theorem roundHalfEven_mono
    (h : p ≤ q) :
    roundHalfEven p ≤ roundHalfEven q := by
  rcases (Int.floor_le_floor h).lt_or_eq with hlt | heq
  · have hp := (floor_le_roundHalfEven p).2
    have hq := (floor_le_roundHalfEven q).1
    omega
  · -- the same floor: the fractional parts compare like the numbers
    unfold roundHalfEven
    rw [heq]
    split_ifs <;> first | omega | linarith

theorem roundHalfEven_neg
    (q : ℚ) :
    roundHalfEven (-q) = -roundHalfEven q := by
  by_cases hint : (⌊q⌋ : ℚ) = q
  · have hneg : (-q) = ((-⌊q⌋ : ℤ) : ℚ) := by
      push_cast
      rw [hint]
    rw [hneg, roundHalfEven_intCast, ← hint, roundHalfEven_intCast]
    rw [Int.floor_intCast]
  · have hlo : (⌊q⌋ : ℚ) < q := lt_of_le_of_ne (Int.floor_le q) hint
    have hhi := Int.lt_floor_add_one q
    have hfloor : ⌊-q⌋ = -⌊q⌋ - 1 := by
      rw [Int.floor_eq_iff]
      push_cast
      constructor <;> linarith
    unfold roundHalfEven
    rw [hfloor]
    push_cast
    split_ifs <;> first | omega | linarith

end RoundHalfEven

namespace BinFormat

variable {f : BinFormat} {p q : ℚ}

/-- The rounded value, whether or not it is in the range of the format. -/
def roundVal (f : BinFormat) (q : ℚ) : ℚ :=
  roundHalfEven (q / f.quantum q) * f.quantum q

theorem quantum_pos :
    0 < f.quantum q :=
  zpow_pos (by norm_num) _

theorem quantum_neg :
    f.quantum (-q) = f.quantum q := by
  simp only [quantum, abs_neg]

theorem roundVal_neg :
    f.roundVal (-q) = -f.roundVal q := by
  rw [roundVal, quantum_neg, neg_div, roundHalfEven_neg, roundVal]
  push_cast
  ring

/-! ## Multiples of the quantum -/

theorem roundVal_le_of_multiple
    {k : ℤ}
    (h : q ≤ k * f.quantum q) :
    f.roundVal q ≤ k * f.quantum q := by
  have hdiv : q / f.quantum q ≤ k := (div_le_iff₀ quantum_pos).mpr h
  have hround := roundHalfEven_mono hdiv
  rw [roundHalfEven_intCast] at hround
  exact mul_le_mul_of_nonneg_right (by exact_mod_cast hround) quantum_pos.le

theorem le_roundVal_of_multiple
    {k : ℤ}
    (h : k * f.quantum q ≤ q) :
    k * f.quantum q ≤ f.roundVal q := by
  have hdiv : (k : ℚ) ≤ q / f.quantum q := (le_div_iff₀ quantum_pos).mpr h
  have hround := roundHalfEven_mono hdiv
  rw [roundHalfEven_intCast] at hround
  exact mul_le_mul_of_nonneg_right (by exact_mod_cast hround) quantum_pos.le

/-- Large powers of two are multiples of the quantum. -/
theorem exists_multiple
    {e : ℤ}
    (he : max (Int.log 2 |q|) f.emin - (f.prec - 1) ≤ e) :
    ∃ k : ℤ, (2 : ℚ) ^ e = k * f.quantum q := by
  obtain ⟨n, hn⟩ := Int.eq_ofNat_of_zero_le (sub_nonneg.mpr he)
  refine ⟨2 ^ n, ?_⟩
  have hsum : e = (n : ℤ) + (max (Int.log 2 |q|) f.emin - (f.prec - 1)) := by omega
  rw [hsum, zpow_add₀ (by norm_num), quantum]
  push_cast
  rfl

theorem roundVal_nonneg
    (h : 0 ≤ q) :
    0 ≤ f.roundVal q := by
  have hzero := le_roundVal_of_multiple (f := f) (q := q) (k := 0) (by simpa using h)
  simpa using hzero

/-! ## Monotonicity -/

/-- Two positive numbers: either the quantum is the same, or a power of two that both
quanta divide lies between them. -/
theorem roundVal_mono_of_pos
    (hprec : 0 < f.prec)
    (hp : 0 < p)
    (h : p ≤ q) :
    f.roundVal p ≤ f.roundVal q := by
  have hq := hp.trans_le h
  have hlog : Int.log 2 p ≤ Int.log 2 q := Int.log_mono_right hp h
  by_cases heq : max (Int.log 2 p) f.emin = max (Int.log 2 q) f.emin
  · have hquantum : f.quantum p = f.quantum q := by
      simp only [quantum, abs_of_pos hp, abs_of_pos hq, heq]
    have hround : roundHalfEven (p / f.quantum q) ≤ roundHalfEven (q / f.quantum q) :=
      roundHalfEven_mono (div_le_div_of_nonneg_right h quantum_pos.le)
    rw [roundVal, roundVal, hquantum]
    exact mul_le_mul_of_nonneg_right (by exact_mod_cast hround) quantum_pos.le
  · have hlt : Int.log 2 p < Int.log 2 q ∧ f.emin < Int.log 2 q := by omega
    have hbelow : p ≤ (2 : ℚ) ^ Int.log 2 q :=
      ((Int.lt_zpow_iff_log_lt (by norm_num) hp).mpr hlt.1).le
    have habove : (2 : ℚ) ^ Int.log 2 q ≤ q := Int.zpow_log_le_self (by norm_num) hq
    obtain ⟨k, hk⟩ := exists_multiple (f := f) (q := p) (e := Int.log 2 q) (by
      rw [abs_of_pos hp]
      omega)
    obtain ⟨l, hl⟩ := exists_multiple (f := f) (q := q) (e := Int.log 2 q) (by
      rw [abs_of_pos hq]
      omega)
    calc f.roundVal p ≤ (2 : ℚ) ^ Int.log 2 q := by
          rw [hk] at hbelow ⊢
          exact roundVal_le_of_multiple hbelow
      _ ≤ f.roundVal q := by
          rw [hl] at habove ⊢
          exact le_roundVal_of_multiple habove

/-- Rounding is monotone. -/
theorem roundVal_mono
    (hprec : 0 < f.prec)
    (h : p ≤ q) :
    f.roundVal p ≤ f.roundVal q := by
  rcases lt_or_ge 0 p with hp | hp
  · exact roundVal_mono_of_pos hprec hp h
  · have hneg : 0 ≤ f.roundVal (-p) := roundVal_nonneg (by linarith)
    rcases lt_or_ge q 0 with hq | hq
    · have hmono := roundVal_mono_of_pos (f := f) hprec (p := -q) (q := -p) (by linarith)
        (by linarith)
      rw [roundVal_neg, roundVal_neg] at hmono
      linarith
    · have hnonneg : 0 ≤ f.roundVal q := roundVal_nonneg hq
      rw [roundVal_neg] at hneg
      linarith

/-- A bound of the absolute value, rounded. -/
theorem abs_roundVal_le
    (hprec : 0 < f.prec)
    (h : |p| ≤ q) :
    |f.roundVal p| ≤ f.roundVal q := by
  obtain ⟨hlo, hhi⟩ := abs_le.mp h
  have hneg := roundVal_mono hprec hlo
  rw [roundVal_neg] at hneg
  exact abs_le.mpr ⟨hneg, roundVal_mono hprec hhi⟩

/-- Rounding stays within a bound whose rounded value is in range. -/
theorem round_eq_fin
    (hprec : 0 < f.prec)
    (h : |p| ≤ q)
    (hrange : f.roundVal q < (2 : ℚ) ^ (f.emax + 1)) :
    f.round p = .fin (f.roundVal p) ∧ |f.roundVal p| ≤ f.roundVal q := by
  have hle := abs_roundVal_le hprec h
  refine ⟨?_, hle⟩
  show (if |f.roundVal p| < (2 : ℚ) ^ (f.emax + 1) then FNum.fin (f.roundVal p) else _) = _
  rw [if_pos (hle.trans_lt hrange)]

/-! ## The error of rounding -/

/-- Rounding changes a value by at most half a quantum. -/
theorem abs_roundVal_sub_le
    (q : ℚ) :
    |f.roundVal q - q| ≤ f.quantum q / 2 := by
  have hpos : 0 < f.quantum q := quantum_pos
  have hsub : f.roundVal q - q =
      (roundHalfEven (q / f.quantum q) - q / f.quantum q) * f.quantum q := by
    rw [roundVal, sub_mul, div_mul_cancel₀ _ hpos.ne']
  rw [hsub, abs_mul, abs_of_pos hpos]
  have hround := abs_roundHalfEven_sub_le (q / f.quantum q)
  nlinarith

/-- The quantum below a power of two. -/
theorem quantum_le
    {e : ℤ}
    (he : f.emin ≤ e)
    (hnonneg : 0 ≤ e)
    (h : |q| < (2 : ℚ) ^ (e + 1)) :
    f.quantum q ≤ (2 : ℚ) ^ (e - (f.prec - 1)) := by
  have hlog : Int.log 2 |q| ≤ e := by
    rcases (abs_nonneg q).lt_or_eq with hpos | hzero
    · have hlt := (Int.lt_zpow_iff_log_lt (R := ℚ) (b := 2) (by norm_num) hpos).mp
        (by exact_mod_cast h)
      omega
    · rw [← hzero, Int.log_zero_right]
      exact hnonneg
  exact zpow_le_zpow_right₀ (by norm_num) (by omega)

/-- The error below a power of two. -/
theorem abs_roundVal_sub_le_of_lt
    {e : ℤ}
    (he : f.emin ≤ e)
    (hnonneg : 0 ≤ e)
    (h : |q| < (2 : ℚ) ^ (e + 1)) :
    |f.roundVal q - q| ≤ (2 : ℚ) ^ (e - (f.prec - 1)) / 2 := by
  have herr := abs_roundVal_sub_le (f := f) q
  have hquantum := quantum_le he hnonneg h
  linarith

end BinFormat

/-! ## Bounds of floating-point numbers -/

/-- The number is finite, and its absolute value has the bound. -/
def FNum.Within (b : ℚ) (x : FNum) : Prop :=
  ∃ q, x = .fin q ∧ |q| ≤ b

theorem FNum.within_self
    {q : ℚ}
    (h : 0 ≤ q) :
    (FNum.fin q).Within q :=
  ⟨q, rfl, (abs_of_nonneg h).le⟩

namespace BinFormat

section Within

variable {f : BinFormat} {x y : FNum} {a b c : ℚ}

/-- A bound that rounding does not exceed. -/
theorem within_round
    {q : ℚ}
    (hprec : 0 < f.prec)
    (h : |q| ≤ a)
    (hc : f.roundVal a ≤ c)
    (hrange : c < (2 : ℚ) ^ (f.emax + 1)) :
    (f.round q).Within c := by
  obtain ⟨hround, hle⟩ := round_eq_fin hprec h (hc.trans_lt hrange)
  exact ⟨_, hround, hle.trans hc⟩

theorem within_mul
    (hprec : 0 < f.prec)
    (hx : x.Within a)
    (hy : y.Within b)
    (hc : f.roundVal (a * b) ≤ c)
    (hrange : c < (2 : ℚ) ^ (f.emax + 1)) :
    (f.mul x y).Within c := by
  obtain ⟨p, rfl, hp⟩ := hx
  obtain ⟨q, rfl, hq⟩ := hy
  refine within_round hprec ?_ hc hrange
  rw [abs_mul]
  exact mul_le_mul hp hq (abs_nonneg q) ((abs_nonneg p).trans hp)

theorem within_add
    (hprec : 0 < f.prec)
    (hx : x.Within a)
    (hy : y.Within b)
    (hc : f.roundVal (a + b) ≤ c)
    (hrange : c < (2 : ℚ) ^ (f.emax + 1)) :
    (f.add x y).Within c := by
  obtain ⟨p, rfl, hp⟩ := hx
  obtain ⟨q, rfl, hq⟩ := hy
  exact within_round hprec ((abs_add_le p q).trans (add_le_add hp hq)) hc hrange

theorem within_sub
    (hprec : 0 < f.prec)
    (hx : x.Within a)
    (hy : y.Within b)
    (hc : f.roundVal (a + b) ≤ c)
    (hrange : c < (2 : ℚ) ^ (f.emax + 1)) :
    (f.sub x y).Within c := by
  obtain ⟨q, rfl, hq⟩ := hy
  exact within_add hprec hx ⟨-q, rfl, by rwa [abs_neg]⟩ hc hrange

theorem within_div
    {d : ℚ}
    (hprec : 0 < f.prec)
    (hx : x.Within a)
    (hd : 0 < d)
    (hc : f.roundVal (a / d) ≤ c)
    (hrange : c < (2 : ℚ) ^ (f.emax + 1)) :
    (f.div x (.fin d)).Within c := by
  obtain ⟨p, rfl, hp⟩ := hx
  simp only [div, if_neg hd.ne']
  refine within_round hprec ?_ hc hrange
  rw [abs_div, abs_of_pos hd]
  exact div_le_div_of_nonneg_right hp hd.le

end Within

end BinFormat

end PsdkBridge
