import Mathlib.Data.Int.Log
import Mathlib.Data.Rat.Floor
import Mathlib.Tactic

/-!
# Floating-point values as extended rationals

A binary floating-point value is a rational, an infinity or NaN.  Signed zeros
are identified, which no ordered comparison can observe.  Comparisons follow
IEEE 754: every ordered comparison with NaN is false.

Rounding to a binary format is exact arithmetic on the rationals: the value is
divided by the quantum of its binade, rounded to the nearest integer with ties
to even, and scaled back.  `BinFormat.convert` is the conversion between
formats that a C cast performs.
-/

namespace PsdkBridge

/-- A floating-point value. -/
inductive FNum where
  | nan
  | inf (neg : Bool)
  | fin (q : ℚ)
deriving DecidableEq

namespace FNum

/-- The IEEE comparison `<`. -/
def lt : FNum → FNum → Bool
  | .nan, _ => false
  | _, .nan => false
  | .fin a, .fin b => decide (a < b)
  | .fin _, .inf neg => !neg
  | .inf neg, .fin _ => neg
  | .inf neg, .inf neg' => neg && !neg'

/-- The IEEE comparison `>`. -/
def gt (a b : FNum) : Bool :=
  lt b a

@[simp] theorem lt_fin_fin
    (a b : ℚ) :
    lt (.fin a) (.fin b) = decide (a < b) := by
  rfl

@[simp] theorem gt_fin_fin
    (a b : ℚ) :
    gt (.fin a) (.fin b) = decide (b < a) := by
  rfl

/-- A finite value that is at least `lo`. -/
def AtLeast (lo : ℚ) (x : FNum) : Prop :=
  ∃ q, x = .fin q ∧ lo ≤ q

/-- A finite value between `lo` and `hi`. -/
def Between (lo hi : ℚ) (x : FNum) : Prop :=
  ∃ q, x = .fin q ∧ lo ≤ q ∧ q ≤ hi

/-- A lower bound written as a rejection lets NaN and the positive infinity
pass. -/
theorem lt_eq_false_iff
    (lo : ℚ) (x : FNum) :
    x.lt (.fin lo) = false ↔ x = .nan ∨ x = .inf false ∨ x.AtLeast lo := by
  cases x with
  | nan =>
      simp [lt]
  | inf neg =>
      simp [lt, AtLeast]
  | fin q =>
      simp [AtLeast]

/-- A range written as two rejections lets NaN pass. -/
theorem gt_or_lt_eq_false_iff
    (lo hi : ℚ) (x : FNum) :
    x.gt (.fin hi) = false ∧ x.lt (.fin lo) = false ↔ x = .nan ∨ x.Between lo hi := by
  cases x with
  | nan =>
      simp [lt, gt]
  | inf neg =>
      cases neg <;> simp [lt, gt, Between]
  | fin q =>
      simp [Between, and_comm]

end FNum

/-- A binary interchange format: precision and exponent range. -/
structure BinFormat where
  prec : Nat
  emin : Int
  emax : Int

/-- The C type `float`. -/
def binary32 : BinFormat where
  prec := 24
  emin := -126
  emax := 127

/-- The C type `double`. -/
def binary64 : BinFormat where
  prec := 53
  emin := -1022
  emax := 1023

/-- Nearest integer, ties to even. -/
def roundHalfEven (q : ℚ) : ℤ :=
  if q - ⌊q⌋ < 1 / 2 then ⌊q⌋
  else if 1 / 2 < q - ⌊q⌋ then ⌊q⌋ + 1
  else if ⌊q⌋ % 2 = 0 then ⌊q⌋
  else ⌊q⌋ + 1

namespace BinFormat

/-- Distance between neighbouring values of the format in the binade of `q`. -/
def quantum (f : BinFormat) (q : ℚ) : ℚ :=
  (2 : ℚ) ^ (max (Int.log 2 |q|) f.emin - (f.prec - 1))

/-- Round a rational to the format; too large a result becomes an infinity. -/
def round (f : BinFormat) (q : ℚ) : FNum :=
  let r := roundHalfEven (q / f.quantum q) * f.quantum q
  if |r| < (2 : ℚ) ^ (f.emax + 1) then .fin r
  else .inf (decide (q < 0))

/-- Conversion of a floating-point value to the format. -/
def convert (f : BinFormat) : FNum → FNum
  | .nan => .nan
  | .inf neg => .inf neg
  | .fin q => f.round q

/-- Addition in the format. -/
def add (f : BinFormat) : FNum → FNum → FNum
  | .nan, _ => .nan
  | _, .nan => .nan
  | .fin a, .fin b => f.round (a + b)
  | .fin _, .inf neg => .inf neg
  | .inf neg, .fin _ => .inf neg
  | .inf neg, .inf neg' => if neg = neg' then .inf neg else .nan

/-- Subtraction in the format. -/
def sub (f : BinFormat) (a : FNum) : FNum → FNum
  | .nan => .nan
  | .fin b => f.add a (.fin (-b))
  | .inf neg => f.add a (.inf (!neg))

/-- Multiplication in the format. -/
def mul (f : BinFormat) : FNum → FNum → FNum
  | .nan, _ => .nan
  | _, .nan => .nan
  | .fin a, .fin b => f.round (a * b)
  | .fin a, .inf neg => if a = 0 then .nan else .inf (neg ^^ decide (a < 0))
  | .inf neg, .fin b => if b = 0 then .nan else .inf (neg ^^ decide (b < 0))
  | .inf neg, .inf neg' => .inf (neg ^^ neg')

/-- Division in the format; the divisor zero counts as positive. -/
def div (f : BinFormat) : FNum → FNum → FNum
  | .nan, _ => .nan
  | _, .nan => .nan
  | .fin a, .fin b =>
      if b = 0 then if a = 0 then .nan else .inf (decide (a < 0))
      else f.round (a / b)
  | .fin _, .inf _ => .fin 0
  | .inf neg, .fin b => .inf (neg ^^ decide (b < 0))
  | .inf _, .inf _ => .nan

end BinFormat

/-- Small constants convert exactly. -/
@[simp] theorem convert_binary32_zero :
    binary32.convert (.fin 0) = .fin 0 := by
  decide +kernel

@[simp] theorem convert_binary32_one :
    binary32.convert (.fin 1) = .fin 1 := by
  decide +kernel

@[simp] theorem convert_binary32_neg_one :
    binary32.convert (.fin (-1)) = .fin (-1) := by
  decide +kernel

end PsdkBridge
