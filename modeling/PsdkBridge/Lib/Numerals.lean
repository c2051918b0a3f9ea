import PsdkBridge.Lib.CText

/-!
# Numbers in texts

`strtol` and `atoi` read a number from the front of a text and ignore what follows it;
a text without a number is read as zero.  `decimalNumber` is the number that a text
writes, if it writes one and nothing else.  `atoi_of_decimalNumber` compares the two.
-/

namespace PsdkBridge

/-- `isspace` in the C locale. -/
def isSpace (b : UInt8) : Bool :=
  decide (b = 32 ∨ (9 ≤ b ∧ b ≤ 13))

/-- The sign of a text, if it has one, and what follows it; `true` is minus. -/
def splitSign (s : Bytes) : Bool × Bytes :=
  if s.head? = some 45 then (true, s.tail)
  else if s.head? = some 43 then (false, s.tail)
  else (false, s)

/-- A number with its sign. -/
def signed (neg : Bool) (n : Nat) : Int :=
  if neg then -n else n

/-- `strtol(s, NULL, 10)` for a long of 64 bits. -/
def strtol (s : Bytes) : Int :=
  let p := splitSign (s.dropWhile isSpace)
  max (-2 ^ 63) (min (2 ^ 63 - 1) (signed p.1 (digitsVal (p.2.takeWhile isDigit))))

/-- `atoi`: the number that `strtol` reads, as an int. -/
def atoi (s : Bytes) : Int32 :=
  Int32.ofInt (strtol s)

/-- The number that a text writes: digits, behind a sign or not. -/
def decimalNumber (s : Bytes) : Option Int :=
  let p := splitSign s
  if p.2 ≠ [] ∧ p.2.all isDigit then some (signed p.1 (digitsVal p.2)) else none

section Decimal

variable {s : Bytes} {n : Int}

theorem isSpace_of_isDigit
    {b : UInt8}
    (h : isDigit b = true) :
    isSpace b = false := by
  simp only [isDigit, decide_eq_true_eq, UInt8.le_iff_toNat_le] at h
  simp only [isSpace, decide_eq_false_iff_not, UInt8.le_iff_toNat_le, ← UInt8.toNat_inj]
  obtain ⟨h₁, h₂⟩ := h
  change 48 ≤ b.toNat at h₁
  change ¬ (b.toNat = 32 ∨ 9 ≤ b.toNat ∧ b.toNat ≤ 13)
  omega

/-- A number starts without blanks. -/
theorem dropWhile_isSpace_of_decimalNumber
    (h : decimalNumber s = some n) :
    s.dropWhile isSpace = s := by
  cases s with
  | nil =>
      rfl
  | cons b s =>
      have hb : isSpace b = false := by
        by_cases hminus : b = 45
        · subst hminus
          decide
        by_cases hplus : b = 43
        · subst hplus
          decide
        -- the first digit
        apply isSpace_of_isDigit
        have hsign : splitSign (b :: s) = (false, b :: s) := by
          simp [splitSign, hminus, hplus]
        rw [decimalNumber, hsign] at h
        by_contra hdigit
        simp [hdigit] at h
      simp [hb]

theorem strtol_of_decimalNumber
    (h : decimalNumber s = some n) :
    strtol s = max (-2 ^ 63) (min (2 ^ 63 - 1) n) := by
  rw [strtol, dropWhile_isSpace_of_decimalNumber h]
  simp only [decimalNumber] at h
  split_ifs at h with hdigits
  have hall : (splitSign s).2.takeWhile isDigit = (splitSign s).2 :=
    List.takeWhile_eq_self_iff.mpr (List.all_eq_true.mp hdigits.2)
  simp only [hall, Option.some.inj h]

/-- `atoi` reads the numbers that an int can hold. -/
theorem atoi_of_decimalNumber
    (h : decimalNumber s = some n)
    (hlow : -2 ^ 31 ≤ n)
    (hhigh : n < 2 ^ 31) :
    (atoi s).toInt = n := by
  have hlong : strtol s = n := by
    rw [strtol_of_decimalNumber h, min_eq_right (by omega), max_eq_right (by omega)]
  rw [atoi, hlong]
  exact Int32.toInt_ofInt_of_le hlow hhigh

end Decimal

/-- Other texts are read as zero or as what they start with, and a number that is too
large wraps. -/
example : atoi (ascii "port") = 0 ∧ atoi (ascii " 80x") = 80 ∧
    atoi (ascii "4294967297") = 1 := by
  decide

end PsdkBridge
