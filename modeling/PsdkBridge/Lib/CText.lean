import Mathlib.Data.List.TakeWhile
import Mathlib.Data.Nat.Digits.Lemmas
import Mathlib.Tactic

/-!
# Byte strings as C programs see them

A C program handles text as octets: string literals, NUL-terminated views of
larger buffers, and text produced by `snprintf` into a buffer of fixed size.
This module fixes the vocabulary.

* `ascii` turns a literal into its octets.
* `cstr` is the NUL-terminated view of a byte sequence.
* `snprintf` stores what fits and returns the length of the whole rendering.
* `decNat` and `decInt` are the `%u` and `%d` conversions.

The decimal conversions are characterised by their digits, by a length bound,
and by injectivity (`decInt_injective`).
-/

namespace PsdkBridge

/-- A sequence of octets. -/
abbrev Bytes := List UInt8

/-- The octets of a string literal. -/
def ascii (s : String) : Bytes :=
  s.toList.map (fun c => UInt8.ofNat c.toNat)

/-- The C string that starts a byte sequence: everything before the first NUL. -/
def cstr (s : Bytes) : Bytes :=
  s.takeWhile (fun b => b ≠ 0)

theorem cstr_length_le
    (s : Bytes) :
    (cstr s).length ≤ s.length :=
  (List.takeWhile_prefix _).length_le

/-- A byte sequence without NUL is its own C string. -/
theorem cstr_eq_self
    {s : Bytes}
    (h : (0 : UInt8) ∉ s) :
    cstr s = s := by
  apply List.takeWhile_eq_self_iff.mpr
  intro b hb
  have hne : b ≠ 0 := fun h0 => h (h0 ▸ hb)
  simpa using hne

/-- A C string ends at a NUL. -/
theorem cstr_append_zero
    (s z : Bytes) :
    cstr (s ++ 0 :: z) = cstr s := by
  unfold cstr
  induction s with
  | nil =>
      rfl
  | cons b s ih =>
      simp only [List.cons_append, List.takeWhile_cons, ih]

/-- A text is the C string of those byte sequences that continue it with a NUL,
if at all. -/
theorem cstr_eq_iff
    {s n : Bytes}
    (hn : (0 : UInt8) ∉ n) :
    cstr s = n ↔ s = n ∨ ∃ t, s = n ++ 0 :: t := by
  constructor
  · intro h
    have hsplit : s = n ++ s.dropWhile (fun b => b ≠ 0) := by
      rw [← h]
      exact List.takeWhile_append_dropWhile.symm
    cases hrest : s.dropWhile (fun b => b ≠ 0) with
    | nil =>
        left
        rw [hsplit, hrest, List.append_nil]
    | cons b t =>
        right
        have hb : b = 0 := by
          have hhead := List.head_dropWhile_not (fun b : UInt8 => b ≠ 0)
            (l := s) (by rw [hrest]; simp)
          simp only [hrest, List.head_cons] at hhead
          simpa using hhead
        exact ⟨t, by rw [← hb, ← hrest]; exact hsplit⟩
  · rintro (rfl | ⟨t, rfl⟩)
    · exact cstr_eq_self hn
    · rw [cstr_append_zero, cstr_eq_self hn]

/-- `strstr(hay, needle) != NULL`. -/
def strstr (hay needle : Bytes) : Bool :=
  decide (needle <:+: hay)

/-- `strchr(s, c) != NULL` for a character other than NUL. -/
def strchr (s : Bytes) (c : UInt8) : Bool :=
  decide (c ∈ s)

/-- `memchr`: where a byte first occurs. -/
def memchr (s : Bytes) (c : UInt8) : Option Nat :=
  s.findIdx? (fun b => decide (b = c))

theorem memchr_eq_none
    {s : Bytes} {c : UInt8}
    (h : memchr s c = none) :
    c ∉ s := by
  intro hc
  have := List.findIdx?_eq_none_iff.mp h c hc
  simp at this

/-- The byte that was found ends a part without it. -/
theorem memchr_eq_some
    {s : Bytes} {c : UInt8} {k : Nat}
    (h : memchr s c = some k) :
    ∃ l t, s = l ++ c :: t ∧ c ∉ l ∧ l.length = k := by
  obtain ⟨hk, hb, hfirst⟩ := List.findIdx?_eq_some_iff_getElem.mp h
  have hb : s[k] = c := by simpa using hb
  refine ⟨s.take k, s.drop (k + 1), ?_, ?_, ?_⟩
  · rw [← hb, ← List.drop_eq_getElem_cons hk, List.take_append_drop]
  · intro hc
    obtain ⟨j, hj, hget⟩ := List.mem_iff_getElem.mp hc
    simp only [List.length_take] at hj
    have := hfirst j (by omega)
    simp only [List.getElem_take] at hget
    simp [hget] at this
  · simp
    omega

/-- What a call to `snprintf` leaves behind: the text stored in the buffer
(its terminating NUL not counted) and the returned number. -/
structure Printed where
  stored : Bytes
  ret : Int
deriving DecidableEq

/-- `snprintf(buf, size, ...)` for a rendering of fewer than `INT_MAX` bytes.

At most `size - 1` bytes are stored, but the returned number is the length of
the whole rendering, whether or not it fitted. -/
def snprintf (size : Nat) (rendered : Bytes) : Printed where
  stored := rendered.take (size - 1)
  ret := rendered.length

theorem snprintf_stored_length_le
    (size : Nat) (rendered : Bytes) :
    (snprintf size rendered).stored.length ≤ size - 1 := by
  simp [snprintf]

/-- A rendering shorter than the buffer is stored whole. -/
theorem snprintf_stored_of_lt
    {size : Nat} {rendered : Bytes}
    (h : rendered.length < size) :
    (snprintf size rendered).stored = rendered := by
  simp only [snprintf]
  exact List.take_of_length_le (by omega)

section Decimal

/-- The octet of a decimal digit. -/
def digitByte (d : Nat) : UInt8 :=
  UInt8.ofNat (48 + d)

/-- `'0' <= b && b <= '9'`. -/
def isDigit (b : UInt8) : Bool :=
  decide (48 ≤ b ∧ b ≤ 57)

/-- The value of a digit octet. -/
def digitVal (b : UInt8) : Nat :=
  b.toNat - 48

theorem digitByte_toNat
    {d : Nat}
    (h : d < 10) :
    (digitByte d).toNat = 48 + d := by
  simp only [digitByte, UInt8.toNat_ofNat']
  omega

theorem isDigit_digitByte
    {d : Nat}
    (h : d < 10) :
    isDigit (digitByte d) = true := by
  have ht := digitByte_toNat h
  simp only [isDigit, decide_eq_true_eq, UInt8.le_iff_toNat_le, ht]
  constructor
  · show 48 ≤ 48 + d
    omega
  · show 48 + d ≤ 57
    omega

theorem digitVal_digitByte
    {d : Nat}
    (h : d < 10) :
    digitVal (digitByte d) = d := by
  simp only [digitVal, digitByte_toNat h]
  omega

/-- The number written by a sequence of digit octets, most significant first. -/
def digitsVal (ds : Bytes) : Nat :=
  Nat.ofDigits 10 (ds.reverse.map digitVal)

/-- The `%u` conversion. -/
def decNat (n : Nat) : Bytes :=
  if n = 0 then [48]
  else (Nat.digits 10 n).reverse.map digitByte

/-- The `%d` conversion. -/
def decInt (i : Int) : Bytes :=
  if i < 0 then 45 :: decNat i.natAbs
  else decNat i.natAbs

theorem decNat_ne_nil
    (n : Nat) :
    decNat n ≠ [] := by
  unfold decNat
  split_ifs with h
  · simp
  · simpa using Nat.digits_ne_nil_iff_ne_zero.mpr h

theorem isDigit_of_mem_decNat
    {n : Nat} {b : UInt8}
    (hb : b ∈ decNat n) :
    isDigit b = true := by
  unfold decNat at hb
  split_ifs at hb with h
  · simp only [List.mem_singleton] at hb
    subst hb
    decide
  · simp only [List.mem_map, List.mem_reverse] at hb
    obtain ⟨d, hd, rfl⟩ := hb
    exact isDigit_digitByte (Nat.digits_lt_base (by norm_num) hd)

/-- Reading the digits back gives the number. -/
theorem digitsVal_decNat
    (n : Nat) :
    digitsVal (decNat n) = n := by
  unfold digitsVal decNat
  split_ifs with h
  · subst h
    decide
  · have hmap :
        (Nat.digits 10 n).map (digitVal ∘ digitByte) = Nat.digits 10 n := by
      have hid : ∀ d ∈ Nat.digits 10 n, (digitVal ∘ digitByte) d = id d :=
        fun d hd => digitVal_digitByte (Nat.digits_lt_base (by norm_num) hd)
      rw [List.map_congr_left hid, List.map_id]
    rw [← List.map_reverse, List.reverse_reverse, List.map_map, hmap]
    exact Nat.ofDigits_digits 10 n

/-- No leading zero: a numeral that starts with `0` is the numeral `0`. -/
theorem decNat_cons_zero
    {n : Nat} {ds : Bytes}
    (h : decNat n = 48 :: ds) :
    ds = [] := by
  unfold decNat at h
  split_ifs at h with hn
  · simpa using h.symm
  · exfalso
    have hne : Nat.digits 10 n ≠ [] := Nat.digits_ne_nil_iff_ne_zero.mpr hn
    have hlast := Nat.getLast_digit_ne_zero 10 hn
    have hlt : (Nat.digits 10 n).getLast hne < 10 :=
      Nat.digits_lt_base (by norm_num) (List.getLast_mem hne)
    rw [← List.dropLast_append_getLast hne] at h
    simp only [List.reverse_append, List.reverse_cons, List.reverse_nil,
      List.nil_append, List.cons_append, List.map_cons, List.cons.injEq] at h
    have hv := digitVal_digitByte hlt
    rw [h.1] at hv
    exact hlast (by rw [← hv]; decide)

theorem decNat_injective :
    Function.Injective decNat := by
  intro m n h
  rw [← digitsVal_decNat m, h, digitsVal_decNat n]

/-- A number below `10 ^ k` is written with at most `k` digits. -/
theorem decNat_length_le
    {n k : Nat}
    (hk : 0 < k)
    (h : n < 10 ^ k) :
    (decNat n).length ≤ k := by
  unfold decNat
  split_ifs
  · exact hk
  · simpa using (Nat.digits_length_le_iff (by norm_num) n).mpr h

theorem minus_notMem_decNat
    (n : Nat) :
    (45 : UInt8) ∉ decNat n := by
  intro h
  have hd := isDigit_of_mem_decNat h
  revert hd
  decide

theorem decInt_natCast
    (n : Nat) :
    decInt n = decNat n := by
  simp [decInt]

theorem decInt_ne_nil
    (i : Int) :
    decInt i ≠ [] := by
  unfold decInt
  split_ifs
  · simp
  · exact decNat_ne_nil _

/-- The `%d` conversion loses nothing. -/
theorem decInt_injective :
    Function.Injective decInt := by
  intro i j h
  unfold decInt at h
  split_ifs at h with hi hj hj
  · have := decNat_injective (List.cons.inj h).2
    omega
  · exact absurd (h ▸ List.mem_cons_self) (minus_notMem_decNat _)
  · exact absurd (h ▸ List.mem_cons_self) (minus_notMem_decNat _)
  · have := decNat_injective h
    omega

/-- A number of absolute value below `10 ^ k` takes at most `k + 1` octets. -/
theorem decInt_length_le
    {i : Int} {k : Nat}
    (hk : 0 < k)
    (h : i.natAbs < 10 ^ k) :
    (decInt i).length ≤ k + 1 := by
  have hn := decNat_length_le hk h
  unfold decInt
  split_ifs
  · simpa using hn
  · omega

/-- Numerals consist of digits and of the minus sign. -/
theorem isDigit_or_minus_of_mem_decInt
    {i : Int} {b : UInt8}
    (hb : b ∈ decInt i) :
    isDigit b = true ∨ b = 45 := by
  unfold decInt at hb
  split_ifs at hb
  · rcases List.mem_cons.mp hb with rfl | hb
    · right
      rfl
    · left
      exact isDigit_of_mem_decNat hb
  · left
    exact isDigit_of_mem_decNat hb

/-- Only digits and the sign occur in a decimal number. -/
theorem notMem_decInt
    {b : UInt8}
    (hdigit : isDigit b = false)
    (hminus : b ≠ 45)
    (i : Int) :
    b ∉ decInt i := by
  intro hb
  rcases isDigit_or_minus_of_mem_decInt hb with h | h
  · rw [hdigit] at h
    cases h
  · exact hminus h

end Decimal

end PsdkBridge
