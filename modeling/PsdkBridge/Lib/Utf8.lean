import PsdkBridge.Lib.CText

/-!
# UTF-8 validity

Validity is decided by an automaton that reads one octet at a time, so that a
text can be cut at any ASCII octet: `isUtf8_append_cons` splits it there, and
`isUtf8_around` isolates a block between ASCII texts.
-/

namespace PsdkBridge

/-- Position inside a UTF-8 text: between characters, or with `n` octets of a
character to come, the next one between `lo` and `hi`. -/
inductive Utf8State where
  | start
  | need (n : Nat) (lo hi : UInt8)
deriving DecidableEq

/-- Read one octet of a UTF-8 text. -/
def utf8Step : Utf8State → UInt8 → Option Utf8State
  | .start, b =>
      if b < 0x80 then some .start
      else if b < 0xC2 then none
      else if b < 0xE0 then some (.need 1 0x80 0xBF)
      else if b = 0xE0 then some (.need 2 0xA0 0xBF)
      else if b = 0xED then some (.need 2 0x80 0x9F)
      else if b < 0xF0 then some (.need 2 0x80 0xBF)
      else if b = 0xF0 then some (.need 3 0x90 0xBF)
      else if b < 0xF4 then some (.need 3 0x80 0xBF)
      else if b = 0xF4 then some (.need 3 0x80 0x8F)
      else none
  | .need n lo hi, b =>
      if lo ≤ b ∧ b ≤ hi then
        if n ≤ 1 then some .start else some (.need (n - 1) 0x80 0xBF)
      else none

/-- The text is valid UTF-8. -/
def IsUtf8 (s : Bytes) : Prop :=
  s.foldlM utf8Step .start = some .start

instance (s : Bytes) : Decidable (IsUtf8 s) :=
  inferInstanceAs (Decidable (_ = _))

/-- The text consists of ASCII octets. -/
def IsAscii (s : Bytes) : Prop :=
  ∀ b ∈ s, b < 0x80

instance (s : Bytes) : Decidable (IsAscii s) :=
  List.decidableBAll (fun b => b < 0x80) s

@[simp] theorem isAscii_append
    {s t : Bytes} :
    IsAscii (s ++ t) ↔ IsAscii s ∧ IsAscii t := by
  simp only [IsAscii, List.mem_append, or_imp, forall_and]

/-- Numerals are ASCII texts. -/
theorem isAscii_decInt
    (i : Int) :
    IsAscii (decInt i) := by
  intro b hb
  rcases isDigit_or_minus_of_mem_decInt hb with h | rfl
  · simp only [isDigit, decide_eq_true_eq] at h
    exact UInt8.lt_of_le_of_lt h.2 (by decide)
  · decide

/-- ASCII octets keep the reader between characters. -/
theorem foldlM_utf8Step_ascii
    {a : Bytes}
    (h : IsAscii a) :
    a.foldlM utf8Step .start = some .start := by
  induction a with
  | nil =>
      rfl
  | cons b a ih =>
      have hb : b < 0x80 := h b List.mem_cons_self
      rw [List.foldlM_cons]
      simp only [utf8Step, if_pos hb]
      exact ih (fun c hc => h c (List.mem_cons_of_mem _ hc))

theorem isUtf8_ascii_append
    {a : Bytes}
    (h : IsAscii a)
    (s : Bytes) :
    IsUtf8 (a ++ s) ↔ IsUtf8 s := by
  unfold IsUtf8
  rw [List.foldlM_append, foldlM_utf8Step_ascii h]
  rfl

theorem isUtf8_of_isAscii
    {s : Bytes}
    (h : IsAscii s) :
    IsUtf8 s :=
  foldlM_utf8Step_ascii h

/-- A state inside a character refuses ASCII octets. -/
def Utf8State.Refuses : Utf8State → Prop
  | .start => True
  | .need _ lo _ => 0x80 ≤ lo

theorem utf8Step_refuses
    {st st' : Utf8State} {b : UInt8}
    (h : utf8Step st b = some st') :
    st'.Refuses := by
  cases st with
  | start =>
      simp only [utf8Step] at h
      split_ifs at h <;> cases h <;> simp only [Utf8State.Refuses] <;> decide
  | need n lo hi =>
      simp only [utf8Step] at h
      split_ifs at h <;> cases h <;> simp only [Utf8State.Refuses]
      decide

theorem foldlM_utf8Step_refuses
    {s : Bytes} :
    ∀ {st st' : Utf8State}, st.Refuses →
      s.foldlM utf8Step st = some st' → st'.Refuses := by
  induction s with
  | nil =>
      intro st st' hst h
      cases h
      exact hst
  | cons b s ih =>
      intro st st' _ h
      rw [List.foldlM_cons] at h
      obtain ⟨st₁, h₁, h₂⟩ := Option.bind_eq_some_iff.mp h
      exact ih (utf8Step_refuses h₁) h₂

/-- A text splits at an ASCII octet into two UTF-8 texts. -/
theorem isUtf8_append_cons
    {b : UInt8}
    (hb : b < 0x80)
    (s t : Bytes) :
    IsUtf8 (s ++ b :: t) ↔ IsUtf8 s ∧ IsUtf8 t := by
  unfold IsUtf8
  rw [List.foldlM_append]
  cases hs : s.foldlM utf8Step .start with
  | none =>
      simp
  | some st =>
      cases st with
      | start =>
          have hstep : utf8Step .start b = some .start := by
            simp only [utf8Step, if_pos hb]
          simp [List.foldlM_cons, hstep]
      | need n lo hi =>
          have hlo : 0x80 ≤ lo :=
            foldlM_utf8Step_refuses (show Utf8State.start.Refuses from trivial) hs
          have hstep : utf8Step (.need n lo hi) b = none := by
            have hlt : ¬ lo ≤ b := by
              intro hle
              rw [UInt8.le_iff_toNat_le] at hle hlo
              rw [UInt8.lt_iff_toNat_lt] at hb
              omega
            simp [utf8Step, hlt]
          simp [List.foldlM_cons, hstep]

/-- A block between ASCII texts is valid UTF-8 iff the whole is. -/
theorem isUtf8_around
    {a : Bytes}
    (ha : IsAscii a)
    {b : UInt8}
    (hb : b < 0x80)
    (s t : Bytes) :
    IsUtf8 (a ++ s ++ b :: t) ↔ IsUtf8 s ∧ IsUtf8 t := by
  rw [List.append_assoc, isUtf8_ascii_append ha, isUtf8_append_cons hb]

end PsdkBridge
