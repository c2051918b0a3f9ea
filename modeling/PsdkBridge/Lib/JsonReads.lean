import PsdkBridge.Lib.JsonText

/-!
# Which texts decode, and to what

The first half builds texts that decode.  `Reads text v` says that `text`
denotes `v` in front of every delimiter; the closure rules `reads_str`,
`reads_int` and `reads_object` follow the shape of a text that is put together
from literals, numerals and blocks of octets.

The second half goes the other way.  `readString_append_cases` says how the
reading of a literal can pass over a block of raw octets, and
`readString_block` concludes that a literal which decodes to the block itself
needs a block without quotes, backslashes and control octets (`Plain`).
-/

namespace PsdkBridge

/-- An octet that stands for itself in a string literal. -/
def plainByte (b : UInt8) : Bool :=
  decide (b ≠ 34 ∧ b ≠ 92 ∧ ¬ b < 32)

/-- A block of octets that a string literal can hold unescaped. -/
def Plain (s : Bytes) : Prop :=
  ∀ b ∈ s, plainByte b = true

instance (s : Bytes) : Decidable (Plain s) :=
  List.decidableBAll (fun b => plainByte b = true) s

/-- A remaining text that cannot continue a number. -/
def Delimited (r : Bytes) : Prop :=
  ∀ b ∈ r.head?, isDigit b = false ∧ b ≠ 46 ∧ b ≠ 101 ∧ b ≠ 69

/-- The text denotes the value in front of every delimiter. -/
def Reads (text : Bytes) (v : Json) : Prop :=
  ∀ (n : Nat) (r : Bytes), text.length < n → Delimited r →
    readValue n (text ++ r) = some (v, r)

theorem delimited_nil :
    Delimited [] := by
  simp [Delimited]

theorem delimited_comma
    (r : Bytes) :
    Delimited (44 :: r) := by
  simp [Delimited, isDigit]

theorem delimited_brace
    (r : Bytes) :
    Delimited (125 :: r) := by
  simp [Delimited, isDigit]

theorem decode_of_reads
    {text : Bytes} {v : Json}
    (h : Reads text v) :
    decode text = some v := by
  have hr := h (text.length + 1) [] (by omega) delimited_nil
  rw [List.append_nil] at hr
  simp [decode, hr, skipWs]

theorem readValue_of_decode
    {text : Bytes} {v : Json}
    (h : decode text = some v) :
    ∃ r, readValue (text.length + 1) text = some (v, r) := by
  unfold decode at h
  cases hread : readValue (text.length + 1) text with
  | none =>
      rw [hread] at h
      cases h
  | some p =>
      rw [hread] at h
      simp only [Option.ite_none_right_eq_some, Option.some.injEq] at h
      exact ⟨p.2, by rw [← h.2]⟩

@[simp] theorem assemble_map_byte
    (s : Bytes) :
    assemble (s.map .byte) = s := by
  induction s with
  | nil =>
      rfl
  | cons b s ih =>
      simp [assemble, ih]

/-- A plain block is read as it stands. -/
theorem readString_plain
    {s : Bytes}
    (h : Plain s)
    (r : Bytes) :
    readString .text (s ++ 34 :: r) = some (s.map .byte, r) := by
  induction s with
  | nil =>
      simp [readString]
  | cons b s ih =>
      have hb : b ≠ 34 ∧ b ≠ 92 ∧ ¬ b < 32 := by
        simpa [plainByte] using h b List.mem_cons_self
      have hs : Plain s := fun c hc => h c (List.mem_cons_of_mem _ hc)
      simp [readString, hb, ih hs]

theorem skipWs_of_not_ws
    {b : UInt8}
    (h : isWs b = false)
    (r : Bytes) :
    skipWs (b :: r) = b :: r := by
  simp [skipWs, h]

theorem expect_self
    {b : UInt8}
    (h : isWs b = false)
    (r : Bytes) :
    expect b (b :: r) = some r := by
  simp [expect, skipWs_of_not_ws h]

theorem expect_other
    {b c : UInt8}
    (h : isWs c = false)
    (hne : c ≠ b)
    (r : Bytes) :
    expect b (c :: r) = none := by
  simp [expect, skipWs_of_not_ws h, hne]

theorem reads_str
    {s : Bytes}
    (h : Plain s) :
    Reads (34 :: s ++ [34]) (.str s) := by
  intro n r hn _
  obtain ⟨n, rfl⟩ : ∃ m, n = m + 1 := ⟨n - 1, by omega⟩
  have hstr := readString_plain h r
  have htext : (34 :: s ++ [34]) ++ r = 34 :: (s ++ 34 :: r) := by simp
  rw [htext]
  simp [readValue, skipWs_of_not_ws (b := 34) rfl, hstr]

theorem reads_true :
    Reads (ascii "true") (.bool true) := by
  intro n r hn _
  obtain ⟨n, rfl⟩ : ∃ m, n = m + 1 := ⟨n - 1, by omega⟩
  have htext : ascii "true" ++ r = 116 :: 114 :: 117 :: 101 :: r := rfl
  have hname : ascii "true" = [116, 114, 117, 101] := rfl
  rw [htext]
  simp [readValue, skipWs_of_not_ws (b := 116) rfl, readName, hname]

theorem reads_false :
    Reads (ascii "false") (.bool false) := by
  intro n r hn _
  obtain ⟨n, rfl⟩ : ∃ m, n = m + 1 := ⟨n - 1, by omega⟩
  have htext : ascii "false" ++ r = 102 :: 97 :: 108 :: 115 :: 101 :: r := rfl
  have hname : ascii "false" = [102, 97, 108, 115, 101] := rfl
  rw [htext]
  simp [readValue, skipWs_of_not_ws (b := 102) rfl, readName, hname]

theorem reads_null :
    Reads (ascii "null") .null := by
  intro n r hn _
  obtain ⟨n, rfl⟩ : ∃ m, n = m + 1 := ⟨n - 1, by omega⟩
  have htext : ascii "null" ++ r = 110 :: 117 :: 108 :: 108 :: r := rfl
  have hname : ascii "null" = [110, 117, 108, 108] := rfl
  rw [htext]
  simp [readValue, skipWs_of_not_ws (b := 110) rfl, readName, hname]

/-- Digits before a delimiter are taken whole. -/
theorem takeWhile_isDigit_append
    {ds r : Bytes}
    (hds : ∀ b ∈ ds, isDigit b = true)
    (hr : Delimited r) :
    (ds ++ r).takeWhile isDigit = ds ∧ (ds ++ r).dropWhile isDigit = r := by
  have hrest : r.takeWhile isDigit = [] ∧ r.dropWhile isDigit = r := by
    cases r with
    | nil =>
        simp
    | cons b r =>
        have hb := (hr b (by simp)).1
        simp [hb]
  constructor
  · rw [List.takeWhile_append_of_pos hds, hrest.1, List.append_nil]
  · rw [List.dropWhile_append_of_pos hds, hrest.2]

theorem readFrac_delimited
    {r : Bytes}
    (hr : Delimited r) :
    readFrac r = some (none, r) := by
  cases r with
  | nil =>
      rfl
  | cons b r =>
      have hb := (hr b (by simp)).2.1
      simp [readFrac, hb]

theorem readExp_delimited
    {r : Bytes}
    (hr : Delimited r) :
    readExp r = some (none, r) := by
  cases r with
  | nil =>
      rfl
  | cons b r =>
      have hb := (hr b (by simp)).2.2
      simp [readExp, hb]

theorem decNat_no_leading_zero
    (n : Nat) :
    ¬ (decNat n = [] ∨ ((decNat n).head? = some 48 ∧ 1 < (decNat n).length)) := by
  rintro (h | ⟨hhead, hlen⟩)
  · exact decNat_ne_nil n h
  · obtain ⟨ds, hds⟩ : ∃ ds, decNat n = 48 :: ds := by
      cases hd : decNat n with
      | nil =>
          simp [hd] at hhead
      | cons b ds =>
          rw [hd, List.head?_cons] at hhead
          exact ⟨ds, by rw [Option.some.inj hhead]⟩
    have hnil := decNat_cons_zero hds
    rw [hds, hnil] at hlen
    simp at hlen

/-- Reading a decimal numeral gives its number back. -/
theorem readNumber_decInt
    (i : Int)
    {r : Bytes}
    (hr : Delimited r) :
    readNumber (decInt i ++ r) = some (.int i, r) := by
  have htd := takeWhile_isDigit_append
    (fun b hb => isDigit_of_mem_decNat (n := i.natAbs) hb) hr
  have hzero := decNat_no_leading_zero i.natAbs
  by_cases hi : i < 0
  · have htext : decInt i ++ r = 45 :: (decNat i.natAbs ++ r) := by
      simp [decInt, hi]
    have hval : -((digitsVal (decNat i.natAbs) : Nat) : Int) = i := by
      rw [digitsVal_decNat]
      omega
    rw [htext]
    simp only [readNumber, List.head?_cons, beq_self_eq_true, if_true,
      List.tail_cons, htd.1, htd.2, if_neg hzero, readFrac_delimited hr,
      readExp_delimited hr, numberValue, hval]
  · have htext : decInt i ++ r = decNat i.natAbs ++ r := by
      simp [decInt, hi]
    have hneg : ((decNat i.natAbs ++ r).head? == some 45) = false := by
      cases hd : decNat i.natAbs with
      | nil =>
          exact absurd hd (decNat_ne_nil _)
      | cons b ds =>
          have hb : b ≠ 45 := by
            rintro rfl
            exact minus_notMem_decNat i.natAbs (by simp [hd])
          simpa using hb
    have hval : ((digitsVal (decNat i.natAbs) : Nat) : Int) = i := by
      rw [digitsVal_decNat]
      omega
    rw [htext]
    simp only [readNumber, hneg, Bool.false_eq_true, if_false, htd.1, htd.2,
      if_neg hzero, readFrac_delimited hr, readExp_delimited hr, numberValue, hval]

theorem ne_of_isDigit
    {b c : UInt8}
    (hb : isDigit b = true)
    (hc : isDigit c = false) :
    b ≠ c := by
  rintro rfl
  rw [hb] at hc
  cases hc

/-- The first octet of a numeral starts no other kind of value. -/
theorem decInt_head
    (i : Int) :
    ∃ b ds, decInt i = b :: ds ∧ isWs b = false ∧
      b ≠ 34 ∧ b ≠ 123 ∧ b ≠ 91 ∧ b ≠ 116 ∧ b ≠ 102 ∧ b ≠ 110 := by
  cases hd : decInt i with
  | nil =>
      exact absurd hd (decInt_ne_nil i)
  | cons b ds =>
      refine ⟨b, ds, rfl, ?_⟩
      have hb : b ∈ decInt i := by simp [hd]
      rcases isDigit_or_minus_of_mem_decInt hb with h | rfl
      · have hne : ∀ c : UInt8, isDigit c = false → b ≠ c :=
          fun c hc => ne_of_isDigit h hc
        refine ⟨?_, hne _ (by decide), hne _ (by decide), hne _ (by decide),
          hne _ (by decide), hne _ (by decide), hne _ (by decide)⟩
        simp [isWs, hne 32 (by decide), hne 9 (by decide), hne 10 (by decide),
          hne 13 (by decide)]
      · decide

theorem reads_int
    (i : Int) :
    Reads (decInt i) (.int i) := by
  intro n r hn hr
  obtain ⟨n, rfl⟩ : ∃ m, n = m + 1 := ⟨n - 1, by omega⟩
  have hnum := readNumber_decInt i hr
  obtain ⟨b, ds, hd, hws, h1, h2, h3, h4, h5, h6⟩ := decInt_head i
  rw [hd, List.cons_append] at hnum ⊢
  simp [readValue, skipWs_of_not_ws hws, h1, h2, h3, h4, h5, h6, hnum]

/-- A member of an object: its name, the text of its value, and the value. -/
structure Member where
  key : Bytes
  text : Bytes
  val : Json

/-- The text of a member. -/
def Member.render (m : Member) : Bytes :=
  34 :: m.key ++ 34 :: 58 :: m.text

/-- A member whose name is plain and whose text denotes its value. -/
def Member.Ok (m : Member) : Prop :=
  Plain m.key ∧ Reads m.text m.val

/-- The text of a member list, closing brace included. -/
def membersText : List Member → Bytes
  | [] => [125]
  | [m] => m.render ++ [125]
  | m :: ms => m.render ++ 44 :: membersText ms

/-- The text of an object. -/
def objectText (ms : List Member) : Bytes :=
  123 :: membersText ms

theorem membersText_length
    {ms : List Member}
    (hms : ms ≠ []) :
    (membersText ms).length =
      (ms.map (fun m => m.key.length + m.text.length + 4)).sum := by
  induction ms with
  | nil =>
      exact absurd rfl hms
  | cons m ms ih =>
      cases ms with
      | nil =>
          simp [membersText, Member.render]
          omega
      | cons m' ms =>
          have ih := ih (List.cons_ne_nil m' ms)
          simp only [membersText, Member.render, List.length_append, List.length_cons,
            ih, List.map_cons, List.sum_cons]
          omega

/-- Reading one member, up to its value. -/
theorem readMembers_key
    {key : Bytes}
    (hkey : Plain key)
    (n : Nat) (r : Bytes) :
    readMembers (n + 1) (34 :: key ++ 34 :: 58 :: r) =
      (readValue n r).bind
        (fun p => closeOrComma 125 (key, p.1) (readMembers n) p.2) := by
  have hstr := readString_plain hkey (58 :: r)
  rw [List.cons_append]
  simp only [readMembers, expect_self (b := 34) rfl, hstr,
    expect_self (b := 58) rfl, assemble_map_byte]
  cases readValue n r <;> rfl

theorem readMembers_render
    {m : Member}
    (hm : m.Ok)
    {n : Nat} {r : Bytes}
    (hn : m.text.length < n)
    (hr : Delimited r) :
    readMembers (n + 1) (m.render ++ r) =
      closeOrComma 125 (m.key, m.val) (readMembers n) r := by
  have htext : m.render ++ r = 34 :: m.key ++ 34 :: 58 :: (m.text ++ r) := by
    simp [Member.render]
  rw [htext, readMembers_key hm.1, hm.2 n r hn hr]
  rfl

theorem closeOrComma_comma
    {α : Type} {close : UInt8}
    (hclose : close ≠ 44)
    (x : α) (more : Bytes → Option (List α × Bytes)) (r : Bytes) :
    closeOrComma close x more (44 :: r) =
      (more r).map (fun p => (x :: p.1, p.2)) := by
  simp only [closeOrComma, expect_other (b := close) (c := 44) (by decide) hclose.symm,
    expect_self (b := 44) rfl]

theorem expect_brace_render
    (m : Member) (r : Bytes) :
    expect 125 (m.render ++ r) = none :=
  expect_other (by decide) (by decide) _

/-- An object whose first member is known, up to the second one. -/
theorem readValue_object_cons
    {m : Member}
    (hm : m.Ok)
    {n : Nat}
    (hn : m.text.length < n)
    (r : Bytes) :
    readValue (n + 2) (123 :: (m.render ++ 44 :: r)) =
      (readMembers n r).map (fun p => (.obj ((m.key, m.val) :: p.1), p.2)) := by
  have hread := readMembers_render hm hn (delimited_comma r)
  rw [closeOrComma_comma (by decide)] at hread
  simp only [readValue, skipWs_of_not_ws (b := 123) rfl, expect_brace_render,
    hread]
  cases readMembers n r <;> rfl

theorem readMembers_membersText :
    ∀ (ms : List Member), ms ≠ [] → (∀ m ∈ ms, m.Ok) →
      ∀ (n : Nat) (r : Bytes), (membersText ms).length ≤ n →
        readMembers n (membersText ms ++ r) =
          some (ms.map (fun m => (m.key, m.val)), r)
  | [], hne, _, _, _, _ => absurd rfl hne
  | [m], _, hok, n, r, hn => by
      have hlen : m.text.length + 4 ≤ n := by
        simp [membersText, Member.render] at hn
        omega
      obtain ⟨n, rfl⟩ : ∃ k, n = k + 1 := ⟨n - 1, by omega⟩
      have hread := readMembers_render (hok m (by simp))
        (n := n) (r := 125 :: r) (by omega) (delimited_brace r)
      have htext : membersText [m] ++ r = m.render ++ 125 :: r := by
        simp [membersText]
      rw [htext, hread]
      simp [closeOrComma, expect_self (b := 125) rfl]
  | m :: m' :: ms, _, hok, n, r, hn => by
      have hlen : m.text.length + 4 + (membersText (m' :: ms)).length ≤ n := by
        simp only [membersText, Member.render, List.length_append,
          List.length_cons] at hn
        omega
      obtain ⟨n, rfl⟩ : ∃ k, n = k + 1 := ⟨n - 1, by omega⟩
      have hread := readMembers_render (hok m (by simp))
        (n := n) (r := 44 :: (membersText (m' :: ms) ++ r)) (by omega)
        (delimited_comma _)
      have ih := readMembers_membersText (m' :: ms) (by simp)
        (fun x hx => hok x (List.mem_cons_of_mem _ hx)) n r (by omega)
      have htext : membersText (m :: m' :: ms) ++ r =
          m.render ++ 44 :: (membersText (m' :: ms) ++ r) := by
        simp [membersText]
      rw [htext, hread, closeOrComma_comma (by decide), ih]
      rfl

/-- Objects built from readable members are readable. -/
theorem reads_object
    {ms : List Member}
    (hok : ∀ m ∈ ms, m.Ok) :
    Reads (objectText ms) (.obj (ms.map (fun m => (m.key, m.val)))) := by
  intro n r hn _
  obtain ⟨n, rfl⟩ : ∃ k, n = k + 1 := ⟨n - 1, by omega⟩
  have htext : objectText ms ++ r = 123 :: (membersText ms ++ r) := by
    simp [objectText]
  rw [htext]
  cases ms with
  | nil =>
      simp [readValue, skipWs_of_not_ws (b := 123) rfl, membersText,
        expect_self (b := 125) rfl]
  | cons m ms =>
      have hmem := readMembers_membersText (m :: ms) (by simp) hok n r (by
        simp only [objectText, List.length_cons] at hn
        omega)
      have hopen : expect 125 (membersText (m :: ms) ++ r) = none := by
        obtain ⟨t, ht⟩ : ∃ t, membersText (m :: ms) ++ r = m.render ++ t := by
          cases ms <;> simp [membersText]
        rw [ht]
        exact expect_brace_render m t
      simp [readValue, skipWs_of_not_ws (b := 123) rfl, hopen, hmem]

/-! ## Reading a literal across a block of raw octets -/

/-- Behind an element stands the closing octet or a comma. -/
theorem closeOrComma_head
    {α : Type} {close : UInt8} {x : α}
    {more : Bytes → Option (List α × Bytes)} {s r : Bytes} {xs : List α}
    (h : closeOrComma close x more s = some (xs, r)) :
    (∃ xs', xs = x :: xs') ∧ (expect close s ≠ none ∨ expect 44 s ≠ none) := by
  unfold closeOrComma at h
  cases hclose : expect close s with
  | some r' =>
      rw [hclose] at h
      cases h
      exact ⟨⟨[], rfl⟩, Or.inl (by simp)⟩
  | none =>
      rw [hclose] at h
      cases hcomma : expect 44 s with
      | none =>
          rw [hcomma] at h
          cases h
      | some r' =>
          rw [hcomma] at h
          obtain ⟨p, _, hp⟩ := Option.map_eq_some_iff.mp h
          cases hp
          exact ⟨⟨p.1, rfl⟩, Or.inr (by simp)⟩

/-- A member that starts like a string is a string. -/
theorem readMembers_key_str
    {key : Bytes}
    (hkey : Plain key)
    {n : Nat} {t r : Bytes} {ms : List (Bytes × Json)}
    (h : readMembers n (34 :: key ++ 34 :: 58 :: 34 :: t) = some (ms, r)) :
    ∃ us r' ms', readString .text t = some (us, r') ∧
      ms = (key, .str (assemble us)) :: ms' ∧
      (expect 125 r' ≠ none ∨ expect 44 r' ≠ none) := by
  cases n with
  | zero =>
      cases h
  | succ n =>
      rw [readMembers_key hkey] at h
      cases n with
      | zero =>
          cases h
      | succ n =>
          obtain ⟨p, hval, hrest⟩ := Option.bind_eq_some_iff.mp h
          simp only [readValue, skipWs_of_not_ws (b := 34) rfl, if_true] at hval
          obtain ⟨q, hstr, hq⟩ := Option.map_eq_some_iff.mp hval
          cases hq
          obtain ⟨⟨ms', rfl⟩, hend⟩ := closeOrComma_head hrest
          exact ⟨q.1, q.2, ms', hstr, rfl, hend⟩

/-- Upper bound for the octets a unit can be encoded with. -/
def unitWeight : StrUnit → Nat
  | .byte _ => 1
  | .code _ => 4

/-- Upper bound for the octets a decoded literal can assemble to. -/
def unitsWeight (us : List StrUnit) : Nat :=
  (us.map unitWeight).sum

/-- Octets of the current escape that have been consumed already. -/
def pending : LexState → Nat
  | .text => 0
  | .escape => 1
  | .hex n _ => 6 - n

@[simp] theorem unitsWeight_cons
    (u : StrUnit) (us : List StrUnit) :
    unitsWeight (u :: us) = unitWeight u + unitsWeight us := by
  simp [unitsWeight]

@[simp] theorem unitsWeight_map_byte
    (s : Bytes) :
    unitsWeight (s.map .byte) = s.length := by
  induction s with
  | nil =>
      rfl
  | cons b s ih =>
      simp only [List.map_cons, unitsWeight_cons, unitWeight, ih,
        List.length_cons]
      omega

theorem utf8Encode_length_le
    (u : Nat) :
    (utf8Encode u).length ≤ 4 := by
  unfold utf8Encode
  rw [String.length_utf8EncodeChar]
  exact Char.utf8Size_le_four _

theorem assemble_length_le
    (us : List StrUnit) :
    (assemble us).length ≤ unitsWeight us := by
  induction us using assemble.induct with
  | case1 =>
      simp [assemble]
  | case2 b us ih =>
      simp only [assemble, unitsWeight_cons, unitWeight, List.length_cons]
      omega
  | case3 u v us hpair ih =>
      have henc := utf8Encode_length_le
        (0x10000 + (u - 0xD800) * 0x400 + (v - 0xDC00))
      simp only [assemble, if_pos hpair, unitsWeight_cons, unitWeight,
        List.length_append]
      omega
  | case4 u v us hpair ih =>
      have henc := utf8Encode_length_le (scalarOf u)
      simp only [unitsWeight_cons, unitWeight] at ih
      simp only [assemble, if_neg hpair, unitsWeight_cons, unitWeight,
        List.length_append]
      omega
  | case5 u us hnext ih =>
      have henc := utf8Encode_length_le (scalarOf u)
      rw [assemble.eq_4 u us hnext]
      simp only [unitsWeight_cons, unitWeight, List.length_append]
      omega

/-- How reading from state `st` can pass over the block `N` in front of `t`.

Either the literal is closed inside the block, or the reader stands behind the
block in some state.  If that state is the text state, the block was read as it
stands or has lost octets to escapes. -/
def PassesBlock (st : LexState) (N t : Bytes)
    (us : List StrUnit) (r : Bytes) : Prop :=
  (∃ r₀, r = r₀ ++ t ∧
    unitsWeight us + r₀.length < N.length + pending st) ∨
  (∃ us₁ us₂ st', us = us₁ ++ us₂ ∧
    readString st' t = some (us₂, r) ∧
    (st' = .text →
      (st = .text ∧ Plain N ∧ us₁ = N.map .byte) ∨
      unitsWeight us₁ < N.length + pending st))

/-- An octet that completes the unit `u` and returns to the text. -/
theorem passesBlock_emit
    {N t : Bytes} {us : List StrUnit} {r : Bytes}
    (h : PassesBlock .text N t us r)
    (st : LexState) (b : UInt8) (u : StrUnit)
    (hle : unitWeight u ≤ 1 + pending st)
    (heq : unitWeight u = 1 + pending st →
      st = .text ∧ plainByte b = true ∧ u = .byte b) :
    PassesBlock st (b :: N) t (u :: us) r := by
  rcases h with ⟨r₀, hr, hlt⟩ | ⟨us₁, us₂, st', hus, htail, hst⟩
  · left
    refine ⟨r₀, hr, ?_⟩
    simp only [pending] at hlt
    simp only [unitsWeight_cons, List.length_cons]
    omega
  · right
    refine ⟨u :: us₁, us₂, st', by simp [hus], htail, ?_⟩
    intro htext
    rcases hst htext with ⟨_, hplain, hmap⟩ | hlt
    · by_cases hfull : unitWeight u = 1 + pending st
      · obtain ⟨hst0, hb, rfl⟩ := heq hfull
        left
        refine ⟨hst0, ?_, by simp [hmap]⟩
        intro c hc
        rcases List.mem_cons.mp hc with rfl | hc
        · exact hb
        · exact hplain c hc
      · right
        simp only [unitsWeight_cons, hmap, unitsWeight_map_byte, List.length_cons]
        omega
    · right
      simp only [pending] at hlt
      simp only [unitsWeight_cons, List.length_cons]
      omega

/-- An octet that stays inside an escape. -/
theorem passesBlock_stay
    {N t : Bytes} {us : List StrUnit} {r : Bytes} {st₁ : LexState}
    (h : PassesBlock st₁ N t us r)
    (hne : st₁ ≠ .text)
    (st : LexState) (b : UInt8)
    (hle : pending st₁ ≤ 1 + pending st) :
    PassesBlock st (b :: N) t us r := by
  rcases h with ⟨r₀, hr, hlt⟩ | ⟨us₁, us₂, st', hus, htail, hst⟩
  · left
    refine ⟨r₀, hr, ?_⟩
    simp only [List.length_cons]
    omega
  · right
    refine ⟨us₁, us₂, st', hus, htail, ?_⟩
    intro htext
    rcases hst htext with ⟨h0, _⟩ | hlt
    · exact absurd h0 hne
    · right
      simp only [List.length_cons]
      omega

/-- Every successful reading of a literal passes over the block. -/
theorem readString_append_cases
    (N t : Bytes) :
    ∀ (st : LexState) (us : List StrUnit) (r : Bytes),
      readString st (N ++ t) = some (us, r) → PassesBlock st N t us r := by
  induction N with
  | nil =>
      intro st us r h
      right
      refine ⟨[], us, st, rfl, h, ?_⟩
      intro hst
      left
      exact ⟨hst, by simp [Plain], rfl⟩
  | cons b N ih =>
      have emit : ∀ (u : StrUnit) (us : List StrUnit) (r : Bytes),
          (readString .text (N ++ t)).map (fun p => (u :: p.1, p.2)) =
            some (us, r) →
          ∃ us', us = u :: us' ∧ PassesBlock .text N t us' r := by
        intro u us r h
        obtain ⟨⟨us', r'⟩, hread, hpair⟩ := Option.map_eq_some_iff.mp h
        obtain ⟨rfl, rfl⟩ := Prod.mk.inj hpair
        exact ⟨us', rfl, ih .text us' r' hread⟩
      intro st us r h
      rw [List.cons_append] at h
      cases st with
      | text =>
          simp only [readString] at h
          split_ifs at h with h34 h92 h32
          · obtain ⟨rfl, rfl⟩ := Prod.mk.inj (Option.some.inj h)
            left
            exact ⟨N, rfl, by simp [unitsWeight, pending]⟩
          · exact passesBlock_stay (ih _ us r h) (by simp) _ b (by simp [pending])
          · obtain ⟨us', rfl, hpass⟩ := emit _ us r h
            apply passesBlock_emit hpass _ b _ (by simp [unitWeight, pending])
            intro _
            exact ⟨rfl, by simp [plainByte, h34, h92, h32], rfl⟩
      | escape =>
          simp only [readString] at h
          split_ifs at h with hu
          · exact passesBlock_stay (ih _ us r h) (by simp) _ b (by simp [pending])
          · cases hc : simpleEscape b with
            | none =>
                rw [hc] at h
                cases h
            | some c =>
                rw [hc] at h
                obtain ⟨us', rfl, hpass⟩ := emit _ us r h
                exact passesBlock_emit hpass _ b _ (by simp [unitWeight, pending])
                  (by simp [unitWeight, pending])
      | hex n acc =>
          simp only [readString] at h
          cases hv : hexVal b with
          | none =>
              rw [hv] at h
              cases h
          | some v =>
              rw [hv] at h
              simp only at h
              split_ifs at h with hn
              · obtain ⟨us', rfl, hpass⟩ := emit _ us r h
                exact passesBlock_emit hpass _ b _
                  (by simp only [unitWeight, pending]; omega)
                  (by simp only [unitWeight, pending]; omega)
              · exact passesBlock_stay (ih _ us r h) (by simp) _ b
                  (by simp only [pending]; omega)

/-- A literal that decodes to at least as many octets as the block in front of
a quote has either read a plain block as it stands, or has run over that quote
because the block ends in a backslash. -/
theorem readString_block
    {N t : Bytes} {us : List StrUnit} {r : Bytes}
    (h : readString .text (N ++ 34 :: t) = some (us, r))
    (hlen : N.length ≤ (assemble us).length) :
    (r = t ∧ Plain N ∧ assemble us = N) ∨
      (∃ us₂, readString .escape (34 :: t) = some (us₂, r)) := by
  have hle := assemble_length_le us
  rcases readString_append_cases N (34 :: t) .text us r h with
    ⟨r₀, _, hlt⟩ | ⟨us₁, us₂, st', hus, htail, hst⟩
  · simp only [pending] at hlt
    omega
  · cases st' with
    | text =>
        simp only [readString, if_true] at htail
        obtain ⟨rfl, rfl⟩ := Prod.mk.inj (Option.some.inj htail)
        rw [List.append_nil] at hus
        subst hus
        rcases hst rfl with ⟨_, hplain, hmap⟩ | hlt
        · left
          exact ⟨rfl, hplain, by rw [hmap, assemble_map_byte]⟩
        · simp only [pending] at hlt
          omega
    | escape =>
        right
        exact ⟨us₂, htail⟩
    | hex n acc =>
        simp [readString, hexVal] at htail

end PsdkBridge
