import PsdkBridge.Lib.JsonText

/-!
# The reader looks no further than the value

A JSON value that is not a number ends with an octet of its own, so the reader
decides it without looking at what follows.  `readValue_append` says this for
whole values: text appended behind the input is left over untouched, and more
fuel changes nothing.
-/

namespace PsdkBridge

section Local

variable {s r u : Bytes}

theorem dropWhile_append_of_ne_nil
    {p : UInt8 → Bool}
    (h : s.dropWhile p ≠ []) :
    (s ++ u).dropWhile p = s.dropWhile p ++ u := by
  rw [List.dropWhile_append, if_neg (by simpa using h)]

theorem takeWhile_append_of_dropWhile_ne_nil
    {p : UInt8 → Bool}
    (h : s.dropWhile p ≠ []) :
    (s ++ u).takeWhile p = s.takeWhile p := by
  have hlen : (s.takeWhile p).length ≠ s.length := by
    intro hlen
    have hsum := congrArg List.length (List.takeWhile_append_dropWhile (p := p) (l := s))
    rw [List.length_append] at hsum
    exact h (List.length_eq_zero_iff.mp (by omega))
  rw [List.takeWhile_append, if_neg hlen]

theorem skipWs_append
    (h : skipWs s ≠ []) :
    skipWs (s ++ u) = skipWs s ++ u :=
  dropWhile_append_of_ne_nil h

theorem expect_append
    {b : UInt8}
    (h : skipWs s ≠ []) :
    expect b (s ++ u) = (expect b s).map (fun r => r ++ u) := by
  unfold expect
  rw [skipWs_append h]
  cases hs : skipWs s with
  | nil =>
      exact absurd hs h
  | cons c r =>
      by_cases hc : c = b <;> simp [hc]

theorem skipWs_ne_nil_of_expect
    {b : UInt8}
    (h : expect b s = some r) :
    skipWs s ≠ [] := by
  intro hs
  simp [expect, hs] at h

theorem expect_append_some
    {b : UInt8}
    (h : expect b s = some r) :
    expect b (s ++ u) = some (r ++ u) := by
  rw [expect_append (skipWs_ne_nil_of_expect h), h]
  rfl

theorem readString_append
    {st : LexState} {us : List StrUnit}
    (h : readString st s = some (us, r)) :
    readString st (s ++ u) = some (us, r ++ u) := by
  induction s generalizing st us r with
  | nil =>
      cases st <;> simp [readString] at h
  | cons b s ih =>
      have hmap : ∀ (x : StrUnit) {us : List StrUnit} {r : Bytes},
          (readString .text s).map (fun p => (x :: p.1, p.2)) = some (us, r) →
          (readString .text (s ++ u)).map (fun p => (x :: p.1, p.2)) =
            some (us, r ++ u) := by
        intro x us r hx
        obtain ⟨⟨us', r'⟩, hread, hpair⟩ := Option.map_eq_some_iff.mp hx
        cases hpair
        rw [ih hread]
        rfl
      rw [List.cons_append]
      cases st with
      | text =>
          simp only [readString] at h ⊢
          split_ifs at h ⊢
          · cases h
            rfl
          · exact ih h
          · exact hmap _ h
      | escape =>
          simp only [readString] at h ⊢
          split_ifs at h ⊢
          · exact ih h
          · cases hc : simpleEscape b with
            | none =>
                rw [hc] at h
                cases h
            | some c =>
                rw [hc] at h
                exact hmap _ h
      | hex n acc =>
          simp only [readString] at h ⊢
          cases hv : hexVal b with
          | none =>
              rw [hv] at h
              cases h
          | some v =>
              simp only [hv] at h ⊢
              split_ifs at h ⊢
              · exact hmap _ h
              · exact ih h

theorem readName_append
    {name : Bytes} {v w : Json}
    (h : readName name v s = some (w, r)) :
    readName name v (s ++ u) = some (w, r ++ u) := by
  unfold readName at h ⊢
  split_ifs at h with hs
  cases h
  rw [if_pos (hs.trans (List.prefix_append s u)), List.drop_append_of_le_length hs.length_le]

/-- The digits in front of a remaining text. -/
theorem digits_append
    (h : s.dropWhile isDigit ≠ []) :
    (s ++ u).takeWhile isDigit = s.takeWhile isDigit ∧
      (s ++ u).dropWhile isDigit = s.dropWhile isDigit ++ u :=
  ⟨takeWhile_append_of_dropWhile_ne_nil h, dropWhile_append_of_ne_nil h⟩

theorem readFrac_append
    {frac : Option Bytes}
    (h : readFrac s = some (frac, r))
    (hr : r ≠ []) :
    readFrac (s ++ u) = some (frac, r ++ u) := by
  cases s with
  | nil =>
      cases h
      exact absurd rfl hr
  | cons b s =>
      simp only [readFrac, List.cons_append] at h ⊢
      split_ifs at h with hb hd
      · cases h
        obtain ⟨htake, hdrop⟩ := digits_append (u := u) hr
        rw [if_pos hb, htake, hdrop, if_neg hd]
      · cases h
        rw [if_neg hb]
        rfl

theorem head?_append_of_ne_nil
    (h : s ≠ []) :
    (s ++ u).head? = s.head? := by
  cases s with
  | nil =>
      exact absurd rfl h
  | cons b s =>
      rfl

theorem ne_nil_of_dropWhile_ne_nil
    {p : UInt8 → Bool}
    (h : s.dropWhile p ≠ []) :
    s ≠ [] := by
  rintro rfl
  exact h rfl

/-- Skipping a sign. -/
theorem signed_append
    {c : Prop} [Decidable c]
    (h : (if c then s.tail else s) ≠ []) :
    s ≠ [] ∧
      (if c then (s ++ u).tail else s ++ u) = (if c then s.tail else s) ++ u := by
  cases s with
  | nil =>
      split_ifs at h <;> exact absurd rfl h
  | cons b s =>
      refine ⟨by simp, ?_⟩
      split_ifs <;> rfl

theorem readExp_append
    {exp : Option Int}
    (h : readExp s = some (exp, r))
    (hr : r ≠ []) :
    readExp (s ++ u) = some (exp, r ++ u) := by
  cases s with
  | nil =>
      cases h
      exact absurd rfl hr
  | cons b s =>
      simp only [readExp, List.cons_append] at h ⊢
      by_cases hb : b = 101 ∨ b = 69
      · simp only [if_pos hb] at h ⊢
        generalize ht : (if s.head? = some 43 ∨ s.head? = some 45 then s.tail else s) = t
          at h
        by_cases hd : t.takeWhile isDigit = []
        · rw [if_pos hd] at h
          cases h
        · rw [if_neg hd] at h
          cases h
          obtain ⟨hne, hsign⟩ := signed_append (u := u)
            (by rw [ht]; exact ne_nil_of_dropWhile_ne_nil hr)
          obtain ⟨htake, hdrop⟩ := digits_append (u := u) hr
          rw [head?_append_of_ne_nil hne, hsign, ht, htake, hdrop, if_neg hd]
      · simp only [if_neg hb] at h ⊢
        cases h
        rfl

theorem readNumber_append
    {v : Json}
    (h : readNumber s = some (v, r))
    (hr : r ≠ []) :
    readNumber (s ++ u) = some (v, r ++ u) := by
  simp only [readNumber] at h ⊢
  generalize ht : (if (s.head? == some 45) = true then s.tail else s) = t at h
  by_cases hd : t.takeWhile isDigit = [] ∨
      ((t.takeWhile isDigit).head? = some 48 ∧ 1 < (t.takeWhile isDigit).length)
  · rw [if_pos hd] at h
    cases h
  · rw [if_neg hd] at h
    cases hfrac : readFrac (t.dropWhile isDigit) with
    | none =>
        rw [hfrac] at h
        cases h
    | some p =>
        obtain ⟨frac, r₁⟩ := p
        simp only [hfrac] at h
        cases hexp : readExp r₁ with
        | none =>
            rw [hexp] at h
            cases h
        | some q =>
            obtain ⟨exp, r₂⟩ := q
            rw [hexp] at h
            cases h
            have hr₁ : r₁ ≠ [] := by
              rintro rfl
              cases hexp
              exact hr rfl
            have hrest : t.dropWhile isDigit ≠ [] := by
              intro hnil
              rw [hnil] at hfrac
              cases hfrac
              exact hr₁ rfl
            obtain ⟨hne, hsign⟩ := signed_append (u := u)
              (by rw [ht]; exact ne_nil_of_dropWhile_ne_nil hrest)
            obtain ⟨htake, hdrop⟩ := digits_append (u := u) hrest
            rw [head?_append_of_ne_nil hne, hsign, ht, htake, hdrop, if_neg hd,
              readFrac_append hfrac hr₁]
            simp only [readExp_append hexp hr]

theorem closeOrComma_append
    {α : Type} {close : UInt8} {x : α} {xs : List α}
    {more more' : Bytes → Option (List α × Bytes)}
    (hmore : ∀ {s xs r}, more s = some (xs, r) → more' (s ++ u) = some (xs, r ++ u))
    (h : closeOrComma close x more s = some (xs, r)) :
    closeOrComma close x more' (s ++ u) = some (xs, r ++ u) := by
  unfold closeOrComma at h ⊢
  cases hclose : expect close s with
  | some r' =>
      rw [hclose] at h
      cases h
      rw [expect_append_some hclose]
  | none =>
      rw [hclose] at h
      cases hcomma : expect 44 s with
      | none =>
          rw [hcomma] at h
          cases h
      | some r' =>
          rw [hcomma] at h
          obtain ⟨⟨ys, r''⟩, hrest, hpair⟩ := Option.map_eq_some_iff.mp h
          cases hpair
          have hne := skipWs_ne_nil_of_expect hcomma
          rw [expect_append hne, hclose, expect_append_some hcomma]
          simp only [Option.map_none, hmore hrest]
          rfl

theorem isNumber_of_readNumber
    {v : Json}
    (h : readNumber s = some (v, r)) :
    v.isNumber = true := by
  have hvalue : ∀ neg ds frac exp, (numberValue neg ds frac exp).isNumber = true := by
    intro neg ds frac exp
    unfold numberValue
    split <;> rfl
  simp only [readNumber] at h
  generalize (if (s.head? == some 45) = true then s.tail else s) = t at h
  split_ifs at h
  cases hfrac : readFrac (t.dropWhile isDigit) with
  | none =>
      simp [hfrac] at h
  | some p =>
      cases hexp : readExp p.2 with
      | none =>
          simp [hfrac, hexp] at h
      | some q =>
          simp only [hfrac, hexp] at h
          cases h
          exact hvalue _ _ _ _

/-- What the readers with fuel `n` accept, the readers with more fuel accept
in front of the appended text `u`. -/
structure Appends (u : Bytes) (n m : Nat) : Prop where
  value : ∀ {s v r}, readValue n s = some (v, r) → (v.isNumber = true → r ≠ []) →
    readValue m (s ++ u) = some (v, r ++ u)
  elems : ∀ {s vs r}, readElems n s = some (vs, r) →
    readElems m (s ++ u) = some (vs, r ++ u)
  members : ∀ {s ms r}, readMembers n s = some (ms, r) →
    readMembers m (s ++ u) = some (ms, r ++ u)

theorem closeOrComma_nil
    {α : Type} {close : UInt8} {x : α} {more : Bytes → Option (List α × Bytes)} :
    closeOrComma close x more [] = none := by
  rfl

theorem readValue_append_step
    {n m : Nat} {v : Json}
    (ih : Appends u n m)
    (h : readValue (n + 1) s = some (v, r))
    (hend : v.isNumber = true → r ≠ []) :
    readValue (m + 1) (s ++ u) = some (v, r ++ u) := by
  cases hs : skipWs s with
  | nil =>
      simp [readValue, hs] at h
  | cons b t =>
      have hs' : skipWs (s ++ u) = b :: (t ++ u) := by
        rw [skipWs_append (by simp [hs]), hs]
        rfl
      simp only [readValue, hs] at h
      simp only [readValue, hs']
      split_ifs at h ⊢ with h34 h123 h91 h116 h102 h110
      · obtain ⟨p, hstr, hp⟩ := Option.map_eq_some_iff.mp h
        cases hp
        rw [readString_append hstr]
        rfl
      · cases hopen : expect 125 t with
        | some t' =>
            rw [hopen] at h
            cases h
            rw [expect_append_some hopen]
        | none =>
            simp only [hopen] at h
            obtain ⟨p, hmem, hp⟩ := Option.map_eq_some_iff.mp h
            cases hp
            have hne : skipWs t ≠ [] := by
              cases n with
              | zero =>
                  cases hmem
              | succ n =>
                  intro hnil
                  simp [readMembers, expect, hnil] at hmem
            rw [expect_append hne, hopen, Option.map_none]
            simp only [ih.members hmem]
            rfl
      · cases hopen : expect 93 t with
        | some t' =>
            rw [hopen] at h
            cases h
            rw [expect_append_some hopen]
        | none =>
            simp only [hopen] at h
            obtain ⟨p, hmem, hp⟩ := Option.map_eq_some_iff.mp h
            cases hp
            have hne : skipWs t ≠ [] := by
              rcases n with _ | _ | n
              · cases hmem
              · cases hmem
              · intro hnil
                simp [readElems, readValue, hnil] at hmem
            rw [expect_append hne, hopen, Option.map_none]
            simp only [ih.elems hmem]
            rfl
      · exact readName_append h
      · exact readName_append h
      · exact readName_append h
      · exact readNumber_append h (hend (isNumber_of_readNumber h))

theorem readElems_append_step
    {n m : Nat} {vs : List Json}
    (ih : Appends u n m)
    (h : readElems (n + 1) s = some (vs, r)) :
    readElems (m + 1) (s ++ u) = some (vs, r ++ u) := by
  simp only [readElems] at h ⊢
  cases hval : readValue n s with
  | none =>
      simp [hval] at h
  | some p =>
      simp only [hval] at h
      have hne : p.2 ≠ [] := by
        intro hnil
        rw [hnil, closeOrComma_nil] at h
        cases h
      rw [ih.value hval (fun _ => hne)]
      exact closeOrComma_append ih.elems h

theorem readMembers_append_step
    {n m : Nat} {ms : List (Bytes × Json)}
    (ih : Appends u n m)
    (h : readMembers (n + 1) s = some (ms, r)) :
    readMembers (m + 1) (s ++ u) = some (ms, r ++ u) := by
  simp only [readMembers] at h ⊢
  cases hopen : expect 34 s with
  | none =>
      simp [hopen] at h
  | some s₁ =>
      simp only [hopen] at h
      cases hkey : readString .text s₁ with
      | none =>
          simp [hkey] at h
      | some p =>
          simp only [hkey] at h
          cases hcolon : expect 58 p.2 with
          | none =>
              simp [hcolon] at h
          | some s₂ =>
              simp only [hcolon] at h
              cases hval : readValue n s₂ with
              | none =>
                  simp [hval] at h
              | some q =>
                  simp only [hval] at h
                  have hne : q.2 ≠ [] := by
                    intro hnil
                    rw [hnil, closeOrComma_nil] at h
                    cases h
                  simp only [expect_append_some hopen, readString_append hkey,
                    expect_append_some hcolon, ih.value hval (fun _ => hne)]
                  exact closeOrComma_append ih.members h

theorem appends
    (u : Bytes) (n : Nat) :
    ∀ {m : Nat}, n ≤ m → Appends u n m := by
  induction n with
  | zero =>
      intro m _
      constructor
      · intro s v r h
        cases h
      · intro s vs r h
        cases h
      · intro s ms r h
        cases h
  | succ n ih =>
      intro m hm
      obtain ⟨m, rfl⟩ : ∃ k, m = k + 1 := ⟨m - 1, by omega⟩
      have hstep := ih (m := m) (by omega)
      exact ⟨readValue_append_step hstep, readElems_append_step hstep,
        readMembers_append_step hstep⟩

/-- A value that is no number is read the same in front of any text. -/
theorem readValue_append
    {n m : Nat} {v : Json}
    (hm : n ≤ m)
    (hv : v.isNumber = false)
    (h : readValue n s = some (v, r))
    (u : Bytes) :
    readValue m (s ++ u) = some (v, r ++ u) := by
  refine (appends u n hm).value h ?_
  intro hnum
  rw [hv] at hnum
  cases hnum

end Local

end PsdkBridge
