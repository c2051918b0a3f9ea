import PsdkBridge.Lib.JsonLocal

/-!
# Every object has a closing brace

The readers return a rest of their input, and an object leaves at least one closing
brace behind it fewer.  A text with too few of them is no value: `no_object_cut` is the
case of an object that is cut short inside another one.
-/

namespace PsdkBridge

/-- The closing braces of a text. -/
def braces (s : Bytes) : Nat :=
  s.count 125

theorem braces_le_of_suffix
    {r s : Bytes}
    (h : r <:+ s) :
    braces r ≤ braces s :=
  h.sublist.count_le 125

section Rest

variable {s r : Bytes}

theorem expect_suffix
    {b : UInt8}
    (h : expect b s = some r) :
    b :: r <:+ s := by
  unfold expect at h
  have hws : skipWs s <:+ s := List.dropWhile_suffix _
  cases hs : skipWs s with
  | nil =>
      rw [hs] at h
      cases h
  | cons c t =>
      rw [hs] at h hws
      simp only at h
      split_ifs at h with hc
      cases h
      rwa [← hc]

/-- A closing brace that was passed. -/
theorem braces_lt_of_expect
    (h : expect 125 s = some r) :
    braces r < braces s := by
  have hle := braces_le_of_suffix (expect_suffix h)
  simp only [braces, List.count_cons_self] at hle ⊢
  omega

theorem suffix_of_expect
    {b : UInt8}
    (h : expect b s = some r) :
    r <:+ s :=
  (List.suffix_cons b r).trans (expect_suffix h)

theorem readString_suffix
    {st : LexState} {us : List StrUnit}
    (h : readString st s = some (us, r)) :
    r <:+ s := by
  induction s generalizing st us r with
  | nil =>
      cases st <;> simp [readString] at h
  | cons b s ih =>
      have hmap : ∀ (x : StrUnit) {us : List StrUnit} {r : Bytes},
          (readString .text s).map (fun p => (x :: p.1, p.2)) = some (us, r) →
          r <:+ b :: s := by
        intro x us r hx
        obtain ⟨⟨us', r'⟩, hread, hpair⟩ := Option.map_eq_some_iff.mp hx
        cases hpair
        exact (ih hread).trans (List.suffix_cons b s)
      have hstay : ∀ {st us r}, readString st s = some (us, r) → r <:+ b :: s :=
        fun h => (ih h).trans (List.suffix_cons b s)
      cases st with
      | text =>
          simp only [readString] at h
          split_ifs at h
          · cases h
            exact List.suffix_cons b _
          · exact hstay h
          · exact hmap _ h
      | escape =>
          simp only [readString] at h
          split_ifs at h
          · exact hstay h
          · cases hc : simpleEscape b with
            | none =>
                rw [hc] at h
                cases h
            | some c =>
                rw [hc] at h
                exact hmap _ h
      | hex n acc =>
          simp only [readString] at h
          cases hv : hexVal b with
          | none =>
              rw [hv] at h
              cases h
          | some v =>
              simp only [hv] at h
              split_ifs at h
              · exact hmap _ h
              · exact hstay h

theorem readName_suffix
    {name : Bytes} {v w : Json}
    (h : readName name v s = some (w, r)) :
    r <:+ s := by
  unfold readName at h
  split_ifs at h
  cases h
  exact List.drop_suffix _ _

theorem readFrac_suffix
    {frac : Option Bytes}
    (h : readFrac s = some (frac, r)) :
    r <:+ s := by
  cases s with
  | nil =>
      cases h
      exact List.suffix_refl _
  | cons b s =>
      simp only [readFrac] at h
      split_ifs at h
      · cases h
        exact (List.dropWhile_suffix _).trans (List.suffix_cons b s)
      · cases h
        exact List.suffix_refl _

theorem suffix_of_sign
    {c : Prop} [Decidable c] :
    (if c then s.tail else s) <:+ s := by
  split_ifs
  · exact List.tail_suffix s
  · exact List.suffix_refl s

theorem readExp_suffix
    {exp : Option Int}
    (h : readExp s = some (exp, r)) :
    r <:+ s := by
  cases s with
  | nil =>
      cases h
      exact List.suffix_refl _
  | cons b s =>
      simp only [readExp] at h
      by_cases hb : b = 101 ∨ b = 69
      · simp only [if_pos hb] at h
        have hsign : (if s.head? = some 43 ∨ s.head? = some 45 then s.tail else s) <:+ s :=
          suffix_of_sign
        generalize (if s.head? = some 43 ∨ s.head? = some 45 then s.tail else s) = t
          at h hsign
        by_cases hd : t.takeWhile isDigit = []
        · rw [if_pos hd] at h
          cases h
        · rw [if_neg hd] at h
          cases h
          exact (List.dropWhile_suffix _).trans (hsign.trans (List.suffix_cons b s))
      · rw [if_neg hb] at h
        cases h
        exact List.suffix_refl _

theorem readNumber_suffix
    {v : Json}
    (h : readNumber s = some (v, r)) :
    r <:+ s := by
  simp only [readNumber] at h
  have hsign : (if (s.head? == some 45) = true then s.tail else s) <:+ s := suffix_of_sign
  generalize (if (s.head? == some 45) = true then s.tail else s) = t at h hsign
  split_ifs at h
  cases hfrac : readFrac (t.dropWhile isDigit) with
  | none =>
      simp [hfrac] at h
  | some p =>
      cases hexp : readExp p.2 with
      | none =>
          simp [hfrac, hexp] at h
      | some q =>
          simp only [hfrac, hexp] at h
          cases h
          exact (readExp_suffix hexp).trans ((readFrac_suffix hfrac).trans
            ((List.dropWhile_suffix _).trans hsign))

end Rest

/-- The readers with fuel `n` return a rest, and an object takes a closing brace. -/
structure Closes (n : Nat) : Prop where
  value : ∀ {s v r}, readValue n s = some (v, r) → r <:+ s
  object : ∀ {s ms r}, readValue n s = some (.obj ms, r) → braces r < braces s
  elems : ∀ {s vs r}, readElems n s = some (vs, r) → r <:+ s
  members : ∀ {s ms r}, readMembers n s = some (ms, r) → r <:+ s ∧ braces r < braces s

section Steps

variable {n : Nat} {s r : Bytes}

/-- Behind an element, a rest is returned. -/
theorem closeOrComma_suffix
    {α : Type} {close : UInt8} {x : α} {xs : List α}
    {more : Bytes → Option (List α × Bytes)}
    (hmore : ∀ {s xs r}, more s = some (xs, r) → r <:+ s)
    (h : closeOrComma close x more s = some (xs, r)) :
    r <:+ s := by
  unfold closeOrComma at h
  cases hclose : expect close s with
  | some r' =>
      rw [hclose] at h
      cases h
      exact suffix_of_expect hclose
  | none =>
      rw [hclose] at h
      cases hcomma : expect 44 s with
      | none =>
          rw [hcomma] at h
          cases h
      | some r' =>
          rw [hcomma] at h
          obtain ⟨⟨ys, r''⟩, hrest, hpair⟩ := Option.map_eq_some_iff.mp h
          cases hpair
          exact (hmore hrest).trans (suffix_of_expect hcomma)

/-- Behind a member, a closing brace is passed. -/
theorem closeOrComma_braces
    {α : Type} {x : α} {xs : List α} {more : Bytes → Option (List α × Bytes)}
    (hmore : ∀ {s xs r}, more s = some (xs, r) → braces r < braces s)
    (h : closeOrComma 125 x more s = some (xs, r)) :
    braces r < braces s := by
  unfold closeOrComma at h
  cases hclose : expect 125 s with
  | some r' =>
      rw [hclose] at h
      cases h
      exact braces_lt_of_expect hclose
  | none =>
      rw [hclose] at h
      cases hcomma : expect 44 s with
      | none =>
          rw [hcomma] at h
          cases h
      | some r' =>
          rw [hcomma] at h
          obtain ⟨⟨ys, r''⟩, hrest, hpair⟩ := Option.map_eq_some_iff.mp h
          cases hpair
          exact (hmore hrest).trans_le (braces_le_of_suffix (suffix_of_expect hcomma))

/-- What a value starts with decides its kind. -/
theorem readValue_closes
    {v : Json}
    (ih : Closes n)
    (h : readValue (n + 1) s = some (v, r)) :
    r <:+ s ∧ ∀ ms, v = .obj ms → braces r < braces s := by
  have hws : skipWs s <:+ s := List.dropWhile_suffix _
  cases hs : skipWs s with
  | nil =>
      simp [readValue, hs] at h
  | cons b t =>
      rw [hs] at hws
      have ht : t <:+ s := (List.suffix_cons b t).trans hws
      have hname : ∀ {name : Bytes} {w : Json}, (∀ ms, w ≠ .obj ms) →
          readName name w (b :: t) = some (v, r) →
          r <:+ s ∧ ∀ ms, v = .obj ms → braces r < braces s := by
        intro name w hw hname
        refine ⟨(readName_suffix hname).trans hws, fun ms hv => ?_⟩
        unfold readName at hname
        split_ifs at hname
        cases hname
        exact absurd hv (hw ms)
      simp only [readValue, hs] at h
      split_ifs at h
      · obtain ⟨p, hstr, hp⟩ := Option.map_eq_some_iff.mp h
        cases hp
        exact ⟨(readString_suffix hstr).trans ht, fun _ hobj => Json.noConfusion hobj⟩
      · cases hopen : expect 125 t with
        | some t' =>
            rw [hopen] at h
            cases h
            refine ⟨(suffix_of_expect hopen).trans ht, fun _ _ => ?_⟩
            exact (braces_lt_of_expect hopen).trans_le (braces_le_of_suffix ht)
        | none =>
            simp only [hopen] at h
            obtain ⟨p, hmem, hp⟩ := Option.map_eq_some_iff.mp h
            cases hp
            obtain ⟨hsuffix, hlt⟩ := ih.members hmem
            exact ⟨hsuffix.trans ht, fun _ _ => hlt.trans_le (braces_le_of_suffix ht)⟩
      · cases hopen : expect 93 t with
        | some t' =>
            rw [hopen] at h
            cases h
            exact ⟨(suffix_of_expect hopen).trans ht, fun _ hobj => Json.noConfusion hobj⟩
        | none =>
            simp only [hopen] at h
            obtain ⟨p, hmem, hp⟩ := Option.map_eq_some_iff.mp h
            cases hp
            exact ⟨(ih.elems hmem).trans ht, fun _ hobj => Json.noConfusion hobj⟩
      · exact hname (fun _ => Json.noConfusion) h
      · exact hname (fun _ => Json.noConfusion) h
      · exact hname (fun _ => Json.noConfusion) h
      · refine ⟨(readNumber_suffix h).trans hws, fun ms hv => ?_⟩
        have hnumber := isNumber_of_readNumber h
        rw [hv] at hnumber
        cases hnumber

theorem readElems_closes
    {vs : List Json}
    (ih : Closes n)
    (h : readElems (n + 1) s = some (vs, r)) :
    r <:+ s := by
  simp only [readElems] at h
  cases hval : readValue n s with
  | none =>
      simp [hval] at h
  | some p =>
      simp only [hval] at h
      exact (closeOrComma_suffix ih.elems h).trans (ih.value hval)

theorem readMembers_closes
    {ms : List (Bytes × Json)}
    (ih : Closes n)
    (h : readMembers (n + 1) s = some (ms, r)) :
    r <:+ s ∧ braces r < braces s := by
  simp only [readMembers] at h
  cases hopen : expect 34 s with
  | none =>
      simp [hopen] at h
  | some s₁ =>
      simp only [hopen] at h
      cases hkey : readString .text s₁ with
      | none =>
          simp [hkey] at h
      | some p =>
          simp only [hkey] at h
          cases hcolon : expect 58 p.2 with
          | none =>
              simp [hcolon] at h
          | some s₂ =>
              simp only [hcolon] at h
              cases hval : readValue n s₂ with
              | none =>
                  simp [hval] at h
              | some q =>
                  simp only [hval] at h
                  have hrest : q.2 <:+ s := (ih.value hval).trans ((suffix_of_expect
                    hcolon).trans ((readString_suffix hkey).trans (suffix_of_expect hopen)))
                  have hclose := closeOrComma_braces (fun h => (ih.members h).2) h
                  exact ⟨(closeOrComma_suffix (fun h => (ih.members h).1) h).trans hrest,
                    hclose.trans_le (braces_le_of_suffix hrest)⟩

end Steps

theorem closes
    (n : Nat) :
    Closes n := by
  induction n with
  | zero =>
      exact ⟨nofun, nofun, nofun, nofun⟩
  | succ n ih =>
      exact ⟨fun h => (readValue_closes ih h).1, fun h => (readValue_closes ih h).2 _ rfl,
        readElems_closes ih, readMembers_closes ih⟩

/-- What starts with a brace is an object, if it is a value. -/
theorem isObject_of_brace
    {n : Nat} {s r : Bytes} {v : Json}
    (h : readValue n (123 :: s) = some (v, r)) :
    ∃ ms, v = .obj ms := by
  cases n with
  | zero =>
      cases h
  | succ n =>
      have hws : skipWs (123 :: s) = 123 :: s := rfl
      simp only [readValue, hws] at h
      rw [if_neg (by decide), if_pos trivial] at h
      cases hopen : expect 125 s with
      | some t =>
          rw [hopen] at h
          cases h
          exact ⟨[], rfl⟩
      | none =>
          simp only [hopen] at h
          obtain ⟨p, _, hp⟩ := Option.map_eq_some_iff.mp h
          cases hp
          exact ⟨p.1, rfl⟩

/-- An object without its closing brace is no value of a member: the brace that closes
the outer object would have to close it. -/
theorem no_object_cut
    {n : Nat} {s : Bytes} {key : Bytes}
    (hs : (125 : UInt8) ∉ s) :
    (readValue n (123 :: s ++ [125])).bind
      (fun p => closeOrComma 125 (key, p.1) (readMembers n) p.2) = none := by
  rw [Option.bind_eq_none_iff]
  rintro ⟨v, r⟩ hval
  have hone : braces (123 :: s ++ [125]) = 1 := by
    simp [braces, List.count_eq_zero_of_not_mem hs]
  obtain ⟨ms, rfl⟩ := isObject_of_brace hval
  have hlt := (closes n).object hval
  cases hclose : closeOrComma 125 (key, Json.obj ms) (readMembers n) r with
  | none =>
      rfl
  | some q =>
      have hlt' := closeOrComma_braces (fun h => ((closes n).members h).2) hclose
      omega

end PsdkBridge
