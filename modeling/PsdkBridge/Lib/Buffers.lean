import PsdkBridge.Lib.Calls
import PsdkBridge.Lib.CText

/-!
# Buffers with checked accesses

A buffer of `n` bytes, as C declares it.  An access by an index that is not below `n`
has no result, and neither has a subtraction of sizes that is negative; accesses to
several bytes are accesses to one after the other.

* The rules for reading and writing compare the bytes with those of a list: an access
  that stays inside gives what the corresponding operation on lists gives.
* A program that may fail runs on the machine of `Lib.Calls`.  `Tracks` says that it
  does what a plain program does, with the states related by a function; its rules
  follow the shape of the programs.
-/

namespace PsdkBridge

/-- A buffer of `n` bytes. -/
abbrev Buffer (n : Nat) :=
  Vector UInt8 n

/-- The difference of two sizes, if it is not negative. -/
def sizeSub (a b : Nat) : Option Nat :=
  if b ≤ a then some (a - b) else none

theorem sizeSub_of_le
    {a b : Nat}
    (h : b ≤ a) :
    sizeSub a b = some (a - b) :=
  if_pos h

namespace Buffer

variable {n : Nat}

/-- A list with as many bytes as the buffer. -/
def ofList (l : Bytes) (h : l.length = n) : Buffer n :=
  ⟨l.toArray, by simpa using h⟩

@[simp] theorem toList_ofList
    (l : Bytes) (h : l.length = n) :
    (ofList l h).toList = l := by
  rfl

/-- Read a byte. -/
def load (buf : Buffer n) (i : Nat) : Option UInt8 :=
  buf[i]?

/-- Write a byte. -/
def store (buf : Buffer n) (i : Nat) (b : UInt8) : Option (Buffer n) :=
  if h : i < n then some (buf.set i b h) else none

/-- Read the bytes from an offset on. -/
def loads (buf : Buffer n) : Nat → Nat → Option Bytes
  | _, 0 => some []
  | off, len + 1 => do
      let b ← buf.load off
      let bs ← loads buf (off + 1) len
      return b :: bs

/-- Write bytes from an offset on. -/
def stores : Buffer n → Nat → Bytes → Option (Buffer n)
  | buf, _, [] => some buf
  | buf, off, b :: bs => do
      let buf ← buf.store off b
      stores buf (off + 1) bs

/-- Look for a byte from an offset on: how far it is. -/
def find (buf : Buffer n) (c : UInt8) : Nat → Nat → Option (Option Nat)
  | _, 0 => some none
  | off, len + 1 => do
      let b ← buf.load off
      if b = c then
        return some 0
      else
        let k ← find buf c (off + 1) len
        return k.map (· + 1)

section Rules

variable {l : Bytes} (hl : l.length = n) {i off len : Nat}

theorem load_ofList
    (h : i < n) :
    (ofList l hl).load i = some (l.getD i 0) := by
  have hi : i < l.length := hl ▸ h
  rw [load, ← Vector.getElem?_toList, toList_ofList, List.getD_eq_getElem?_getD,
    List.getElem?_eq_getElem hi, Option.getD_some]

theorem store_ofList
    (h : i < n)
    (b : UInt8)
    (hl' : (l.set i b).length = n) :
    (ofList l hl).store i b = some (ofList (l.set i b) hl') := by
  rw [store, dif_pos h, Option.some.injEq, ← Vector.toList_inj, Vector.toList_set h]
  rfl

theorem loads_ofList
    (h : off + len ≤ n) :
    (ofList l hl).loads off len = some ((l.drop off).take len) := by
  induction len generalizing off with
  | zero =>
      simp [loads]
  | succ len ih =>
      have hoff : off < l.length := by omega
      rw [loads, load_ofList hl (by omega), ih (by omega), List.drop_eq_getElem_cons hoff,
        List.take_succ_cons, List.getD_eq_getElem?_getD, List.getElem?_eq_getElem hoff]
      rfl

/-- Bytes that are written over as many others. -/
theorem stores_over
    {pre old bs post : Bytes}
    (hlen : bs.length = old.length)
    (hl : (pre ++ old ++ post).length = n)
    (hl' : (pre ++ bs ++ post).length = n) :
    (ofList (pre ++ old ++ post) hl).stores pre.length bs =
      some (ofList (pre ++ bs ++ post) hl') := by
  induction bs generalizing pre old with
  | nil =>
      obtain rfl := List.length_eq_zero_iff.mp hlen.symm
      rfl
  | cons b bs ih =>
      cases old with
      | nil =>
          cases hlen
      | cons o old =>
          have hset : (pre ++ o :: old ++ post).set pre.length b =
              (pre ++ [b]) ++ old ++ post := by
            simp
          have hpre : pre.length < n := by
            rw [← hl]
            simp
          have hstep : ((pre ++ [b]) ++ old ++ post).length = n := by
            simpa using hl
          have hstep' : ((pre ++ [b]) ++ bs ++ post).length = n := by
            simpa using hl'
          have hrest := ih (Nat.succ.inj hlen) hstep hstep'
          rw [List.length_append, List.length_singleton] at hrest
          rw [stores, store_ofList hl hpre b (by rw [hset]; exact hstep)]
          simp only [hset, Option.bind_eq_bind, Option.bind_some, hrest]
          simp

theorem stores_ofList
    {bs : Bytes}
    (h : off + bs.length ≤ n)
    (hl' : (l.take off ++ bs ++ l.drop (off + bs.length)).length = n) :
    (ofList l hl).stores off bs =
      some (ofList (l.take off ++ bs ++ l.drop (off + bs.length)) hl') := by
  have hsplit : l.take off ++ (l.drop off).take bs.length ++ l.drop (off + bs.length) = l := by
    rw [← List.drop_drop, List.append_assoc, List.take_append_drop, List.take_append_drop]
  have hpre : (l.take off).length = off := by
    rw [List.length_take]
    omega
  have hold : bs.length = ((l.drop off).take bs.length).length := by
    rw [List.length_take, List.length_drop]
    omega
  have hover := stores_over (n := n) hold (by rw [hsplit]; exact hl) hl'
  rw [hpre] at hover
  simpa only [hsplit] using hover

theorem find_ofList
    (c : UInt8)
    (h : off + len ≤ n) :
    (ofList l hl).find c off len = some (memchr ((l.drop off).take len) c) := by
  induction len generalizing off with
  | zero =>
      rfl
  | succ len ih =>
      have hoff : off < l.length := by omega
      rw [find, load_ofList hl (by omega), ih (by omega), List.drop_eq_getElem_cons hoff,
        List.take_succ_cons, List.getD_eq_getElem?_getD, List.getElem?_eq_getElem hoff]
      simp only [Option.getD_some, Option.bind_eq_bind, Option.bind_some, memchr,
        List.findIdx?_cons, decide_eq_true_eq]
      split_ifs <;> rfl

end Rules

end Buffer

/-! ## Programs that may fail -/

section Checked

variable {C : Type} {Out : C → Type} {τ ρ ρ' α β : Type}

/-- A program that may fail. -/
abbrev CheckedProgram (Out : C → Type) (τ ρ α : Type) :=
  StateT (Machine Out τ ρ) Option α

/-- A program that does not fail. -/
def lift (x : Program Out τ ρ α) : CheckedProgram Out τ ρ α :=
  fun m => some (x m)

/-- A result that may be missing. -/
def check (o : Option α) : CheckedProgram Out τ ρ α :=
  fun m => o.map (fun a => (a, m))

/-- The state of a program as that of another one, which sees its variables through
`φ`. -/
def Machine.through (φ : ρ → ρ') (m : Machine Out τ ρ) : Machine Out τ ρ' where
  outside := m.outside
  vars := φ m.vars
  trace := m.trace

/-- From the state `m`, the checked program does not fail and does what the plain
program does. -/
def Tracks (φ : ρ → ρ') (x : CheckedProgram Out τ ρ' α) (y : Program Out τ ρ α)
    (m : Machine Out τ ρ) : Prop :=
  x (m.through φ) = some ((y m).1, (y m).2.through φ)

variable {φ : ρ → ρ'} {m : Machine Out τ ρ}

theorem tracks_pure
    (a : α) :
    Tracks φ (pure a) (pure a) m :=
  rfl

theorem tracks_callOut
    (S : Outside Out τ) (c : C) :
    Tracks φ (lift (callOut S c)) (callOut S c) m :=
  rfl

theorem tracks_modifyVars
    {f : ρ' → ρ'} {g : ρ → ρ}
    (h : f (φ m.vars) = φ (g m.vars)) :
    Tracks φ (lift (modifyVars f)) (modifyVars g) m := by
  show some ((), _) = some ((), _)
  rw [Machine.through, h]
  rfl

theorem tracks_bind
    {x : CheckedProgram Out τ ρ' α} {y : Program Out τ ρ α}
    {f : α → CheckedProgram Out τ ρ' β} {g : α → Program Out τ ρ β}
    (hx : Tracks φ x y m)
    (hf : Tracks φ (f (y m).1) (g (y m).1) (y m).2) :
    Tracks φ (x >>= f) (y >>= g) m := by
  show (x (m.through φ)).bind _ = _
  rw [hx]
  exact hf

/-- The variables are read on both sides. -/
theorem tracks_readVars_bind
    {f : ρ' → CheckedProgram Out τ ρ' β} {g : ρ → Program Out τ ρ β}
    (h : Tracks φ (f (φ m.vars)) (g m.vars) m) :
    Tracks φ (lift readVars >>= f) (readVars >>= g) m :=
  h

/-- The variables are read by the checked program only. -/
theorem tracks_readVars_left
    {f : ρ' → CheckedProgram Out τ ρ' β} {y : Program Out τ ρ β}
    (h : Tracks φ (f (φ m.vars)) y m) :
    Tracks φ (lift readVars >>= f) y m :=
  h

/-- The variables are read by the plain program only. -/
theorem tracks_readVars_right
    {x : CheckedProgram Out τ ρ' β} {g : ρ → Program Out τ ρ β}
    (h : Tracks φ x (g m.vars) m) :
    Tracks φ x (readVars >>= g) m :=
  h

/-- A check that succeeds. -/
theorem tracks_check
    {o : Option α} {a : α} {f : α → CheckedProgram Out τ ρ' β} {y : Program Out τ ρ β}
    (ho : o = some a)
    (h : Tracks φ (f a) y m) :
    Tracks φ (check o >>= f) y m := by
  subst ho
  exact h

theorem tracks_ite
    {c : Prop} [Decidable c] {x x' : CheckedProgram Out τ ρ' α} {y y' : Program Out τ ρ α}
    (hthen : c → Tracks φ x y m)
    (helse : ¬ c → Tracks φ x' y' m) :
    Tracks φ (if c then x else x') (if c then y else y') m := by
  split_ifs with h
  · exact hthen h
  · exact helse h

end Checked

end PsdkBridge
