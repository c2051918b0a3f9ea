import Mathlib.Data.List.Induction

/-!
# Registers

A part of the state of a machine is a register if each input either writes a value to it
or leaves it alone.  Behind any run it holds the last value that was written.
-/

namespace PsdkBridge

variable {σ α β : Type}

/-- The last value that the inputs write, or the value at the start. -/
def lastWrite (writes : α → Option β) (start : β) (xs : List α) : β :=
  ((xs.filterMap writes).getLast?).getD start

theorem lastWrite_concat
    (writes : α → Option β) (start : β) (xs : List α) (x : α) :
    lastWrite writes start (xs ++ [x]) = (writes x).getD (lastWrite writes start xs) := by
  cases h : writes x <;> simp [lastWrite, h]

/-- The part `get` of the state is a register. -/
def IsRegister (step : σ → α → σ) (get : σ → β) (writes : α → Option β) : Prop :=
  ∀ s x, get (step s x) = (writes x).getD (get s)

/-- A register holds the last value that was written. -/
theorem IsRegister.foldl
    {step : σ → α → σ} {get : σ → β} {writes : α → Option β}
    (h : IsRegister step get writes)
    (s : σ) (xs : List α) :
    get (xs.foldl step s) = lastWrite writes (get s) xs := by
  induction xs using List.reverseRecOn with
  | nil =>
      rfl
  | append_singleton xs x ih =>
      rw [List.foldl_append, List.foldl_cons, List.foldl_nil, h, ih, lastWrite_concat]

/-- Writing through a translation of the inputs. -/
theorem lastWrite_filterMap
    {γ : Type} (writes : α → Option β) (start : β) (f : γ → Option α) (xs : List γ) :
    lastWrite writes start (xs.filterMap f) =
      lastWrite (fun x => (f x).bind writes) start xs := by
  rw [lastWrite, List.filterMap_filterMap]
  rfl

end PsdkBridge
