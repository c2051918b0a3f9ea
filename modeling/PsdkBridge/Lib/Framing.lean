import Mathlib.Tactic

/-!
# Lines in a stream

A stream is cut into lines at a separator.  `frames` is the reference: split at
every separator, leave out the last piece, remove one trailing mark from each
piece, and drop the pieces that are empty then.  `unfinished` is the piece that
is left out.

`frames_append` and `unfinished_append` say that it does not matter where a
stream is cut into chunks.  `Receiver` reads a stream chunk by chunk and stops at
a line if it is told to.
-/

namespace PsdkBridge

section Frames

variable {α : Type} [DecidableEq α] (sep mark : α)

/-- A piece without its last element, if this is the mark. -/
def stripMark (piece : List α) : List α :=
  if piece.getLast? = some mark then piece.dropLast else piece

/-- What a terminated piece contributes. -/
def frameOf (piece : List α) : List (List α) :=
  if stripMark mark piece = [] then [] else [stripMark mark piece]

/-- The lines of a stream. -/
def frames (s : List α) : List (List α) :=
  ((s.splitOn sep).dropLast.map (stripMark mark)).filter (fun l => l ≠ [])

/-- The piece behind the last separator. -/
def unfinished (s : List α) : List α :=
  (s.splitOn sep).getLastD []

variable {sep}

theorem frames_of_notMem
    {s : List α}
    (h : sep ∉ s) :
    frames sep mark s = [] := by
  simp [frames, List.splitOn_eq_singleton h]

theorem unfinished_of_notMem
    {s : List α}
    (h : sep ∉ s) :
    unfinished sep s = s := by
  simp [unfinished, List.splitOn_eq_singleton h]

/-- The first line of a stream. -/
theorem frames_line
    {l : List α}
    (h : sep ∉ l)
    (t : List α) :
    frames sep mark (l ++ sep :: t) = frameOf mark l ++ frames sep mark t := by
  unfold frames frameOf
  rw [List.splitOn_append_cons_self_of_not_mem h,
    List.dropLast_cons_of_ne_nil (List.splitOn_ne_nil sep t), List.map_cons,
    List.filter_cons]
  by_cases hl : stripMark mark l = [] <;> simp [hl]

theorem unfinished_line
    {l : List α}
    (h : sep ∉ l)
    (t : List α) :
    unfinished sep (l ++ sep :: t) = unfinished sep t := by
  obtain ⟨p, ps, hps⟩ := List.exists_cons_of_ne_nil (List.splitOn_ne_nil sep t)
  unfold unfinished
  rw [List.splitOn_append_cons_self_of_not_mem h, hps]
  rfl

variable (sep) in
/-- Induction over the lines of a stream. -/
theorem stream_induction
    {motive : List α → Prop}
    (last : ∀ s, sep ∉ s → motive s)
    (line : ∀ l t, sep ∉ l → motive t → motive (l ++ sep :: t))
    (s : List α) :
    motive s := by
  induction hn : s.length using Nat.strong_induction_on generalizing s with
  | _ n ih =>
      by_cases hs : sep ∈ s
      · obtain ⟨l, t, rfl, hl⟩ := List.eq_append_cons_of_mem hs
        refine line l t hl (ih t.length ?_ t rfl)
        rw [← hn, List.length_append, List.length_cons]
        omega
      · exact last s hs

theorem notMem_unfinished
    (s : List α) :
    sep ∉ unfinished sep s := by
  induction s using stream_induction sep with
  | last s h =>
      rwa [unfinished_of_notMem h]
  | line l s h ih =>
      rwa [unfinished_line h]

theorem length_unfinished_le
    (s : List α) :
    (unfinished sep s).length ≤ s.length := by
  induction s using stream_induction sep with
  | last s h =>
      rw [unfinished_of_notMem h]
  | line l s h ih =>
      rw [unfinished_line h, List.length_append, List.length_cons]
      omega

variable (sep) in
theorem unfinished_mem_splitOn
    (s : List α) :
    unfinished sep s ∈ s.splitOn sep := by
  have hne := List.splitOn_ne_nil sep s
  rw [unfinished, List.getLastD_eq_getLast?, List.getLast?_eq_some_getLast hne]
  exact List.getLast_mem hne

/-- The lines of a stream do not depend on where it is cut. -/
theorem frames_append
    (s t : List α) :
    frames sep mark (s ++ t) =
      frames sep mark s ++ frames sep mark (unfinished sep s ++ t) := by
  induction s using stream_induction sep with
  | last s h =>
      rw [frames_of_notMem mark h, unfinished_of_notMem h, List.nil_append]
  | line l s h ih =>
      rw [List.append_assoc, List.cons_append, frames_line mark h, frames_line mark h,
        unfinished_line h, ih, List.append_assoc]

theorem unfinished_append
    (s t : List α) :
    unfinished sep (s ++ t) = unfinished sep (unfinished sep s ++ t) := by
  induction s using stream_induction sep with
  | last s h =>
      rw [unfinished_of_notMem h]
  | line l s h ih =>
      rw [List.append_assoc, List.cons_append, unfinished_line h, unfinished_line h, ih]

end Frames

/-! ## Reading a stream -/

/-- The elements up to the first one that satisfies `stop`, this one included. -/
def through {β : Type} (stop : β → Bool) : List β → List β
  | [] => []
  | l :: ls => if stop l then [l] else l :: through stop ls

theorem through_of_forall
    {β : Type} {stop : β → Bool} {ls : List β}
    (h : ∀ l ∈ ls, stop l = false) :
    through stop ls = ls := by
  induction ls with
  | nil =>
      rfl
  | cons l ls ih =>
      obtain ⟨hl, hls⟩ := List.forall_mem_cons.mp h
      rw [through, hl, if_neg Bool.false_ne_true, ih hls]

/-- The elements behind the first one that stops do not matter. -/
theorem through_append_cons
    {β : Type} {stop : β → Bool} {pre : List β} {last : β}
    (hpre : ∀ l ∈ pre, stop l = false)
    (hlast : stop last = true)
    (ls : List β) :
    through stop (pre ++ last :: ls) = pre ++ [last] := by
  induction pre with
  | nil =>
      rw [List.nil_append, through, hlast, if_pos rfl]
      rfl
  | cons l pre ih =>
      obtain ⟨hl, hpre⟩ := List.forall_mem_cons.mp hpre
      rw [List.cons_append, through, hl, if_neg Bool.false_ne_true, ih hpre]
      rfl

/-- What a read brings: some of the stream, nothing for now, or the end. -/
inductive Arrival (α : Type) where
  | data (bs : List α)
  | pause
  | hangup
deriving DecidableEq

/-- The part of the stream that arrived. -/
def Arrival.bytes {α : Type} : Arrival α → List α
  | .data bs => bs
  | .pause => []
  | .hangup => []

/-- What a reader keeps, and the lines it passed on. -/
structure Receiver (α : Type) where
  pending : List α
  lines : List (List α)

namespace Receiver

variable {α : Type} [DecidableEq α] (sep mark : α) (stop : List α → Bool)

/-- The reader collects data until there is a pause, and then passes on the
lines up to one that stops it. -/
def step (r : Receiver α) : Arrival α → Receiver α
  | .data bs => { r with pending := r.pending ++ bs }
  | .pause => {
      pending := unfinished sep r.pending
      lines := r.lines ++ through stop (frames sep mark r.pending) }
  | .hangup => r

/-- The reader of a whole stream. -/
def ofArrivals (as : List (Arrival α)) : Receiver α :=
  as.foldl (step sep mark stop) { pending := [], lines := [] }

theorem ofArrivals_append
    (as bs : List (Arrival α)) :
    ofArrivals sep mark stop (as ++ bs) =
      bs.foldl (step sep mark stop) (ofArrivals sep mark stop as) :=
  List.foldl_append

/-- Data is collected. -/
theorem foldl_data
    (ds : List (List α)) (r : Receiver α) :
    (ds.map Arrival.data).foldl (step sep mark stop) r =
      { r with pending := r.pending ++ ds.flatten } := by
  induction ds generalizing r with
  | nil =>
      simp
  | cons d ds ih =>
      rw [List.map_cons, List.foldl_cons, ih]
      simp [step]

end Receiver

end PsdkBridge
