import Mathlib.Tactic

/-!
# Paths as texts

A path is cut into components at a separator.  `normalise` resolves it without
looking at a file system: empty components and single dots are dropped, and a
double dot takes back the component before it.

`liesIn_append` is about a name that is put behind a directory: without a separator
and without a double dot it does not lead out.
-/

namespace PsdkBridge

section Paths

variable {α : Type} [DecidableEq α] (sep dot : α)

/-- Where a component leads from a directory. -/
def descend (dirs : List (List α)) (c : List α) : List (List α) :=
  if c = [] ∨ c = [dot] then dirs
  else if c = [dot, dot] then dirs.dropLast
  else dirs ++ [c]

/-- The components that are left of a path. -/
def normalise (p : List α) : List (List α) :=
  (p.splitOn sep).foldl (descend dot) []

/-- The path is absolute, and leads to the directory or to an entry of it. -/
def LiesIn (dir p : List α) : Prop :=
  p.head? = some sep ∧
    (normalise sep dot p = normalise sep dot dir ∨
      ∃ c, normalise sep dot p = normalise sep dot dir ++ [c])

/-- A name behind a directory is one more component. -/
theorem normalise_append
    (dir : List α)
    {name : List α}
    (hname : sep ∉ name) :
    normalise sep dot (dir ++ sep :: name) = descend dot (normalise sep dot dir) name := by
  rw [normalise, List.splitOn_append_cons_self, List.foldl_append,
    List.splitOn_eq_singleton hname]
  rfl

/-- A name without separators and double dots stays in the directory. -/
theorem liesIn_append
    {dir name : List α}
    (hdir : dir.head? = some sep)
    (hname : sep ∉ name)
    (hdots : ¬ [dot, dot] <:+: name) :
    LiesIn sep dot dir (dir ++ sep :: name) := by
  refine ⟨?_, ?_⟩
  · rw [List.head?_append, hdir]
    rfl
  · rw [normalise_append sep dot dir hname, descend]
    split_ifs with hdot htwo
    · exact Or.inl rfl
    · exact absurd (htwo ▸ List.infix_refl _) hdots
    · exact Or.inr ⟨name, rfl⟩

end Paths

end PsdkBridge
