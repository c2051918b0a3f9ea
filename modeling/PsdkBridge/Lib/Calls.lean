import Mathlib.Tactic

/-!
# Programs that call the outside

A program runs on its own variables and calls an outside that keeps a state of
its own and may answer anything.  Every call is recorded with its answer.

* `Emits` bounds what a program can add to the record; its rules follow the
  shape of the program.
* `Leaves` says which part of its variables a program does not change.
* `Views` describes the part of the record that a selection of events leaves,
  together with the result; its rules follow the shape of the program too, and
  `views_within` passes to a program that runs inside a larger one.
* A `Protocol` says in which situation a call is allowed.  `obeys_append` splits
  the question whether a record obeys it.
-/

namespace PsdkBridge

/-- A call and its answer. -/
structure CallEvent {C : Type} (Out : C → Type) where
  call : C
  answer : Out call

/-- The state of a program: the outside, its own variables and the record of
its calls. -/
structure Machine {C : Type} (Out : C → Type) (τ ρ : Type) where
  outside : τ
  vars : ρ
  trace : List (CallEvent Out)

section Programs

variable {C : Type} {Out : C → Type} {τ ρ α β : Type}

/-- How the outside answers. -/
abbrev Outside (Out : C → Type) (τ : Type) :=
  (c : C) → τ → Out c × τ

/-- A program with the result `α`. -/
abbrev Program (Out : C → Type) (τ ρ α : Type) :=
  StateM (Machine Out τ ρ) α

/-- Call the outside. -/
def callOut (S : Outside Out τ) (c : C) : Program Out τ ρ (Out c) :=
  fun m =>
    let r := S c m.outside
    (r.1, { m with outside := r.2, trace := m.trace ++ [⟨c, r.1⟩] })

/-- Read the variables. -/
def readVars : Program Out τ ρ ρ :=
  fun m => (m.vars, m)

/-- Change the variables. -/
def modifyVars (f : ρ → ρ) : Program Out τ ρ Unit :=
  fun m => ((), { m with vars := f m.vars })

section Run

variable (m : Machine Out τ ρ)

@[simp] theorem run_pure
    (a : α) :
    (pure a : Program Out τ ρ α) m = (a, m) := by
  rfl

@[simp] theorem run_bind
    (x : Program Out τ ρ α) (f : α → Program Out τ ρ β) :
    (x >>= f) m = f (x m).1 (x m).2 := by
  rfl

@[simp] theorem run_ite
    (c : Prop) [Decidable c] (x y : Program Out τ ρ α) :
    (if c then x else y) m = if c then x m else y m := by
  split_ifs <;> rfl

@[simp] theorem run_callOut
    (S : Outside Out τ) (c : C) :
    (callOut S c : Program Out τ ρ (Out c)) m =
      ((S c m.outside).1,
        { m with outside := (S c m.outside).2
                 trace := m.trace ++ [⟨c, (S c m.outside).1⟩] }) := by
  rfl

@[simp] theorem run_readVars :
    (readVars : Program Out τ ρ ρ) m = (m.vars, m) := by
  rfl

/-- A program that starts by reading the variables. -/
theorem run_readVars_bind
    (f : ρ → Program Out τ ρ β) :
    (readVars >>= f : Program Out τ ρ β) m = f m.vars m := by
  rfl

@[simp] theorem run_modifyVars
    (f : ρ → ρ) :
    (modifyVars f : Program Out τ ρ Unit) m = ((), { m with vars := f m.vars }) := by
  rfl

end Run

/-- The program leaves its variables alone and only records events that
satisfy `p`. -/
def Emits (p : CallEvent Out → Prop) (x : Program Out τ ρ α) : Prop :=
  ∀ m, (x m).2.vars = m.vars ∧
    ∃ evs, (x m).2.trace = m.trace ++ evs ∧ ∀ e ∈ evs, p e

variable {p : CallEvent Out → Prop}

theorem emits_pure
    (a : α) :
    Emits p (pure a : Program Out τ ρ α) := by
  intro m
  exact ⟨rfl, [], (List.append_nil _).symm, by simp⟩

theorem emits_callOut
    (S : Outside Out τ) {c : C}
    (h : ∀ a, p ⟨c, a⟩) :
    Emits p (callOut S c : Program Out τ ρ (Out c)) := by
  intro m
  exact ⟨rfl, [⟨c, (S c m.outside).1⟩], rfl, by simpa using h _⟩

theorem emits_bind
    {x : Program Out τ ρ α} {f : α → Program Out τ ρ β}
    (hx : Emits p x)
    (hf : ∀ a, Emits p (f a)) :
    Emits p (x >>= f) := by
  intro m
  obtain ⟨hvars, evs, htrace, hevs⟩ := hx m
  obtain ⟨hvars', evs', htrace', hevs'⟩ := hf (x m).1 (x m).2
  refine ⟨hvars'.trans hvars, evs ++ evs', ?_, ?_⟩
  · rw [← List.append_assoc, ← htrace]
    exact htrace'
  · intro e he
    rcases List.mem_append.mp he with h | h
    · exact hevs e h
    · exact hevs' e h

theorem emits_ite
    {c : Prop} [Decidable c] {x y : Program Out τ ρ α}
    (hx : Emits p x)
    (hy : Emits p y) :
    Emits p (if c then x else y) := by
  split_ifs
  · exact hx
  · exact hy

/-! ## Variables that stay -/

section Leaves

variable {κ : Type} {g : ρ → κ}

/-- The program leaves the part `g` of its variables alone. -/
def Leaves (g : ρ → κ) (x : Program Out τ ρ α) : Prop :=
  ∀ m, g (x m).2.vars = g m.vars

theorem leaves_pure
    (a : α) :
    Leaves g (pure a : Program Out τ ρ α) :=
  fun _ => rfl

theorem leaves_modifyVars
    {f : ρ → ρ}
    (h : ∀ v, g (f v) = g v) :
    Leaves g (modifyVars f : Program Out τ ρ Unit) :=
  fun m => h m.vars

theorem leaves_bind
    {x : Program Out τ ρ α} {f : α → Program Out τ ρ β}
    (hx : Leaves g x)
    (hf : ∀ a, Leaves g (f a)) :
    Leaves g (x >>= f) :=
  fun m => (hf (x m).1 (x m).2).trans (hx m)

/-- A call in front of a program. -/
theorem leaves_call
    (S : Outside Out τ) {c : C} {f : Out c → Program Out τ ρ β}
    (hf : ∀ a, Leaves g (f a)) :
    Leaves g (callOut S c >>= f) :=
  leaves_bind (fun _ => rfl) hf

theorem leaves_ite
    {c : Prop} [Decidable c] {x y : Program Out τ ρ α}
    (hx : Leaves g x)
    (hy : Leaves g y) :
    Leaves g (if c then x else y) := by
  split_ifs
  · exact hx
  · exact hy

end Leaves

/-! ## Views of the record -/

section Views

variable {κ : Type} {f : CallEvent Out → Option κ}

/-- What the program adds to the view `f` of the record satisfies `Q`, together
with its result. -/
def Views (f : CallEvent Out → Option κ) (x : Program Out τ ρ α)
    (Q : α → List κ → Prop) : Prop :=
  ∀ m, ∃ l, (x m).2.trace.filterMap f = m.trace.filterMap f ++ l ∧ Q (x m).1 l

/-- The program adds nothing to the view. -/
def Silent (f : CallEvent Out → Option κ) (x : Program Out τ ρ α) : Prop :=
  Views f x (fun _ l => l = [])

theorem views_mono
    {x : Program Out τ ρ α} {Q R : α → List κ → Prop}
    (hx : Views f x Q)
    (h : ∀ a l, Q a l → R a l) :
    Views f x R := by
  intro m
  obtain ⟨l, hl, hq⟩ := hx m
  exact ⟨l, hl, h _ l hq⟩

theorem views_pure
    {a : α} {Q : α → List κ → Prop}
    (h : Q a []) :
    Views f (pure a : Program Out τ ρ α) Q := by
  intro m
  exact ⟨[], (List.append_nil _).symm, h⟩

theorem views_bind
    {x : Program Out τ ρ α} {g : α → Program Out τ ρ β} {Q : α → List κ → Prop}
    {R : β → List κ → Prop}
    (hx : Views f x Q)
    (hg : ∀ a l, Q a l → Views f (g a) (fun b l' => R b (l ++ l'))) :
    Views f (x >>= g) R := by
  intro m
  obtain ⟨l, hl, hq⟩ := hx m
  obtain ⟨l', hl', hr⟩ := hg (x m).1 l hq (x m).2
  refine ⟨l ++ l', ?_, hr⟩
  rw [← List.append_assoc, ← hl]
  exact hl'

/-- A call that the view shows. -/
theorem views_call
    (S : Outside Out τ) {c : C} {g : Out c → Program Out τ ρ β}
    {R : β → List κ → Prop}
    (hg : ∀ a, Views f (g a) (fun b l => R b ((f ⟨c, a⟩).toList ++ l))) :
    Views f (callOut S c >>= g) R := by
  intro m
  obtain ⟨l, hl, hr⟩ := hg (S c m.outside).1
    { m with outside := (S c m.outside).2
             trace := m.trace ++ [⟨c, (S c m.outside).1⟩] }
  refine ⟨_, ?_, hr⟩
  rw [run_bind, run_callOut, hl, List.filterMap_append, List.append_assoc]
  cases h : f ⟨c, (S c m.outside).1⟩ <;> simp [h]

theorem views_ite
    {c : Prop} [Decidable c] {x y : Program Out τ ρ α} {Q : α → List κ → Prop}
    (hx : c → Views f x Q)
    (hy : ¬ c → Views f y Q) :
    Views f (if c then x else y) Q := by
  split_ifs with h
  · exact hx h
  · exact hy h

/-- A silent program in front of another. -/
theorem views_silent_bind
    {x : Program Out τ ρ α} {g : α → Program Out τ ρ β} {R : β → List κ → Prop}
    (hx : Silent f x)
    (hg : ∀ a, Views f (g a) R) :
    Views f (x >>= g) R := by
  refine views_bind hx (fun a l hl => ?_)
  subst hl
  exact hg a

theorem silent_pure
    (a : α) :
    Silent f (pure a : Program Out τ ρ α) :=
  views_pure rfl

theorem silent_readVars :
    Silent f (readVars : Program Out τ ρ ρ) := by
  intro m
  exact ⟨[], (List.append_nil _).symm, rfl⟩

theorem silent_modifyVars
    (g : ρ → ρ) :
    Silent f (modifyVars g : Program Out τ ρ Unit) := by
  intro m
  exact ⟨[], (List.append_nil _).symm, rfl⟩

/-- A call that the view does not show. -/
theorem silent_callOut
    (S : Outside Out τ) {c : C}
    (h : ∀ a, f ⟨c, a⟩ = none) :
    Silent f (callOut S c : Program Out τ ρ (Out c)) := by
  intro m
  refine ⟨[], ?_, rfl⟩
  simp [h]

/-- A call that the view does not show in front of a program. -/
theorem views_skip
    (S : Outside Out τ) {c : C} {g : Out c → Program Out τ ρ β} {R : β → List κ → Prop}
    (h : ∀ a, f ⟨c, a⟩ = none)
    (hg : ∀ a, Views f (g a) R) :
    Views f (callOut S c >>= g) R :=
  views_silent_bind (silent_callOut S h) hg

/-- A loop with a silent body. -/
theorem silent_forIn
    {ι : Type} {g : ι → β → Program Out τ ρ (ForInStep β)}
    (h : ∀ i b, Silent f (g i b))
    (is : List ι) (b : β) :
    Silent f (forIn is b g) := by
  induction is generalizing b with
  | nil =>
      exact silent_pure b
  | cons i is ih =>
      rw [List.forIn_cons]
      refine views_silent_bind (h i b) (fun r => ?_)
      cases r with
      | done b' =>
          exact silent_pure b'
      | yield b' =>
          exact ih b'

/-- Every event that the program records satisfies `p`. -/
def Issues (p : CallEvent Out → Prop) (x : Program Out τ ρ α) : Prop :=
  Views some x (fun _ l => ∀ e ∈ l, p e)

theorem issues_pure
    (a : α) :
    Issues p (pure a : Program Out τ ρ α) :=
  views_pure (List.forall_mem_nil p)

theorem issues_readVars :
    Issues p (readVars : Program Out τ ρ ρ) :=
  fun m => ⟨[], (List.append_nil (m.trace.filterMap some)).symm, List.forall_mem_nil p⟩

theorem issues_modifyVars
    (g : ρ → ρ) :
    Issues p (modifyVars g : Program Out τ ρ Unit) :=
  fun m => ⟨[], (List.append_nil (m.trace.filterMap some)).symm, List.forall_mem_nil p⟩

theorem issues_bind
    {x : Program Out τ ρ α} {g : α → Program Out τ ρ β}
    (hx : Issues p x)
    (hg : ∀ a, Issues p (g a)) :
    Issues p (x >>= g) :=
  views_bind hx (fun a _ hl =>
    views_mono (hg a) (fun _ _ hl' => List.forall_mem_append.mpr ⟨hl, hl'⟩))

/-- A call in front of a program. -/
theorem issues_call
    (S : Outside Out τ) {c : C} {g : Out c → Program Out τ ρ β}
    (hc : ∀ a, p ⟨c, a⟩)
    (hg : ∀ a, Issues p (g a)) :
    Issues p (callOut S c >>= g) :=
  views_call S (fun a =>
    views_mono (hg a) (fun _ _ hl => List.forall_mem_cons.mpr ⟨hc a, hl⟩))

theorem issues_ite
    {c : Prop} [Decidable c] {x y : Program Out τ ρ α}
    (hx : Issues p x)
    (hy : Issues p y) :
    Issues p (if c then x else y) :=
  views_ite (fun _ => hx) (fun _ => hy)

/-- What a program adds to the record. -/
theorem Issues.trace
    {x : Program Out τ ρ α}
    (hx : Issues p x)
    (m : Machine Out τ ρ) :
    ∃ evs, (x m).2.trace = m.trace ++ evs ∧ ∀ e ∈ evs, p e := by
  obtain ⟨l, hl, hp⟩ := hx m
  exact ⟨l, by simpa using hl, hp⟩

theorem issues_mono
    {q : CallEvent Out → Prop} {x : Program Out τ ρ α}
    (hx : Issues p x)
    (h : ∀ e, p e → q e) :
    Issues q x :=
  views_mono hx (fun _ _ hl e he => h e (hl e he))

/-- A program whose events the view does not show. -/
theorem silent_of_issues
    {x : Program Out τ ρ α}
    (hx : Issues p x)
    (h : ∀ e, p e → f e = none) :
    Silent f x := by
  intro m
  obtain ⟨evs, htrace, hevs⟩ := hx.trace m
  refine ⟨[], ?_, rfl⟩
  have hnone : evs.filterMap f = [] :=
    List.filterMap_eq_nil_iff.mpr (fun e he => h e (hevs e he))
  rw [htrace, List.filterMap_append, hnone]

section Within

variable {C' : Type} {Out' : C' → Type} {ρ' : Type}

/-- Run a program with calls and variables of its own inside a larger one. -/
def within (up : CallEvent Out' → CallEvent Out) (get : ρ → ρ') (put : ρ' → ρ → ρ)
    (x : Program Out' τ ρ' α) : Program Out τ ρ α :=
  fun m =>
    let r := x { outside := m.outside, vars := get m.vars, trace := [] }
    (r.1, {
      outside := r.2.outside
      vars := put r.2.vars m.vars
      trace := m.trace ++ r.2.trace.map up })

theorem views_within
    {up : CallEvent Out' → CallEvent Out} (get : ρ → ρ') (put : ρ' → ρ → ρ)
    {x : Program Out' τ ρ' α} {Q : α → List κ → Prop}
    (h : Views (fun e => f (up e)) x Q) :
    Views f (within up get put x) Q := by
  intro m
  obtain ⟨l, hl, hq⟩ := h { outside := m.outside, vars := get m.vars, trace := [] }
  refine ⟨l, ?_, hq⟩
  simp only [List.filterMap_nil, List.nil_append] at hl
  show (m.trace ++ List.map up _).filterMap f = _
  rw [List.filterMap_append, List.filterMap_map, ← hl]
  rfl

end Within

end Views

end Programs

/-- In which situation an event is allowed, and what it changes. -/
structure Protocol (ε σ : Type) where
  start : σ
  next : σ → ε → σ
  Allowed : σ → ε → Prop

namespace Protocol

variable {ε σ : Type} (P : Protocol ε σ)

/-- The situation after a record, starting from `s`. -/
def after (s : σ) (tr : List ε) : σ :=
  tr.foldl P.next s

/-- Every event of the record is allowed where it occurs. -/
def Obeys (s : σ) : List ε → Prop
  | [] => True
  | e :: tr => P.Allowed s e ∧ Obeys (P.next s e) tr

instance decidableObeys [∀ s e, Decidable (P.Allowed s e)] :
    ∀ (s : σ) (tr : List ε), Decidable (P.Obeys s tr)
  | _, [] => isTrue trivial
  | s, e :: tr =>
      haveI := decidableObeys (P.next s e) tr
      inferInstanceAs (Decidable (P.Allowed s e ∧ P.Obeys (P.next s e) tr))

@[simp] theorem after_append
    (s : σ) (tr tr' : List ε) :
    P.after s (tr ++ tr') = P.after (P.after s tr) tr' :=
  List.foldl_append

theorem obeys_append
    (s : σ) (tr tr' : List ε) :
    P.Obeys s (tr ++ tr') ↔ P.Obeys s tr ∧ P.Obeys (P.after s tr) tr' := by
  induction tr generalizing s with
  | nil =>
      simp only [List.nil_append, Obeys, true_and]
      rfl
  | cons e tr ih =>
      simp only [List.cons_append, Obeys, ih, and_assoc]
      rfl

/-- Events that change nothing and are allowed throughout. -/
theorem obeys_of_neutral
    {s : σ} {tr : List ε}
    (hnext : ∀ e ∈ tr, P.next s e = s)
    (hallowed : ∀ e ∈ tr, P.Allowed s e) :
    P.after s tr = s ∧ P.Obeys s tr := by
  induction tr with
  | nil =>
      exact ⟨rfl, trivial⟩
  | cons e tr ih =>
      have he := hnext e List.mem_cons_self
      obtain ⟨hafter, hobeys⟩ := ih
        (fun x hx => hnext x (List.mem_cons_of_mem _ hx))
        (fun x hx => hallowed x (List.mem_cons_of_mem _ hx))
      refine ⟨?_, hallowed e List.mem_cons_self, ?_⟩
      · show P.after (P.next s e) tr = s
        rw [he]
        exact hafter
      · rw [he]
        exact hobeys

section Invariants

variable {C : Type} {Out : C → Type} {τ ρ : Type} (P : Protocol (CallEvent Out) σ)

/-- The step keeps an invariant of the variables and the record, if the outside
obeys the protocol meanwhile. -/
def Keeps (Inv : ρ → List (CallEvent Out) → Prop) (m m' : Machine Out τ ρ) : Prop :=
  ∃ evs', m'.trace = m.trace ++ evs' ∧
    ∀ evs, Inv m.vars evs → P.Obeys (P.after P.start evs) evs' →
      Inv m'.vars (evs ++ evs')

namespace Keeps

variable {P} {Inv Inv' : ρ → List (CallEvent Out) → Prop} {m₁ m₂ m₃ : Machine Out τ ρ}

theorem refl
    (m : Machine Out τ ρ) :
    P.Keeps Inv m m :=
  ⟨[], (List.append_nil _).symm, fun evs h _ => by rwa [List.append_nil]⟩

theorem trans
    (h : P.Keeps Inv m₁ m₂)
    (h' : P.Keeps Inv m₂ m₃) :
    P.Keeps Inv m₁ m₃ := by
  obtain ⟨xs, hxs, hstep⟩ := h
  obtain ⟨ys, hys, hstep'⟩ := h'
  refine ⟨xs ++ ys, by rw [hys, hxs, List.append_assoc], fun evs hinv hobeys => ?_⟩
  obtain ⟨hx, hy⟩ := (P.obeys_append _ xs ys).mp hobeys
  rw [← List.append_assoc]
  exact hstep' _ (hstep evs hinv hx) (by rwa [P.after_append])

/-- A second invariant that is kept as long as the first one holds. -/
theorem and
    (h : P.Keeps Inv m₁ m₂)
    (h' : ∃ evs', m₂.trace = m₁.trace ++ evs' ∧
      ∀ evs, Inv m₁.vars evs → Inv' m₁.vars evs →
        P.Obeys (P.after P.start evs) evs' → Inv' m₂.vars (evs ++ evs')) :
    P.Keeps (fun v evs => Inv v evs ∧ Inv' v evs) m₁ m₂ := by
  obtain ⟨evs', htrace, hstep⟩ := h
  obtain ⟨evs'', htrace', hstep'⟩ := h'
  obtain rfl : evs' = evs'' := List.append_cancel_left (htrace.symm.trans htrace')
  exact ⟨evs', htrace, fun evs hinv hobeys =>
    ⟨hstep evs hinv.1 hobeys, hstep' evs hinv.1 hinv.2 hobeys⟩⟩

end Keeps

end Invariants

end Protocol

end PsdkBridge
