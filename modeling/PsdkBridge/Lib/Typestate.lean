import PsdkBridge.Lib.Calls

/-!
# Programs that follow a protocol

`Follows` is the weakest precondition of a program under a protocol: started in the
given variables and in the given situation, the program only records events that the
protocol allows, and its result, its variables and the situation it ends in satisfy the
postcondition.  The rules follow the shape of a program.

`balance` counts what a record acquires and releases under a protocol.

`Chain` is about programs whose runs have been taken apart into steps.  What every
single step keeps, if the outside obeys a protocol meanwhile, a chain of steps keeps.
-/

namespace PsdkBridge

namespace Protocol

section Follows

variable {C : Type} {Out : C → Type} {τ ρ σ α β : Type}
  {P : Protocol (CallEvent Out) σ}

/-- Run in the variables `v` and the situation `s`, the program obeys the protocol
and ends with `post`. -/
def Follows (P : Protocol (CallEvent Out) σ) (x : Program Out τ ρ α)
    (post : α → ρ → σ → Prop) (v : ρ) (s : σ) : Prop :=
  ∀ m : Machine Out τ ρ, m.vars = v →
    ∃ evs, (x m).2.trace = m.trace ++ evs ∧ P.Obeys s evs ∧
      post (x m).1 (x m).2.vars (P.after s evs)

variable {post : α → ρ → σ → Prop} {v : ρ} {s : σ}

theorem follows_pure
    {a : α}
    (h : post a v s) :
    P.Follows (pure a : Program Out τ ρ α) post v s := by
  rintro m rfl
  exact ⟨[], (List.append_nil _).symm, trivial, h⟩

theorem follows_mono
    {x : Program Out τ ρ α} {post' : α → ρ → σ → Prop}
    (hx : P.Follows x post v s)
    (h : ∀ a v' s', post a v' s' → post' a v' s') :
    P.Follows x post' v s := by
  intro m hm
  obtain ⟨evs, htrace, hobeys, hpost⟩ := hx m hm
  exact ⟨evs, htrace, hobeys, h _ _ _ hpost⟩

theorem follows_bind
    {x : Program Out τ ρ α} {g : α → Program Out τ ρ β} {post' : β → ρ → σ → Prop}
    (h : P.Follows x (fun a v' s' => P.Follows (g a) post' v' s') v s) :
    P.Follows (x >>= g) post' v s := by
  intro m hm
  obtain ⟨xs, hxs, hobeys, hg⟩ := h m hm
  obtain ⟨ys, hys, hobeys', hpost⟩ := hg (x m).2 rfl
  refine ⟨xs ++ ys, ?_, (P.obeys_append s xs ys).mpr ⟨hobeys, hobeys'⟩, ?_⟩
  · rw [run_bind, hys, hxs, List.append_assoc]
  · rw [P.after_append]
    exact hpost

/-- A call in front of a program. -/
theorem follows_call
    (S : Outside Out τ) {c : C} {g : Out c → Program Out τ ρ β} {post' : β → ρ → σ → Prop}
    (h : ∀ a, P.Allowed s ⟨c, a⟩ ∧ P.Follows (g a) post' v (P.next s ⟨c, a⟩)) :
    P.Follows (callOut S c >>= g) post' v s := by
  intro m hm
  obtain ⟨hallowed, hg⟩ := h (S c m.outside).1
  obtain ⟨ys, hys, hobeys, hpost⟩ := hg (callOut S c m).2 hm
  refine ⟨⟨c, (S c m.outside).1⟩ :: ys, ?_, ⟨hallowed, hobeys⟩, hpost⟩
  rw [run_bind]
  exact hys.trans (List.append_assoc _ _ _)

theorem follows_readVars
    {g : ρ → Program Out τ ρ β} {post' : β → ρ → σ → Prop}
    (h : P.Follows (g v) post' v s) :
    P.Follows (readVars >>= g) post' v s := by
  rintro m rfl
  exact h m rfl

theorem follows_modifyVars
    {f : ρ → ρ} {g : Unit → Program Out τ ρ β} {post' : β → ρ → σ → Prop}
    (h : P.Follows (g ()) post' (f v) s) :
    P.Follows (modifyVars f >>= g) post' v s := by
  rintro m rfl
  exact h { m with vars := f m.vars } rfl

/-- An assignment at the end of a program. -/
theorem follows_assign
    {f : ρ → ρ} {post' : Unit → ρ → σ → Prop}
    (h : post' () (f v) s) :
    P.Follows (modifyVars f : Program Out τ ρ Unit) post' v s := by
  rintro m rfl
  exact ⟨[], (List.append_nil _).symm, trivial, h⟩

theorem follows_ite
    {c : Prop} [Decidable c] {x y : Program Out τ ρ α}
    (hx : c → P.Follows x post v s)
    (hy : ¬ c → P.Follows y post v s) :
    P.Follows (if c then x else y) post v s := by
  split_ifs with h
  · exact hx h
  · exact hy h

/-- A loop whose rounds go on and keep an invariant. -/
theorem follows_forIn
    {ι : Type} {g : ι → β → Program Out τ ρ (ForInStep β)} (inv : ρ → σ → Prop)
    (h : ∀ i b v s, inv v s →
      P.Follows (g i b) (fun r v' s' => (∃ b', r = .yield b') ∧ inv v' s') v s)
    (is : List ι) (b : β)
    (hinv : inv v s) :
    P.Follows (forIn is b g) (fun _ v' s' => inv v' s') v s := by
  induction is generalizing b v s with
  | nil =>
      exact follows_pure hinv
  | cons i is ih =>
      rw [List.forIn_cons]
      refine follows_bind (follows_mono (h i b v s hinv) ?_)
      rintro _ v' s' ⟨⟨b', rfl⟩, hinv'⟩
      exact ih b' hinv'

/-- A program all of whose events change nothing and are allowed. -/
theorem follows_of_issues
    {x : Program Out τ ρ α} {p : CallEvent Out → Prop}
    (hx : Issues p x)
    (hnext : ∀ e, p e → P.next s e = s)
    (hallowed : ∀ e, p e → P.Allowed s e) :
    P.Follows x (fun _ _ s' => s' = s) v s := by
  intro m _
  obtain ⟨evs, htrace, hevs⟩ := hx.trace m
  obtain ⟨hafter, hobeys⟩ := P.obeys_of_neutral (s := s)
    (fun e he => hnext e (hevs e he)) (fun e he => hallowed e (hevs e he))
  exact ⟨evs, htrace, hobeys, hafter⟩

/-- The same for a program that leaves the variables alone. -/
theorem follows_of_emits
    {x : Program Out τ ρ α} {p : CallEvent Out → Prop}
    (hx : Emits p x)
    (hneutral : ∀ e, p e → P.next s e = s ∧ P.Allowed s e) :
    P.Follows x (fun _ v' s' => v' = v ∧ s' = s) v s := by
  rintro m rfl
  obtain ⟨hvars, evs, htrace, hevs⟩ := hx m
  obtain ⟨hafter, hobeys⟩ := P.obeys_of_neutral (s := s)
    (fun e he => (hneutral e (hevs e he)).1) (fun e he => (hneutral e (hevs e he)).2)
  exact ⟨evs, htrace, hobeys, hvars, hafter⟩

section Within

variable {C' : Type} {Out' : C' → Type} {ρ' : Type}

/-- The protocol as a program with calls of its own sees it. -/
def comap {ε ε' : Type} (P : Protocol ε σ) (up : ε' → ε) : Protocol ε' σ where
  start := P.start
  next := fun s e => P.next s (up e)
  Allowed := fun s e => P.Allowed s (up e)

theorem obeys_comap
    {ε ε' : Type} (P : Protocol ε σ) (up : ε' → ε) (s : σ) (tr : List ε') :
    ((P.comap up).Obeys s tr ↔ P.Obeys s (tr.map up)) ∧
      (P.comap up).after s tr = P.after s (tr.map up) := by
  induction tr generalizing s with
  | nil =>
      exact ⟨Iff.rfl, rfl⟩
  | cons e tr ih =>
      obtain ⟨hobeys, hafter⟩ := ih (P.next s (up e))
      exact ⟨and_congr Iff.rfl hobeys, hafter⟩

/-- A program that runs inside a larger one. -/
theorem follows_within
    {up : CallEvent Out' → CallEvent Out} {get : ρ → ρ'} {put : ρ' → ρ → ρ}
    {x : Program Out' τ ρ' α}
    (h : (P.comap up).Follows x (fun a w s' => post a (put w v) s') (get v) s) :
    P.Follows (within up get put x) post v s := by
  rintro m rfl
  obtain ⟨evs, htrace, hobeys, hpost⟩ :=
    h { outside := m.outside, vars := get m.vars, trace := [] } rfl
  obtain ⟨hiff, hafter⟩ := P.obeys_comap up s evs
  refine ⟨evs.map up, ?_, hiff.mp hobeys, ?_⟩
  · show m.trace ++ List.map up _ = _
    rw [htrace, List.nil_append]
  · rw [← hafter]
    exact hpost

end Within

end Follows

section Balance

variable {ε σ : Type} {P Q : Protocol ε σ}

/-- The duties of two parties at once. -/
def both (P Q : Protocol ε σ) : Protocol ε σ where
  start := P.start
  next := P.next
  Allowed := fun s e => P.Allowed s e ∧ Q.Allowed s e

theorem obeys_both
    (hnext : Q.next = P.next)
    {s : σ} {tr : List ε}
    (hP : P.Obeys s tr)
    (hQ : Q.Obeys s tr) :
    (P.both Q).Obeys s tr := by
  induction tr generalizing s with
  | nil =>
      trivial
  | cons e tr ih =>
      refine ⟨⟨hP.1, hQ.1⟩, ih hP.2 ?_⟩
      have hrest := hQ.2
      rwa [hnext] at hrest

/-- What is acquired is held until it is released: a record acquires as often as it
releases, but for what is held before and behind it. -/
theorem balance
    {acquires releases : ε → Bool} (held : σ → Nat)
    (hstep : ∀ s e, P.Allowed s e →
      (if acquires e then 1 else 0) + held s =
        (if releases e then 1 else 0) + held (P.next s e))
    {s : σ} {tr : List ε}
    (h : P.Obeys s tr) :
    tr.countP acquires + held s = tr.countP releases + held (P.after s tr) := by
  induction tr generalizing s with
  | nil =>
      rfl
  | cons e tr ih =>
      have hone := hstep s e h.1
      have hrest : _ = tr.countP releases + held (P.after s (e :: tr)) := ih h.2
      rw [List.countP_cons, List.countP_cons]
      omega

end Balance

end Protocol

section Chains

variable {ε ρ : Type}

/-- Steps behind each other, with all their events. -/
inductive Chain (step : ρ → List ε → ρ → Prop) : ρ → List ε → ρ → Prop
  | done (v : ρ) : Chain step v [] v
  | link {v v' v'' : ρ} {evs evs' : List ε} :
      step v evs v' → Chain step v' evs' v'' → Chain step v (evs ++ evs') v''

namespace Chain

variable {step : ρ → List ε → ρ → Prop} {v v' v'' : ρ} {evs evs' : List ε}

theorem single
    (h : step v evs v') :
    Chain step v evs v' := by
  simpa using Chain.link h (.done v')

theorem append
    (h : Chain step v evs v')
    (h' : Chain step v' evs' v'') :
    Chain step v (evs ++ evs') v'' := by
  induction h with
  | done v =>
      exact h'
  | link hstep _ ih =>
      rw [List.append_assoc]
      exact .link hstep (ih h')

/-- What each step keeps of the variables and the record, a chain keeps. -/
theorem invariant
    {σ : Type} {P : Protocol ε σ} {Inv : ρ → List ε → Prop}
    (hstep : ∀ v evs v', step v evs v' → ∀ past, Inv v past →
      P.Obeys (P.after P.start past) evs → Inv v' (past ++ evs))
    (h : Chain step v evs v')
    {past : List ε}
    (hinv : Inv v past)
    (hobeys : P.Obeys (P.after P.start past) evs) :
    Inv v' (past ++ evs) := by
  induction h generalizing past with
  | done v =>
      rwa [List.append_nil]
  | link hfirst _ ih =>
      obtain ⟨hobeys, hrest⟩ := (P.obeys_append _ _ _).mp hobeys
      rw [← List.append_assoc]
      refine ih (hstep _ _ _ hfirst past hinv hobeys) ?_
      rwa [P.after_append]

end Chain

end Chains

end PsdkBridge
