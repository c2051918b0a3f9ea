import PsdkBridge.Lib.Typestate
import PsdkBridge.TcpAdmission

/-!
# The moves of the server

`Move` lists what the functions of the server do between two calls of its owner: an
event that leaves the table alone, an overwritten buffer, a slot that is freed, and the
four outcomes of `accept_client`.  `goes_serverRun` says that any run of polls and of
`tcp_server_close_client`, with any kernel and any callback, is a chain of moves.  An
invariant of the table and the record needs a proof for each move, and no function of
the server has to be taken apart for it again.
-/

namespace PsdkBridge
namespace Tcp

/-- The descriptor of a slot. -/
def TcpVars.fd (v : TcpVars) (i : Slot) : Int :=
  (v.srv.clients i).fd

/-- An event that names no descriptor of the table: the wait for events, and a write
that the callback asked for. -/
def IsQuiet (e : NetEvent) : Prop :=
  IsWrite e ∨ ∃ n fds, e = ⟨.epollWait n, fds⟩

/-- A call for a client that is being served. -/
def IsService (fd : Int) (e : NetEvent) : Prop :=
  IsRead fd e ∨ ∃ line len r, e = ⟨.onMessage fd line len, r⟩

/-- What the server does between two calls of its owner. -/
inductive Move : TcpVars → List NetEvent → TcpVars → Prop
  | quiet {v : TcpVars} {e : NetEvent}
      (quiet : IsQuiet e) :
      Move v [e] v
  | service {v : TcpVars} {e : NetEvent} (i : Slot)
      (service : IsService (v.fd i) e) :
      Move v [e] v
  | store {v : TcpVars} (i : Slot) (c : Client)
      (fd : c.fd = v.fd i) :
      Move v [] (v.setClient i c)
  | wrap {v : TcpVars} :
      Move v [] { v with wrapped := true }
  | free {v : TcpVars} (i : Slot) (del cls : Int) :
      Move v (freeEvents (v.fd i) del cls) (v.release i)
  | nothing {v : TcpVars} {cfd : Int}
      (negative : cfd < 0) :
      Move v [⟨.accept v.srv.listenFd, cfd⟩] v
  | turnedAway {v : TcpVars} {cfd : Int} {setup : List NetEvent} (cls : Int)
      (nonneg : 0 ≤ cfd)
      (prepares : ∀ e ∈ setup, IsSetup cfd e) :
      Move v (⟨.accept v.srv.listenFd, cfd⟩ :: setup ++ [⟨.close cfd, cls⟩]) v
  | unregistered {v : TcpVars} {cfd rc : Int} {setup : List NetEvent} {i : Slot}
      (del cls : Int)
      (nonneg : 0 ≤ cfd)
      (prepares : ∀ e ∈ setup, IsSetup cfd e)
      (slot : v.fd i < 0)
      (failed : rc < 0) :
      Move v (⟨.accept v.srv.listenFd, cfd⟩ :: setup ++
        ⟨.epollCtlAdd cfd, rc⟩ :: freeEvents cfd del cls) ((v.occupy i cfd).release i)
  | admitted {v : TcpVars} {cfd rc : Int} {setup : List NetEvent} {i : Slot}
      (nonneg : 0 ≤ cfd)
      (prepares : ∀ e ∈ setup, IsSetup cfd e)
      (slot : v.fd i < 0)
      (added : 0 ≤ rc) :
      Move v (⟨.accept v.srv.listenFd, cfd⟩ :: setup ++ [⟨.epollCtlAdd cfd, rc⟩])
        (v.occupy i cfd)

section Steps

variable {τ : Type} {S : Outside NetCall.Out τ}

/-- The second state comes from the first one by moves. -/
def Goes (m m' : TcpState τ) : Prop :=
  ∃ evs, m'.trace = m.trace ++ evs ∧ Chain Move m.vars evs m'.vars

namespace Goes

variable {m m₁ m₂ m₃ : TcpState τ}

theorem refl
    (m : TcpState τ) :
    Goes m m :=
  ⟨[], (List.append_nil _).symm, .done _⟩

theorem trans
    (h : Goes m₁ m₂)
    (h' : Goes m₂ m₃) :
    Goes m₁ m₃ := by
  obtain ⟨evs, htrace, hchain⟩ := h
  obtain ⟨evs', htrace', hchain'⟩ := h'
  exact ⟨evs ++ evs', by rw [htrace', htrace, List.append_assoc], hchain.append hchain'⟩

/-- A single move. -/
theorem single
    {evs : List NetEvent} {v' : TcpVars} {t : τ}
    (h : Move m.vars evs v') :
    Goes m { m with outside := t, vars := v', trace := m.trace ++ evs } :=
  ⟨evs, rfl, .single h⟩

/-- A move without events. -/
theorem assign
    {v' : TcpVars}
    (h : Move m.vars [] v') :
    Goes m { m with vars := v' } :=
  ⟨[], (List.append_nil _).symm, .single h⟩

/-- What each move keeps, as long as the outside obeys a protocol. -/
theorem keeps
    {σ : Type} {P : Protocol NetEvent σ} (Inv : TcpVars → List NetEvent → Prop)
    (hmove : ∀ v evs v', Move v evs v' → ∀ past, Inv v past →
      P.Obeys (P.after P.start past) evs → Inv v' (past ++ evs))
    (h : Goes m m₁) :
    P.Keeps Inv m m₁ := by
  obtain ⟨evs, htrace, hchain⟩ := h
  exact ⟨evs, htrace, fun past hinv hobeys => hchain.invariant hmove hinv hobeys⟩

end Goes

theorem chain_services
    {v : TcpVars} {i : Slot} {evs : List NetEvent}
    (h : ∀ e ∈ evs, IsService (v.fd i) e) :
    Chain Move v evs v := by
  induction evs with
  | nil =>
      exact .done v
  | cons e evs ih =>
      obtain ⟨he, hevs⟩ := List.forall_mem_cons.mp h
      exact .link (.service i he) (ih hevs)

theorem chain_quiet
    {v : TcpVars} {evs : List NetEvent}
    (h : ∀ e ∈ evs, IsQuiet e) :
    Chain Move v evs v := by
  induction evs with
  | nil =>
      exact .done v
  | cons e evs ih =>
      obtain ⟨he, hevs⟩ := List.forall_mem_cons.mp h
      exact .link (.quiet he) (ih hevs)

/-! ## The functions of the server -/

theorem goes_freeClient
    (S : Outside NetCall.Out τ) (i : Slot) (m : TcpState τ) :
    Goes m (freeClient S i m).2 := by
  obtain ⟨del, cls, hvars, htrace⟩ := freeClient_run S i m
  exact ⟨_, htrace, hvars ▸ .single (.free i del cls)⟩

theorem goes_closeClient
    (S : Outside NetCall.Out τ) (fd : Int) (m : TcpState τ) :
    Goes m (tcpServerCloseClient S fd m).2 := by
  rw [tcpServerCloseClient, run_readVars_bind]
  cases findClient m.vars.srv fd with
  | none =>
      exact .refl m
  | some i =>
      exact goes_freeClient S i m

theorem goes_perform
    (S : Outside NetCall.Out τ) (as : List CallbackAction) (m : TcpState τ) :
    Goes m (perform S as m).2 := by
  induction as generalizing m with
  | nil =>
      exact .refl m
  | cons a as ih =>
      cases a with
      | send fd msg =>
          obtain ⟨hvars, evs, htrace, hevs⟩ := emits_tcpServerSend S fd msg m
          have hsend : Goes m (tcpServerSend S fd msg m).2 := by
            refine ⟨evs, htrace, ?_⟩
            rw [hvars]
            exact chain_quiet (fun e he => Or.inl (hevs e he))
          exact hsend.trans (ih _)
      | closeClient fd =>
          exact (goes_closeClient S fd m).trans (ih _)

/-- The part of a round behind the termination of the line; the terminated line is in
the slot. -/
theorem goes_deliverLine
    {i : Slot} {off k len : Nat} {c : Client} {m : TcpState τ}
    (hfd : c.fd = m.vars.fd i)
    (hnext : ∀ m' : TcpState τ, Goes m' (scanLoop S i (off + k + 1) m').2) :
    Goes m (deliverLine S i off k c len m).2 := by
  rw [deliverLine]
  by_cases hlen : 0 < len
  · rw [if_pos hlen, run_bind]
    have hcall : Goes m
        (callOut S (.onMessage c.fd ((c.buf.drop off).take len) len) m).2 :=
      .single (.service i (Or.inr ⟨_, _, _, by rw [hfd]⟩))
    generalize callOut S (.onMessage c.fd ((c.buf.drop off).take len) len) m = r at hcall
    obtain ⟨cb, m₁⟩ := r
    rw [run_bind]
    refine hcall.trans ((goes_perform S cb.actions m₁).trans ?_)
    rw [run_ite]
    split_ifs
    · exact goes_freeClient S i _
    · exact hnext _
  · rw [if_neg hlen]
    exact hnext m

theorem goes_scanLoop
    (S : Outside NetCall.Out τ) (i : Slot) (off : Nat) (m : TcpState τ) :
    Goes m (scanLoop S i off m).2 := by
  induction off, m using scanLoop_induction (i := i) with
  | wrapped off m hoff =>
      rw [scanLoop_wrapped S i m hoff, run_modifyVars]
      exact .assign .wrap
  | last off m hoff hk =>
      rw [scanLoop_last S i m hoff hk, run_modifyVars]
      exact .assign (.store i _ rfl)
  | line off m k hoff hk ih =>
      rw [scanLoop_line S i m hoff hk, run_bind, run_modifyVars]
      have hfd := (m.vars.srv.clients i).terminate_fd off k
      have hset : Goes m { m with
          vars := m.vars.setClient i ((m.vars.srv.clients i).terminate off k).1 } :=
        .assign (.store i _ hfd)
      exact hset.trans (goes_deliverLine (by simp [TcpVars.fd]) ih)

theorem goes_fillLoop
    (S : Outside NetCall.Out τ) (i : Slot) (m : TcpState τ) :
    Goes m (fillLoop S i (m.vars.srv.clients i) m).2 := by
  -- all reads come first, and the buffer they leave is stored at once
  have hreads : ∀ {ds evs c'}, Filled (m.vars.srv.clients i) ds evs c' →
      Chain Move m.vars evs (m.vars.setClient i c') := by
    intro ds evs c' hfill
    have hservices := chain_services (v := m.vars) (i := i)
      (fun e he => Or.inl (hfill.reads e he))
    simpa using hservices.append (.single (.store i c' hfill.fd))
  obtain ⟨ds, evs, c', hfill | hfill⟩ := fillLoop_cases S i _ m rfl
  · exact ⟨evs, hfill.trace, hfill.vars ▸ hreads hfill.toFilled⟩
  · obtain ⟨del, cls, htrace⟩ := hfill.trace
    have hfree := Chain.single (Move.free (v := m.vars.setClient i c') i del cls)
    have hfd : (m.vars.setClient i c').fd i = (m.vars.srv.clients i).fd := by
      rw [TcpVars.fd, TcpVars.setClient_clients_self, hfill.fd]
    rw [hfd] at hfree
    rw [List.append_assoc] at htrace
    exact ⟨_, htrace, hfill.vars ▸ (hreads hfill.toFilled).append hfree⟩

theorem goes_recvClient
    (S : Outside NetCall.Out τ) (i : Slot) (m : TcpState τ) :
    Goes m (recvClient S i m).2 := by
  rw [recvClient, run_readVars_bind, run_bind]
  have hfill := goes_fillLoop S i m
  generalize fillLoop S i (m.vars.srv.clients i) m = r at hfill
  obtain ⟨more, m₁⟩ := r
  cases more with
  | false =>
      exact hfill
  | true =>
      rw [if_pos rfl, run_readVars_bind, run_bind, run_modifyVars]
      have hset : Goes m₁ { m₁ with
          vars := m₁.vars.setClient i
            ((m₁.vars.srv.clients i).poke (m₁.vars.srv.clients i).bufLen 0) } :=
        .assign (.store i _ rfl)
      exact (hfill.trans hset).trans (goes_scanLoop S i 0 _)

theorem goes_acceptClient
    (S : Outside NetCall.Out τ) (m : TcpState τ) :
    Goes m (acceptClient S m).2 := by
  cases acceptClient_cases S m with
  | nothing cfd negative vars trace =>
      exact ⟨_, trace, vars ▸ .single (.nothing negative)⟩
  | turnedAway cfd cls setup nonneg prepares vars trace =>
      exact ⟨_, trace, vars ▸ .single (.turnedAway cls nonneg prepares)⟩
  | unregistered cfd rc del cls setup i nonneg prepares slot failed vars trace =>
      exact ⟨_, trace, vars ▸ .single
        (.unregistered del cls nonneg prepares (freeSlot_eq_some slot) failed)⟩
  | admitted cfd rc setup i nonneg prepares slot added vars trace =>
      exact ⟨_, trace, vars ▸ .single
        (.admitted nonneg prepares (freeSlot_eq_some slot) added)⟩

/-! ## Runs -/

/-- The events of a poll, up to one of them. -/
theorem goes_pollEvents
    (S : Outside NetCall.Out τ) (fds : List Int) (m : TcpState τ) :
    Goes m (pollEvents S fds (callOut S (.epollWait (droneMaxClients + 1)) m).2).2 := by
  have hwait : Goes m (callOut S (.epollWait (droneMaxClients + 1)) m).2 :=
    .single (.quiet (Or.inr ⟨_, _, rfl⟩))
  exact hwait.trans (pollEvents_rule .refl .trans (goes_acceptClient S)
    (fun _ _ m i _ => goes_recvClient S i m) _)

/-- **Any run of the server is a chain of moves.** -/
theorem goes_serverRun
    (S : Outside NetCall.Out τ) (ops : List ServerOp) (m : TcpState τ) :
    Goes m (serverRun S m ops) := by
  induction ops generalizing m with
  | nil =>
      exact .refl m
  | cons op ops ih =>
      cases op with
      | poll =>
          exact (goes_pollEvents S _ m).trans (ih _)
      | closeClient fd =>
          exact (goes_closeClient S fd m).trans (ih _)

/-- So is a run that is interrupted between two events of a poll. -/
theorem goes_reached
    {m₀ m : TcpState τ}
    (h : Reached S m₀ m) :
    Goes m₀ m := by
  cases h with
  | call ops =>
      exact goes_serverRun S ops m₀
  | event ops _ =>
      exact (goes_serverRun S ops m₀).trans (goes_pollEvents S _ _)

end Steps

end Tcp
end PsdkBridge
