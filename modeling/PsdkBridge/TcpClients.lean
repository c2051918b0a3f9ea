import PsdkBridge.TcpReceive

/-!
# The table of clients

`client_count` is kept beside the table.  `alloc_client` and `free_client` change
both, and they agree as long as `free_client` is given a slot with a client.

`acceptClient_cases` says everything `accept_client` can do.  `Steady` is what a
poll preserves: the difference between the number of clients and `client_count`.
`counted_iff` is about whole runs of a server.  The one thing that breaks the
count is `tcp_server_close_client` with the descriptor -1, which `find_client`
finds in the first free slot.
-/

namespace PsdkBridge
namespace Tcp

/-! ## Lookups -/

section Lookups

variable {srv : TcpServer} {fd : Int} {i : Slot}

theorem findClient_eq_some
    (h : findClient srv fd = some i) :
    (srv.clients i).fd = fd := by
  have := List.find?_some h
  simpa using this

theorem freeSlot_eq_some
    (h : freeSlot srv = some i) :
    (srv.clients i).fd < 0 := by
  have := List.find?_some h
  simpa using this

theorem findClient_eq_none
    (h : findClient srv fd = none) :
    ∀ j, (srv.clients j).fd ≠ fd := by
  intro j
  have := List.find?_eq_none.mp h j (List.mem_finRange j)
  simpa using this

end Lookups

/-! ## Accepting -/

section Accept

variable {τ : Type} (S : Outside NetCall.Out τ)

/-- A call that prepares the descriptor of a new client. -/
def IsSetup (fd : Int) (e : NetEvent) : Prop :=
  (∃ r, e = ⟨.getFlags fd, r⟩) ∨ (∃ flags r, e = ⟨.setNonblock fd flags, r⟩) ∨
    ∃ r, e = ⟨.setNodelay fd, r⟩

/-- What `accept_client` did: there was no connection, it was turned away, it
could not be registered, or it is a client now. -/
inductive Accepts (m r : TcpState τ) : Prop
  | nothing
      (cfd : Int)
      (negative : cfd < 0)
      (vars : r.vars = m.vars)
      (trace : r.trace = m.trace ++ [⟨.accept m.vars.srv.listenFd, cfd⟩])
  | turnedAway
      (cfd cls : Int) (setup : List NetEvent)
      (nonneg : 0 ≤ cfd)
      (prepares : ∀ e ∈ setup, IsSetup cfd e)
      (vars : r.vars = m.vars)
      (trace : r.trace =
        m.trace ++ (⟨.accept m.vars.srv.listenFd, cfd⟩ :: setup ++ [⟨.close cfd, cls⟩]))
  | unregistered
      (cfd rc del cls : Int) (setup : List NetEvent) (i : Slot)
      (nonneg : 0 ≤ cfd)
      (prepares : ∀ e ∈ setup, IsSetup cfd e)
      (slot : freeSlot m.vars.srv = some i)
      (failed : rc < 0)
      (vars : r.vars = (m.vars.occupy i cfd).release i)
      (trace : r.trace =
        m.trace ++ (⟨.accept m.vars.srv.listenFd, cfd⟩ :: setup ++
          ⟨.epollCtlAdd cfd, rc⟩ :: freeEvents cfd del cls))
  | admitted
      (cfd rc : Int) (setup : List NetEvent) (i : Slot)
      (nonneg : 0 ≤ cfd)
      (prepares : ∀ e ∈ setup, IsSetup cfd e)
      (slot : freeSlot m.vars.srv = some i)
      (added : 0 ≤ rc)
      (vars : r.vars = m.vars.occupy i cfd)
      (trace : r.trace =
        m.trace ++ (⟨.accept m.vars.srv.listenFd, cfd⟩ :: setup ++
          [⟨.epollCtlAdd cfd, rc⟩]))

theorem emits_setNonblock
    (fd : Int) :
    Emits (IsSetup fd) (setNonblock S fd : TcpM τ Int) := by
  unfold setNonblock
  refine emits_bind (emits_callOut S (fun r => Or.inl ⟨r, rfl⟩)) (fun flags => ?_)
  refine emits_ite (emits_pure _) ?_
  exact emits_bind (emits_callOut S (fun r => Or.inr (Or.inl ⟨flags, r, rfl⟩)))
    (fun _ => emits_pure _)

/-- The calls between `accept` and `alloc_client`. -/
def prepareClient (cfd : Int) : TcpM τ Unit := do
  let _ ← setNonblock S cfd
  let _ ← callOut S (.setNodelay cfd)

theorem emits_prepareClient
    (cfd : Int) :
    Emits (IsSetup cfd) (prepareClient S cfd) := by
  unfold prepareClient
  refine emits_bind (emits_setNonblock S cfd) (fun _ => ?_)
  exact emits_bind (emits_callOut S (fun r => Or.inr (Or.inr ⟨r, rfl⟩)))
    (fun _ => emits_pure _)

/-- The part of `accept_client` behind the preparation. -/
def admitClient (cfd : Int) : TcpM τ Unit := do
  let c ← allocClient cfd
  match c with
  | none =>
      let _ ← callOut S (.close cfd)
  | some i => registerClient S cfd i

/-- `accept_client` for a connection below the limit. -/
theorem acceptClient_below
    (m : TcpState τ)
    (hcfd : ¬ (S (.accept m.vars.srv.listenFd) m.outside).1 < 0)
    (hcount : ¬ m.vars.srv.clientCount ≥ droneMaxClients) :
    acceptClient S m =
      (do
        prepareClient S (S (.accept m.vars.srv.listenFd) m.outside).1
        admitClient S (S (.accept m.vars.srv.listenFd) m.outside).1)
      (callOut S (.accept m.vars.srv.listenFd) m).2 := by
  rw [acceptClient, run_readVars_bind, run_bind, run_callOut]
  simp only [hcfd, hcount, if_false]
  rfl

/-- The end of `accept_client` behind the preparation. -/
theorem admitClient_cases
    {cfd : Int} {setup : List NetEvent} {m m₁ : TcpState τ}
    (hcfd : 0 ≤ cfd)
    (hsetup : ∀ e ∈ setup, IsSetup cfd e)
    (hvars : m₁.vars = m.vars)
    (htrace : m₁.trace = m.trace ++ (⟨.accept m.vars.srv.listenFd, cfd⟩ :: setup)) :
    Accepts m (admitClient S cfd m₁).2 := by
  cases hslot : freeSlot m.vars.srv with
  | none =>
      have hrun : (admitClient S cfd m₁).2 = (callOut S (.close cfd) m₁).2 := by
        simp only [admitClient, allocClient, run_bind, run_readVars, hvars, hslot, run_pure]
      rw [hrun]
      refine .turnedAway cfd (S (.close cfd) m₁.outside).1 setup hcfd hsetup hvars ?_
      rw [run_callOut, htrace, List.append_assoc]
  | some i =>
      have hrun : (admitClient S cfd m₁).2 =
          (registerClient S cfd i { m₁ with vars := m.vars.occupy i cfd }).2 := by
        simp only [admitClient, allocClient, run_bind, run_readVars, hvars, hslot,
          run_modifyVars, run_pure]
      have hadd : m₁.trace ++ [⟨.epollCtlAdd cfd, (S (.epollCtlAdd cfd) m₁.outside).1⟩] =
          m.trace ++ (⟨.accept m.vars.srv.listenFd, cfd⟩ :: setup ++
            [⟨.epollCtlAdd cfd, (S (.epollCtlAdd cfd) m₁.outside).1⟩]) := by
        rw [htrace, List.append_assoc]
      rw [hrun]
      simp only [registerClient, run_bind, run_callOut]
      by_cases hrc : (S (.epollCtlAdd cfd) m₁.outside).1 < 0
      · rw [if_pos hrc]
        obtain ⟨del, cls, hvars', htrace'⟩ := freeClient_run S i
          { m₁ with
            outside := (S (.epollCtlAdd cfd) m₁.outside).2
            vars := m.vars.occupy i cfd
            trace := m₁.trace ++
              [⟨.epollCtlAdd cfd, (S (.epollCtlAdd cfd) m₁.outside).1⟩] }
        refine .unregistered cfd _ del cls setup i hcfd hsetup hslot hrc hvars' ?_
        have hfd : ((m.vars.occupy i cfd).srv.clients i).fd = cfd := by
          simp [TcpVars.occupy, Client.occupied]
        rw [htrace', hadd, hfd]
        simp
      · rw [if_neg hrc]
        exact .admitted cfd _ setup i hcfd hsetup hslot (not_lt.mp hrc) rfl hadd

/-- **Everything `accept_client` can do.** -/
theorem acceptClient_cases
    (m : TcpState τ) :
    Accepts m (acceptClient S m).2 := by
  by_cases hcfd : (S (.accept m.vars.srv.listenFd) m.outside).1 < 0
  · have hrun : (acceptClient S m).2 = (callOut S (.accept m.vars.srv.listenFd) m).2 := by
      rw [acceptClient, run_readVars_bind, run_bind, run_callOut]
      simp only [hcfd, if_true, run_pure]
    rw [hrun]
    exact .nothing _ hcfd rfl rfl
  · by_cases hcount : m.vars.srv.clientCount ≥ droneMaxClients
    · have hrun : (acceptClient S m).2 =
          (callOut S (.close (S (.accept m.vars.srv.listenFd) m.outside).1)
            (callOut S (.accept m.vars.srv.listenFd) m).2).2 := by
        rw [acceptClient, run_readVars_bind, run_bind, run_callOut]
        simp only [hcfd, hcount, if_false, if_true, run_bind, run_callOut, run_pure]
      rw [hrun, run_callOut]
      refine .turnedAway (S (.accept m.vars.srv.listenFd) m.outside).1
        (S (.close (S (.accept m.vars.srv.listenFd) m.outside).1)
          (S (.accept m.vars.srv.listenFd) m.outside).2).1 []
        (not_lt.mp hcfd) (by simp) rfl ?_
      simp only [run_callOut, List.append_assoc, List.cons_append, List.nil_append]
    · rw [acceptClient_below S m hcfd hcount, run_bind]
      obtain ⟨hvars, setup, htrace, hsetup⟩ := emits_prepareClient S
        (S (.accept m.vars.srv.listenFd) m.outside).1
        (callOut S (.accept m.vars.srv.listenFd) m).2
      refine admitClient_cases S (not_lt.mp hcfd) hsetup hvars ?_
      rw [htrace, run_callOut, List.append_assoc]
      rfl

end Accept

/-! ## Counting -/

/-- The slots with a client. -/
def liveSlots (srv : TcpServer) : Finset Slot :=
  Finset.univ.filter (fun i => 0 ≤ (srv.clients i).fd)

/-- `client_count` is the number of clients. -/
def Counted (srv : TcpServer) : Prop :=
  srv.clientCount = (liveSlots srv).card

/-- By how much the number of clients exceeds `client_count`. -/
def surplus (srv : TcpServer) : Int :=
  (liveSlots srv).card - srv.clientCount

/-- A slot without a client has the descriptor -1. -/
def Marked (srv : TcpServer) : Prop :=
  ∀ i, -1 ≤ (srv.clients i).fd

theorem counted_iff_surplus
    (srv : TcpServer) :
    Counted srv ↔ surplus srv = 0 := by
  rw [Counted, surplus, sub_eq_zero]
  exact eq_comm

section Tables

variable {v : TcpVars} {i : Slot}

theorem mem_liveSlots
    {srv : TcpServer} :
    i ∈ liveSlots srv ↔ 0 ≤ (srv.clients i).fd := by
  rw [liveSlots, Finset.mem_filter]
  exact and_iff_right (Finset.mem_univ i)

theorem surplus_setClient
    {c : Client}
    (h : c.fd = (v.srv.clients i).fd) :
    surplus (v.setClient i c).srv = surplus v.srv := by
  have hlive : liveSlots (v.setClient i c).srv = liveSlots v.srv := by
    ext j
    by_cases hj : j = i
    · subst hj
      simp [mem_liveSlots, h]
    · simp [mem_liveSlots, hj]
  rw [surplus, hlive, TcpVars.setClient_clientCount]
  rfl

theorem surplus_occupy
    {fd : Int}
    (hfree : (v.srv.clients i).fd < 0)
    (hfd : 0 ≤ fd) :
    surplus (v.occupy i fd).srv = surplus v.srv := by
  have hlive : liveSlots (v.occupy i fd).srv = insert i (liveSlots v.srv) := by
    ext j
    by_cases hj : j = i
    · subst hj
      simp [mem_liveSlots, hfd]
    · simp [mem_liveSlots, hj]
  have hmem : i ∉ liveSlots v.srv := by
    simpa [mem_liveSlots] using hfree
  rw [surplus, hlive, Finset.card_insert_of_notMem hmem, surplus, TcpVars.occupy_clientCount]
  push_cast
  ring

/-- The slots with a client behind `free_client`. -/
theorem liveSlots_release :
    liveSlots (v.release i).srv = (liveSlots v.srv).erase i := by
  ext j
  by_cases hj : j = i
  · subst hj
    simp [mem_liveSlots]
  · simp [mem_liveSlots, hj]

/-- `free_client` on a slot with a client keeps the count. -/
theorem surplus_release
    (h : 0 ≤ (v.srv.clients i).fd) :
    surplus (v.release i).srv = surplus v.srv := by
  have hcard := Finset.card_erase_add_one (mem_liveSlots.mpr h)
  rw [surplus, liveSlots_release, surplus, ← hcard, TcpVars.release_clientCount]
  push_cast
  ring

/-- `free_client` on a free slot does not. -/
theorem surplus_release_free
    (h : (v.srv.clients i).fd < 0) :
    surplus (v.release i).srv = surplus v.srv + 1 := by
  have hmem : i ∉ liveSlots v.srv := by
    simpa [mem_liveSlots] using h
  rw [surplus, liveSlots_release, Finset.erase_eq_of_notMem hmem, surplus,
    TcpVars.release_clientCount]
  ring

theorem marked_update
    {srv : TcpServer} {c : Client} {n : Int}
    (h : Marked srv)
    (hc : -1 ≤ c.fd) :
    Marked { srv with clients := Function.update srv.clients i c, clientCount := n } := by
  intro j
  by_cases hj : j = i
  · subst hj
    simpa using hc
  · simpa [hj] using h j

end Tables

section Steps

variable {τ : Type} {S : Outside NetCall.Out τ}

/-- What the server relies on: events are about registered descriptors, and a
callback closes neither the client it serves nor the descriptor -1. -/
structure Contract (S : Outside NetCall.Out τ) : Prop where
  events : ∀ n t, ∀ fd ∈ (S (.epollWait n) t).1, fd ≠ -1
  callback : ∀ fd line len t fd',
    CallbackAction.closeClient fd' ∈ (S (.onMessage fd line len) t).1.actions →
      fd' ≠ fd ∧ fd' ≠ -1

/-- A step that keeps the surplus and the marks of the free slots. -/
structure Steady (m m' : TcpState τ) : Prop where
  surplus : surplus m'.vars.srv = surplus m.vars.srv
  marked : Marked m'.vars.srv

namespace Steady

theorem refl
    {m m' : TcpState τ}
    (hm : Marked m.vars.srv)
    (hvars : m'.vars = m.vars) :
    Steady m m' :=
  ⟨by rw [hvars], by rwa [hvars]⟩

theorem trans
    {m₁ m₂ m₃ : TcpState τ}
    (h : Steady m₁ m₂)
    (h' : Steady m₂ m₃) :
    Steady m₁ m₃ :=
  ⟨h'.surplus.trans h.surplus, h'.marked⟩

theorem setClient
    {i : Slot} {c : Client} {m m' : TcpState τ}
    (hm : Marked m.vars.srv)
    (hfd : c.fd = (m.vars.srv.clients i).fd)
    (hvars : m'.vars = m.vars.setClient i c) :
    Steady m m' := by
  refine ⟨by rw [hvars, surplus_setClient hfd], ?_⟩
  rw [hvars]
  exact marked_update hm (hfd ▸ hm i)

theorem release
    {i : Slot} {m m' : TcpState τ}
    (hm : Marked m.vars.srv)
    (hlive : 0 ≤ (m.vars.srv.clients i).fd)
    (hvars : m'.vars = m.vars.release i) :
    Steady m m' := by
  refine ⟨by rw [hvars, surplus_release hlive], ?_⟩
  rw [hvars]
  exact marked_update hm (by simp)

theorem occupy
    {i : Slot} {fd : Int} {m m' : TcpState τ}
    (hm : Marked m.vars.srv)
    (hfree : (m.vars.srv.clients i).fd < 0)
    (hfd : 0 ≤ fd)
    (hvars : m'.vars = m.vars.occupy i fd) :
    Steady m m' := by
  refine ⟨by rw [hvars, surplus_occupy hfree hfd], ?_⟩
  rw [hvars]
  exact marked_update hm (show -1 ≤ fd by omega)

end Steady

theorem steady_freeClient
    {i : Slot} {m : TcpState τ}
    (hm : Marked m.vars.srv)
    (hlive : 0 ≤ (m.vars.srv.clients i).fd) :
    Steady m (freeClient S i m).2 := by
  obtain ⟨del, cls, hvars, _⟩ := freeClient_run S i m
  exact .release hm hlive hvars

theorem steady_acceptClient
    {m : TcpState τ}
    (hm : Marked m.vars.srv) :
    Steady m (acceptClient S m).2 := by
  cases acceptClient_cases S m with
  | nothing cfd negative vars trace =>
      exact .refl hm vars
  | turnedAway cfd cls setup nonneg prepares vars trace =>
      exact .refl hm vars
  | unregistered cfd rc del cls setup i nonneg prepares slot failed vars trace =>
      have hocc : Steady m { m with vars := m.vars.occupy i cfd } :=
        .occupy hm (freeSlot_eq_some slot) nonneg rfl
      exact hocc.trans (.release hocc.marked (by simpa using nonneg) vars)
  | admitted cfd rc setup i nonneg prepares slot added vars trace =>
      exact .occupy hm (freeSlot_eq_some slot) nonneg vars

/-! ## Closing -/

/-- Closing a client by its descriptor leaves the other slots alone. -/
theorem steady_closeClient
    {fd : Int} {m : TcpState τ}
    (hm : Marked m.vars.srv)
    (hfd : fd ≠ -1) :
    Steady m (tcpServerCloseClient S fd m).2 ∧
      ∀ j, (m.vars.srv.clients j).fd ≠ fd →
        (tcpServerCloseClient S fd m).2.vars.srv.clients j = m.vars.srv.clients j := by
  rw [tcpServerCloseClient, run_readVars_bind]
  cases hfind : findClient m.vars.srv fd with
  | none =>
      exact ⟨.refl hm rfl, fun j _ => rfl⟩
  | some i =>
      have hslot := findClient_eq_some hfind
      have hlive : 0 ≤ (m.vars.srv.clients i).fd := by
        have := hm i
        omega
      obtain ⟨del, cls, hvars, _⟩ := freeClient_run S i m
      refine ⟨.release hm hlive hvars, fun j hj => ?_⟩
      have hne : j ≠ i := by
        rintro rfl
        exact hj hslot
      show (freeClient S i m).2.vars.srv.clients j = _
      rw [hvars, TcpVars.release_clients_of_ne _ _ hne]

/-- What a callback does on behalf of one client leaves its slot alone. -/
theorem steady_perform
    {i : Slot} {as : List CallbackAction} {m : TcpState τ}
    (hm : Marked m.vars.srv)
    (has : ∀ fd, CallbackAction.closeClient fd ∈ as →
      fd ≠ (m.vars.srv.clients i).fd ∧ fd ≠ -1) :
    Steady m (perform S as m).2 ∧
      (perform S as m).2.vars.srv.clients i = m.vars.srv.clients i := by
  induction as generalizing m with
  | nil =>
      exact ⟨.refl hm rfl, rfl⟩
  | cons a as ih =>
      have has' := fun fd h => has fd (List.mem_cons_of_mem a h)
      cases a with
      | send fd msg =>
          have hvars := (emits_tcpServerSend S fd msg m).1
          obtain ⟨hsteady, hslot⟩ := ih (m := (tcpServerSend S fd msg m).2)
            (by rwa [hvars]) (by rwa [hvars])
          refine ⟨(Steady.refl hm hvars).trans hsteady, ?_⟩
          rw [hvars] at hslot
          exact hslot
      | closeClient fd =>
          obtain ⟨hown, hfd⟩ := has fd List.mem_cons_self
          obtain ⟨hclose, hothers⟩ := steady_closeClient (S := S) hm hfd
          have hkept := hothers i hown.symm
          obtain ⟨hsteady, hslot⟩ := ih hclose.marked (by rwa [hkept])
          exact ⟨hclose.trans hsteady, hslot.trans hkept⟩

/-! ## Receiving -/

theorem Client.terminate_fd
    (c : Client) (off k : Nat) :
    (c.terminate off k).1.fd = c.fd := by
  rw [Client.terminate]
  split_ifs
  · rfl
  · rfl

/-- The reading loop keeps the client, or frees it. -/
theorem steady_fillLoop
    {i : Slot} {m : TcpState τ}
    (hm : Marked m.vars.srv)
    (hlive : 0 ≤ (m.vars.srv.clients i).fd) :
    Steady m (fillLoop S i (m.vars.srv.clients i) m).2 ∧
      ((fillLoop S i (m.vars.srv.clients i) m).1 = true →
        0 ≤ ((fillLoop S i (m.vars.srv.clients i) m).2.vars.srv.clients i).fd) := by
  obtain ⟨ds, evs, c', hfill | hfill⟩ := fillLoop_cases S i _ m rfl
  · refine ⟨.setClient hm hfill.fd hfill.vars, fun _ => ?_⟩
    rw [hfill.vars, TcpVars.setClient_clients_self, hfill.fd]
    exact hlive
  · have hset : Steady m { m with vars := m.vars.setClient i c' } :=
      .setClient hm hfill.fd rfl
    refine ⟨hset.trans (.release hset.marked ?_ hfill.vars), fun h => ?_⟩
    · rw [TcpVars.setClient_clients_self, hfill.fd]
      exact hlive
    · rw [hfill.ret] at h
      cases h

/-- A round of the loop over the lines, if the rounds behind it are steady. -/
theorem steady_deliverLine
    (hS : Contract S)
    {i : Slot} {off k len : Nat} {c : Client} {m : TcpState τ}
    (hm : Marked m.vars.srv)
    (hc : m.vars.srv.clients i = c)
    (hlive : 0 ≤ c.fd)
    (hnext : ∀ m' : TcpState τ, Marked m'.vars.srv → 0 ≤ (m'.vars.srv.clients i).fd →
      Steady m' (scanLoop S i (off + k + 1) m').2) :
    Steady m (deliverLine S i off k c len m).2 := by
  rw [deliverLine]
  by_cases hlen : 0 < len
  · rw [if_pos hlen, run_bind, run_callOut, run_bind]
    have hcall := hS.callback c.fd ((c.buf.drop off).take len) len m.outside
    rcases hcb : S (.onMessage c.fd ((c.buf.drop off).take len) len) m.outside with ⟨cb, t⟩
    rw [hcb, ← hc] at hcall
    obtain ⟨hsteady, hslot⟩ := steady_perform (S := S) (i := i)
      (m := { m with
        outside := t
        trace := m.trace ++ [⟨.onMessage c.fd ((c.buf.drop off).take len) len, cb⟩] })
      hm hcall
    have hstart : Steady m _ := ⟨hsteady.surplus, hsteady.marked⟩
    have hlive' := hlive
    rw [← hc, ← hslot] at hlive'
    rw [run_ite]
    split_ifs
    · exact hstart.trans (steady_freeClient hsteady.marked hlive')
    · exact hstart.trans (hnext _ hsteady.marked hlive')
  · rw [if_neg hlen]
    exact hnext m hm (by rwa [hc])

/-- The loop over the lines, whatever the callback does within its contract. -/
theorem steady_scanLoop
    (hS : Contract S)
    {i : Slot} {off : Nat} {m : TcpState τ}
    (hm : Marked m.vars.srv)
    (hlive : 0 ≤ (m.vars.srv.clients i).fd) :
    Steady m (scanLoop S i off m).2 := by
  induction off, m using scanLoop_induction (i := i) with
  | wrapped off m hoff =>
      rw [scanLoop_wrapped S i m hoff, run_modifyVars]
      exact ⟨rfl, hm⟩
  | last off m hoff hk =>
      rw [scanLoop_last S i m hoff hk, run_modifyVars]
      exact .setClient (c := (m.vars.srv.clients i).shift off) hm rfl rfl
  | line off m k hoff hk ih =>
      rw [scanLoop_line S i m hoff hk, run_bind, run_modifyVars]
      have hfd := (m.vars.srv.clients i).terminate_fd off k
      have hset : Steady m { m with
          vars := m.vars.setClient i ((m.vars.srv.clients i).terminate off k).1 } :=
        .setClient hm hfd rfl
      exact hset.trans (steady_deliverLine hS hset.marked (by simp) (hfd ▸ hlive)
        (fun m' hm' hlive' => ih m' hm' hlive'))

theorem steady_recvClient
    (hS : Contract S)
    {i : Slot} {m : TcpState τ}
    (hm : Marked m.vars.srv)
    (hlive : 0 ≤ (m.vars.srv.clients i).fd) :
    Steady m (recvClient S i m).2 := by
  rw [recvClient, run_readVars_bind, run_bind]
  obtain ⟨hsteady, hopen⟩ := steady_fillLoop (S := S) hm hlive
  generalize fillLoop S i (m.vars.srv.clients i) m = r at hsteady hopen
  obtain ⟨more, m₁⟩ := r
  cases more with
  | false =>
      exact hsteady
  | true =>
      rw [if_pos rfl, run_readVars_bind, run_bind, run_modifyVars]
      have hset : Steady m₁ { m₁ with
          vars := m₁.vars.setClient i
            ((m₁.vars.srv.clients i).poke (m₁.vars.srv.clients i).bufLen 0) } :=
        .setClient (i := i) hsteady.marked
          (show (Client.poke _ _ 0).fd = (m₁.vars.srv.clients i).fd from rfl) rfl
      refine (hsteady.trans hset).trans (steady_scanLoop hS hset.marked ?_)
      rw [TcpVars.setClient_clients_self]
      exact hopen rfl

/-! ## Polls -/

/-- What accepting and receiving do to a server, the handling of many events
does. -/
theorem pollEvents_rule
    {R : TcpState τ → TcpState τ → Prop}
    (hrefl : ∀ m, R m m)
    (htrans : ∀ {m₁ m₂ m₃}, R m₁ m₂ → R m₂ m₃ → R m₁ m₃)
    (haccept : ∀ m, R m (acceptClient S m).2)
    {fds : List Int}
    (hrecv : ∀ fd ∈ fds, ∀ m i, findClient m.vars.srv fd = some i →
      R m (recvClient S i m).2)
    (m : TcpState τ) :
    R m (pollEvents S fds m).2 := by
  induction fds generalizing m with
  | nil =>
      exact hrefl m
  | cons fd fds ih =>
      obtain ⟨hfd, hfds⟩ := List.forall_mem_cons.mp hrecv
      rw [pollEvents, run_readVars_bind]
      by_cases hlisten : fd = m.vars.srv.listenFd
      · rw [if_pos hlisten, run_bind]
        exact htrans (haccept m) (ih hfds _)
      · rw [if_neg hlisten]
        cases hfind : findClient m.vars.srv fd with
        | none =>
            exact ih hfds m
        | some i =>
            exact htrans (hfd m i hfind) (ih hfds _)

theorem steady_pollEvents
    (hS : Contract S)
    {fds : List Int} {m : TcpState τ}
    (hfds : ∀ fd ∈ fds, fd ≠ -1)
    (hm : Marked m.vars.srv) :
    Steady m (pollEvents S fds m).2 := by
  refine pollEvents_rule (R := fun m m' => Marked m.vars.srv → Steady m m')
    (fun m hm => .refl hm rfl) (fun h h' hm => (h hm).trans (h' (h hm).marked))
    (fun m hm => steady_acceptClient hm) (fun fd hfd m i hfind hm => ?_) m hm
  have hlive : 0 ≤ (m.vars.srv.clients i).fd := by
    have := hm i
    have := hfds fd hfd
    have := findClient_eq_some hfind
    omega
  exact steady_recvClient hS hm hlive

/-- **A poll keeps the surplus**, whatever the kernel reports. -/
theorem steady_tcpServerPoll
    (hS : Contract S)
    {m : TcpState τ}
    (hm : Marked m.vars.srv) :
    Steady m (tcpServerPoll S m).2 := by
  rw [tcpServerPoll, run_bind, run_callOut]
  have hpoll := steady_pollEvents hS
    (m := { m with
      outside := (S (.epollWait (droneMaxClients + 1)) m.outside).2
      trace := m.trace ++ [⟨.epollWait (droneMaxClients + 1),
        (S (.epollWait (droneMaxClients + 1)) m.outside).1⟩] })
    (hS.events (droneMaxClients + 1) m.outside) hm
  exact ⟨hpoll.surplus, hpoll.marked⟩

end Steps

/-! ## Runs of a server -/

section Runs

variable {τ : Type} (S : Outside NetCall.Out τ)

/-- What the owner of a server does with it. -/
inductive ServerOp where
  | poll
  | closeClient (fd : Int)

/-- One call of the owner. -/
def serverStep (m : TcpState τ) : ServerOp → TcpState τ
  | .poll => (tcpServerPoll S m).2
  | .closeClient fd => (tcpServerCloseClient S fd m).2

/-- The calls of the owner. -/
def serverRun (m : TcpState τ) (ops : List ServerOp) : TcpState τ :=
  ops.foldl (serverStep S) m

variable {S} in
/-- What the steps of a poll do to a server, successive polls do. -/
theorem polls_rule
    {R : TcpState τ → TcpState τ → Prop}
    (hrefl : ∀ m, R m m)
    (htrans : ∀ {m₁ m₂ m₃}, R m₁ m₂ → R m₂ m₃ → R m₁ m₃)
    (hwait : ∀ m, R m (callOut S (.epollWait (droneMaxClients + 1)) m).2)
    (haccept : ∀ m, R m (acceptClient S m).2)
    (hrecv : ∀ m i, R m (recvClient S i m).2)
    (m : TcpState τ) (n : Nat) :
    R m (serverRun S m (List.replicate n .poll)) := by
  induction n generalizing m with
  | zero =>
      exact hrefl m
  | succ n ih =>
      have hpoll : R m (tcpServerPoll S m).2 :=
        htrans (hwait m)
          (pollEvents_rule hrefl htrans haccept (fun _ _ m i _ => hrecv m i) _)
      exact htrans hpoll (ih _)

/-- The state behind a `tcp_server_create` that returned the server. -/
def started (srv : TcpServer) (m : Machine NetCall.Out τ Unit) : TcpState τ where
  outside := m.outside
  vars := { srv := srv, wrapped := false }
  trace := m.trace

/-- The call asks for the descriptor -1 while some slot is free. -/
def Stray (srv : TcpServer) (op : ServerOp) : Prop :=
  op = .closeClient (-1) ∧ ∃ i, (srv.clients i).fd < 0

theorem listenAt_created
    {listenFd : Int} {bindIp : Bytes} {port : UInt16} {m : Machine NetCall.Out τ Unit}
    {srv : TcpServer}
    (h : (listenAt S listenFd bindIp port m).1 = some srv) :
    ∃ epollFd, srv = TcpServer.created listenFd epollFd := by
  simp only [listenAt, abandonServer, run_bind, run_ite, run_callOut, run_pure] at h
  split_ifs at h
  exact ⟨_, (Option.some.inj h).symm⟩

/-- A server that was created has no clients. -/
theorem tcpServerCreate_created
    {bindIp : Bytes} {port : UInt16} {m : Machine NetCall.Out τ Unit} {srv : TcpServer}
    (h : (tcpServerCreate S bindIp port m).1 = some srv) :
    ∃ listenFd epollFd, srv = TcpServer.created listenFd epollFd := by
  simp only [tcpServerCreate, abandonServer, run_bind, run_ite, run_callOut, run_pure] at h
  split_ifs at h
  · exact ⟨_, listenAt_created S h⟩
  · exact ⟨_, listenAt_created S h⟩

theorem surplus_created
    (listenFd epollFd : Int) :
    surplus (TcpServer.created listenFd epollFd) = 0 := by
  have hlive : liveSlots (TcpServer.created listenFd epollFd) = ∅ := by
    ext i
    simp [mem_liveSlots, TcpServer.created, Client.fresh]
  rw [surplus, hlive]
  rfl

theorem marked_created
    (listenFd epollFd : Int) :
    Marked (TcpServer.created listenFd epollFd) :=
  fun _ => le_rfl

variable {S}

/-- A call that is not a stray one keeps the surplus. -/
theorem steady_serverStep
    (hS : Contract S)
    {m : TcpState τ} {op : ServerOp}
    (hm : Marked m.vars.srv)
    (hop : ¬ Stray m.vars.srv op) :
    Steady m (serverStep S m op) := by
  cases op with
  | poll =>
      exact steady_tcpServerPoll hS hm
  | closeClient fd =>
      by_cases hfd : fd = -1
      · subst hfd
        have hnone : findClient m.vars.srv (-1) = none := by
          cases hfind : findClient m.vars.srv (-1) with
          | none =>
              rfl
          | some i =>
              have := findClient_eq_some hfind
              exact absurd ⟨rfl, i, by omega⟩ hop
        refine .refl hm ?_
        show (tcpServerCloseClient S (-1) m).2.vars = m.vars
        rw [tcpServerCloseClient, run_readVars_bind, hnone]
        rfl
      · exact (steady_closeClient hm hfd).1

/-- A stray call counts a client less than there are. -/
theorem stray_serverStep
    {m : TcpState τ} {op : ServerOp}
    (hm : Marked m.vars.srv)
    (hop : Stray m.vars.srv op) :
    surplus (serverStep S m op).vars.srv = surplus m.vars.srv + 1 ∧
      Marked (serverStep S m op).vars.srv := by
  obtain ⟨rfl, j, hj⟩ := hop
  cases hfind : findClient m.vars.srv (-1) with
  | none =>
      have := hm j
      exact absurd (by omega) (findClient_eq_none hfind j)
  | some i =>
      have hslot := findClient_eq_some hfind
      obtain ⟨del, cls, hvars, _⟩ := freeClient_run S i m
      have hstep : serverStep S m (.closeClient (-1)) = (freeClient S i m).2 := by
        show (tcpServerCloseClient S (-1) m).2 = _
        rw [tcpServerCloseClient, run_readVars_bind, hfind]
      rw [hstep, hvars]
      exact ⟨surplus_release_free (by omega), marked_update hm (by simp)⟩

theorem marked_serverRun
    (hS : Contract S)
    {m : TcpState τ}
    (hm : Marked m.vars.srv)
    (ops : List ServerOp) :
    Marked (serverRun S m ops).vars.srv := by
  induction ops using List.reverseRecOn with
  | nil =>
      exact hm
  | append_singleton ops op ih =>
      rw [serverRun, List.foldl_concat]
      by_cases hop : Stray (serverRun S m ops).vars.srv op
      · exact (stray_serverStep ih hop).2
      · exact (steady_serverStep hS ih hop).marked

/-- A run without stray calls keeps the surplus. -/
theorem steady_serverRun
    (hS : Contract S)
    {m : TcpState τ} {ops : List ServerOp}
    (hm : Marked m.vars.srv)
    (hops : ∀ pre op, pre ++ [op] <+: ops → ¬ Stray (serverRun S m pre).vars.srv op) :
    Steady m (serverRun S m ops) := by
  induction ops using List.reverseRecOn with
  | nil =>
      exact .refl hm rfl
  | append_singleton ops op ih =>
      have hbefore := ih (fun pre op' h => hops pre op' (h.trans (List.prefix_append _ _)))
      rw [serverRun, List.foldl_concat]
      exact hbefore.trans
        (steady_serverStep hS hbefore.marked (hops ops op (List.prefix_refl _)))

/-- **`client_count` over whole runs.**  It is the number of clients in every
state that a run of a new server reaches, if and only if the run never asks for
the descriptor -1 while some slot is free. -/
theorem counted_iff
    (hS : Contract S)
    {bindIp : Bytes} {port : UInt16} {m₀ : Machine NetCall.Out τ Unit} {srv : TcpServer}
    (hcreate : (tcpServerCreate S bindIp port m₀).1 = some srv)
    (ops : List ServerOp) :
    let m := started srv (tcpServerCreate S bindIp port m₀).2
    (∀ pre, pre <+: ops → Counted (serverRun S m pre).vars.srv) ↔
      ∀ pre op, pre ++ [op] <+: ops → ¬ Stray (serverRun S m pre).vars.srv op := by
  intro m
  obtain ⟨listenFd, epollFd, rfl⟩ := tcpServerCreate_created S hcreate
  have hzero : surplus m.vars.srv = 0 := surplus_created listenFd epollFd
  have hmarked : Marked m.vars.srv := marked_created listenFd epollFd
  constructor
  · -- a stray call would make the count of two successive states differ
    intro hcounted pre op hpre hop
    have hbefore := hcounted pre ((List.prefix_append _ _).trans hpre)
    have hafter := hcounted (pre ++ [op]) hpre
    rw [serverRun, List.foldl_concat] at hafter
    rw [counted_iff_surplus] at hbefore hafter
    have hstray := (stray_serverStep (S := S) (marked_serverRun hS hmarked pre) hop).1
    change surplus (serverStep S (serverRun S m pre) op).vars.srv = 0 at hafter
    omega
  · intro hops pre hpre
    have hsteady := steady_serverRun hS hmarked
      (fun pre' op h => hops pre' op (h.trans hpre))
    rw [counted_iff_surplus, hsteady.surplus, hzero]

end Runs

theorem contract_scriptKernel :
    Contract scriptKernel where
  events := by
    rintro n t fd hfd rfl
    have hnonneg := (List.mem_filter.mp hfd).2
    exact absurd hnonneg (by decide)
  callback := by
    intro fd line len t fd' h
    cases h

/-- Two connections that come one after the other. -/
def twoVisits : NetScript where
  reports := [[3], [3]]
  accepts := [5, 6]
  reads := []
  writes := []

/-- A new server before the two connections. -/
def visitedServer : TcpState NetScript :=
  started (TcpServer.created 3 4)
    (tcpServerCreate scriptKernel [] 7000 (beforeCreate twoVisits)).2

theorem visitedServer_created :
    (tcpServerCreate scriptKernel [] 7000 (beforeCreate twoVisits)).1 =
      some (TcpServer.created 3 4) := by
  rfl

/-- Two clients come, and one of them is closed. -/
theorem counted_twoVisits :
    (serverRun scriptKernel visitedServer
        [.poll, .poll, .closeClient 5]).vars.srv.clientCount = 1 ∧
      ∀ pre, pre <+: [.poll, .poll, .closeClient 5] →
        Counted (serverRun scriptKernel visitedServer pre).vars.srv := by
  refine ⟨by decide +kernel,
    (counted_iff contract_scriptKernel visitedServer_created _).mpr ?_⟩
  rintro pre op hpre ⟨rfl, _⟩
  have hmem := hpre.subset (List.mem_append_right pre (List.mem_singleton_self _))
  simp at hmem

/-- Closing the descriptor -1 on a new server leaves it with -1 clients. -/
theorem closeClient_minusOne_miscounts :
    (tcpServerCreate scriptKernel [] 7000 (beforeCreate twoVisits)).1 =
        some (TcpServer.created 3 4) ∧
      (serverRun scriptKernel visitedServer
        [.closeClient (-1)]).vars.srv.clientCount = -1 ∧
      ¬ Counted (serverRun scriptKernel visitedServer [.closeClient (-1)]).vars.srv := by
  have hcount : (serverRun scriptKernel visitedServer
      [.closeClient (-1)]).vars.srv.clientCount = -1 := by
    decide +kernel
  refine ⟨visitedServer_created, hcount, ?_⟩
  rw [Counted, hcount]
  omega

end Tcp
end PsdkBridge
