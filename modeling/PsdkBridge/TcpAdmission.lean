import PsdkBridge.TcpIsolation

/-!
# Admission

`accept_client` has two guards: `client_count` and the search for a free slot.
`client_count` can be too small (`tcp_server_close_client` for the descriptor -1
finds a free slot and counts it), but never too large, so the search decides.

`Tidy` is what holds between the events of a poll, whatever the kernel reports
and whatever a callback closes: free slots carry -1, `client_count` does not
exceed the number of clients, and no two clients share a descriptor.
`admission_of_reached` is about the next connection in every state that a server
reaches.
-/

namespace PsdkBridge
namespace Tcp

/-- What holds of the variables and the record between two events, for any
callback. -/
structure Tidy (v : TcpVars) (evs : List NetEvent) : Prop where
  marked : Marked v.srv
  surplus : 0 ≤ surplus v.srv
  distinct : ∀ i j, 0 ≤ (v.srv.clients i).fd →
    (v.srv.clients j).fd = (v.srv.clients i).fd → j = i
  isOpen : ∀ i, 0 ≤ (v.srv.clients i).fd → (v.srv.clients i).fd ∈ opened evs

theorem tidy_created
    (listenFd epollFd : Int) :
    Tidy { srv := TcpServer.created listenFd epollFd, wrapped := false } [] where
  marked := marked_created listenFd epollFd
  surplus := (surplus_created listenFd epollFd).ge
  distinct := fun _ _ h => absurd h (by simp [TcpServer.created, Client.fresh])
  isOpen := fun _ h => absurd h (by simp [TcpServer.created, Client.fresh])

section Updates

variable {v : TcpVars} {evs evs' : List NetEvent} {i : Slot}

/-- Events that neither open nor close a descriptor. -/
theorem Tidy.of_opened
    (h : Tidy v evs)
    (hopened : opened evs' = opened evs) :
    Tidy v evs' where
  marked := h.marked
  surplus := h.surplus
  distinct := h.distinct
  isOpen := fun i hi => by
    rw [hopened]
    exact h.isOpen i hi

/-- A client is overwritten, under its descriptor. -/
theorem Tidy.setClient
    {c : Client}
    (h : Tidy v evs)
    (hfd : c.fd = (v.srv.clients i).fd) :
    Tidy (v.setClient i c) evs := by
  have hfds : ∀ j, ((v.setClient i c).srv.clients j).fd = (v.srv.clients j).fd := by
    intro j
    rcases eq_or_ne j i with rfl | hji
    · simpa using hfd
    · simp [hji]
  refine ⟨fun j => ?_, ?_, fun j k => ?_, fun j => ?_⟩
  · rw [hfds]
    exact h.marked j
  · rw [surplus_setClient hfd]
    exact h.surplus
  · rw [hfds, hfds]
    exact h.distinct j k
  · rw [hfds]
    exact h.isOpen j

/-- A slot is freed, with or without a client. -/
theorem Tidy.release
    {del cls : Int}
    (h : Tidy v evs)
    (hopened : opened evs' =
      descriptors.after (opened evs) (freeEvents (v.srv.clients i).fd del cls)) :
    Tidy (v.release i) evs' := by
  have hlive : ∀ j, 0 ≤ ((v.release i).srv.clients j).fd →
      j ≠ i ∧ (v.release i).srv.clients j = v.srv.clients j := by
    intro j hj
    rcases eq_or_ne j i with rfl | hji
    · simp at hj
    · exact ⟨hji, by simp [hji]⟩
  refine ⟨marked_update h.marked (by simp), ?_, fun j k hj hk => ?_, fun j hj => ?_⟩
  · have hsurplus := h.surplus
    by_cases hi : 0 ≤ (v.srv.clients i).fd
    · rwa [surplus_release hi]
    · rw [surplus_release_free (not_le.mp hi)]
      omega
  · obtain ⟨_, hjeq⟩ := hlive j hj
    obtain ⟨_, hkeq⟩ := hlive k (hk ▸ hj)
    rw [hjeq] at hj hk
    rw [hkeq] at hk
    exact h.distinct j k hj hk
  · obtain ⟨hji, hjeq⟩ := hlive j hj
    rw [hjeq] at hj ⊢
    rw [hopened, after_freeEvents]
    refine Finset.mem_erase.mpr ⟨fun heq => ?_, h.isOpen j hj⟩
    exact hji (h.distinct i j (heq ▸ hj) heq)

/-- A free slot gets a new client. -/
theorem Tidy.occupy
    {cfd : Int}
    (h : Tidy v evs)
    (hslot : (v.srv.clients i).fd < 0)
    (hcfd : 0 ≤ cfd)
    (hfresh : cfd ∉ opened evs)
    (hopened : opened evs' = insert cfd (opened evs)) :
    Tidy (v.occupy i cfd) evs' := by
  -- the descriptor of another client is open, and thus not the new one
  have hne : ∀ j, 0 ≤ (v.srv.clients j).fd → (v.srv.clients j).fd ≠ cfd :=
    fun j hj heq => hfresh (heq ▸ h.isOpen j hj)
  refine ⟨marked_update h.marked (show -1 ≤ cfd by omega), ?_, fun j k hj hk => ?_,
    fun j hj => ?_⟩
  · rw [surplus_occupy hslot hcfd]
    exact h.surplus
  · rcases eq_or_ne j i with rfl | hji
    · rcases eq_or_ne k j with rfl | hkj
      · rfl
      · simp only [TcpVars.occupy_clients_self, Client.occupied_fd,
          TcpVars.occupy_clients_of_ne _ _ _ hkj] at hk
        exact absurd hk (hne k (hk ▸ hcfd))
    · rw [TcpVars.occupy_clients_of_ne _ _ _ hji] at hj hk
      rcases eq_or_ne k i with rfl | hki
      · simp only [TcpVars.occupy_clients_self, Client.occupied_fd] at hk
        exact absurd hk.symm (hne j hj)
      · rw [TcpVars.occupy_clients_of_ne _ _ _ hki] at hk
        exact h.distinct j k hj hk
  · rw [hopened]
    rcases eq_or_ne j i with rfl | hji
    · simp
    · rw [TcpVars.occupy_clients_of_ne _ _ _ hji] at hj ⊢
      exact Finset.mem_insert_of_mem (h.isOpen j hj)

end Updates

/-! ## The steps of the server -/

section Steps

variable {τ : Type} {S : Outside NetCall.Out τ}

/-- The step keeps the server tidy. -/
abbrev KeepsTidy : TcpState τ → TcpState τ → Prop :=
  descriptors.Keeps Tidy

/-- An event that neither opens nor closes a descriptor. -/
def Neutral (e : NetEvent) : Prop :=
  ∀ s, descriptors.next s e = s

theorem opened_of_neutral
    {evs' : List NetEvent}
    (h : ∀ e ∈ evs', Neutral e)
    (evs : List NetEvent) :
    opened (evs ++ evs') = opened evs := by
  rw [opened_append]
  induction evs' with
  | nil =>
      rfl
  | cons e evs' ih =>
      obtain ⟨he, hevs'⟩ := List.forall_mem_cons.mp h
      show descriptors.after (descriptors.next (opened evs) e) evs' = _
      rw [he, ih hevs']

/-- A client is overwritten under its descriptor, and nothing is opened or
closed. -/
theorem keepsTidy_setClient
    {i : Slot} {c : Client} {evs' : List NetEvent} {m m' : TcpState τ}
    (hfd : c.fd = (m.vars.srv.clients i).fd)
    (hvars : m'.vars = m.vars.setClient i c)
    (htrace : m'.trace = m.trace ++ evs')
    (hevs : ∀ e ∈ evs', Neutral e) :
    KeepsTidy m m' := by
  refine ⟨evs', htrace, fun evs h _ => ?_⟩
  rw [hvars]
  exact (h.setClient hfd).of_opened (opened_of_neutral hevs evs)

theorem keepsTidy_of_emits
    {α : Type} {x : TcpM τ α} {p : NetEvent → Prop}
    (hx : Emits p x)
    (hp : ∀ e, p e → Neutral e)
    (m : TcpState τ) :
    KeepsTidy m (x m).2 := by
  obtain ⟨hvars, evs', htrace, hevs⟩ := hx m
  refine ⟨evs', htrace, fun evs h _ => ?_⟩
  rw [hvars]
  exact h.of_opened (opened_of_neutral (fun e he => hp e (hevs e he)) evs)

theorem keepsTidy_freeClient
    (S : Outside NetCall.Out τ) (i : Slot) (m : TcpState τ) :
    KeepsTidy m (freeClient S i m).2 := by
  obtain ⟨del, cls, hvars, htrace⟩ := freeClient_run S i m
  refine ⟨_, htrace, fun evs h _ => ?_⟩
  rw [hvars]
  exact h.release (opened_append _ _)

theorem keepsTidy_closeClient
    (S : Outside NetCall.Out τ) (fd : Int) (m : TcpState τ) :
    KeepsTidy m (tcpServerCloseClient S fd m).2 := by
  rw [tcpServerCloseClient, run_readVars_bind]
  cases findClient m.vars.srv fd with
  | none =>
      exact .refl m
  | some i =>
      exact keepsTidy_freeClient S i m

theorem neutral_of_isWrite
    {e : NetEvent}
    (h : IsWrite e) :
    Neutral e := by
  obtain ⟨fd, bs, r, rfl⟩ := h
  exact fun _ => rfl

theorem keepsTidy_perform
    (S : Outside NetCall.Out τ) (as : List CallbackAction) (m : TcpState τ) :
    KeepsTidy m (perform S as m).2 := by
  induction as generalizing m with
  | nil =>
      exact .refl m
  | cons a as ih =>
      cases a with
      | send fd msg =>
          exact (keepsTidy_of_emits (emits_tcpServerSend S fd msg)
            (fun _ => neutral_of_isWrite) m).trans (ih _)
      | closeClient fd =>
          exact (keepsTidy_closeClient S fd m).trans (ih _)

theorem keepsTidy_deliverLine
    {i : Slot} {off k len : Nat} {c : Client} {m : TcpState τ}
    (hnext : ∀ m' : TcpState τ, KeepsTidy m' (scanLoop S i (off + k + 1) m').2) :
    KeepsTidy m (deliverLine S i off k c len m).2 := by
  rw [deliverLine]
  by_cases hlen : 0 < len
  · rw [if_pos hlen, run_bind]
    have hcall : KeepsTidy m
        (callOut S (.onMessage c.fd ((c.buf.drop off).take len) len) m).2 :=
      ⟨_, rfl, fun evs h _ => h.of_opened (opened_append _ _)⟩
    generalize callOut S (.onMessage c.fd ((c.buf.drop off).take len) len) m = r at hcall
    obtain ⟨cb, m₁⟩ := r
    rw [run_bind]
    refine hcall.trans (Protocol.Keeps.trans (keepsTidy_perform S cb.actions m₁) ?_)
    rw [run_ite]
    split_ifs
    · exact keepsTidy_freeClient S i _
    · exact hnext _
  · rw [if_neg hlen]
    exact hnext m

theorem keepsTidy_scanLoop
    (S : Outside NetCall.Out τ) (i : Slot) (off : Nat) (m : TcpState τ) :
    KeepsTidy m (scanLoop S i off m).2 := by
  induction off, m using scanLoop_induction (i := i) with
  | wrapped off m hoff =>
      rw [scanLoop_wrapped S i m hoff, run_modifyVars]
      refine ⟨[], (List.append_nil _).symm, fun evs h _ => ?_⟩
      rw [List.append_nil]
      exact ⟨h.marked, h.surplus, h.distinct, h.isOpen⟩
  | last off m hoff hk =>
      rw [scanLoop_last S i m hoff hk, run_modifyVars]
      exact keepsTidy_setClient (c := (m.vars.srv.clients i).shift off) rfl rfl
        (List.append_nil _).symm (by simp)
  | line off m k hoff hk ih =>
      rw [scanLoop_line S i m hoff hk, run_bind, run_modifyVars]
      have hset : KeepsTidy m { m with
          vars := m.vars.setClient i ((m.vars.srv.clients i).terminate off k).1 } :=
        keepsTidy_setClient ((m.vars.srv.clients i).terminate_fd off k) rfl
          (List.append_nil _).symm (by simp)
      refine hset.trans ?_
      exact keepsTidy_deliverLine ih

theorem neutral_of_isRead
    {fd : Int} {e : NetEvent}
    (h : IsRead fd e) :
    Neutral e := by
  obtain ⟨space, r, rfl⟩ := h
  exact fun _ => rfl

theorem keepsTidy_fillLoop
    (S : Outside NetCall.Out τ) (i : Slot) (m : TcpState τ) :
    KeepsTidy m (fillLoop S i (m.vars.srv.clients i) m).2 := by
  obtain ⟨ds, evs', c', hfill | hfill⟩ := fillLoop_cases S i _ m rfl
  · exact keepsTidy_setClient hfill.fd hfill.vars hfill.trace
      (fun e he => neutral_of_isRead (hfill.reads e he))
  · obtain ⟨del, cls, htrace⟩ := hfill.trace
    rw [List.append_assoc] at htrace
    refine ⟨_, htrace, fun evs h _ => ?_⟩
    have hset := (h.setClient hfill.fd).of_opened
      (opened_of_neutral (fun e he => neutral_of_isRead (hfill.reads e he)) evs)
    have hopened : opened (evs ++ (evs' ++ freeEvents (m.vars.srv.clients i).fd del cls)) =
        descriptors.after (opened (evs ++ evs'))
          (freeEvents ((m.vars.setClient i c').srv.clients i).fd del cls) := by
      rw [← List.append_assoc, opened_append, TcpVars.setClient_clients_self, hfill.fd]
    rw [hfill.vars]
    exact hset.release hopened

theorem keepsTidy_recvClient
    (S : Outside NetCall.Out τ) (i : Slot) (m : TcpState τ) :
    KeepsTidy m (recvClient S i m).2 := by
  rw [recvClient, run_readVars_bind, run_bind]
  have hfill := keepsTidy_fillLoop S i m
  generalize fillLoop S i (m.vars.srv.clients i) m = r at hfill
  obtain ⟨more, m₁⟩ := r
  cases more with
  | false =>
      exact hfill
  | true =>
      rw [if_pos rfl, run_readVars_bind, run_bind, run_modifyVars]
      have hset : KeepsTidy m₁ { m₁ with
          vars := m₁.vars.setClient i
            ((m₁.vars.srv.clients i).poke (m₁.vars.srv.clients i).bufLen 0) } :=
        keepsTidy_setClient (i := i)
          (c := (m₁.vars.srv.clients i).poke (m₁.vars.srv.clients i).bufLen 0) rfl rfl
          (List.append_nil _).symm (by simp)
      exact (hfill.trans hset).trans (keepsTidy_scanLoop S i 0 _)

theorem keepsTidy_acceptClient
    (S : Outside NetCall.Out τ) (m : TcpState τ) :
    KeepsTidy m (acceptClient S m).2 := by
  cases acceptClient_cases S m with
  | nothing cfd negative vars trace =>
      refine ⟨_, trace, fun evs h _ => ?_⟩
      rw [vars]
      refine ⟨h.marked, h.surplus, h.distinct, fun i hi => ?_⟩
      rw [opened_append]
      exact Finset.mem_insert_of_mem (h.isOpen i hi)
  | turnedAway cfd cls setup nonneg prepares vars trace =>
      refine ⟨_, trace, fun evs h hobeys => ?_⟩
      have hfresh : cfd ∉ opened evs := hobeys.1 cfd rfl nonneg
      rw [vars]
      refine h.of_opened ?_
      rw [opened_append, Protocol.after_append, after_accept_setup prepares]
      exact Finset.erase_insert hfresh
  | unregistered cfd rc del cls setup i nonneg prepares slot failed vars trace =>
      refine ⟨_, trace, fun evs h hobeys => ?_⟩
      have hfresh : cfd ∉ opened evs := hobeys.1 cfd rfl nonneg
      have hocc : Tidy (m.vars.occupy i cfd)
          (evs ++ ⟨.accept m.vars.srv.listenFd, cfd⟩ :: setup) := by
        refine h.occupy (freeSlot_eq_some slot) nonneg hfresh ?_
        rw [opened_append, after_accept_setup prepares]
      have hopened :
          opened (evs ++ (⟨.accept m.vars.srv.listenFd, cfd⟩ :: setup ++
              ⟨.epollCtlAdd cfd, rc⟩ :: freeEvents cfd del cls)) =
            descriptors.after (opened (evs ++ ⟨.accept m.vars.srv.listenFd, cfd⟩ :: setup))
              (freeEvents ((m.vars.occupy i cfd).srv.clients i).fd del cls) := by
        rw [opened_append, Protocol.after_append, opened_append, TcpVars.occupy_clients_self]
        rfl
      rw [vars]
      exact hocc.release hopened
  | admitted cfd rc setup i nonneg prepares slot added vars trace =>
      refine ⟨_, trace, fun evs h hobeys => ?_⟩
      rw [vars]
      refine h.occupy (freeSlot_eq_some slot) nonneg (hobeys.1 cfd rfl nonneg) ?_
      rw [opened_append, Protocol.after_append, after_accept_setup prepares]
      rfl

end Steps

/-! ## The states of a run -/

section Runs

variable {τ : Type}

/-- The states of a run that starts in `m₀`: between two calls of the owner of the
server, and between two events of a poll. -/
inductive Reached (S : Outside NetCall.Out τ) (m₀ : TcpState τ) : TcpState τ → Prop
  | call (ops : List ServerOp) :
      Reached S m₀ (serverRun S m₀ ops)
  | event (ops : List ServerOp) {fds : List Int} :
      fds <+: (callOut S (.epollWait (droneMaxClients + 1)) (serverRun S m₀ ops)).1 →
      Reached S m₀ (pollEvents S fds
        (callOut S (.epollWait (droneMaxClients + 1)) (serverRun S m₀ ops)).2).2

variable {S : Outside NetCall.Out τ}

/-- The events of a poll, up to one of them. -/
theorem keepsTidy_pollEvents
    (S : Outside NetCall.Out τ) (fds : List Int) (m : TcpState τ) :
    KeepsTidy m
      (pollEvents S fds (callOut S (.epollWait (droneMaxClients + 1)) m).2).2 := by
  have hwait : KeepsTidy m (callOut S (.epollWait (droneMaxClients + 1)) m).2 :=
    ⟨_, rfl, fun evs h _ => h.of_opened (opened_append _ _)⟩
  exact hwait.trans (pollEvents_rule Protocol.Keeps.refl Protocol.Keeps.trans
    (keepsTidy_acceptClient S) (fun _ _ m i _ => keepsTidy_recvClient S i m) _)

theorem keepsTidy_serverRun
    (S : Outside NetCall.Out τ) (ops : List ServerOp) (m : TcpState τ) :
    KeepsTidy m (serverRun S m ops) := by
  induction ops generalizing m with
  | nil =>
      exact .refl m
  | cons op ops ih =>
      cases op with
      | poll =>
          exact Protocol.Keeps.trans (keepsTidy_pollEvents S _ m) (ih _)
      | closeClient fd =>
          exact Protocol.Keeps.trans (keepsTidy_closeClient S fd m) (ih _)

theorem keepsTidy_reached
    {m₀ m : TcpState τ}
    (h : Reached S m₀ m) :
    KeepsTidy m₀ m := by
  cases h with
  | call ops =>
      exact keepsTidy_serverRun S ops m₀
  | event ops _ =>
      exact Protocol.Keeps.trans (keepsTidy_serverRun S ops m₀)
        (keepsTidy_pollEvents S _ _)

end Runs

/-! ## The next connection -/

/-- The kernel registers the descriptor if it is asked to. -/
def Registers (cfd : Int) (evs : List NetEvent) : Prop :=
  ∀ rc : Int, ⟨.epollCtlAdd cfd, rc⟩ ∈ evs → 0 ≤ rc

/-- What `accept_client` makes of a connection: it is admitted exactly if a slot is
free, it never costs another client its slot, and otherwise its descriptor is
closed and the table is as before. -/
structure Admission (cfd : Int) (evs : List NetEvent) (v v' : TcpVars) : Prop where
  admitted : Registers cfd evs →
    ((∃ i, (v'.srv.clients i).fd = cfd) ↔ ∃ i, (v.srv.clients i).fd < 0)
  live : ∀ i, 0 ≤ (v.srv.clients i).fd → v'.srv.clients i = v.srv.clients i
  rejected : (∀ i, (v'.srv.clients i).fd ≠ cfd) →
    (∃ cls : Int, ⟨.close cfd, cls⟩ ∈ evs) ∧
      v'.srv.clientCount = v.srv.clientCount ∧
      ∀ i, (v'.srv.clients i).fd = (v.srv.clients i).fd
  turnedAway : (∀ i, (v'.srv.clients i).fd ≠ cfd) → Registers cfd evs → v' = v

section Next

variable {τ : Type} {S : Outside NetCall.Out τ}

/-- A free slot is among the eight. -/
theorem card_liveSlots_lt
    {srv : TcpServer} {i : Slot}
    (h : (srv.clients i).fd < 0) :
    (liveSlots srv).card < droneMaxClients := by
  have hmem : i ∉ liveSlots srv := by
    simpa [mem_liveSlots] using h
  have hlt := Finset.card_lt_univ_of_notMem hmem
  rwa [Fintype.card_fin] at hlt

theorem exists_freeSlot
    {srv : TcpServer} {i : Slot}
    (h : (srv.clients i).fd < 0) :
    ∃ j, freeSlot srv = some j := by
  cases hslot : freeSlot srv with
  | none =>
      have := List.find?_eq_none.mp hslot i (List.mem_finRange i)
      simp [h] at this
  | some j =>
      exact ⟨j, rfl⟩

theorem registerClient_trace
    (S : Outside NetCall.Out τ) (cfd : Int) (i : Slot) (m : TcpState τ) :
    ∃ (rc : Int) (post : List NetEvent),
      (registerClient S cfd i m).2.trace = m.trace ++ ⟨.epollCtlAdd cfd, rc⟩ :: post := by
  rw [registerClient, run_bind, run_callOut]
  by_cases hrc : (S (.epollCtlAdd cfd) m.outside).1 < 0
  · rw [if_pos hrc]
    obtain ⟨del, cls, _, htrace⟩ := freeClient_run S i
      { m with
        outside := (S (.epollCtlAdd cfd) m.outside).2
        trace := m.trace ++ [⟨.epollCtlAdd cfd, (S (.epollCtlAdd cfd) m.outside).1⟩] }
    exact ⟨_, _, htrace.trans (List.append_assoc _ _ _)⟩
  · rw [if_neg hrc]
    exact ⟨_, [], rfl⟩

theorem admitClient_trace
    (S : Outside NetCall.Out τ) (cfd : Int) (m : TcpState τ) :
    ∃ post : List NetEvent, (admitClient S cfd m).2.trace = m.trace ++ post ∧
      ∀ i, freeSlot m.vars.srv = some i → ∃ rc : Int, ⟨.epollCtlAdd cfd, rc⟩ ∈ post := by
  simp only [admitClient, allocClient, run_bind, run_readVars]
  cases hslot : freeSlot m.vars.srv with
  | none =>
      refine ⟨_, rfl, fun i hi => ?_⟩
      cases hi
  | some j =>
      obtain ⟨rc, post, htrace⟩ := registerClient_trace S cfd j
        { m with vars := m.vars.occupy j cfd }
      exact ⟨_, htrace, fun _ _ => ⟨rc, List.mem_cons_self⟩⟩

/-- The calls of `accept_client` behind `accept`.  If a slot is free, it asks to
register the connection: the counter does not stand in the way. -/
theorem acceptClient_trace
    {m : TcpState τ} {cfd : Int}
    (hcfd : (S (.accept m.vars.srv.listenFd) m.outside).1 = cfd) :
    ∃ post : List NetEvent,
      (acceptClient S m).2.trace =
        m.trace ++ ⟨.accept m.vars.srv.listenFd, cfd⟩ :: post ∧
      (0 ≤ cfd → 0 ≤ surplus m.vars.srv → (∃ i, (m.vars.srv.clients i).fd < 0) →
        ∃ rc : Int, ⟨.epollCtlAdd cfd, rc⟩ ∈ post) := by
  have hcall : (callOut S (.accept m.vars.srv.listenFd) m).2.trace =
      m.trace ++ [⟨.accept m.vars.srv.listenFd, cfd⟩] := by
    rw [run_callOut, hcfd]
  by_cases hneg : cfd < 0
  · refine ⟨[], ?_, fun h => absurd h (not_le.mpr hneg)⟩
    rw [acceptClient, run_readVars_bind, run_bind, run_callOut, hcfd, if_pos hneg]
    rfl
  · by_cases hcount : m.vars.srv.clientCount ≥ droneMaxClients
    · refine ⟨[⟨.close cfd, (S (.close cfd)
        (S (.accept m.vars.srv.listenFd) m.outside).2).1⟩], ?_, fun _ hsurplus hfree => ?_⟩
      · rw [acceptClient, run_readVars_bind, run_bind, run_callOut, hcfd, if_neg hneg,
          if_pos hcount, run_bind, run_callOut]
        exact List.append_assoc _ _ _
      · obtain ⟨i, hi⟩ := hfree
        have hcard := card_liveSlots_lt hi
        simp only [surplus] at hsurplus
        omega
    · rw [acceptClient_below S m (by rwa [hcfd]) hcount, hcfd, run_bind]
      obtain ⟨hvars, setup, hprepare, _⟩ := emits_prepareClient S cfd
        (callOut S (.accept m.vars.srv.listenFd) m).2
      obtain ⟨post, hsettled, hregister⟩ := admitClient_trace S cfd
        (prepareClient S cfd (callOut S (.accept m.vars.srv.listenFd) m).2).2
      refine ⟨setup ++ post, ?_, fun _ _ hfree => ?_⟩
      · rw [hsettled, hprepare, hcall]
        simp
      · obtain ⟨i, hi⟩ := hfree
        obtain ⟨j, hj⟩ := exists_freeSlot hi
        rw [hvars] at hregister
        obtain ⟨rc, hrc⟩ := hregister j hj
        exact ⟨rc, List.mem_append_right _ hrc⟩

section Outcomes

variable {cfd listenFd : Int} {setup evs' : List NetEvent} {v v' : TcpVars} {i : Slot}

/-- The connection was turned away: no slot is free. -/
theorem admission_of_unchanged
    {cls : Int}
    (hnew : ∀ j, (v.srv.clients j).fd ≠ cfd)
    (hfull : Registers cfd evs' → ∀ j, 0 ≤ (v.srv.clients j).fd)
    (hclose : ⟨.close cfd, cls⟩ ∈ evs') :
    Admission cfd evs' v v where
  admitted := by
    refine fun hreg => iff_of_false (fun ⟨j, hj⟩ => hnew j hj) ?_
    rintro ⟨j, hj⟩
    exact absurd (hfull hreg j) (not_le.mpr hj)
  live := fun _ _ => rfl
  rejected := fun _ => ⟨⟨cls, hclose⟩, rfl, fun _ => rfl⟩
  turnedAway := fun _ _ => rfl

/-- The connection could not be registered, and its slot is free again. -/
theorem admission_of_unregistered
    {rc cls : Int}
    (hmarked : Marked v.srv)
    (hslot : (v.srv.clients i).fd < 0)
    (hfailed : rc < 0)
    (hadd : ⟨.epollCtlAdd cfd, rc⟩ ∈ evs')
    (hclose : ⟨.close cfd, cls⟩ ∈ evs') :
    Admission cfd evs' v ((v.occupy i cfd).release i) where
  admitted := fun hreg => absurd (hreg rc hadd) (not_le.mpr hfailed)
  live := by
    intro j hj
    have hji : j ≠ i := by
      rintro rfl
      omega
    simp [hji]
  rejected := by
    refine fun _ => ⟨⟨cls, hclose⟩, by simp, fun j => ?_⟩
    rcases eq_or_ne j i with rfl | hji
    · have := hmarked j
      simp only [TcpVars.release_clients_self, Client.released_fd]
      omega
    · simp [hji]
  turnedAway := fun _ hreg => absurd (hreg rc hadd) (not_le.mpr hfailed)

/-- The connection has a slot that was free. -/
theorem admission_of_occupied
    (hslot : (v.srv.clients i).fd < 0) :
    Admission cfd evs' v (v.occupy i cfd) where
  admitted := fun _ => iff_of_true ⟨i, by simp⟩ ⟨i, hslot⟩
  live := by
    intro j hj
    have hji : j ≠ i := by
      rintro rfl
      omega
    simp [hji]
  rejected := fun h => absurd (by simp) (h i)
  turnedAway := fun h => absurd (by simp) (h i)

end Outcomes

theorem notMem_setup
    {cfd cls rc : Int} {setup : List NetEvent}
    (hsetup : ∀ e ∈ setup, IsSetup cfd e) :
    ⟨.epollCtlAdd cfd, rc⟩ ∉ setup ++ [(⟨.close cfd, cls⟩ : NetEvent)] := by
  intro hmem
  rcases List.mem_append.mp hmem with hmem | hmem
  · rcases hsetup _ hmem with ⟨r, hr⟩ | ⟨flags, r, hr⟩ | ⟨r, hr⟩ <;> cases hr
  · cases List.mem_singleton.mp hmem

/-- What `accept_client` makes of a connection on a tidy server. -/
theorem admission_acceptClient
    {m : TcpState τ} {evs evs' : List NetEvent} {cfd : Int}
    (h : Tidy m.vars evs)
    (htrace : (acceptClient S m).2.trace =
      m.trace ++ ⟨.accept m.vars.srv.listenFd, cfd⟩ :: evs')
    (hcfd : 0 ≤ cfd)
    (hfresh : cfd ∉ opened evs) :
    Admission cfd evs' m.vars (acceptClient S m).2.vars := by
  have hnew : ∀ j, (m.vars.srv.clients j).fd ≠ cfd :=
    fun j heq => hfresh (heq ▸ h.isOpen j (heq ▸ hcfd))
  obtain ⟨post, hpost, hregister⟩ := acceptClient_trace (S := S) (m := m) rfl
  obtain ⟨rfl, rfl⟩ : cfd = (S (.accept m.vars.srv.listenFd) m.outside).1 ∧ evs' = post := by
    cases List.append_cancel_left (htrace.symm.trans hpost)
    exact ⟨rfl, rfl⟩
  generalize (S (.accept m.vars.srv.listenFd) m.outside).1 = cfd at *
  cases acceptClient_cases S m with
  | nothing cfd' negative vars trace =>
      cases List.append_cancel_left (htrace.symm.trans trace)
      omega
  | turnedAway cfd' cls setup nonneg prepares vars trace =>
      cases List.append_cancel_left (htrace.symm.trans trace)
      have hfull : ∀ j, 0 ≤ (m.vars.srv.clients j).fd := by
        intro j
        by_contra hj
        obtain ⟨rc, hrc⟩ := hregister hcfd h.surplus ⟨j, not_le.mp hj⟩
        exact notMem_setup prepares hrc
      rw [vars]
      have hclose : ⟨.close cfd, cls⟩ ∈ setup ++ [(⟨.close cfd, cls⟩ : NetEvent)] := by
        simp
      exact admission_of_unchanged hnew (fun _ => hfull) hclose
  | unregistered cfd' rc del cls setup i nonneg prepares slot failed vars trace =>
      cases List.append_cancel_left (htrace.symm.trans trace)
      rw [vars]
      have hclose : ⟨.close cfd, cls⟩ ∈ setup ++
          (⟨.epollCtlAdd cfd, rc⟩ :: freeEvents cfd del cls : List NetEvent) := by
        simp [freeEvents]
      exact admission_of_unregistered h.marked (freeSlot_eq_some slot) failed (by simp) hclose
  | admitted cfd' rc setup i nonneg prepares slot added vars trace =>
      cases List.append_cancel_left (htrace.symm.trans trace)
      rw [vars]
      exact admission_of_occupied (freeSlot_eq_some slot)

/-- **Admission.**  In every state that a new server reaches, between two calls of
its owner or between two events of a poll, no two clients share a descriptor; and
the next connection is admitted exactly if a slot is free, without harm to the
clients that are there. -/
theorem admission_of_reached
    {bindIp : Bytes} {port : UInt16} {m₀ : Machine NetCall.Out τ Unit} {srv : TcpServer}
    (hcreate : (tcpServerCreate S bindIp port m₀).1 = some srv)
    {m : TcpState τ} {evs : List NetEvent}
    (hreached : Reached S (started srv (tcpServerCreate S bindIp port m₀).2) m)
    (htrace : m.trace = (tcpServerCreate S bindIp port m₀).2.trace ++ evs)
    (hfresh : descriptors.Obeys descriptors.start evs) :
    (∀ i j, 0 ≤ (m.vars.srv.clients i).fd →
        (m.vars.srv.clients j).fd = (m.vars.srv.clients i).fd → j = i) ∧
      ∀ cfd evs', 0 ≤ cfd → cfd ∉ opened evs →
        (acceptClient S m).2.trace =
          m.trace ++ ⟨.accept m.vars.srv.listenFd, cfd⟩ :: evs' →
        Admission cfd evs' m.vars (acceptClient S m).2.vars := by
  obtain ⟨listenFd, epollFd, rfl⟩ := tcpServerCreate_created S hcreate
  obtain ⟨evs₁, htrace₁, hkeeps⟩ := keepsTidy_reached hreached
  obtain rfl : evs₁ = evs := List.append_cancel_left (htrace₁.symm.trans htrace)
  have htidy : Tidy m.vars evs₁ := hkeeps [] (tidy_created listenFd epollFd) hfresh
  exact ⟨htidy.distinct, fun cfd evs' hcfd hnew haccept =>
    admission_acceptClient htidy haccept hcfd hnew⟩

end Next

/-- A new server whose owner asked for the descriptor -1: it counts -1 clients. -/
def miscountedServer : TcpState NetScript :=
  serverRun scriptKernel visitedServer [.closeClient (-1)]

/-- The next connection is admitted all the same. -/
theorem admission_miscounted :
    miscountedServer.vars.srv.clientCount = -1 ∧
      ∃ i, ((acceptClient scriptKernel miscountedServer).2.vars.srv.clients i).fd = 5 := by
  have htrace : miscountedServer.trace =
      (tcpServerCreate scriptKernel [] 7000 (beforeCreate twoVisits)).2.trace ++
        freeEvents (-1) 0 0 := rfl
  have hnext := (admission_of_reached visitedServer_created (Reached.call [.closeClient (-1)])
    htrace (by decide)).2 5 [⟨.getFlags 5, (0 : Int)⟩, ⟨.setNonblock 5 0, (0 : Int)⟩,
      ⟨.setNodelay 5, (0 : Int)⟩, ⟨.epollCtlAdd 5, (0 : Int)⟩] (by decide) (by decide) rfl
  refine ⟨by decide +kernel, (hnext.admitted ?_).mpr ⟨slot₀, by decide +kernel⟩⟩
  intro rc hrc
  obtain rfl : rc = 0 := by
    simpa using hrc
  exact le_rfl

end Tcp
end PsdkBridge
