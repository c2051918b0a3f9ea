import PsdkBridge.TcpClients

/-!
# Callbacks that close clients

While `recv_client` passes on the lines of a client, the callback may close
clients with `tcp_server_close_client`.  The loop goes on with the record of the
client it serves, so that one must not be closed; the header says so.

`Serves` is what a callback does to the table then, as a list of slots that are
freed, one after the other.  `recvClient_reentrant` follows a whole call: no slot
is freed twice, no line of a closed client is passed on, and the scan never starts
behind the fill level.
-/

namespace PsdkBridge
namespace Tcp

/-- The descriptor of a `close`. -/
def closedOf : NetEvent → Option Int
  | ⟨.close fd, _⟩ => some fd
  | _ => none

/-- A callback that closes clients closes others than the one it is called
for. -/
def ClosesOthers {τ : Type} (S : Outside NetCall.Out τ) : Prop :=
  ∀ fd line len t fd',
    CallbackAction.closeClient fd' ∈ (S (.onMessage fd line len) t).1.actions →
      fd' ≠ fd ∧ 0 ≤ fd'

/-- A call for the client with the descriptor, or for others: its reads and
messages, writes, and the release of another client. -/
inductive Serving (fd : Int) : NetEvent → Prop
  | read {space : Nat} {r : ReadResult space} : Serving fd ⟨.read fd space, r⟩
  | message {line : Bytes} {len : Nat} {r : CallbackResult} :
      Serving fd ⟨.onMessage fd line len, r⟩
  | write {fd' : Int} {bs : Bytes} {r : WriteResult bs} : Serving fd ⟨.write fd' bs, r⟩
  | forget {fd' rc : Int} : Serving fd ⟨.epollCtlDel fd', rc⟩
  | close {fd' rc : Int} : fd' ≠ fd → Serving fd ⟨.close fd', rc⟩

/-- The slots that are freed between two states, in this order.  Each of them had a
client before. -/
structure Frees (is : List Slot) (evs : List NetEvent) (v v' : TcpVars) : Prop where
  wrapped : v'.wrapped = v.wrapped
  closes : evs.filterMap closedOf = is.map (fun j => (v.srv.clients j).fd)
  nodup : is.Nodup
  freed : ∀ j ∈ is, 0 ≤ (v.srv.clients j).fd ∧ (v'.srv.clients j).fd < 0
  kept : ∀ j ∉ is, (v'.srv.clients j).fd = (v.srv.clients j).fd

namespace Frees

variable {is js : List Slot} {evs evs' : List NetEvent} {v v' v'' : TcpVars} {i : Slot}

/-- Nothing is closed and no descriptor changes. -/
theorem none
    (hwrapped : v'.wrapped = v.wrapped)
    (hevs : evs.filterMap closedOf = [])
    (hfds : ∀ j, (v'.srv.clients j).fd = (v.srv.clients j).fd) :
    Frees [] evs v v' where
  wrapped := hwrapped
  closes := hevs
  nodup := List.nodup_nil
  freed := fun _ h => nomatch h
  kept := fun j _ => hfds j

theorem setClient
    {c : Client}
    (hfd : c.fd = (v.srv.clients i).fd)
    (hevs : evs.filterMap closedOf = []) :
    Frees [] evs v (v.setClient i c) := by
  refine .none rfl hevs (fun j => ?_)
  rcases eq_or_ne j i with rfl | hji
  · simpa using hfd
  · simp [hji]

/-- `free_client` on a slot with a client. -/
theorem release
    {del cls : Int}
    (hlive : 0 ≤ (v.srv.clients i).fd) :
    Frees [i] (freeEvents (v.srv.clients i).fd del cls) v (v.release i) where
  wrapped := rfl
  closes := rfl
  nodup := List.nodup_singleton i
  freed := by
    intro j hj
    obtain rfl := List.mem_singleton.mp hj
    exact ⟨hlive, by simp⟩
  kept := by
    intro j hj
    have hji : j ≠ i := fun heq => hj (heq ▸ List.mem_singleton_self i)
    simp [hji]

/-- A slot that was freed has no client, so it is not freed again. -/
theorem append
    (h : Frees is evs v v')
    (h' : Frees js evs' v' v'') :
    Frees (is ++ js) (evs ++ evs') v v'' := by
  have hdisjoint : ∀ j ∈ js, j ∉ is := by
    intro j hj hmem
    have hlive := (h'.freed j hj).1
    have hfree := (h.freed j hmem).2
    omega
  refine ⟨h'.wrapped.trans h.wrapped, ?_, ?_, ?_, ?_⟩
  · rw [List.filterMap_append, h.closes, h'.closes, List.map_append]
    refine congrArg _ (List.map_congr_left (fun j hj => ?_))
    exact h.kept j (hdisjoint j hj)
  · exact h.nodup.append h'.nodup (fun j hj hj' => hdisjoint j hj' hj)
  · intro j hj
    rcases List.mem_append.mp hj with hj | hj
    · have hjs : j ∉ js := fun hmem => hdisjoint j hmem hj
      exact ⟨(h.freed j hj).1, by rw [h'.kept j hjs]; exact (h.freed j hj).2⟩
    · rw [← h.kept j (hdisjoint j hj)]
      exact h'.freed j hj
  · intro j hj
    obtain ⟨hi, hj⟩ := not_or.mp (fun h => hj (List.mem_append.mpr h))
    rw [h'.kept j hj, h.kept j hi]

/-- The slots that are freed are those that lost their client. -/
theorem mem_iff
    (h : Frees is evs v v')
    (j : Slot) :
    j ∈ is ↔ 0 ≤ (v.srv.clients j).fd ∧ (v'.srv.clients j).fd < 0 := by
  refine ⟨h.freed j, fun ⟨hlive, hfree⟩ => ?_⟩
  by_contra hj
  rw [h.kept j hj] at hfree
  omega

end Frees

section Steps

variable {τ : Type} {S : Outside NetCall.Out τ} {i : Slot}

/-- A step on behalf of the client of a slot: other clients may be freed, but this
one stays. -/
def Serves (i : Slot) (m m' : TcpState τ) : Prop :=
  ∃ is evs, m'.trace = m.trace ++ evs ∧
    (∀ e ∈ evs, Serving (m.vars.srv.clients i).fd e) ∧
    Frees is evs m.vars m'.vars ∧
    (m'.vars.srv.clients i).fd = (m.vars.srv.clients i).fd

/-- The same, and in the end the client of the slot is freed or not. -/
def Handles (i : Slot) (m m' : TcpState τ) : Prop :=
  Serves i m m' ∨
    ∃ m₁ del cls, Serves i m m₁ ∧ m'.vars = m₁.vars.release i ∧
      m'.trace = m₁.trace ++ freeEvents (m₁.vars.srv.clients i).fd del cls

namespace Serves

variable {m m₁ m' : TcpState τ}

theorem refl
    (m : TcpState τ) :
    Serves i m m :=
  ⟨[], [], (List.append_nil _).symm, by simp, .none rfl rfl (fun _ => rfl), rfl⟩

theorem trans
    (h : Serves i m m₁)
    (h' : Serves i m₁ m') :
    Serves i m m' := by
  obtain ⟨is, evs, htrace, hevs, hfrees, hfd⟩ := h
  obtain ⟨js, evs', htrace', hevs', hfrees', hfd'⟩ := h'
  rw [hfd] at hevs'
  refine ⟨is ++ js, evs ++ evs', ?_, ?_, hfrees.append hfrees', hfd'.trans hfd⟩
  · rw [htrace', htrace, List.append_assoc]
  · exact List.forall_mem_append.mpr ⟨hevs, hevs'⟩

theorem handles
    (h : Serves i m m₁)
    (h' : Handles i m₁ m') :
    Handles i m m' := by
  rcases h' with h' | ⟨m₂, del, cls, h', hvars, htrace⟩
  · exact Or.inl (h.trans h')
  · exact Or.inr ⟨m₂, del, cls, h.trans h', hvars, htrace⟩

/-- The client of the slot is overwritten, under its descriptor. -/
theorem setClient
    {c : Client} {evs : List NetEvent}
    (hfd : c.fd = (m.vars.srv.clients i).fd)
    (hvars : m'.vars = m.vars.setClient i c)
    (htrace : m'.trace = m.trace ++ evs)
    (hevs : ∀ e ∈ evs, Serving (m.vars.srv.clients i).fd e)
    (hcloses : evs.filterMap closedOf = []) :
    Serves i m m' := by
  refine ⟨[], evs, htrace, hevs, ?_, ?_⟩
  · rw [hvars]
    exact .setClient hfd hcloses
  · rw [hvars, TcpVars.setClient_clients_self, hfd]

end Serves

theorem serves_send
    (S : Outside NetCall.Out τ) (fd : Int) (msg : Bytes) (m : TcpState τ) :
    Serves i m (tcpServerSend S fd msg m).2 ∧
      (tcpServerSend S fd msg m).2.vars = m.vars := by
  obtain ⟨hvars, evs, htrace, hevs⟩ := emits_tcpServerSend S fd msg m
  refine ⟨⟨[], evs, htrace, fun e he => ?_, ?_, by rw [hvars]⟩, hvars⟩
  · obtain ⟨fd', bs, r, rfl⟩ := hevs e he
    exact .write
  · refine .none (by rw [hvars]) (List.filterMap_eq_nil_iff.mpr fun e he => ?_)
      (fun j => by rw [hvars])
    obtain ⟨fd', bs, r, rfl⟩ := hevs e he
    rfl

/-- Another client is closed. -/
theorem serves_closeClient
    (S : Outside NetCall.Out τ)
    {fd : Int} {m : TcpState τ}
    (hown : fd ≠ (m.vars.srv.clients i).fd)
    (hfd : 0 ≤ fd) :
    Serves i m (tcpServerCloseClient S fd m).2 ∧
      (tcpServerCloseClient S fd m).2.vars.srv.clients i = m.vars.srv.clients i := by
  rw [tcpServerCloseClient, run_readVars_bind]
  cases hfind : findClient m.vars.srv fd with
  | none =>
      exact ⟨.refl m, rfl⟩
  | some j =>
      have hslot := findClient_eq_some hfind
      have hij : i ≠ j := by
        rintro rfl
        exact hown hslot.symm
      obtain ⟨del, cls, hvars, htrace⟩ := freeClient_run S j m
      have hkept : (freeClient S j m).2.vars.srv.clients i = m.vars.srv.clients i := by
        rw [hvars, TcpVars.release_clients_of_ne _ _ hij]
      refine ⟨⟨[j], _, htrace, ?_, ?_, congrArg Client.fd hkept⟩, hkept⟩
      · rw [hslot]
        intro e he
        rcases List.mem_pair.mp he with rfl | rfl
        · exact .forget
        · exact .close hown
      · rw [hvars]
        exact .release (hslot ▸ hfd)

/-- What a callback does on behalf of the client. -/
theorem serves_perform
    {as : List CallbackAction} {m : TcpState τ}
    (has : ∀ fd, CallbackAction.closeClient fd ∈ as →
      fd ≠ (m.vars.srv.clients i).fd ∧ 0 ≤ fd) :
    Serves i m (perform S as m).2 ∧
      (perform S as m).2.vars.srv.clients i = m.vars.srv.clients i := by
  induction as generalizing m with
  | nil =>
      exact ⟨.refl m, rfl⟩
  | cons a as ih =>
      have has' := fun fd h => has fd (List.mem_cons_of_mem a h)
      cases a with
      | send fd msg =>
          obtain ⟨hsend, hvars⟩ := serves_send (i := i) S fd msg m
          obtain ⟨hrest, hkept⟩ := ih (m := (tcpServerSend S fd msg m).2) (by rwa [hvars])
          rw [hvars] at hkept
          exact ⟨hsend.trans hrest, hkept⟩
      | closeClient fd =>
          obtain ⟨hown, hfd⟩ := has fd List.mem_cons_self
          obtain ⟨hclose, hkept⟩ := serves_closeClient S hown hfd
          obtain ⟨hrest, hkept'⟩ := ih (m := (tcpServerCloseClient S fd m).2) (by rwa [hkept])
          exact ⟨hclose.trans hrest, hkept'.trans hkept⟩

/-! ## The loops -/

/-- A round of the loop over the lines, if the rounds behind it are in order. -/
theorem handles_deliverLine
    (hS : ClosesOthers S)
    {off k len : Nat} {c : Client} {m : TcpState τ}
    (hc : m.vars.srv.clients i = c)
    (hnext : ∀ m' : TcpState τ, m'.vars.srv.clients i = c →
      Handles i m' (scanLoop S i (off + k + 1) m').2) :
    Handles i m (deliverLine S i off k c len m).2 := by
  rw [deliverLine]
  by_cases hlen : 0 < len
  · rw [if_pos hlen, run_bind, run_callOut, run_bind]
    have hcall := hS c.fd ((c.buf.drop off).take len) len m.outside
    rcases hcb : S (.onMessage c.fd ((c.buf.drop off).take len) len) m.outside with ⟨cb, t⟩
    rw [hcb, ← hc] at hcall
    have hmessage : Serves i m { m with
        outside := t
        trace := m.trace ++ [⟨.onMessage c.fd ((c.buf.drop off).take len) len, cb⟩] } := by
      refine ⟨[], _, rfl, ?_, .none rfl rfl (fun _ => rfl), rfl⟩
      rw [hc]
      exact List.forall_mem_singleton.mpr .message
    obtain ⟨hperform, hkept⟩ := serves_perform (S := S) (i := i)
      (m := { m with
        outside := t
        trace := m.trace ++ [⟨.onMessage c.fd ((c.buf.drop off).take len) len, cb⟩] })
      hcall
    refine (hmessage.trans hperform).handles ?_
    rw [run_ite]
    split_ifs
    · obtain ⟨del, cls, hvars, htrace⟩ := freeClient_run S i (perform S cb.actions _).2
      exact Or.inr ⟨_, del, cls, .refl _, hvars, htrace⟩
    · exact hnext _ (hkept.trans hc)
  · rw [if_neg hlen]
    exact hnext m hc

/-- The loop over the lines: the fill level stays, so it never falls behind the
offset. -/
theorem handles_scanLoop
    (hS : ClosesOthers S)
    {off : Nat} {m : TcpState τ}
    (hoff : off ≤ (m.vars.srv.clients i).bufLen) :
    Handles i m (scanLoop S i off m).2 := by
  induction off, m using scanLoop_induction (i := i) with
  | wrapped off m hlt =>
      exact absurd hoff (Nat.not_le.mpr hlt)
  | last off m _ hk =>
      rw [scanLoop_last S i m hoff hk, run_modifyVars]
      exact Or.inl (.setClient (c := (m.vars.srv.clients i).shift off) rfl rfl
        (List.append_nil _).symm (by simp) rfl)
  | line off m k _ hk ih =>
      rw [scanLoop_line S i m hoff hk, run_bind, run_modifyVars]
      obtain ⟨l, t, ht, _, rfl⟩ := memchr_eq_some hk
      obtain ⟨hfd, hlen, _⟩ := (m.vars.srv.clients i).terminate_spec hoff ht
      have hoff' : off + l.length + 1 ≤
          ((m.vars.srv.clients i).terminate off l.length).1.bufLen := by
        have hsize := (m.vars.srv.clients i).text_length off
        rw [ht, List.length_append, List.length_cons] at hsize
        omega
      have hset : Serves i m { m with
          vars := m.vars.setClient i ((m.vars.srv.clients i).terminate off l.length).1 } :=
        .setClient hfd rfl (List.append_nil _).symm (by simp) rfl
      refine hset.handles (handles_deliverLine hS (by simp) (fun m' hm' => ih m' ?_))
      rw [hm']
      exact hoff'

theorem serves_reads
    {c' : Client} {evs : List NetEvent} {m m' : TcpState τ}
    (hreads : ∀ e ∈ evs, IsRead (m.vars.srv.clients i).fd e)
    (hfd : c'.fd = (m.vars.srv.clients i).fd)
    (hvars : m'.vars = m.vars.setClient i c')
    (htrace : m'.trace = m.trace ++ evs) :
    Serves i m m' := by
  refine .setClient hfd hvars htrace (fun e he => ?_)
    (List.filterMap_eq_nil_iff.mpr fun e he => ?_)
  · obtain ⟨space, r, rfl⟩ := hreads e he
    exact .read
  · obtain ⟨space, r, rfl⟩ := hreads e he
    rfl

theorem handles_recvClient
    (hS : ClosesOthers S)
    (m : TcpState τ) :
    Handles i m (recvClient S i m).2 := by
  rw [recvClient, run_readVars_bind, run_bind]
  obtain ⟨ds, evs, c', hfill⟩ := fillLoop_cases S i _ m rfl
  generalize fillLoop S i (m.vars.srv.clients i) m = r at hfill
  obtain ⟨more, m₁⟩ := r
  rcases hfill with hfill | hfill
  · obtain rfl : more = true := hfill.ret
    have hreads : Serves i m m₁ := serves_reads hfill.reads hfill.fd hfill.vars hfill.trace
    rw [if_pos rfl, run_readVars_bind, run_bind, run_modifyVars]
    have hset : Serves i m₁ { m₁ with
        vars := m₁.vars.setClient i
          ((m₁.vars.srv.clients i).poke (m₁.vars.srv.clients i).bufLen 0) } :=
      .setClient (c := (m₁.vars.srv.clients i).poke (m₁.vars.srv.clients i).bufLen 0) rfl rfl
        (List.append_nil _).symm (by simp) rfl
    exact (hreads.trans hset).handles (handles_scanLoop hS (Nat.zero_le _))
  · obtain rfl : more = false := hfill.ret
    obtain ⟨del, cls, htrace⟩ := hfill.trace
    rw [if_neg Bool.false_ne_true, run_pure]
    have hreads : Serves i m
        { m with vars := m.vars.setClient i c', trace := m.trace ++ evs } :=
      serves_reads hfill.reads hfill.fd rfl rfl
    refine Or.inr ⟨_, del, cls, hreads, hfill.vars, ?_⟩
    rw [TcpVars.setClient_clients_self, hfill.fd]
    exact htrace

/-- What a re-entrant close must not break, in one call of `recv_client`: the scan
does not start behind the fill level, no line of a client is passed on behind its
`close`, and the closes are those of distinct slots that had a client and have none
now. -/
def ReentrySafe (S : Outside NetCall.Out τ) (i : Slot) (m : TcpState τ) : Prop :=
  ∃ (is : List Slot) (evs : List NetEvent),
    (recvClient S i m).2.trace = m.trace ++ evs ∧
    (recvClient S i m).2.vars.wrapped = m.vars.wrapped ∧
    evs.Pairwise (fun e e' => ∀ fd, closedOf e = some fd →
      ∀ line len r, e' ≠ ⟨.onMessage fd line len, r⟩) ∧
    evs.filterMap closedOf = is.map (fun j => (m.vars.srv.clients j).fd) ∧ is.Nodup ∧
    ∀ j, j ∈ is ↔ 0 ≤ (m.vars.srv.clients j).fd ∧
      ((recvClient S i m).2.vars.srv.clients j).fd < 0

/-- The messages of a call are for its client, and only others are closed on the
way. -/
theorem pairwise_of_serving
    {fd : Int} {evs : List NetEvent}
    (h : ∀ e ∈ evs, Serving fd e) :
    evs.Pairwise (fun e e' => ∀ fd', closedOf e = some fd' →
      ∀ line len r, e' ≠ ⟨.onMessage fd' line len, r⟩) := by
  refine List.pairwise_of_forall_mem_list (fun e he e' he' fd' hclosed line len r heq => ?_)
  subst heq
  obtain rfl : fd' = fd := by
    cases h _ he'
    rfl
  cases h e he with
  | close hne =>
      exact hne (Option.some.inj hclosed)
  | _ =>
      cases hclosed

/-- **Re-entrant close is safe**, whatever other clients the callback closes, in any
order and at any line, and whatever it returns. -/
theorem recvClient_reentrant
    (hS : ClosesOthers S)
    {m : TcpState τ}
    (hlive : 0 ≤ (m.vars.srv.clients i).fd) :
    ReentrySafe S i m := by
  rcases handles_recvClient (i := i) hS m with
    ⟨is, evs, htrace, hevs, hfrees, _⟩ |
    ⟨m₁, del, cls, ⟨is, evs, htrace, hevs, hfrees, hfd⟩, hvars, htrace'⟩
  · exact ⟨is, evs, htrace, hfrees.wrapped, pairwise_of_serving hevs, hfrees.closes,
      hfrees.nodup, hfrees.mem_iff⟩
  · have hall : Frees (is ++ [i])
        (evs ++ freeEvents (m₁.vars.srv.clients i).fd del cls) m.vars
        (recvClient S i m).2.vars := by
      rw [hvars]
      exact hfrees.append (.release (hfd ▸ hlive))
    refine ⟨is ++ [i], evs ++ freeEvents (m₁.vars.srv.clients i).fd del cls, ?_, hall.wrapped,
      ?_, hall.closes, hall.nodup, hall.mem_iff⟩
    · rw [htrace', htrace, List.append_assoc]
    · -- the client itself is closed last
      refine List.pairwise_append.mpr ⟨pairwise_of_serving hevs, ?_, ?_⟩
      · simp [freeEvents]
      · intro e _ e' he' fd _ line len r heq
        subst heq
        simp [freeEvents] at he'

end Steps

/-- A kernel that follows the script, and a callback that does the same for every
line of a client. -/
def closingKernel (callback : Int → CallbackResult) : Outside NetCall.Out NetScript
  | .onMessage fd _ _, s => (callback fd, s)
  | c, s => scriptKernel c s

/-- Two clients, and two lines from the first one. -/
def twoClients : TcpState NetScript where
  outside :=
    { reports := [], accepts := [], writes := []
      reads := [.data (ascii "a\nb\n")] }
  vars := TcpVars.occupy ⟨1, by decide⟩ 6
    (TcpVars.occupy slot₀ 5 { srv := TcpServer.created 3 4, wrapped := false })
  trace := []

/-- A callback that closes the second client at each line of another one. -/
def closesSecond (fd : Int) : CallbackResult where
  actions := if fd = 6 then [] else [.closeClient 6]
  ret := 0

theorem closesOthers_closesSecond :
    ClosesOthers (closingKernel closesSecond) := by
  intro fd line len t fd' h
  have hmem : CallbackAction.closeClient fd' ∈ (closesSecond fd).actions := h
  simp only [closesSecond] at hmem
  split_ifs at hmem with hfd
  · cases hmem
  · obtain rfl : fd' = 6 := by
      simpa using hmem
    exact ⟨fun heq => hfd heq.symm, by decide⟩

/-- Both lines are passed on, and the second client is closed once. -/
theorem recvClient_reentrant_second :
    (recvClient (closingKernel closesSecond) slot₀ twoClients).2.trace.filterMap calledBack =
        [(5, ascii "a", 1), (5, ascii "b", 1)] ∧
      (recvClient (closingKernel closesSecond) slot₀ twoClients).2.trace.filterMap closedOf =
        [6] ∧
      ReentrySafe (closingKernel closesSecond) slot₀ twoClients :=
  ⟨by decide +kernel, by decide +kernel,
    recvClient_reentrant closesOthers_closesSecond (by decide)⟩

/-- The callback closes the client it serves.  If it asks for more lines, the scan
starts behind the fill level; if it asks to close the client, the slot is freed
again. -/
theorem recvClient_closes_itself :
    (recvClient (closingKernel (fun fd => { actions := [.closeClient fd], ret := 0 }))
        slot₀ twoClients).2.vars.wrapped = true ∧
      ¬ ReentrySafe (closingKernel (fun fd => { actions := [.closeClient fd], ret := 0 }))
        slot₀ twoClients ∧
      (recvClient (closingKernel (fun fd => { actions := [.closeClient fd], ret := 1 }))
        slot₀ twoClients).2.trace.filterMap closedOf = [5, -1] ∧
      ¬ ReentrySafe (closingKernel (fun fd => { actions := [.closeClient fd], ret := 1 }))
        slot₀ twoClients := by
  have hwrapped : (recvClient (closingKernel (fun fd => { actions := [.closeClient fd], ret := 0 }))
      slot₀ twoClients).2.vars.wrapped = true := by
    decide +kernel
  have hcloses : (recvClient (closingKernel (fun fd => { actions := [.closeClient fd], ret := 1 }))
      slot₀ twoClients).2.trace.filterMap closedOf = [5, -1] := by
    decide +kernel
  refine ⟨hwrapped, ?_, hcloses, ?_⟩
  · rintro ⟨is, evs, _, hsame, _⟩
    rw [hwrapped] at hsame
    cases hsame
  · -- the second close is that of a slot without a client
    rintro ⟨is, evs, htrace, _, _, hmap, _, hmem⟩
    rw [htrace] at hcloses
    have hfds : is.map (fun j => (twoClients.vars.srv.clients j).fd) = [5, -1] :=
      hmap.symm.trans hcloses
    have hneg : (-1 : Int) ∈ is.map (fun j => (twoClients.vars.srv.clients j).fd) := by
      rw [hfds]
      decide
    obtain ⟨j, hj, hfd⟩ := List.mem_map.mp hneg
    have hlive := ((hmem j).mp hj).1
    rw [hfd] at hlive
    exact absurd hlive (by decide)

end Tcp
end PsdkBridge
