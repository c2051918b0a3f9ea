import PsdkBridge.TcpClients

/-!
# Connections do not see each other

Slots and descriptors are reused, and one poll handles many events.  `connections`
reads from the record which connections used a descriptor, what their reads
brought, and what the callback got for them.

`recvClient_receiver` compares one call of `recv_client` with the reader of
`Lib.Framing`.  `Isolated` is what holds between the events of a poll: no two
clients share a descriptor, and the buffer of a client holds what the reader of
its connection has pending.  `connections_isolated` is about two runs of servers
whose callbacks decide alike: connections with the same arrivals get the same
messages, whatever else happens.
-/

namespace PsdkBridge
namespace Tcp

/-! ## Connections in the record -/

/-- What the reads of a connection brought, and the lines that the callback got
for it, with their lengths. -/
structure Connection where
  arrivals : List (Arrival UInt8)
  messages : List (Bytes × Nat)
deriving DecidableEq

/-- A connection before its first read. -/
def Connection.opened : Connection where
  arrivals := []
  messages := []

/-- An event of the connection is noted. -/
def Connection.note (fd : Int) (c : Connection) (e : NetEvent) : Connection where
  arrivals := c.arrivals ++ (arrivalOf fd e).toList
  messages := c.messages ++ ((messageOf fd e).map (fun x => (x.line, x.len))).toList

/-- The connections of a descriptor: those that were closed, and the open one. -/
structure Watch where
  past : List Connection
  current : Option Connection

/-- The connections at the start of a record. -/
def Watch.start : Watch where
  past := []
  current := none

/-- A connection starts when its descriptor is registered, and ends with
`close`. -/
def Watch.step (fd : Int) (w : Watch) : NetEvent → Watch
  | ⟨.epollCtlAdd fd', (rc : Int)⟩ =>
      if fd' = fd ∧ 0 ≤ rc then
        { past := w.past ++ w.current.toList, current := some .opened }
      else w
  | ⟨.close fd', _⟩ =>
      if fd' = fd then { past := w.past ++ w.current.toList, current := none } else w
  | e => { w with current := w.current.map (fun c => c.note fd e) }

/-- The connections of a descriptor in a record. -/
def watch (fd : Int) (evs : List NetEvent) : Watch :=
  evs.foldl (Watch.step fd) .start

/-- The connections of a descriptor in a record, the open one last. -/
def connections (fd : Int) (evs : List NetEvent) : List Connection :=
  (watch fd evs).past ++ (watch fd evs).current.toList

/-- The descriptor that an event is about, as far as connections are
concerned. -/
def subject : NetEvent → Option Int
  | ⟨.read fd _, _⟩ => some fd
  | ⟨.onMessage fd _ _, _⟩ => some fd
  | ⟨.epollCtlAdd fd, (rc : Int)⟩ => if 0 ≤ rc then some fd else none
  | ⟨.close fd, _⟩ => some fd
  | _ => none

section Watches

variable {fd : Int}

theorem Connection.note_eq_self
    {e : NetEvent}
    (harr : arrivalOf fd e = none)
    (hmsg : messageOf fd e = none)
    (c : Connection) :
    c.note fd e = c := by
  simp [Connection.note, harr, hmsg]

/-- An event about another descriptor changes nothing. -/
theorem Watch.step_of_subject
    {e : NetEvent}
    (h : subject e ≠ some fd)
    (w : Watch) :
    Watch.step fd w e = w := by
  -- an event that is only noted, and brings nothing to note
  have hnote : arrivalOf fd e = none → messageOf fd e = none →
      { w with current := w.current.map (fun c => c.note fd e) } = w := by
    intro harr hmsg
    have hid : (fun c : Connection => c.note fd e) = id :=
      funext (Connection.note_eq_self harr hmsg)
    rw [hid, Option.map_id]
    rfl
  obtain ⟨call, answer⟩ := e
  cases call with
  | read fd' space =>
      have hfd : fd' ≠ fd := fun heq => h (congrArg some heq)
      refine hnote ?_ ?_
      · cases answer <;> simp [arrivalOf, hfd]
      · rfl
  | onMessage fd' line len =>
      have hfd : fd' ≠ fd := fun heq => h (congrArg some heq)
      exact hnote rfl (by simp [messageOf, hfd])
  | epollCtlAdd fd' =>
      refine if_neg ?_
      rintro ⟨rfl, hrc⟩
      exact h (if_pos hrc)
  | close fd' =>
      exact if_neg (fun heq => h (congrArg some heq))
  | _ =>
      exact hnote rfl rfl

theorem foldl_step_of_subject
    {evs : List NetEvent}
    (h : ∀ e ∈ evs, subject e ≠ some fd)
    (w : Watch) :
    evs.foldl (Watch.step fd) w = w := by
  induction evs with
  | nil =>
      rfl
  | cons e evs ih =>
      obtain ⟨he, hevs⟩ := List.forall_mem_cons.mp h
      rw [List.foldl_cons, Watch.step_of_subject he, ih hevs]

/-- What the events of a call of `recv_client` add to a connection. -/
def Connection.extend (fd : Int) (c : Connection) (evs : List NetEvent) : Connection where
  arrivals := c.arrivals ++ evs.filterMap (arrivalOf fd)
  messages := c.messages ++ (evs.filterMap (messageOf fd)).map (fun x => (x.line, x.len))

theorem Connection.extend_cons
    (c : Connection) (e : NetEvent) (evs : List NetEvent) :
    c.extend fd (e :: evs) = (c.note fd e).extend fd evs := by
  simp only [Connection.extend, Connection.note, List.filterMap_cons]
  cases arrivalOf fd e <;> cases messageOf fd e <;> simp

/-- Reads and deliveries are noted. -/
theorem foldl_step_of_notes
    {evs : List NetEvent}
    (h : ∀ e ∈ evs, IsRead fd e ∨ IsDelivery fd e)
    (w : Watch) :
    evs.foldl (Watch.step fd) w =
      { w with current := w.current.map (fun c => c.extend fd evs) } := by
  induction evs generalizing w with
  | nil =>
      have hid : (fun c : Connection => c.extend fd []) = id := by
        funext c
        simp [Connection.extend]
      rw [hid, Option.map_id]
      rfl
  | cons e evs ih =>
      obtain ⟨he, hevs⟩ := List.forall_mem_cons.mp h
      have hstep : Watch.step fd w e =
          { w with current := w.current.map (fun c => c.note fd e) } := by
        rcases he with ⟨space, r, rfl⟩ | ⟨line, len, r, rfl⟩ | ⟨fd', bs, r, rfl⟩ <;> rfl
      rw [List.foldl_cons, hstep, ih hevs]
      simp only [Option.map_map, Function.comp_def, Connection.extend_cons]

end Watches

/-! ## One call against the reader -/

/-- The reader of a connection, with a callback that decides as `d`. -/
def receiver (d : Bytes → Bool) (as : List (Arrival UInt8)) : Receiver UInt8 :=
  Receiver.ofArrivals newline carriageReturn d as

/-- One arrival at the reader. -/
abbrev receive (d : Bytes → Bool) : Receiver UInt8 → Arrival UInt8 → Receiver UInt8 :=
  Receiver.step newline carriageReturn d

section Calls

variable {τ : Type} {S : Outside NetCall.Out τ} {d : Bytes → Bool}

/-- The callback decides by the line alone whether it closes the client. -/
def Decides (S : Outside NetCall.Out τ) (d : Bytes → Bool) : Prop :=
  ∀ fd line len t, (S (.onMessage fd line len) t).1.ret ≠ 0 ↔ d line = true

theorem decides_of_ret_eq_zero
    (hd : Decides S d)
    {fd : Int} {x : Message}
    (hx : Answered S fd x)
    (hret : x.ret = 0) :
    d x.line = false := by
  obtain ⟨_, t, ht⟩ := hx
  rw [← Bool.not_eq_true, ← hd fd x.line x.len t, ← ht]
  exact not_not_intro hret

theorem decides_of_ret_ne_zero
    (hd : Decides S d)
    {fd : Int} {x : Message}
    (hx : Answered S fd x)
    (hret : x.ret ≠ 0) :
    d x.line = true := by
  obtain ⟨_, t, ht⟩ := hx
  rw [← hd fd x.line x.len t, ← ht]
  exact hret

/-- The events of one call, as the reader sees them: it passes on the lines that
the callback got. -/
structure Reads (d : Bytes → Bool) (c : Client) (evs : List NetEvent) : Prop where
  events : ∀ e ∈ evs, IsRead c.fd e ∨ IsDelivery c.fd e
  lengths : ∀ x ∈ evs.filterMap (messageOf c.fd), x.len = x.line.length
  lines : ∀ r : Receiver UInt8, r.pending = c.text 0 →
    ((evs.filterMap (arrivalOf c.fd)).foldl (receive d) r).lines =
      r.lines ++ (evs.filterMap (messageOf c.fd)).map Message.line

/-- Data and a pause at the reader. -/
theorem foldl_receive_pause
    (ds : List Bytes) (r : Receiver UInt8) :
    (ds.map Arrival.data ++ [Arrival.pause]).foldl (receive d) r =
      { pending := rest (r.pending ++ ds.flatten)
        lines := r.lines ++ through d (lines (r.pending ++ ds.flatten)) } := by
  rw [List.foldl_append, Receiver.foldl_data]
  rfl

/-- The lines that the callback got are those up to the first one that stops. -/
theorem through_of_finished
    (hd : Decides S d)
    {fd : Int} {i : Slot} {ls : List Bytes} {ms : List Message} {evs : List NetEvent}
    {c' : Client} {m r : TcpState τ}
    (hans : ∀ x ∈ ms, Answered S fd x)
    (h : Finished i ls ms evs c' m r) :
    through d ls = ms.map Message.line := by
  rw [← h.lines]
  refine through_of_forall (List.forall_mem_map.mpr fun x hx => ?_)
  exact decides_of_ret_eq_zero hd (hans x hx) (h.rets x hx)

theorem through_of_stopped
    (hd : Decides S d)
    {fd : Int} {i : Slot} {ls : List Bytes} {ms : List Message} {evs : List NetEvent}
    {c' : Client} {m r : TcpState τ}
    (hans : ∀ x ∈ ms, Answered S fd x)
    (h : Stopped i fd ls ms evs c' m r) :
    through d ls = ms.map Message.line := by
  obtain ⟨pre, last, rfl, hpre, hlast⟩ := h.rets
  obtain ⟨hans', hanslast⟩ := List.forall_mem_append.mp hans
  obtain ⟨ls', hls⟩ := h.lines
  rw [← hls, List.map_append, List.map_singleton, List.append_assoc, List.singleton_append]
  refine through_append_cons (List.forall_mem_map.mpr fun x hx => ?_) ?_ ls'
  · exact decides_of_ret_eq_zero hd (hans' x hx) (hpre x hx)
  · exact decides_of_ret_ne_zero hd (hanslast last (List.mem_singleton_self _)) hlast

/-- The call kept the client, with what the reader has pending. -/
structure Kept (d : Bytes → Bool) (i : Slot) (c c' : Client) (evs : List NetEvent)
    (m r : TcpState τ) : Prop where
  vars : r.vars = m.vars.setClient i c'
  trace : r.trace = m.trace ++ evs
  pending : ∀ r : Receiver UInt8, r.pending = c.text 0 →
    ((evs.filterMap (arrivalOf c.fd)).foldl (receive d) r).pending = c'.text 0

/-- The call freed the client. -/
structure Freed (i : Slot) (c c' : Client) (evs : List NetEvent) (m r : TcpState τ) :
    Prop where
  vars : r.vars = (m.vars.setClient i c').release i
  trace : ∃ del cls, r.trace = m.trace ++ (evs ++ freeEvents c.fd del cls)

/-- **One call of `recv_client` against the reader.** -/
theorem recvClient_receiver
    (hS : Passive S)
    (hd : Decides S d)
    {i : Slot} {c : Client} {m : TcpState τ}
    (hc : m.vars.srv.clients i = c) :
    ∃ evs c', c'.fd = c.fd ∧ Reads d c evs ∧
      (Kept d i c c' evs m (recvClient S i m).2 ∨
        Freed i c c' evs m (recvClient S i m).2) := by
  obtain ⟨ds, ms, evs, c', hfd, hevs, rfl, hans, hend⟩ := recvClient_cases hS i c m hc
  have hlengths := fun x hx => (hans x hx).1
  refine ⟨evs, c', hfd, ?_⟩
  rcases hend with ⟨harr, ⟨hfin, htext⟩ | hstop⟩ | ⟨hms, hgave⟩
  · refine ⟨⟨hevs, hlengths, fun r hr => ?_⟩, Or.inl ⟨hfin.vars, hfin.trace, fun r hr => ?_⟩⟩
    · rw [harr, foldl_receive_pause, hr, through_of_finished hd hans hfin]
    · rw [harr, foldl_receive_pause, hr, htext]
  · obtain ⟨del, cls, htrace⟩ := hstop.trace
    refine ⟨⟨hevs, hlengths, fun r hr => ?_⟩, Or.inr ⟨hstop.vars, del, cls, ?_⟩⟩
    · rw [harr, foldl_receive_pause, hr, through_of_stopped hd hans hstop]
    · rw [htrace, List.append_assoc]
  · obtain ⟨del, cls, htrace⟩ := hgave.trace
    refine ⟨⟨hevs, hlengths, fun r hr => ?_⟩, Or.inr ⟨hgave.vars, del, cls, ?_⟩⟩
    · rw [hms, List.map_nil, List.append_nil]
      rcases hgave.arrivals with ⟨harr, _⟩ | harr
      · rw [harr, Receiver.foldl_data]
      · rw [harr, List.foldl_append, Receiver.foldl_data]
        rfl
    · rw [htrace, List.append_assoc]

end Calls

/-! ## Descriptors -/

/-- What `accept` answered. -/
def acceptedOf : NetEvent → Option Int
  | ⟨.accept _, (cfd : Int)⟩ => some cfd
  | _ => none

/-- The descriptors that `accept` answered and that were not closed since.  The
kernel does not answer one of them again. -/
def descriptors : Protocol NetEvent (Finset Int) where
  start := ∅
  next s
    | ⟨.accept _, (cfd : Int)⟩ => insert cfd s
    | ⟨.close fd, _⟩ => s.erase fd
    | _ => s
  Allowed s e := ∀ cfd ∈ acceptedOf e, 0 ≤ cfd → cfd ∉ s

instance
    (s : Finset Int) (e : NetEvent) :
    Decidable (descriptors.Allowed s e) :=
  inferInstanceAs (Decidable (∀ cfd ∈ acceptedOf e, 0 ≤ cfd → cfd ∉ s))

/-- The open descriptors behind a record. -/
def opened (evs : List NetEvent) : Finset Int :=
  descriptors.after descriptors.start evs

theorem opened_append
    (evs evs' : List NetEvent) :
    opened (evs ++ evs') = descriptors.after (opened evs) evs' :=
  descriptors.after_append _ evs evs'

theorem after_of_notes
    {fd : Int} {evs : List NetEvent}
    (h : ∀ e ∈ evs, IsRead fd e ∨ IsDelivery fd e)
    (s : Finset Int) :
    descriptors.after s evs = s := by
  refine (descriptors.obeys_of_neutral (fun e he => ?_) (fun e he => ?_)).1
  · rcases h e he with ⟨space, r, rfl⟩ | ⟨line, len, r, rfl⟩ | ⟨fd', bs, r, rfl⟩ <;> rfl
  · rcases h e he with ⟨space, r, rfl⟩ | ⟨line, len, r, rfl⟩ | ⟨fd', bs, r, rfl⟩ <;>
      simp [descriptors, acceptedOf]

theorem after_of_setup
    {fd : Int} {evs : List NetEvent}
    (h : ∀ e ∈ evs, IsSetup fd e)
    (s : Finset Int) :
    descriptors.after s evs = s := by
  refine (descriptors.obeys_of_neutral (fun e he => ?_) (fun e he => ?_)).1
  · rcases h e he with ⟨r, rfl⟩ | ⟨flags, r, rfl⟩ | ⟨r, rfl⟩ <;> rfl
  · rcases h e he with ⟨r, rfl⟩ | ⟨flags, r, rfl⟩ | ⟨r, rfl⟩ <;>
      simp [descriptors, acceptedOf]

/-! ## The invariant -/

/-- The callback got the lines of the connection, as the reader passes them
on. -/
def Served (d : Bytes → Bool) (c : Connection) : Prop :=
  c.messages = (receiver d c.arrivals).lines.map (fun l => (l, l.length))

/-- The slot belongs to the connection: the buffer holds what its reader has
pending. -/
structure Holds (d : Bytes → Bool) (fd : Int) (c : Connection) (client : Client) :
    Prop where
  descriptor : client.fd = fd
  nonneg : 0 ≤ fd
  served : Served d c
  pending : (receiver d c.arrivals).pending = client.text 0

/-- What holds of the variables and the record between two events. -/
structure Isolated (d : Bytes → Bool) (v : TcpVars) (evs : List NetEvent) : Prop where
  distinct : ∀ i j, 0 ≤ (v.srv.clients i).fd →
    (v.srv.clients j).fd = (v.srv.clients i).fd → j = i
  isOpen : ∀ i, 0 ≤ (v.srv.clients i).fd → (v.srv.clients i).fd ∈ opened evs
  past : ∀ fd, ∀ c ∈ (watch fd evs).past, Served d c
  current : ∀ fd c, (watch fd evs).current = some c →
    ∃ i, Holds d fd c (v.srv.clients i)

theorem isolated_created
    (d : Bytes → Bool) (listenFd epollFd : Int) :
    Isolated d { srv := TcpServer.created listenFd epollFd, wrapped := false } [] where
  distinct := fun _ _ h => absurd h (by simp [TcpServer.created, Client.fresh])
  isOpen := fun _ h => absurd h (by simp [TcpServer.created, Client.fresh])
  past := fun _ _ h => nomatch h
  current := fun _ _ h => nomatch h

/-- Every connection is served. -/
theorem Isolated.connections
    {d : Bytes → Bool} {v : TcpVars} {evs : List NetEvent}
    (h : Isolated d v evs)
    {fd : Int} {c : Connection}
    (hc : c ∈ connections fd evs) :
    Served d c := by
  rcases List.mem_append.mp hc with hc | hc
  · exact h.past fd c hc
  · obtain ⟨i, hi⟩ := h.current fd c (by simpa using hc)
    exact hi.served

/-- The invariant survives the step. -/
def Advances {τ : Type} (d : Bytes → Bool) (m m' : TcpState τ) : Prop :=
  ∃ evs', m'.trace = m.trace ++ evs' ∧
    ∀ evs, Isolated d m.vars evs → descriptors.Obeys (opened evs) evs' →
      Isolated d m'.vars (evs ++ evs')

namespace Advances

variable {τ : Type} {d : Bytes → Bool}

theorem refl
    (m : TcpState τ) :
    Advances d m m :=
  Protocol.Keeps.refl m

theorem trans
    {m₁ m₂ m₃ : TcpState τ}
    (h : Advances d m₁ m₂)
    (h' : Advances d m₂ m₃) :
    Advances d m₁ m₃ :=
  Protocol.Keeps.trans h h'

end Advances

theorem watch_append
    (fd : Int) (evs evs' : List NetEvent) :
    watch fd (evs ++ evs') = evs'.foldl (Watch.step fd) (watch fd evs) :=
  List.foldl_append

/-- A step that is about one slot and one descriptor.  What has to be shown is
about these two only. -/
theorem Isolated.focus
    {d : Bytes → Bool} {v v' : TcpVars} {evs evs' : List NetEvent}
    (h : Isolated d v evs)
    (i : Slot) (fd : Int)
    (hothers : ∀ j, j ≠ i → v'.srv.clients j = v.srv.clients j)
    (hunique : ∀ j, j ≠ i → 0 ≤ fd → (v.srv.clients j).fd ≠ fd)
    (hbefore : (v.srv.clients i).fd = fd ∨ (v.srv.clients i).fd < 0)
    (hafter : 0 ≤ (v'.srv.clients i).fd → (v'.srv.clients i).fd = fd ∧ fd ∈ opened evs')
    (hopen : ∀ fd', fd' ≠ fd → fd' ∈ opened evs → fd' ∈ opened evs')
    (hwatch : ∀ fd', fd' ≠ fd → watch fd' evs' = watch fd' evs)
    (hpast : ∀ c ∈ (watch fd evs').past, Served d c)
    (hcurrent : ∀ c, (watch fd evs').current = some c → Holds d fd c (v'.srv.clients i)) :
    Isolated d v' evs' := by
  refine ⟨?_, ?_, ?_, ?_⟩
  · -- of two slots with one descriptor, at most one is that of the step
    intro j k hj hk
    by_contra hkj
    rcases eq_or_ne j i with rfl | hji
    · rw [hothers k hkj, (hafter hj).1] at hk
      exact hunique k hkj ((hafter hj).1 ▸ hj) hk
    · rcases eq_or_ne k i with rfl | hki
      · rw [hothers j hji] at hj hk
        obtain ⟨hk', _⟩ := hafter (hk ▸ hj)
        exact hunique j hji (hk' ▸ hk ▸ hj) (hk.symm.trans hk')
      · rw [hothers j hji] at hj hk
        rw [hothers k hki] at hk
        exact hkj (h.distinct j k hj hk)
  · intro j hj
    rcases eq_or_ne j i with rfl | hji
    · rw [(hafter hj).1]
      exact (hafter hj).2
    · rw [hothers j hji] at hj ⊢
      exact hopen _ (fun heq => hunique j hji (heq ▸ hj) heq) (h.isOpen j hj)
  · intro fd' c hc
    rcases eq_or_ne fd' fd with rfl | hne
    · exact hpast c hc
    · rw [hwatch fd' hne] at hc
      exact h.past fd' c hc
  · intro fd' c hc
    rcases eq_or_ne fd' fd with rfl | hne
    · exact ⟨i, hcurrent c hc⟩
    · rw [hwatch fd' hne] at hc
      obtain ⟨j, hj⟩ := h.current fd' c hc
      have hji : j ≠ i := by
        rintro rfl
        rcases hbefore with hfd | hneg
        · exact hne (hj.descriptor.symm.trans hfd)
        · have hfd := hj.descriptor
          have hnonneg := hj.nonneg
          omega
      exact ⟨j, by rwa [hothers j hji]⟩

/-! ## Receiving -/

section Receive

variable {d : Bytes → Bool} {v : TcpVars} {i : Slot} {c c' : Client}
  {evs evs' : List NetEvent}

/-- The connection of the client is served when the call is over. -/
theorem Holds.served_extend
    {conn : Connection}
    (h : Holds d c.fd conn c)
    (hreads : Reads d c evs') :
    Served d (conn.extend c.fd evs') := by
  have hlines := hreads.lines (receiver d conn.arrivals) h.pending
  have hmessages : (evs'.filterMap (messageOf c.fd)).map (fun x => (x.line, x.len)) =
      ((evs'.filterMap (messageOf c.fd)).map Message.line).map (fun l => (l, l.length)) := by
    rw [List.map_map]
    apply List.map_congr_left
    intro x hx
    rw [hreads.lengths x hx]
    rfl
  show conn.messages ++ _ = (receiver d (conn.arrivals ++ _)).lines.map _
  rw [receiver, Receiver.ofArrivals_append]
  change _ = List.map _ (List.foldl (receive d) (receiver d conn.arrivals) _).lines
  rw [hlines, List.map_append, hmessages, h.served]

section Notes

variable {fd : Int}
  (h : ∀ e ∈ evs', IsRead fd e ∨ IsDelivery fd e)

include h

theorem watch_notes
    (evs : List NetEvent) :
    watch fd (evs ++ evs') =
      { watch fd evs with
        current := (watch fd evs).current.map (fun x => x.extend fd evs') } := by
  rw [watch_append, foldl_step_of_notes h]

/-- Other descriptors do not see the call. -/
theorem watch_notes_of_ne
    {fd' : Int}
    (hfd : fd' ≠ fd) :
    watch fd' (evs ++ evs') = watch fd' evs := by
  rw [watch_append]
  apply foldl_step_of_subject
  intro e he
  rcases h e he with ⟨space, r, rfl⟩ | ⟨line, len, r, rfl⟩ | ⟨fd', bs, r, rfl⟩
  · exact fun heq => hfd (Option.some.inj heq).symm
  · exact fun heq => hfd (Option.some.inj heq).symm
  · exact fun heq => nomatch heq

end Notes

/-- The connection of a client is that of its slot. -/
theorem Isolated.holds
    (h : Isolated d v evs)
    (hc : v.srv.clients i = c)
    {conn : Connection}
    (hconn : (watch c.fd evs).current = some conn) :
    Holds d c.fd conn c := by
  obtain ⟨j, hj⟩ := h.current c.fd conn hconn
  have hij : i = j := by
    apply h.distinct j i
    · rw [hj.descriptor]
      exact hj.nonneg
    · rw [hj.descriptor, hc]
  subst hij
  rwa [hc] at hj

/-- No other slot has the descriptor of a client. -/
theorem Isolated.unique
    (h : Isolated d v evs)
    (hc : v.srv.clients i = c)
    (j : Slot)
    (hji : j ≠ i)
    (hnonneg : 0 ≤ c.fd) :
    (v.srv.clients j).fd ≠ c.fd := by
  intro heq
  rw [← hc] at hnonneg heq
  exact hji (h.distinct i j hnonneg heq)

/-- The client is kept. -/
theorem Isolated.kept
    (h : Isolated d v evs)
    (hc : v.srv.clients i = c)
    (hfd : c'.fd = c.fd)
    (hreads : Reads d c evs')
    (hpending : ∀ r : Receiver UInt8, r.pending = c.text 0 →
      ((evs'.filterMap (arrivalOf c.fd)).foldl (receive d) r).pending = c'.text 0) :
    Isolated d (v.setClient i c') (evs ++ evs') := by
  have hown := watch_notes hreads.events evs
  have hopened : opened (evs ++ evs') = opened evs := by
    rw [opened_append, after_of_notes hreads.events]
  refine h.focus i c.fd (fun j hj => by simp [hj]) (h.unique hc) (Or.inl (by rw [hc])) ?_
    (fun fd _ hfd => by rwa [hopened]) (fun fd hne => watch_notes_of_ne hreads.events hne) ?_ ?_
  · intro hlive
    rw [TcpVars.setClient_clients_self] at hlive ⊢
    refine ⟨hfd, ?_⟩
    rw [hopened, ← hc]
    exact h.isOpen i (by rwa [hc, ← hfd])
  · intro x hx
    rw [hown] at hx
    exact h.past c.fd x hx
  · intro x hx
    rw [hown] at hx
    obtain ⟨conn, hconn, rfl⟩ := Option.map_eq_some_iff.mp hx
    have hholds := h.holds hc hconn
    rw [TcpVars.setClient_clients_self]
    refine ⟨hfd, hholds.nonneg, hholds.served_extend hreads, ?_⟩
    rw [← hpending _ hholds.pending]
    exact congrArg Receiver.pending (Receiver.ofArrivals_append _ _ _ _ _)

section Free

variable {fd del cls : Int}

theorem foldl_freeEvents_of_ne
    {fd' : Int}
    (h : fd' ≠ fd)
    (w : Watch) :
    (freeEvents fd del cls).foldl (Watch.step fd') w = w := by
  apply foldl_step_of_subject
  intro e he
  rcases List.mem_pair.mp he with rfl | rfl
  · exact fun heq => nomatch heq
  · exact fun heq => h (Option.some.inj heq).symm

theorem foldl_freeEvents
    (w : Watch) :
    (freeEvents fd del cls).foldl (Watch.step fd) w =
      { past := w.past ++ w.current.toList, current := none } := by
  have hdel : Watch.step fd w ⟨.epollCtlDel fd, del⟩ = w :=
    Watch.step_of_subject (by simp [subject]) w
  rw [freeEvents, List.foldl_cons, hdel]
  exact if_pos rfl

theorem after_freeEvents
    (s : Finset Int) :
    descriptors.after s (freeEvents fd del cls) = s.erase fd := by
  rfl

section NotesFreed

variable
  (h : ∀ e ∈ evs', IsRead fd e ∨ IsDelivery fd e)

include h

theorem watch_freed
    (evs : List NetEvent) (del cls : Int) :
    watch fd (evs ++ (evs' ++ freeEvents fd del cls)) =
      { past := (watch fd evs).past ++
          ((watch fd evs).current.map (fun x => x.extend fd evs')).toList
        current := none } := by
  rw [watch_append, List.foldl_append, foldl_step_of_notes h, foldl_freeEvents]

theorem watch_freed_of_ne
    {fd' : Int}
    (hfd : fd' ≠ fd) :
    watch fd' (evs ++ (evs' ++ freeEvents fd del cls)) = watch fd' evs := by
  rw [← List.append_assoc, watch_append, foldl_freeEvents_of_ne hfd,
    watch_notes_of_ne h hfd]

end NotesFreed

end Free

/-- The client is freed. -/
theorem Isolated.freed
    {del cls : Int}
    (h : Isolated d v evs)
    (hc : v.srv.clients i = c)
    (hreads : Reads d c evs') :
    Isolated d ((v.setClient i c').release i)
      (evs ++ (evs' ++ freeEvents c.fd del cls)) := by
  have hown := watch_freed hreads.events evs del cls
  have hopened : opened (evs ++ (evs' ++ freeEvents c.fd del cls)) =
      (opened evs).erase c.fd := by
    rw [opened_append, Protocol.after_append, after_of_notes hreads.events,
      after_freeEvents]
  refine h.focus i c.fd (fun j hj => by simp [hj]) (h.unique hc) (Or.inl (by rw [hc]))
    (fun hlive => absurd hlive (by simp)) ?_ ?_ ?_ ?_
  · intro fd hne hfd
    rw [hopened]
    exact Finset.mem_erase.mpr ⟨hne, hfd⟩
  · exact fun fd hne => watch_freed_of_ne hreads.events hne
  · intro x hx
    rw [hown] at hx
    rcases List.mem_append.mp hx with hx | hx
    · exact h.past c.fd x hx
    · obtain ⟨conn, hconn, rfl⟩ := Option.map_eq_some_iff.mp (Option.mem_toList.mp hx)
      exact (h.holds hc hconn).served_extend hreads
  · intro x hx
    rw [hown] at hx
    cases hx

end Receive

/-! ## Accepting -/

section Accepting

variable {d : Bytes → Bool} {v v' : TcpVars} {i : Slot} {cfd listenFd : Int}
  {evs evs' setup : List NetEvent}

/-- A descriptor that is not open has no connection. -/
theorem Isolated.current_eq_none
    (h : Isolated d v evs)
    (hcfd : cfd ∉ opened evs) :
    (watch cfd evs).current = none := by
  cases hconn : (watch cfd evs).current with
  | none =>
      rfl
  | some c =>
      obtain ⟨j, hj⟩ := h.current cfd c hconn
      have hopen := h.isOpen j (hj.descriptor ▸ hj.nonneg)
      exact absurd (hj.descriptor ▸ hopen) hcfd

/-- Nothing changed for the clients and their connections. -/
theorem Isolated.unchanged
    (h : Isolated d v evs)
    (hsame : ∀ j, 0 ≤ (v.srv.clients j).fd ∨ 0 ≤ (v'.srv.clients j).fd →
      v'.srv.clients j = v.srv.clients j)
    (hopen : ∀ j, 0 ≤ (v.srv.clients j).fd → (v.srv.clients j).fd ∈ opened (evs ++ evs'))
    (hwatch : ∀ fd, watch fd (evs ++ evs') = watch fd evs) :
    Isolated d v' (evs ++ evs') := by
  refine ⟨?_, ?_, ?_, ?_⟩
  · intro j k hj hk
    rw [hsame k (Or.inr (hk ▸ hj)), hsame j (Or.inr hj)] at hk
    rw [hsame j (Or.inr hj)] at hj
    exact h.distinct j k hj hk
  · intro j hj
    have heq := hsame j (Or.inr hj)
    rw [heq] at hj ⊢
    exact hopen j hj
  · intro fd c hc
    rw [hwatch] at hc
    exact h.past fd c hc
  · intro fd c hc
    rw [hwatch] at hc
    obtain ⟨j, hj⟩ := h.current fd c hc
    exact ⟨j, by rwa [hsame j (Or.inl (hj.descriptor ▸ hj.nonneg))]⟩

/-- `accept` and the preparation are not about connections. -/
theorem foldl_accept_setup
    (hsetup : ∀ e ∈ setup, IsSetup cfd e)
    (fd : Int) (w : Watch) :
    (⟨.accept listenFd, cfd⟩ :: setup : List NetEvent).foldl (Watch.step fd) w = w := by
  refine foldl_step_of_subject (List.forall_mem_cons.mpr ⟨by simp [subject], ?_⟩) w
  intro e he
  rcases hsetup e he with ⟨r, rfl⟩ | ⟨flags, r, rfl⟩ | ⟨r, rfl⟩ <;> simp [subject]

theorem after_accept_setup
    (hsetup : ∀ e ∈ setup, IsSetup cfd e)
    (s : Finset Int) :
    descriptors.after s (⟨.accept listenFd, cfd⟩ :: setup : List NetEvent) =
      insert cfd s :=
  after_of_setup hsetup (insert cfd s)

/-- A descriptor without a connection is closed again. -/
theorem Watch.closed_eq_self
    {w : Watch}
    (h : w.current = none) :
    ({ past := w.past ++ w.current.toList, current := none } : Watch) = w := by
  obtain ⟨past, current⟩ := w
  subst h
  simp

/-- The descriptor of a connection that was turned away had no connection. -/
theorem watch_turnedAway
    {cls : Int}
    (hsetup : ∀ e ∈ setup, IsSetup cfd e)
    (hnone : (watch cfd evs).current = none)
    (fd : Int) :
    watch fd (evs ++ (⟨.accept listenFd, cfd⟩ :: setup ++ [⟨.close cfd, cls⟩])) =
      watch fd evs := by
  rw [watch_append, List.foldl_append, foldl_accept_setup hsetup, List.foldl_cons,
    List.foldl_nil]
  by_cases hfd : fd = cfd
  · subst hfd
    have hclose : Watch.step fd (watch fd evs) ⟨.close fd, cls⟩ =
        { past := (watch fd evs).past ++ (watch fd evs).current.toList
          current := none } :=
      if_pos rfl
    rw [hclose, Watch.closed_eq_self hnone]
  · exact if_neg (fun heq => hfd heq.symm)

theorem watch_unregistered
    {rc del cls : Int}
    (hsetup : ∀ e ∈ setup, IsSetup cfd e)
    (hnone : (watch cfd evs).current = none)
    (hrc : rc < 0)
    (fd : Int) :
    watch fd (evs ++ (⟨.accept listenFd, cfd⟩ :: setup ++
        ⟨.epollCtlAdd cfd, rc⟩ :: freeEvents cfd del cls)) =
      watch fd evs := by
  have hadd : ∀ w, Watch.step fd w ⟨.epollCtlAdd cfd, rc⟩ = w := fun w =>
    if_neg (fun hboth => absurd hboth.2 (not_le.mpr hrc))
  rw [watch_append, List.foldl_append, foldl_accept_setup hsetup, List.foldl_cons, hadd]
  by_cases hfd : fd = cfd
  · subst hfd
    rw [foldl_freeEvents, Watch.closed_eq_self hnone]
  · exact foldl_freeEvents_of_ne hfd _

/-- The descriptor of a new client has a new connection. -/
theorem watch_admitted
    {rc : Int}
    (hsetup : ∀ e ∈ setup, IsSetup cfd e)
    (hnone : (watch cfd evs).current = none)
    (hrc : 0 ≤ rc) :
    watch cfd (evs ++ (⟨.accept listenFd, cfd⟩ :: setup ++ [⟨.epollCtlAdd cfd, rc⟩])) =
      { past := (watch cfd evs).past, current := some .opened } := by
  rw [watch_append, List.foldl_append, foldl_accept_setup hsetup, List.foldl_cons,
    List.foldl_nil]
  have hadd : Watch.step cfd (watch cfd evs) ⟨.epollCtlAdd cfd, rc⟩ =
      { past := (watch cfd evs).past ++ (watch cfd evs).current.toList
        current := some .opened } :=
    if_pos ⟨rfl, hrc⟩
  rw [hadd, hnone, Option.toList_none, List.append_nil]

theorem watch_admitted_of_ne
    {rc fd : Int}
    (hsetup : ∀ e ∈ setup, IsSetup cfd e)
    (hfd : fd ≠ cfd) :
    watch fd (evs ++ (⟨.accept listenFd, cfd⟩ :: setup ++ [⟨.epollCtlAdd cfd, rc⟩])) =
      watch fd evs := by
  rw [watch_append, List.foldl_append, foldl_accept_setup hsetup, List.foldl_cons,
    List.foldl_nil]
  exact if_neg (fun hboth => hfd hboth.1.symm)

/-- The connection was turned away. -/
theorem Isolated.turnedAway
    {cls : Int}
    (h : Isolated d v evs)
    (hsetup : ∀ e ∈ setup, IsSetup cfd e)
    (hfresh : cfd ∉ opened evs) :
    Isolated d v
      (evs ++ (⟨.accept listenFd, cfd⟩ :: setup ++ [⟨.close cfd, cls⟩])) := by
  refine h.unchanged (fun j _ => rfl) (fun j hj => ?_)
    (watch_turnedAway hsetup (h.current_eq_none hfresh))
  have hopen := h.isOpen j hj
  rw [opened_append, Protocol.after_append, after_accept_setup hsetup]
  refine Finset.mem_erase.mpr ⟨fun heq => hfresh (heq ▸ hopen), ?_⟩
  exact Finset.mem_insert_of_mem hopen

/-- The connection could not be registered. -/
theorem Isolated.unregistered
    {rc del cls : Int}
    (h : Isolated d v evs)
    (hsetup : ∀ e ∈ setup, IsSetup cfd e)
    (hfresh : cfd ∉ opened evs)
    (hslot : (v.srv.clients i).fd < 0)
    (hrc : rc < 0) :
    Isolated d ((v.occupy i cfd).release i)
      (evs ++ (⟨.accept listenFd, cfd⟩ :: setup ++
        ⟨.epollCtlAdd cfd, rc⟩ :: freeEvents cfd del cls)) := by
  refine h.unchanged (fun j hj => ?_) (fun j hj => ?_)
    (watch_unregistered hsetup (h.current_eq_none hfresh) hrc)
  · have hji : j ≠ i := by
      rintro rfl
      rcases hj with hj | hj
      · omega
      · simp at hj
    simp [hji]
  · have hopen := h.isOpen j hj
    rw [opened_append, Protocol.after_append, after_accept_setup hsetup]
    show _ ∈ descriptors.after (insert cfd (opened evs)) (freeEvents cfd del cls)
    rw [after_freeEvents]
    refine Finset.mem_erase.mpr ⟨fun heq => hfresh (heq ▸ hopen), ?_⟩
    exact Finset.mem_insert_of_mem hopen

/-- The connection has a slot now, and its buffer is empty. -/
theorem Isolated.admitted
    {rc : Int}
    (h : Isolated d v evs)
    (hsetup : ∀ e ∈ setup, IsSetup cfd e)
    (hcfd : 0 ≤ cfd)
    (hfresh : cfd ∉ opened evs)
    (hslot : (v.srv.clients i).fd < 0)
    (hrc : 0 ≤ rc) :
    Isolated d (v.occupy i cfd)
      (evs ++ (⟨.accept listenFd, cfd⟩ :: setup ++ [⟨.epollCtlAdd cfd, rc⟩])) := by
  have hopened :
      opened (evs ++ (⟨.accept listenFd, cfd⟩ :: setup ++ [⟨.epollCtlAdd cfd, rc⟩])) =
        insert cfd (opened evs) := by
    rw [opened_append, Protocol.after_append, after_accept_setup hsetup]
    rfl
  refine h.focus i cfd (fun j hj => by simp [hj]) ?_ (Or.inr hslot) ?_ ?_ ?_ ?_ ?_
  · -- no other slot has the new descriptor
    intro j _ _ heq
    exact hfresh (heq ▸ h.isOpen j (heq ▸ hcfd))
  · intro _
    rw [hopened]
    exact ⟨by simp, Finset.mem_insert_self _ _⟩
  · intro fd _ hfd
    rw [hopened]
    exact Finset.mem_insert_of_mem hfd
  · exact fun fd hne => watch_admitted_of_ne hsetup hne
  · intro c hc
    rw [watch_admitted hsetup (h.current_eq_none hfresh) hrc] at hc
    exact h.past cfd c hc
  · intro c hc
    rw [watch_admitted hsetup (h.current_eq_none hfresh) hrc] at hc
    obtain rfl := Option.some.inj hc
    rw [TcpVars.occupy_clients_self]
    exact ⟨rfl, hcfd, rfl, rfl⟩

end Accepting

theorem advances_acceptClient
    {τ : Type} (S : Outside NetCall.Out τ) (d : Bytes → Bool) (m : TcpState τ) :
    Advances d m (acceptClient S m).2 := by
  cases acceptClient_cases S m with
  | nothing cfd negative vars trace =>
      refine ⟨_, trace, fun evs hinv _ => ?_⟩
      rw [vars]
      refine hinv.unchanged (fun j _ => rfl) (fun j hj => ?_) (fun fd => ?_)
      · rw [opened_append]
        exact Finset.mem_insert_of_mem (hinv.isOpen j hj)
      · rw [watch_append]
        exact foldl_accept_setup (by simp) fd _
  | turnedAway cfd cls setup nonneg prepares vars trace =>
      refine ⟨_, trace, fun evs hinv hobeys => ?_⟩
      rw [vars]
      exact hinv.turnedAway prepares (hobeys.1 cfd rfl nonneg)
  | unregistered cfd rc del cls setup i nonneg prepares slot failed vars trace =>
      refine ⟨_, trace, fun evs hinv hobeys => ?_⟩
      rw [vars]
      exact hinv.unregistered prepares (hobeys.1 cfd rfl nonneg) (freeSlot_eq_some slot) failed
  | admitted cfd rc setup i nonneg prepares slot added vars trace =>
      refine ⟨_, trace, fun evs hinv hobeys => ?_⟩
      rw [vars]
      exact hinv.admitted prepares nonneg (hobeys.1 cfd rfl nonneg) (freeSlot_eq_some slot) added

theorem advances_recvClient
    {τ : Type} {S : Outside NetCall.Out τ} {d : Bytes → Bool}
    (hS : Passive S)
    (hd : Decides S d)
    (i : Slot) (m : TcpState τ) :
    Advances d m (recvClient S i m).2 := by
  obtain ⟨evs', c', hfd, hreads, hkept | hfreed⟩ := recvClient_receiver hS hd (m := m) rfl
  · refine ⟨evs', hkept.trace, fun evs hinv _ => ?_⟩
    rw [hkept.vars]
    exact hinv.kept rfl hfd hreads hkept.pending
  · obtain ⟨del, cls, htrace⟩ := hfreed.trace
    refine ⟨_, htrace, fun evs hinv _ => ?_⟩
    rw [hfreed.vars]
    exact hinv.freed rfl hreads

/-! ## Polls -/

section Polls

variable {τ : Type} {S : Outside NetCall.Out τ} {d : Bytes → Bool}

theorem advances_epollWait
    (S : Outside NetCall.Out τ) (d : Bytes → Bool) (m : TcpState τ) :
    Advances d m (callOut S (.epollWait (droneMaxClients + 1)) m).2 := by
  refine ⟨_, rfl, fun evs hinv _ => ?_⟩
  refine hinv.unchanged (fun j _ => rfl) (fun j hj => ?_) (fun fd => ?_)
  · rw [opened_append]
    exact hinv.isOpen j hj
  · rw [watch_append]
    exact foldl_step_of_subject (by simp [subject]) _

theorem advances_polls
    (hS : Passive S)
    (hd : Decides S d)
    (m : TcpState τ) (n : Nat) :
    Advances d m (serverRun S m (List.replicate n .poll)) :=
  polls_rule Advances.refl Advances.trans (advances_epollWait S d)
    (advances_acceptClient S d) (fun m i => advances_recvClient hS hd i m) m n

/-- A run of polls of a new server, and what it adds to the record.  The callback
closes no client itself and decides by the line, and `accept` answers no
descriptor that is still open. -/
structure PollRun (S : Outside NetCall.Out τ) (d : Bytes → Bool) (evs : List NetEvent) :
    Prop where
  passive : Passive S
  decides : Decides S d
  fresh : descriptors.Obeys descriptors.start evs
  run : ∃ bindIp port m srv n, (tcpServerCreate S bindIp port m).1 = some srv ∧
    (serverRun S (started srv (tcpServerCreate S bindIp port m).2)
        (List.replicate n .poll)).trace =
      (tcpServerCreate S bindIp port m).2.trace ++ evs

/-- What the polls keep holds of the record of a run. -/
theorem PollRun.keeps
    {evs : List NetEvent} {Inv : TcpVars → List NetEvent → Prop}
    (h : PollRun S d evs)
    (hcreated : ∀ listenFd epollFd,
      Inv { srv := TcpServer.created listenFd epollFd, wrapped := false } [])
    (hpolls : ∀ m n, descriptors.Keeps Inv m (serverRun S m (List.replicate n .poll))) :
    ∃ v, Inv v evs := by
  obtain ⟨bindIp, port, m, srv, n, hcreate, htrace⟩ := h.run
  obtain ⟨listenFd, epollFd, rfl⟩ := tcpServerCreate_created S hcreate
  obtain ⟨evs', htrace', hstep⟩ := hpolls
    (started (TcpServer.created listenFd epollFd) (tcpServerCreate S bindIp port m).2) n
  obtain rfl : evs' = evs := List.append_cancel_left (htrace'.symm.trans htrace)
  exact ⟨_, hstep [] (hcreated listenFd epollFd) h.fresh⟩

/-- **What a connection gets is what its reader passes on.** -/
theorem PollRun.served
    {evs : List NetEvent}
    (h : PollRun S d evs)
    {fd : Int} {c : Connection}
    (hc : c ∈ connections fd evs) :
    Served d c := by
  obtain ⟨v, hinv⟩ := h.keeps (isolated_created d) (advances_polls h.passive h.decides)
  exact hinv.connections hc

end Polls

/-- **Isolation.**  Two connections, of one server or of two, whose callbacks
decide alike: if the reads brought the same to both, the callback got the same
for both, whatever other clients did and whoever had the slot or the descriptor
before. -/
theorem connections_isolated
    {τ τ' : Type} {S : Outside NetCall.Out τ} {S' : Outside NetCall.Out τ'}
    {d : Bytes → Bool} {evs evs' : List NetEvent}
    (h : PollRun S d evs)
    (h' : PollRun S' d evs')
    {fd fd' : Int} {c c' : Connection}
    (hc : c ∈ connections fd evs)
    (hc' : c' ∈ connections fd' evs')
    (harr : c.arrivals = c'.arrivals) :
    c.messages = c'.messages := by
  rw [h.served hc, h'.served hc', harr]

/-- What a new server records in `n` polls under a script. -/
def scriptEvents (s : NetScript) (n : Nat) : List NetEvent :=
  (serverRun scriptKernel
      (started (TcpServer.created 3 4)
        (tcpServerCreate scriptKernel [] 7000 (beforeCreate s)).2)
      (List.replicate n .poll)).trace.drop
    (tcpServerCreate scriptKernel [] 7000 (beforeCreate s)).2.trace.length

theorem pollRun_scriptEvents
    {s : NetScript} {n : Nat}
    (h : descriptors.Obeys descriptors.start (scriptEvents s n)) :
    PollRun scriptKernel (fun _ => false) (scriptEvents s n) := by
  have hdecides : Decides scriptKernel (fun _ => false) := fun _ _ _ _ =>
    iff_of_false (fun hne => hne rfl) Bool.false_ne_true
  obtain ⟨evs, htrace, _⟩ := advances_polls passive_scriptKernel hdecides
    (started (TcpServer.created 3 4)
      (tcpServerCreate scriptKernel [] 7000 (beforeCreate s)).2) n
  refine ⟨passive_scriptKernel, hdecides, h, [], 7000, beforeCreate s,
    TcpServer.created 3 4, n, rfl, ?_⟩
  have hevents : scriptEvents s n = evs := by
    rw [scriptEvents, htrace]
    exact List.drop_left
  rw [hevents]
  exact htrace

/-- A client sends a line. -/
def lineVisit : NetScript where
  reports := [[3], [5]]
  accepts := [5]
  reads := [.data (ascii "a\n")]
  writes := []

/-- The same, behind a client that left a piece of a line in the same slot, under
the same descriptor. -/
def laterVisit : NetScript where
  reports := [[3], [5], [5], [3], [5]]
  accepts := [5, 5]
  reads := [.data (ascii "x"), .pause, .hangup, .data (ascii "a\n")]
  writes := []

/-- The line is the same on both servers. -/
theorem connections_isolated_visits :
    (connections 5 (scriptEvents lineVisit 2)).map Connection.arrivals =
        [[.data (ascii "a\n"), .pause]] ∧
      connections 5 (scriptEvents laterVisit 5) =
        [{ arrivals := [.data (ascii "x"), .pause, .hangup], messages := [] },
          { arrivals := [.data (ascii "a\n"), .pause], messages := [(ascii "a", 1)] }] ∧
      ∀ c ∈ connections 5 (scriptEvents lineVisit 2), c.messages = [(ascii "a", 1)] := by
  have hline : (connections 5 (scriptEvents lineVisit 2)).map Connection.arrivals =
      [[.data (ascii "a\n"), .pause]] := by
    decide +kernel
  have hlater : connections 5 (scriptEvents laterVisit 5) =
      [{ arrivals := [.data (ascii "x"), .pause, .hangup], messages := [] },
        { arrivals := [.data (ascii "a\n"), .pause], messages := [(ascii "a", 1)] }] := by
    decide +kernel
  refine ⟨hline, hlater, fun c hc => ?_⟩
  have harr : c.arrivals = [.data (ascii "a\n"), .pause] := by
    have hmem := List.mem_map_of_mem (f := Connection.arrivals) hc
    rw [hline] at hmem
    exact List.mem_singleton.mp hmem
  exact connections_isolated
    (pollRun_scriptEvents (s := lineVisit) (n := 2) (by decide +kernel))
    (pollRun_scriptEvents (s := laterVisit) (n := 5) (by decide +kernel))
    hc (hlater ▸ List.mem_cons_of_mem _ (List.mem_singleton_self _)) harr

end Tcp
end PsdkBridge
