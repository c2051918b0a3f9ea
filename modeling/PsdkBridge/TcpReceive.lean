import PsdkBridge.TcpServer
import PsdkBridge.Lib.Framing

/-!
# What `recv_client` does

`recv_client` first reads until the kernel has nothing more, and then passes the
complete lines to the callback.  `fillLoop_cases` and `scanLoop_cases` say
everything the two loops can do if the callback closes no client, and
`recvClient_cases` puts them together: what was read, which lines were passed on,
and what is left in the buffer.

`receives_framing` follows successive calls on one connection: the lines do not
depend on how the stream was cut.
-/

namespace PsdkBridge
namespace Tcp

/-- `\n`. -/
def newline : UInt8 := 10

/-- `\r`. -/
def carriageReturn : UInt8 := 13

/-- The lines of a stream of bytes. -/
def lines (s : Bytes) : List Bytes :=
  frames newline carriageReturn s

/-- The unterminated piece at the end of a stream of bytes. -/
def rest (s : Bytes) : Bytes :=
  unfinished newline s

/-! ## Views of the record -/

/-- What a read on the descriptor brought. -/
def arrivalOf (fd : Int) : NetEvent → Option (Arrival UInt8)
  | ⟨.read fd' _, .data bs _ _⟩ => if fd' = fd then some (.data bs) else none
  | ⟨.read fd' _, .again⟩ => if fd' = fd then some .pause else none
  | ⟨.read fd' _, .eof⟩ => if fd' = fd then some .hangup else none
  | ⟨.read fd' _, .error⟩ => if fd' = fd then some .hangup else none
  | _ => none

/-- A call of the callback: its line, the length, and what it returned. -/
structure Message where
  line : Bytes
  len : Nat
  ret : Int

/-- A call of the callback for the descriptor. -/
def messageOf (fd : Int) : NetEvent → Option Message
  | ⟨.onMessage fd' line len, (r : CallbackResult)⟩ =>
      if fd' = fd then some { line := line, len := len, ret := r.ret } else none
  | _ => none

/-- A read on the descriptor. -/
def IsRead (fd : Int) (e : NetEvent) : Prop :=
  ∃ space r, e = ⟨.read fd space, r⟩

/-- A write. -/
def IsWrite (e : NetEvent) : Prop :=
  ∃ fd bs r, e = ⟨.write fd bs, r⟩

/-- A call of the callback for the descriptor, or a write of the callback. -/
def IsDelivery (fd : Int) (e : NetEvent) : Prop :=
  (∃ line len r, e = ⟨.onMessage fd line len, r⟩) ∨ IsWrite e

/-- The calls of `free_client`. -/
def freeEvents (fd del cls : Int) : List NetEvent :=
  [⟨.epollCtlDel fd, del⟩, ⟨.close fd, cls⟩]

section Views

variable {fd : Int} {evs : List NetEvent}

theorem messages_of_reads
    {fd' : Int}
    (h : ∀ e ∈ evs, IsRead fd' e) :
    evs.filterMap (messageOf fd) = [] := by
  apply List.filterMap_eq_nil_iff.mpr
  intro e he
  obtain ⟨space, r, rfl⟩ := h e he
  cases r <;> rfl

theorem messages_of_writes
    (h : ∀ e ∈ evs, IsWrite e) :
    evs.filterMap (messageOf fd) = [] := by
  apply List.filterMap_eq_nil_iff.mpr
  intro e he
  obtain ⟨fd', bs, r, rfl⟩ := h e he
  rfl

theorem arrivals_of_deliveries
    {fd' : Int}
    (h : ∀ e ∈ evs, IsDelivery fd' e) :
    evs.filterMap (arrivalOf fd) = [] := by
  apply List.filterMap_eq_nil_iff.mpr
  intro e he
  obtain ⟨line, len, r, rfl⟩ | ⟨fd', bs, r, rfl⟩ := h e he
  · rfl
  · rfl

end Views

section Loops

variable {τ : Type} {S : Outside NetCall.Out τ}

/-- `free_client` as a step. -/
theorem freeClient_run
    (S : Outside NetCall.Out τ) (i : Slot) (m : TcpState τ) :
    ∃ del cls, (freeClient S i m).2.vars = m.vars.release i ∧
      (freeClient S i m).2.trace =
        m.trace ++ freeEvents (m.vars.srv.clients i).fd del cls := by
  refine ⟨(S (.epollCtlDel (m.vars.srv.clients i).fd) m.outside).1,
    (S (.close (m.vars.srv.clients i).fd)
      (S (.epollCtlDel (m.vars.srv.clients i).fd) m.outside).2).1, rfl, ?_⟩
  simp only [freeClient, run_bind, run_readVars, run_callOut, run_modifyVars,
    List.append_assoc]
  rfl

/-! ## Reading -/

/-- The client `c'` is the client `c` behind reads of the data `ds`. -/
structure Filled (c : Client) (ds : List Bytes) (evs : List NetEvent) (c' : Client) :
    Prop where
  fd : c'.fd = c.fd
  text : c'.text 0 = c.text 0 ++ ds.flatten
  reads : ∀ e ∈ evs, IsRead c.fd e

/-- The reading loop ended with a pause. -/
structure Paused (i : Slot) (c : Client) (ds : List Bytes) (evs : List NetEvent)
    (c' : Client) (m : TcpState τ) (r : Bool × TcpState τ) : Prop
    extends Filled c ds evs c' where
  ret : r.1 = true
  arrivals : evs.filterMap (arrivalOf c.fd) = ds.map Arrival.data ++ [Arrival.pause]
  vars : r.2.vars = m.vars.setClient i c'
  trace : r.2.trace = m.trace ++ evs
  space : c'.space ≠ 0

/-- The reading loop freed the client: the other side hung up, or the buffer was
full. -/
structure GaveUp (i : Slot) (c : Client) (ds : List Bytes) (evs : List NetEvent)
    (c' : Client) (m : TcpState τ) (r : Bool × TcpState τ) : Prop
    extends Filled c ds evs c' where
  ret : r.1 = false
  arrivals :
    (evs.filterMap (arrivalOf c.fd) = ds.map Arrival.data ∧ c'.space = 0) ∨
      evs.filterMap (arrivalOf c.fd) = ds.map Arrival.data ++ [Arrival.hangup]
  vars : r.2.vars = (m.vars.setClient i c').release i
  trace : ∃ del cls, r.2.trace = m.trace ++ evs ++ freeEvents c.fd del cls

section Ends

variable {i : Slot} {ds : List Bytes} {evs : List NetEvent} {c c' : Client}
  {m : TcpState τ} {t : τ} {r : Bool × TcpState τ}

theorem filled_nil
    {evs : List NetEvent}
    (h : ∀ e ∈ evs, IsRead c.fd e) :
    Filled c [] evs c :=
  ⟨rfl, by simp, h⟩

section Read

variable {bs : Bytes} {nonempty : bs ≠ []} {fits : bs.length ≤ c.space}

/-- The event of a read with data. -/
def dataEvent (c : Client) (bs : Bytes) (nonempty : bs ≠ []) (fits : bs.length ≤ c.space) :
    NetEvent :=
  ⟨.read c.fd c.space, .data bs nonempty fits⟩

theorem arrivalOf_dataEvent :
    arrivalOf c.fd (dataEvent c bs nonempty fits) = some (.data bs) := by
  simp [dataEvent, arrivalOf]

theorem Filled.cons
    (h : Filled (c.store bs fits) ds evs c') :
    Filled c (bs :: ds) (dataEvent c bs nonempty fits :: evs) c' where
  fd := h.fd
  text := by
    rw [h.text, c.text_store fits, List.flatten_cons, List.append_assoc]
  reads := List.forall_mem_cons.mpr ⟨⟨_, _, rfl⟩, h.reads⟩

theorem Paused.cons
    (h : Paused i (c.store bs fits) ds evs c'
      { m with
        outside := t
        vars := m.vars.setClient i (c.store bs fits)
        trace := m.trace ++ [dataEvent c bs nonempty fits] } r) :
    Paused i c (bs :: ds) (dataEvent c bs nonempty fits :: evs) c' m r where
  toFilled := h.toFilled.cons
  ret := h.ret
  arrivals := by
    have harr : evs.filterMap (arrivalOf c.fd) = ds.map Arrival.data ++ [Arrival.pause] :=
      h.arrivals
    rw [List.filterMap_cons_some arrivalOf_dataEvent, harr]
    rfl
  vars := by
    rw [h.vars, TcpVars.setClient_setClient]
  trace := by
    rw [h.trace, List.append_assoc]
    rfl
  space := h.space

theorem GaveUp.cons
    (h : GaveUp i (c.store bs fits) ds evs c'
      { m with
        outside := t
        vars := m.vars.setClient i (c.store bs fits)
        trace := m.trace ++ [dataEvent c bs nonempty fits] } r) :
    GaveUp i c (bs :: ds) (dataEvent c bs nonempty fits :: evs) c' m r where
  toFilled := h.toFilled.cons
  ret := h.ret
  arrivals := by
    have harr : (evs.filterMap (arrivalOf c.fd) = ds.map Arrival.data ∧ c'.space = 0) ∨
        evs.filterMap (arrivalOf c.fd) = ds.map Arrival.data ++ [Arrival.hangup] :=
      h.arrivals
    rw [List.filterMap_cons_some arrivalOf_dataEvent]
    rcases harr with ⟨harr, hspace⟩ | harr
    · exact Or.inl ⟨by rw [harr]; rfl, hspace⟩
    · exact Or.inr (by rw [harr]; rfl)
  vars := by
    rw [h.vars, TcpVars.setClient_setClient]
  trace := by
    obtain ⟨del, cls, htrace⟩ := h.trace
    exact ⟨del, cls, by rw [htrace]; simp [Client.store]⟩

end Read

/-- The client is freed behind one last read, or none. -/
theorem gaveUp_freeClient
    (hc : m.vars.srv.clients i = c)
    (hreads : ∀ e ∈ evs, IsRead c.fd e)
    (harr : (evs.filterMap (arrivalOf c.fd) = [] ∧ c.space = 0) ∨
      evs.filterMap (arrivalOf c.fd) = [Arrival.hangup]) :
    GaveUp i c [] evs c m
      (false, (freeClient S i { m with outside := t, trace := m.trace ++ evs }).2) := by
  obtain ⟨del, cls, hvars, htrace⟩ :=
    freeClient_run S i { m with outside := t, trace := m.trace ++ evs }
  refine ⟨filled_nil hreads, rfl, harr, ?_, del, cls, ?_⟩
  · rw [← hc, TcpVars.setClient_self]
    exact hvars
  · rw [← hc]
    exact htrace

end Ends

/-- Everything the reading loop can do. -/
theorem fillLoop_cases
    (S : Outside NetCall.Out τ) (i : Slot) (c : Client) (m : TcpState τ)
    (hc : m.vars.srv.clients i = c) :
    ∃ (ds : List Bytes) (evs : List NetEvent) (c' : Client),
      Paused i c ds evs c' m (fillLoop S i c m) ∨
        GaveUp i c ds evs c' m (fillLoop S i c m) := by
  -- the free space shrinks with every read
  induction hn : droneRecvBufLen - c.bufLen using Nat.strong_induction_on
    generalizing c m with
  | _ n ih =>
      rw [fillLoop]
      by_cases hspace : c.space = 0
      · refine ⟨[], [], c, Or.inr ?_⟩
        have h := gaveUp_freeClient (S := S) (t := m.outside) hc
          (List.forall_mem_nil (IsRead c.fd)) (Or.inl ⟨rfl, hspace⟩)
        simpa only [hspace, if_true, run_bind, run_pure, List.append_nil] using h
      · simp only [hspace, if_false, run_bind, run_callOut]
        rcases S (.read c.fd c.space) m.outside with ⟨r, t⟩
        cases r with
        | again =>
            refine ⟨[], [⟨.read c.fd c.space, .again⟩], c,
              Or.inl ⟨filled_nil (by simp [IsRead]), rfl, by simp [arrivalOf], ?_, rfl, hspace⟩⟩
            rw [← hc, TcpVars.setClient_self]
            rfl
        | eof =>
            exact ⟨[], [⟨.read c.fd c.space, .eof⟩], c,
              Or.inr (gaveUp_freeClient hc (by simp [IsRead]) (Or.inr (by simp [arrivalOf])))⟩
        | error =>
            exact ⟨[], [⟨.read c.fd c.space, .error⟩], c,
              Or.inr (gaveUp_freeClient hc (by simp [IsRead]) (Or.inr (by simp [arrivalOf])))⟩
        | data bs nonempty fits =>
            have hless : droneRecvBufLen - (c.store bs fits).bufLen < n := by
              have hpos := List.length_pos_iff.mpr nonempty
              have hlt := c.bufLen_lt
              simp only [Client.store]
              omega
            obtain ⟨ds, evs, c', hend⟩ := ih _ hless (c.store bs fits)
              { m with
                outside := t
                vars := m.vars.setClient i (c.store bs fits)
                trace := m.trace ++ [dataEvent c bs nonempty fits] }
              (by simp) rfl
            exact ⟨bs :: ds, dataEvent c bs nonempty fits :: evs, c',
              hend.imp (fun h => h.cons) (fun h => h.cons)⟩

/-! ## Passing on the lines -/

/-- The callback closes no client itself. -/
def Passive (S : Outside NetCall.Out τ) : Prop :=
  ∀ fd line len t fd',
    CallbackAction.closeClient fd' ∉ (S (.onMessage fd line len) t).1.actions

theorem emits_tcpServerSend
    (S : Outside NetCall.Out τ) (fd : Int) (msg : Bytes) :
    Emits IsWrite (tcpServerSend S fd msg) := by
  unfold tcpServerSend
  refine emits_bind (emits_callOut S (fun _ => ⟨_, _, _, rfl⟩)) (fun r => ?_)
  cases r with
  | failed =>
      exact emits_pure _
  | wrote n fits progress =>
      refine emits_bind (emits_callOut S (fun _ => ⟨_, _, _, rfl⟩)) (fun r => ?_)
      cases r with
      | failed =>
          exact emits_pure _
      | wrote n fits progress =>
          exact emits_pure _

/-- A callback that closes no client only writes. -/
theorem emits_perform
    (S : Outside NetCall.Out τ) :
    ∀ {as : List CallbackAction}, (∀ fd, CallbackAction.closeClient fd ∉ as) →
      Emits IsWrite (perform S as)
  | [], _ => emits_pure _
  | .send fd msg :: as, h => by
      rw [perform]
      refine emits_bind (emits_tcpServerSend S fd msg) (fun _ => ?_)
      exact emits_perform S (fun fd' hfd => h fd' (List.mem_cons_of_mem _ hfd))
  | .closeClient fd :: as, h => absurd List.mem_cons_self (h fd)

/-- The buffer behind an offset starts with the text. -/
theorem Client.drop_eq_text_append
    (c : Client) {off : Nat}
    (h : off ≤ c.bufLen) :
    c.buf.drop off = c.text off ++ c.buf.drop c.bufLen := by
  have hlen : off ≤ (c.buf.take c.bufLen).length := by
    have := c.buf_length
    have := c.bufLen_lt
    rw [List.length_take]
    omega
  rw [Client.text, ← List.drop_append_of_le_length hlen, List.take_append_drop]

theorem Client.drop_poke
    (c : Client) (off k : Nat) (b : UInt8) :
    (c.poke (off + k) b).buf.drop off = (c.buf.drop off).set k b := by
  simp [Client.poke, List.drop_set]

/-- Terminating a line: what the callback sees is the line without `\r`, and the
rest of the text stays. -/
theorem Client.terminate_spec
    (c : Client) {off : Nat} {l t : Bytes}
    (hoff : off ≤ c.bufLen)
    (ht : c.text off = l ++ newline :: t) :
    let r := c.terminate off l.length
    r.1.fd = c.fd ∧ r.1.bufLen = c.bufLen ∧ r.1.text (off + l.length + 1) = t ∧
      (r.1.buf.drop off).take r.2 = stripMark carriageReturn l ∧
      r.2 = (stripMark carriageReturn l).length := by
  have htail : c.text (off + l.length + 1) = t := by
    rw [Nat.add_assoc, c.text_add, ht]
    simp
  have hdrop : (c.poke (off + l.length) 0).buf.drop off =
      l ++ 0 :: (t ++ c.buf.drop c.bufLen) := by
    rw [c.drop_poke, c.drop_eq_text_append hoff, ht]
    simp
  have htail' : (c.poke (off + l.length) 0).text (off + l.length + 1) = t := by
    rw [c.text_poke (Or.inl (by omega)), htail]
  rcases List.eq_nil_or_concat' l with rfl | ⟨init, b, rfl⟩
  · simp only [Client.terminate, List.length_nil, lt_irrefl, false_and, if_false]
    exact ⟨rfl, rfl, htail', by simp [stripMark], by simp [stripMark]⟩
  · have hlen : (init ++ [b]).length = init.length + 1 := by simp
    have hlast : (c.poke (off + (init ++ [b]).length) 0).buf.getD
        (off + (init ++ [b]).length - 1) 0 = b := by
      have hget := congrArg (fun s => s[init.length]?) hdrop
      simp only [List.getElem?_drop] at hget
      rw [hlen, List.getD_eq_getElem?_getD, Nat.add_sub_assoc (by omega)]
      rw [hlen] at hget
      simp [hget]
    simp only [Client.terminate, hlast]
    by_cases hb : b = 13
    · rw [if_pos ⟨by simp, hb⟩]
      have hstrip : stripMark carriageReturn (init ++ [b]) = init := by
        simp [stripMark, carriageReturn, hb]
      refine ⟨rfl, rfl, ?_, ?_, by rw [hstrip, hlen]; rfl⟩
      · rw [Client.text_poke _ (Or.inl (by omega)), htail']
      · rw [hstrip, hlen, Nat.add_sub_assoc (by omega), Client.drop_poke]
        rw [hlen] at hdrop
        rw [hdrop]
        simp
    · rw [if_neg (fun h => hb h.2)]
      have hstrip : stripMark carriageReturn (init ++ [b]) = init ++ [b] := by
        simp [stripMark, carriageReturn, hb]
      refine ⟨rfl, rfl, htail', ?_, by rw [hstrip]⟩
      rw [hstrip, hdrop, List.take_left]

/-- The length that the callback gets is that of the line, and what it returned
is an answer of the outside. -/
def Answered (S : Outside NetCall.Out τ) (fd : Int) (x : Message) : Prop :=
  x.len = x.line.length ∧ ∃ t, x.ret = (S (.onMessage fd x.line x.len) t).1.ret

/-- All lines were passed on. -/
structure Finished (i : Slot) (ls : List Bytes) (ms : List Message)
    (evs : List NetEvent) (c' : Client) (m r : TcpState τ) : Prop where
  lines : ms.map Message.line = ls
  rets : ∀ x ∈ ms, x.ret = 0
  vars : r.vars = m.vars.setClient i c'
  trace : r.trace = m.trace ++ evs

/-- The client was freed behind a line, because the callback asked for it. -/
structure Stopped (i : Slot) (fd : Int) (ls : List Bytes) (ms : List Message)
    (evs : List NetEvent) (c' : Client) (m r : TcpState τ) : Prop where
  lines : ms.map Message.line <+: ls
  rets : ∃ pre last, ms = pre ++ [last] ∧ (∀ x ∈ pre, x.ret = 0) ∧ last.ret ≠ 0
  vars : r.vars = (m.vars.setClient i c').release i
  trace : ∃ del cls, r.trace = m.trace ++ evs ++ freeEvents fd del cls

section Rounds

variable (S) (i : Slot) {off : Nat} (m : TcpState τ)

/-- The last round of the loop: there is no complete line left. -/
theorem scanLoop_last
    (hoff : off ≤ (m.vars.srv.clients i).bufLen)
    (hk : memchr ((m.vars.srv.clients i).text off) 10 = none) :
    scanLoop S i off m =
      modifyVars (TcpVars.setClient i ((m.vars.srv.clients i).shift off)) m := by
  rw [scanLoop, run_readVars_bind]
  dsimp only
  rw [if_neg (Nat.not_lt.mpr hoff)]
  generalize m.vars.srv.clients i = c at hk
  apply congrFun
  split
  · rfl
  · rename_i k hk'
    rw [hk] at hk'
    cases hk'

/-- The part of a round behind the termination of the line. -/
def deliverLine (off k : Nat) (c : Client) (len : Nat) : TcpM τ Unit := do
  if 0 < len then
    let cb : CallbackResult ←
      callOut S (.onMessage c.fd ((c.buf.drop off).take len) len)
    perform S cb.actions
    if cb.ret ≠ 0 then
      freeClient S i
    else
      scanLoop S i (off + k + 1)
  else
    scanLoop S i (off + k + 1)

/-- A round of the loop with a line. -/
theorem scanLoop_line
    {k : Nat}
    (hoff : off ≤ (m.vars.srv.clients i).bufLen)
    (hk : memchr ((m.vars.srv.clients i).text off) 10 = some k) :
    scanLoop S i off m =
      (do
        modifyVars (TcpVars.setClient i ((m.vars.srv.clients i).terminate off k).1)
        deliverLine S i off k ((m.vars.srv.clients i).terminate off k).1
          ((m.vars.srv.clients i).terminate off k).2) m := by
  rw [scanLoop, run_readVars_bind]
  dsimp only
  rw [if_neg (Nat.not_lt.mpr hoff)]
  generalize m.vars.srv.clients i = c at hk
  apply congrFun
  split
  · rename_i hk'
    rw [hk] at hk'
    cases hk'
  · rename_i k' hk'
    obtain rfl : k = k' := Option.some.inj (hk.symm.trans hk')
    rfl

/-- The loop stops where the callback closed its client. -/
theorem scanLoop_wrapped
    (hoff : (m.vars.srv.clients i).bufLen < off) :
    scanLoop S i off m = modifyVars (fun v => { v with wrapped := true }) m := by
  rw [scanLoop, run_readVars_bind]
  dsimp only
  rw [if_pos hoff]

variable {i} in
/-- Induction over the rounds of the loop: the offset grows with every line, and
the callback may change the state. -/
theorem scanLoop_induction
    {motive : Nat → TcpState τ → Prop}
    (wrapped : ∀ off m, (m.vars.srv.clients i).bufLen < off → motive off m)
    (last : ∀ off m, off ≤ (m.vars.srv.clients i).bufLen →
      memchr ((m.vars.srv.clients i).text off) 10 = none → motive off m)
    (line : ∀ off m k, off ≤ (m.vars.srv.clients i).bufLen →
      memchr ((m.vars.srv.clients i).text off) 10 = some k →
      (∀ m', motive (off + k + 1) m') → motive off m)
    (off : Nat) (m : TcpState τ) :
    motive off m := by
  induction hn : droneRecvBufLen - off using Nat.strong_induction_on
    generalizing off m with
  | _ n ih =>
      by_cases hoff : off ≤ (m.vars.srv.clients i).bufLen
      · cases hk : memchr ((m.vars.srv.clients i).text off) 10 with
        | none =>
            exact last off m hoff hk
        | some k =>
            refine line off m k hoff hk (fun m' => ih _ ?_ _ m' rfl)
            obtain ⟨l, t, ht, _, rfl⟩ := memchr_eq_some hk
            have hsize := (m.vars.srv.clients i).text_length off
            have := (m.vars.srv.clients i).bufLen_lt
            rw [ht, List.length_append, List.length_cons] at hsize
            omega
      · exact wrapped off m (not_le.mp hoff)

theorem deliverLine_empty
    (k : Nat) (c : Client) :
    deliverLine S i off k c 0 = scanLoop S i (off + k + 1) := by
  rw [deliverLine, if_neg (lt_irrefl 0)]

theorem deliverLine_line
    (k : Nat) {c : Client} {len : Nat} {line : Bytes}
    (hline : (c.buf.drop off).take len = line)
    (hlen : len = line.length)
    (hne : line ≠ []) :
    deliverLine S i off k c len = (do
      let cb : CallbackResult ← callOut S (.onMessage c.fd line line.length)
      perform S cb.actions
      if cb.ret ≠ 0 then freeClient S i else scanLoop S i (off + k + 1)) := by
  rw [deliverLine, hline, hlen, if_pos (List.length_pos_iff.mpr hne)]

end Rounds

section Appends

variable {i : Slot} {fd : Int} {ls : List Bytes} {ms : List Message}
  {evs : List NetEvent} {c₁ c' : Client} {m m₁ r : TcpState τ}
  (xs : List Message) (evs₀ : List NetEvent)

/-- Lines that were passed on before. -/
theorem Finished.append
    (h : Finished i ls ms evs c' m₁ r)
    (hvars : m₁.vars = m.vars.setClient i c₁)
    (htrace : m₁.trace = m.trace ++ evs₀)
    (hrets : ∀ x ∈ xs, x.ret = 0) :
    Finished i (xs.map Message.line ++ ls) (xs ++ ms) (evs₀ ++ evs) c' m r where
  lines := by
    rw [List.map_append, h.lines]
  rets := List.forall_mem_append.mpr ⟨hrets, h.rets⟩
  vars := by
    rw [h.vars, hvars, TcpVars.setClient_setClient]
  trace := by
    rw [h.trace, htrace, List.append_assoc]

theorem Stopped.append
    (h : Stopped i fd ls ms evs c' m₁ r)
    (hvars : m₁.vars = m.vars.setClient i c₁)
    (htrace : m₁.trace = m.trace ++ evs₀)
    (hrets : ∀ x ∈ xs, x.ret = 0) :
    Stopped i fd (xs.map Message.line ++ ls) (xs ++ ms) (evs₀ ++ evs) c' m r where
  lines := by
    rw [List.map_append]
    exact (List.prefix_append_right_inj _).mpr h.lines
  rets := by
    obtain ⟨pre, last, rfl, hpre, hlast⟩ := h.rets
    exact ⟨xs ++ pre, last, by simp, List.forall_mem_append.mpr ⟨hrets, hpre⟩, hlast⟩
  vars := by
    rw [h.vars, hvars, TcpVars.setClient_setClient]
  trace := by
    obtain ⟨del, cls, htrace'⟩ := h.trace
    exact ⟨del, cls, by rw [htrace', htrace]; simp⟩

end Appends

/-- What a call of the callback does, if it closes no client. -/
theorem callback_run
    (hS : Passive S)
    (fd : Int) (line : Bytes) (m : TcpState τ) :
    ∃ (x : Message) (evs : List NetEvent) (m₁ : TcpState τ),
      x.line = line ∧ Answered S fd x ∧ (∀ e ∈ evs, IsDelivery fd e) ∧
      evs.filterMap (messageOf fd) = [x] ∧
      m₁.vars = m.vars ∧ m₁.trace = m.trace ++ evs ∧
      ∀ f : Int → TcpM τ Unit,
        (do
          let cb : CallbackResult ← callOut S (.onMessage fd line line.length)
          perform S cb.actions
          f cb.ret) m = f x.ret m₁ := by
  rcases hcb : S (.onMessage fd line line.length) m.outside with ⟨cb, t⟩
  have hpassive : ∀ fd', CallbackAction.closeClient fd' ∉ cb.actions := by
    intro fd'
    have h := hS fd line line.length m.outside fd'
    rwa [hcb] at h
  obtain ⟨hvars, ws, htrace, hws⟩ := emits_perform S hpassive { m with
    outside := t, trace := m.trace ++ [⟨.onMessage fd line line.length, cb⟩] }
  refine ⟨⟨line, line.length, cb.ret⟩, ⟨.onMessage fd line line.length, cb⟩ :: ws, _, rfl,
    ⟨rfl, m.outside, by rw [hcb]⟩, ?_, ?_, hvars, ?_, fun f => ?_⟩
  · exact List.forall_mem_cons.mpr
      ⟨Or.inl ⟨_, _, _, rfl⟩, fun e he => Or.inr (hws e he)⟩
  · rw [List.filterMap_cons_some (b := ⟨line, line.length, cb.ret⟩) (by simp [messageOf]),
      messages_of_writes hws]
  · rw [htrace, List.append_assoc]
    rfl
  · simp only [run_bind, run_callOut, hcb]

/-- What the loop over the lines made of a text: it passed on all complete lines
and kept the rest, or it stopped at one of them. -/
def Scanned (S : Outside NetCall.Out τ) (i : Slot) (fd : Int) (s : Bytes)
    (m r : TcpState τ) : Prop :=
  ∃ (ms : List Message) (evs : List NetEvent) (c' : Client),
    c'.fd = fd ∧ (∀ e ∈ evs, IsDelivery fd e) ∧
    evs.filterMap (messageOf fd) = ms ∧ (∀ x ∈ ms, Answered S fd x) ∧
    ((Finished i (lines s) ms evs c' m r ∧ c'.text 0 = rest s) ∨
      Stopped i fd (lines s) ms evs c' m r)

section Scan

variable {i : Slot} {off : Nat} {c : Client} {m m₁ r : TcpState τ} {l t : Bytes}

theorem lines_cons
    (hl : newline ∉ l)
    (t : Bytes) :
    lines (l ++ newline :: t) = frameOf carriageReturn l ++ lines t :=
  frames_line _ hl t

theorem rest_cons
    (hl : newline ∉ l)
    (t : Bytes) :
    rest (l ++ newline :: t) = rest t :=
  unfinished_line hl t

/-- There is no complete line. -/
theorem scanned_last
    (hc : m.vars.srv.clients i = c)
    (hoff : off ≤ c.bufLen)
    (hk : memchr (c.text off) 10 = none) :
    Scanned S i c.fd (c.text off) m (scanLoop S i off m).2 := by
  have hmem : newline ∉ c.text off := memchr_eq_none hk
  subst hc
  rw [scanLoop_last S i m hoff hk, run_modifyVars]
  refine ⟨[], [], (m.vars.srv.clients i).shift off, rfl, by simp, rfl, by simp,
    Or.inl ⟨⟨?_, by simp, rfl, (List.append_nil _).symm⟩, ?_⟩⟩
  · rw [lines, frames_of_notMem _ hmem]
    rfl
  · rw [rest, unfinished_of_notMem hmem, Client.text_shift]

/-- An empty line is skipped. -/
theorem Scanned.skip
    {fd : Int}
    (h : Scanned S i fd t m₁ r)
    (hl : newline ∉ l)
    (hempty : stripMark carriageReturn l = [])
    (hvars : m₁.vars = m.vars.setClient i c)
    (htrace : m₁.trace = m.trace) :
    Scanned S i fd (l ++ newline :: t) m r := by
  obtain ⟨ms, evs, c', hfd, hevs, hms, hans, hend⟩ := h
  rw [← List.append_nil m.trace] at htrace
  rw [Scanned, lines_cons hl, rest_cons hl, frameOf, if_pos hempty, List.nil_append]
  refine ⟨ms, evs, c', hfd, hevs, hms, hans, hend.imp (fun h => ⟨?_, h.2⟩) (fun h => ?_)⟩
  · exact h.1.append [] [] hvars htrace (by simp)
  · exact h.append [] [] hvars htrace (by simp)

section Line

variable {fd : Int} {x : Message} {evs₀ : List NetEvent}
  (hl : newline ∉ l)
  (hne : stripMark carriageReturn l ≠ [])
  (hx : x.line = stripMark carriageReturn l)
  (hxa : Answered S fd x)
  (hevs₀ : ∀ e ∈ evs₀, IsDelivery fd e)
  (hmsg : evs₀.filterMap (messageOf fd) = [x])
  (hvars : m₁.vars = m.vars.setClient i c)
  (htrace : m₁.trace = m.trace ++ evs₀)

include hl hne hx hxa hevs₀ hmsg hvars htrace

/-- A line is passed on, and the callback wants more. -/
theorem Scanned.cons
    (hret : x.ret = 0)
    (h : Scanned S i fd t m₁ r) :
    Scanned S i fd (l ++ newline :: t) m r := by
  obtain ⟨ms, evs, c', hfd, hevs, hms, hans, hend⟩ := h
  have hrets : ∀ y ∈ [x], y.ret = 0 := by
    simpa using hret
  rw [Scanned, lines_cons hl, rest_cons hl, frameOf, if_neg hne, ← hx]
  refine ⟨x :: ms, evs₀ ++ evs, c', hfd, ?_, ?_, ?_,
    hend.imp (fun h => ⟨h.1.append [x] evs₀ hvars htrace hrets, h.2⟩)
      (fun h => h.append [x] evs₀ hvars htrace hrets)⟩
  · exact List.forall_mem_append.mpr ⟨hevs₀, hevs⟩
  · rw [List.filterMap_append, hmsg, hms, List.singleton_append]
  · exact List.forall_mem_cons.mpr ⟨hxa, hans⟩

/-- A line is passed on, and the callback asks to close the client. -/
theorem Scanned.stop
    (hret : x.ret ≠ 0)
    (hc : c.fd = fd) :
    Scanned S i fd (l ++ newline :: t) m (freeClient S i m₁).2 := by
  obtain ⟨del, cls, hfvars, hftrace⟩ := freeClient_run S i m₁
  rw [Scanned, lines_cons hl, frameOf, if_neg hne, ← hx]
  refine ⟨[x], evs₀, c, hc, hevs₀, hmsg, by simpa using hxa,
    Or.inr ⟨?_, ⟨[], x, rfl, by simp, hret⟩, ?_, del, cls, ?_⟩⟩
  · exact List.prefix_append _ _
  · rw [hfvars, hvars]
  · rw [hftrace, htrace, hvars, TcpVars.setClient_clients_self, hc]

end Line

end Scan

/-- Everything the loop over the lines can do, if the callback closes no
client. -/
theorem scanLoop_cases
    (hS : Passive S)
    (i : Slot) (off : Nat) (c : Client) (m : TcpState τ)
    (hc : m.vars.srv.clients i = c)
    (hoff : off ≤ c.bufLen) :
    Scanned S i c.fd (c.text off) m (scanLoop S i off m).2 := by
  -- the callback leaves the slot alone, so the next round starts where this one ended
  induction off, m using scanLoop_induction (i := i) generalizing c with
  | wrapped off m hlt =>
      rw [hc] at hlt
      exact absurd hoff (Nat.not_le.mpr hlt)
  | last off m _ hk =>
      rw [hc] at hk
      exact scanned_last hc hoff hk
  | line off m k hle hk ih =>
      have hloop := scanLoop_line S i m hle hk
      rw [hc] at hk
      obtain ⟨l, t, ht, hl, rfl⟩ := memchr_eq_some hk
      obtain ⟨hfd, hlen, htext, hline, hret⟩ := c.terminate_spec hoff ht
      have hoff' : off + l.length + 1 ≤ (c.terminate off l.length).1.bufLen := by
        have hsize := c.text_length off
        rw [ht, List.length_append, List.length_cons] at hsize
        omega
      have hnext : ∀ m₁ : TcpState τ,
          m₁.vars.srv.clients i = (c.terminate off l.length).1 →
          Scanned S i c.fd t m₁ (scanLoop S i (off + l.length + 1) m₁).2 := by
        intro m₁ hm₁
        have h := ih m₁ _ hm₁ hoff'
        rwa [htext, hfd] at h
      rw [hc, run_bind, run_modifyVars] at hloop
      rw [hloop, ht]
      by_cases hempty : stripMark carriageReturn l = []
      · rw [hempty, List.length_nil] at hret
        rw [hret, deliverLine_empty]
        have hskip := hnext { m with
          vars := m.vars.setClient i (c.terminate off l.length).1 } (by simp)
        exact hskip.skip hl hempty rfl rfl
      · rw [deliverLine_line S i _ hline hret hempty, hfd]
        obtain ⟨x, evs₀, m₁, hx, hxa, hevs₀, hmsg, hvars, htrace, hrun⟩ := callback_run hS
          c.fd (stripMark carriageReturn l)
          { m with vars := m.vars.setClient i (c.terminate off l.length).1 }
        rw [hrun (fun ret =>
          if ret ≠ 0 then freeClient S i else scanLoop S i (off + l.length + 1))]
        by_cases hzero : x.ret = 0
        · rw [if_neg (not_not_intro hzero)]
          exact (hnext m₁ (by rw [hvars, TcpVars.setClient_clients_self])).cons
            hl hempty hx hxa hevs₀ hmsg hvars htrace hzero
        · rw [if_pos hzero]
          exact .stop hl hempty hx hxa hevs₀ hmsg hvars htrace hzero hfd

/-! ## Both loops -/

/-- `recv_client` behind a pause: the complete lines are passed on. -/
theorem recvClient_paused
    (hS : Passive S)
    {i : Slot} {c c₁ : Client} {m : TcpState τ} {ds : List Bytes} {rds : List NetEvent}
    (hc : m.vars.srv.clients i = c)
    (hfill : Paused i c ds rds c₁ m (fillLoop S i c m)) :
    ∃ (ms : List Message) (evs : List NetEvent) (c' : Client),
      c'.fd = c.fd ∧ (∀ e ∈ evs, IsRead c.fd e ∨ IsDelivery c.fd e) ∧
      evs.filterMap (messageOf c.fd) = ms ∧ (∀ x ∈ ms, Answered S c.fd x) ∧
      evs.filterMap (arrivalOf c.fd) = ds.map Arrival.data ++ [Arrival.pause] ∧
      ((Finished i (lines (c.text 0 ++ ds.flatten)) ms evs c' m (recvClient S i m).2 ∧
          c'.text 0 = rest (c.text 0 ++ ds.flatten)) ∨
        Stopped i c.fd (lines (c.text 0 ++ ds.flatten)) ms evs c' m
          (recvClient S i m).2) := by
  -- the scan starts on the text, with a NUL behind it
  have hstart : recvClient S i m = scanLoop S i 0
      { (fillLoop S i c m).2 with
        vars := m.vars.setClient i (c₁.poke c₁.bufLen 0) } := by
    rw [recvClient, run_readVars_bind, hc, run_bind, hfill.ret, if_pos rfl,
      run_readVars_bind]
    simp only [run_bind, run_modifyVars, hfill.vars, TcpVars.setClient_clients_self,
      TcpVars.setClient_setClient]
  obtain ⟨ms, evs, c', hfd', hevs, hms, hans, hend⟩ := scanLoop_cases hS i 0
    (c₁.poke c₁.bufLen 0)
    { (fillLoop S i c m).2 with vars := m.vars.setClient i (c₁.poke c₁.bufLen 0) }
    (by simp) (Nat.zero_le _)
  have hfd : (c₁.poke c₁.bufLen 0).fd = c.fd := hfill.fd
  rw [c₁.text_poke (Or.inr le_rfl), hfill.text] at hend
  rw [hfd] at hfd' hevs hms hans hend
  refine ⟨ms, rds ++ evs, c', hfd', ?_, ?_, hans, ?_, ?_⟩
  · exact List.forall_mem_append.mpr
      ⟨fun e he => Or.inl (hfill.reads e he), fun e he => Or.inr (hevs e he)⟩
  · rw [List.filterMap_append, messages_of_reads hfill.reads, hms, List.nil_append]
  · rw [List.filterMap_append, arrivals_of_deliveries hevs, hfill.arrivals,
      List.append_nil]
  · rw [hstart]
    refine hend.imp (fun h => ⟨?_, h.2⟩) (fun h => ?_)
    · exact h.1.append [] rds rfl hfill.trace (by simp)
    · exact h.append [] rds rfl hfill.trace (by simp)

/-- `recv_client` ends with the reading loop if this gives up. -/
theorem recvClient_gaveUp
    {i : Slot} {c c' : Client} {m : TcpState τ} {ds : List Bytes} {evs : List NetEvent}
    (hc : m.vars.srv.clients i = c)
    (hfill : GaveUp i c ds evs c' m (fillLoop S i c m)) :
    GaveUp i c ds evs c' m (false, (recvClient S i m).2) := by
  have hstop : (recvClient S i m).2 = (fillLoop S i c m).2 := by
    rw [recvClient, run_readVars_bind, hc, run_bind, hfill.ret,
      if_neg Bool.false_ne_true, run_pure]
  rw [hstop]
  exact ⟨hfill.toFilled, rfl, hfill.arrivals, hfill.vars, hfill.trace⟩

/-- **Everything `recv_client` can do**, if the callback closes no client: it
passes on all complete lines and keeps the rest; it stops at a line because the
callback asks for it; or it gives up while reading, without passing on
anything. -/
theorem recvClient_cases
    (hS : Passive S)
    (i : Slot) (c : Client) (m : TcpState τ)
    (hc : m.vars.srv.clients i = c) :
    ∃ (ds : List Bytes) (ms : List Message) (evs : List NetEvent) (c' : Client),
      c'.fd = c.fd ∧ (∀ e ∈ evs, IsRead c.fd e ∨ IsDelivery c.fd e) ∧
      evs.filterMap (messageOf c.fd) = ms ∧ (∀ x ∈ ms, Answered S c.fd x) ∧
      ((evs.filterMap (arrivalOf c.fd) = ds.map Arrival.data ++ [Arrival.pause] ∧
          ((Finished i (lines (c.text 0 ++ ds.flatten)) ms evs c' m (recvClient S i m).2 ∧
              c'.text 0 = rest (c.text 0 ++ ds.flatten)) ∨
            Stopped i c.fd (lines (c.text 0 ++ ds.flatten)) ms evs c' m
              (recvClient S i m).2)) ∨
        (ms = [] ∧ GaveUp i c ds evs c' m (false, (recvClient S i m).2))) := by
  obtain ⟨ds, evs, c', hfill | hfill⟩ := fillLoop_cases S i c m hc
  · obtain ⟨ms, evs, c', hfd, hevs, hms, hans, harr, hend⟩ := recvClient_paused hS hc hfill
    exact ⟨ds, ms, evs, c', hfd, hevs, hms, hans, Or.inl ⟨harr, hend⟩⟩
  · exact ⟨ds, [], evs, c', hfill.fd, fun e he => Or.inl (hfill.reads e he),
      messages_of_reads hfill.reads, by simp, Or.inr ⟨rfl, recvClient_gaveUp hc hfill⟩⟩

theorem recvClient_trace
    (hS : Passive S)
    (i : Slot)
    (m : TcpState τ) :
    ∃ evs, (recvClient S i m).2.trace = m.trace ++ evs := by
  obtain ⟨_, _, evs, _, _, _, _, _, hend⟩ := recvClient_cases hS i _ m rfl
  rcases hend with ⟨_, ⟨hfin, _⟩ | hstop⟩ | ⟨_, hgave⟩
  · exact ⟨evs, hfin.trace⟩
  · obtain ⟨del, cls, htrace⟩ := hstop.trace
    exact ⟨_, htrace.trans (List.append_assoc _ _ _)⟩
  · obtain ⟨del, cls, htrace⟩ := hgave.trace
    exact ⟨_, htrace.trans (List.append_assoc _ _ _)⟩

end Loops

/-! ## Successive calls on one connection -/

/-- The bytes that were read from the descriptor. -/
def chunkOf (fd : Int) (evs : List NetEvent) : Bytes :=
  ((evs.filterMap (arrivalOf fd)).map Arrival.bytes).flatten

/-- The descriptor, the line and the length that the callback got. -/
def calledBack : NetEvent → Option (Int × Bytes × Nat)
  | ⟨.onMessage fd line len, _⟩ => some (fd, line, len)
  | _ => none

section Connection

variable {τ : Type} (S : Outside NetCall.Out τ) (i : Slot)

/-- Calls of `recv_client` on one slot that obtain the given chunks.  No call
meets the end of the stream or an error, and what is pending and the new chunk
leave two bytes of the buffer free. -/
inductive Receives (m : TcpState τ) : List Bytes → TcpState τ → Prop
  | start : Receives m [] m
  | call {chunks : List Bytes} {m' : TcpState τ} {evs : List NetEvent} :
      Receives m chunks m' →
      (recvClient S i m').2.trace = m'.trace ++ evs →
      Arrival.hangup ∉ evs.filterMap (arrivalOf (m'.vars.srv.clients i).fd) →
      (m'.vars.srv.clients i).bufLen +
          (chunkOf (m'.vars.srv.clients i).fd evs).length ≤ droneRecvBufLen - 2 →
      Receives m (chunks ++ [chunkOf (m'.vars.srv.clients i).fd evs])
        (recvClient S i m').2

variable {S} {i}

theorem calledBack_of_messages
    {fd : Int} {evs : List NetEvent}
    (h : ∀ e ∈ evs, IsRead fd e ∨ IsDelivery fd e) :
    evs.filterMap calledBack =
      (evs.filterMap (messageOf fd)).map (fun x => (fd, x.line, x.len)) := by
  rw [List.map_filterMap]
  apply List.filterMap_congr
  intro e he
  rcases h e he with ⟨space, r, rfl⟩ | ⟨line, len, r, rfl⟩ | ⟨fd', bs, r, rfl⟩
  · cases r <;> rfl
  · simp [calledBack, messageOf]
  · rfl

/-- One call on a connection that stays open. -/
theorem recvClient_framing
    (hS : Passive S)
    (hret : ∀ fd line len t, (S (.onMessage fd line len) t).1.ret = 0)
    {c : Client} {m : TcpState τ} {evs : List NetEvent}
    (hc : m.vars.srv.clients i = c)
    (htrace : (recvClient S i m).2.trace = m.trace ++ evs)
    (hopen : Arrival.hangup ∉ evs.filterMap (arrivalOf c.fd))
    (hfits : c.bufLen + (chunkOf c.fd evs).length ≤ droneRecvBufLen - 2) :
    evs.filterMap calledBack =
        (lines (c.text 0 ++ chunkOf c.fd evs)).map (fun l => (c.fd, l, l.length)) ∧
      ((recvClient S i m).2.vars.srv.clients i).fd = c.fd ∧
      ((recvClient S i m).2.vars.srv.clients i).text 0 =
        rest (c.text 0 ++ chunkOf c.fd evs) := by
  obtain ⟨ds, ms, evs', c', hfd, hevs, hms, hans, hend⟩ := recvClient_cases hS i c m hc
  rcases hend with ⟨harr, ⟨hfin, htext⟩ | hstop⟩ | ⟨_, hgave⟩
  · obtain rfl : evs = evs' := List.append_cancel_left (htrace.symm.trans hfin.trace)
    have hchunk : chunkOf c.fd evs = ds.flatten := by
      simp [chunkOf, harr, Arrival.bytes, Function.comp_def]
    refine ⟨?_, ?_, ?_⟩
    · rw [calledBack_of_messages hevs, hms, hchunk, ← hfin.lines, List.map_map]
      apply List.map_congr_left
      intro x hx
      simp [(hans x hx).1]
    · rw [hfin.vars, TcpVars.setClient_clients_self, hfd]
    · rw [hfin.vars, TcpVars.setClient_clients_self, hchunk, htext]
  · exfalso
    obtain ⟨pre, last, hlast, _, hne⟩ := hstop.rets
    obtain ⟨_, t, ht⟩ := hans last (by rw [hlast]; simp)
    exact hne (by rw [ht, hret])
  · exfalso
    obtain ⟨del, cls, hfree⟩ := hgave.trace
    obtain rfl : evs = evs' ++ freeEvents c.fd del cls := by
      rw [List.append_assoc] at hfree
      exact List.append_cancel_left (htrace.symm.trans hfree)
    have hview : (evs' ++ freeEvents c.fd del cls).filterMap (arrivalOf c.fd) =
        evs'.filterMap (arrivalOf c.fd) := by
      simp [freeEvents, arrivalOf]
    rcases hgave.arrivals with ⟨harr, hfull⟩ | harr
    · have hchunk : chunkOf c.fd (evs' ++ freeEvents c.fd del cls) = ds.flatten := by
        simp [chunkOf, hview, harr, Arrival.bytes, Function.comp_def]
      have hsize := congrArg List.length hgave.text
      rw [hchunk] at hfits
      rw [List.length_append, c'.text_length, c.text_length] at hsize
      simp only [Client.space, droneRecvBufLen] at hfull hfits
      omega
    · exact hopen (by rw [hview, harr]; simp)

/-- **Framing does not depend on segmentation.**  On a connection that starts
with an empty buffer, the callback gets exactly the lines of the stream, however
the stream is cut into calls and reads, and the buffer holds the unterminated
piece in the end. -/
theorem receives_framing
    (hS : Passive S)
    (hret : ∀ fd line len t, (S (.onMessage fd line len) t).1.ret = 0)
    {m m' : TcpState τ} {chunks : List Bytes}
    (hstart : (m.vars.srv.clients i).bufLen = 0)
    (h : Receives S i m chunks m') :
    ∃ evs, m'.trace = m.trace ++ evs ∧
      evs.filterMap calledBack =
        (lines chunks.flatten).map (fun l => ((m.vars.srv.clients i).fd, l, l.length)) ∧
      (m'.vars.srv.clients i).text 0 = rest chunks.flatten := by
  have hinv : ∃ evs, m'.trace = m.trace ++ evs ∧
      evs.filterMap calledBack =
        (lines chunks.flatten).map (fun l => ((m.vars.srv.clients i).fd, l, l.length)) ∧
      (m'.vars.srv.clients i).fd = (m.vars.srv.clients i).fd ∧
      (m'.vars.srv.clients i).text 0 = rest chunks.flatten := by
    induction h with
    | start =>
        have hempty : (m.vars.srv.clients i).text 0 = [] := by
          apply List.length_eq_zero_iff.mp
          rw [Client.text_length, hstart]
        exact ⟨[], by simp, rfl, rfl, hempty⟩
    | @call chunks m' evs _ htrace hopen hfits ih =>
        obtain ⟨evs₀, htrace₀, hlines₀, hfd₀, htext₀⟩ := ih
        obtain ⟨hlines, hfd, htext⟩ := recvClient_framing hS hret rfl htrace hopen hfits
        refine ⟨evs₀ ++ evs, ?_, ?_, ?_, ?_⟩
        · rw [htrace, htrace₀, List.append_assoc]
        · rw [List.filterMap_append, hlines₀, hlines, htext₀, List.flatten_concat, hfd₀,
            ← List.map_append]
          exact congrArg _ (frames_append _ _ _).symm
        · rw [hfd, hfd₀]
        · rw [htext, htext₀, List.flatten_concat]
          exact (unfinished_append _ _).symm
  obtain ⟨evs, htrace, hlines, _, htext⟩ := hinv
  exact ⟨evs, htrace, hlines, htext⟩

end Connection

theorem passive_scriptKernel :
    Passive scriptKernel :=
  fun _ _ _ _ _ => List.not_mem_nil

/-- The first slot. -/
def slot₀ : Slot :=
  ⟨0, by decide⟩

/-- A new server with a client, and a stream that is cut between `\r` and
`\n`: the second piece arrives behind a pause. -/
def cutStart : TcpState NetScript where
  outside :=
    { reports := [], accepts := [], writes := []
      reads := [.data (ascii "a\r"), .pause, .data (ascii "\nb")] }
  vars := TcpVars.occupy slot₀ 5 { srv := TcpServer.created 3 4, wrapped := false }
  trace := []

/-- The server between the two pieces. -/
def cutMiddle : TcpState NetScript :=
  (recvClient scriptKernel slot₀ cutStart).2

/-- The first call keeps what it got; the second one passes the line on, without `\r`,
and keeps what follows it. -/
theorem receives_framing_cut :
    (cutMiddle.vars.srv.clients slot₀).text 0 = ascii "a\r" ∧
      Receives scriptKernel slot₀ cutStart [ascii "a\r", ascii "\nb"]
        (recvClient scriptKernel slot₀ cutMiddle).2 ∧
      ∃ evs, (recvClient scriptKernel slot₀ cutMiddle).2.trace = evs ∧
        evs.filterMap calledBack = [(5, ascii "a", 1)] ∧
        ((recvClient scriptKernel slot₀ cutMiddle).2.vars.srv.clients slot₀).text 0 =
          ascii "b" := by
  have hfirst : Receives scriptKernel slot₀ cutStart [chunkOf 5 cutMiddle.trace] cutMiddle :=
    .call .start (List.nil_append _).symm (by decide +kernel) (by decide +kernel)
  have hkept : (cutMiddle.vars.srv.clients slot₀).text 0 = ascii "a\r" := by
    decide +kernel
  have hfd : (cutMiddle.vars.srv.clients slot₀).fd = 5 := by
    decide +kernel
  have htrace : (recvClient scriptKernel slot₀ cutMiddle).2.trace =
      cutMiddle.trace ++ (recvClient scriptKernel slot₀ cutMiddle).2.trace.drop 2 := by
    obtain ⟨evs, hevs⟩ := recvClient_trace passive_scriptKernel slot₀ cutMiddle
    rw [hevs, List.drop_left' (by decide +kernel)]
  have hopen : Arrival.hangup ∉
      ((recvClient scriptKernel slot₀ cutMiddle).2.trace.drop 2).filterMap (arrivalOf 5) := by
    decide +kernel
  have hfits : (cutMiddle.vars.srv.clients slot₀).bufLen +
      (chunkOf 5 ((recvClient scriptKernel slot₀ cutMiddle).2.trace.drop 2)).length ≤
        droneRecvBufLen - 2 := by
    decide +kernel
  have hsecond := Receives.call hfirst htrace (by rwa [hfd]) (by rwa [hfd])
  rw [hfd] at hsecond
  have hchunks : [chunkOf 5 cutMiddle.trace] ++
      [chunkOf 5 ((recvClient scriptKernel slot₀ cutMiddle).2.trace.drop 2)] =
        [ascii "a\r", ascii "\nb"] := by
    decide +kernel
  rw [hchunks] at hsecond
  obtain ⟨evs, htrace, hlines, htext⟩ :=
    receives_framing passive_scriptKernel (fun _ _ _ _ => rfl) rfl hsecond
  refine ⟨hkept, hsecond, evs, htrace, ?_, ?_⟩
  · rw [hlines]
    decide
  · rw [htext]
    decide

end Tcp
end PsdkBridge
