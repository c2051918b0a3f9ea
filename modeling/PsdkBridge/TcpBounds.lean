import PsdkBridge.Lib.Buffers
import PsdkBridge.TcpReceive

/-!
# The receive buffer and its bounds

The clients of `TcpServer` carry the size of their buffer and the bound of their fill
level.  `Checked` follows the same functions on records that carry neither: every byte
is read or written by its index, every difference of sizes is computed as one, the loops
have fuel, and an access outside the buffer, a negative difference or the end of the fuel
is the end of the run.

`tracks_recvClient` connects the two, and `recvClient_bounds` puts together what
`recv_client` does with the buffer.
-/

namespace PsdkBridge
namespace Tcp
namespace Checked

/-- `Client`. -/
structure Client where
  fd : Int
  buf : Buffer droneRecvBufLen
  bufLen : Nat

/-- `TcpServer`, without the callback. -/
structure TcpServer where
  listenFd : Int
  epollFd : Int
  clients : Slot → Client
  clientCount : Int

/-- A slot is overwritten. -/
def TcpServer.setClient (i : Slot) (c : Client) (srv : TcpServer) : TcpServer :=
  { srv with clients := Function.update srv.clients i c }

/-- The assignments of `free_client`. -/
def TcpServer.release (i : Slot) (srv : TcpServer) : TcpServer :=
  { srv with
    clients := Function.update srv.clients i
      { srv.clients i with fd := -1, bufLen := 0 }
    clientCount := srv.clientCount - 1 }

/-- `find_client`. -/
def findClient (srv : TcpServer) (fd : Int) : Option Slot :=
  (List.finRange droneMaxClients).find? (fun i => decide ((srv.clients i).fd = fd))

namespace Client

/-- The newline at `off + k` and one `\r` before it become NUL. -/
def terminate (c : Client) (off k : Nat) : Option (Client × Nat) := do
  let buf ← c.buf.store (off + k) 0
  if 0 < k then
    let last ← buf.load (off + k - 1)
    if last = 13 then
      let buf ← buf.store (off + k - 1) 0
      return ({ c with buf := buf }, k - 1)
    else
      return ({ c with buf := buf }, k)
  else
    return ({ c with buf := buf }, k)

/-- The bytes from an offset on are moved to the front. -/
def shift (c : Client) (off : Nat) : Option Client := do
  let remaining ← sizeSub c.bufLen off
  if 0 < remaining ∧ off ≠ 0 then
    let bs ← c.buf.loads off remaining
    let buf ← c.buf.stores 0 bs
    return { c with buf := buf, bufLen := remaining }
  else
    return { c with bufLen := remaining }

end Client

section Functions

variable {τ : Type} (S : Outside NetCall.Out τ)

/-- `free_client`. -/
def freeClient (i : Slot) : CheckedProgram NetCall.Out τ TcpServer Unit := do
  let srv ← lift readVars
  let _ ← lift (callOut S (.epollCtlDel (srv.clients i).fd))
  let _ ← lift (callOut S (.close (srv.clients i).fd))
  lift (modifyVars (TcpServer.release i))

/-- `tcp_server_send`. -/
def tcpServerSend (fd : Int) (msg : Bytes) :
    CheckedProgram NetCall.Out τ TcpServer Bool := do
  let r : WriteResult (cstr msg) ← lift (callOut S (.write fd (cstr msg)))
  match r with
  | .failed => return false
  | .wrote _ _ _ =>
      let r : WriteResult [10] ← lift (callOut S (.write fd [10]))
      match r with
      | .failed => return false
      | .wrote _ _ _ => return true

/-- `tcp_server_close_client`. -/
def tcpServerCloseClient (fd : Int) : CheckedProgram NetCall.Out τ TcpServer Unit := do
  let srv ← lift readVars
  match findClient srv fd with
  | none => return ()
  | some i => freeClient S i

/-- What the callback does before it returns. -/
def perform : List CallbackAction → CheckedProgram NetCall.Out τ TcpServer Unit
  | [] => return ()
  | .send fd msg :: as => do
      let _ ← tcpServerSend S fd msg
      perform as
  | .closeClient fd :: as => do
      tcpServerCloseClient S fd
      perform as

/-- The loop of `recv_client` that reads until there is nothing left. -/
def fillLoop : Nat → Slot → CheckedProgram NetCall.Out τ TcpServer Bool
  | 0, _ => check none
  | fuel + 1, i => do
      let srv ← lift readVars
      let c := srv.clients i
      let left ← check (sizeSub droneRecvBufLen c.bufLen)
      let space ← check (sizeSub left 1)
      if space = 0 then
        freeClient S i
        return false
      else
        let r : ReadResult space ← lift (callOut S (.read c.fd space))
        match r with
        | .again => return true
        | .eof =>
            freeClient S i
            return false
        | .error =>
            freeClient S i
            return false
        | .data bs _ _ =>
            -- the kernel writes behind the fill level
            let buf ← check (c.buf.stores c.bufLen bs)
            lift (modifyVars (TcpServer.setClient i
              { c with buf := buf, bufLen := c.bufLen + bs.length }))
            fillLoop fuel i

/-- The loop of `recv_client` over the complete lines, from an offset on. -/
def scanLoop : Nat → Slot → Nat → CheckedProgram NetCall.Out τ TcpServer Unit
  | 0, _, _ => check none
  | fuel + 1, i, off => do
      let srv ← lift readVars
      let c := srv.clients i
      let len ← check (sizeSub c.bufLen off)
      let nl ← check (c.buf.find 10 off len)
      match nl with
      | none =>
          let c' ← check (c.shift off)
          lift (modifyVars (TcpServer.setClient i c'))
      | some k =>
          let r ← check (c.terminate off k)
          lift (modifyVars (TcpServer.setClient i r.1))
          if 0 < r.2 then
            let line ← check (r.1.buf.loads off r.2)
            let cb : CallbackResult ← lift (callOut S (.onMessage r.1.fd line r.2))
            perform S cb.actions
            if cb.ret ≠ 0 then
              freeClient S i
            else
              scanLoop fuel i (off + k + 1)
          else
            scanLoop fuel i (off + k + 1)

/-- `recv_client`; both loops have the fuel. -/
def recvClient (fuel : Nat) (i : Slot) : CheckedProgram NetCall.Out τ TcpServer Unit := do
  let more ← fillLoop S fuel i
  if more then
    let srv ← lift readVars
    let c := srv.clients i
    let buf ← check (c.buf.store c.bufLen 0)
    lift (modifyVars (TcpServer.setClient i { c with buf := buf }))
    scanLoop S fuel i 0
  else
    return ()

end Functions

/-! ## The clients as records -/

/-- A client without its bounds. -/
def record (c : Tcp.Client) : Client where
  fd := c.fd
  buf := Buffer.ofList c.buf c.buf_length
  bufLen := c.bufLen

section Record

variable (c : Tcp.Client)

/-- A line does not get longer. -/
theorem terminate_le
    (off k : Nat) :
    (c.terminate off k).2 ≤ k := by
  rw [Tcp.Client.terminate]
  split_ifs
  · exact Nat.sub_le k 1
  · exact le_rfl

theorem record_mk
    {buf : Bytes}
    (h : c.buf = buf)
    (hlen : buf.length = droneRecvBufLen) :
    { fd := c.fd, buf := Buffer.ofList buf hlen, bufLen := c.bufLen } = record c := by
  subst h
  rfl

/-- What `read` leaves. -/
theorem stores_record
    {bs : Bytes}
    (fits : bs.length ≤ c.space) :
    (record c).buf.stores c.bufLen bs = some (record (c.store bs fits)).buf := by
  have := c.bufLen_lt
  simp only [Tcp.Client.space] at fits
  exact Buffer.stores_ofList c.buf_length (by omega) (c.store bs fits).buf_length

/-- A byte is overwritten. -/
theorem store_record
    {j : Nat}
    (h : j < droneRecvBufLen)
    (b : UInt8) :
    (record c).buf.store j b = some (record (c.poke j b)).buf :=
  Buffer.store_ofList c.buf_length h b (c.poke j b).buf_length

theorem terminate_record
    {off k : Nat}
    (h : off + k < droneRecvBufLen) :
    (record c).terminate off k =
      some (record (c.terminate off k).1, (c.terminate off k).2) := by
  have hlast : (record (c.poke (off + k) 0)).buf.load (off + k - 1) =
      some ((c.poke (off + k) 0).buf.getD (off + k - 1) 0) :=
    Buffer.load_ofList (c.poke (off + k) 0).buf_length (by omega)
  have hcr := store_record (c.poke (off + k) 0) (j := off + k - 1) (by omega) 0
  simp only [Client.terminate, Tcp.Client.terminate, store_record c h, hlast,
    Option.bind_eq_bind, Option.bind_some]
  by_cases hk : 0 < k
  · rw [if_pos hk]
    by_cases hb : (c.poke (off + k) 0).buf.getD (off + k - 1) 0 = 13
    · rw [if_pos hb, if_pos ⟨hk, hb⟩, hcr]
      rfl
    · rw [if_neg hb, if_neg (fun h => hb h.2)]
      rfl
  · rw [if_neg hk, if_neg (fun h => hk h.1)]
    rfl

theorem shift_record
    {off : Nat}
    (h : off ≤ c.bufLen) :
    (record c).shift off = some (record (c.shift off)) := by
  have hlen := c.bufLen_lt
  have hread : (record c).buf.loads off (c.bufLen - off) = some (c.text off) := by
    rw [Tcp.Client.text, List.drop_take]
    exact Buffer.loads_ofList c.buf_length (by omega)
  have hsize := c.text_length off
  have hfront : (c.buf.take 0 ++ c.text off ++ c.buf.drop (0 + (c.text off).length)).length =
      droneRecvBufLen := by
    have := c.buf_length
    simp only [List.length_append, List.length_take, List.length_drop]
    omega
  have hwrite : (record c).buf.stores 0 (c.text off) = some (Buffer.ofList _ hfront) :=
    Buffer.stores_ofList c.buf_length (by omega) hfront
  have hremaining : sizeSub (record c).bufLen off = some (c.bufLen - off) :=
    sizeSub_of_le h
  rw [Client.shift, hremaining, Option.bind_eq_bind, Option.bind_some]
  by_cases hmove : 0 < c.bufLen - off ∧ off ≠ 0
  · have hbuf : (c.shift off).buf =
        c.buf.take 0 ++ c.text off ++ c.buf.drop (0 + (c.text off).length) := by
      rw [List.take_zero, List.nil_append, Nat.zero_add]
      exact if_pos hmove
    simp only [if_pos hmove, hread, hwrite, Option.bind_eq_bind, Option.bind_some]
    exact congrArg some (record_mk (c.shift off) hbuf hfront)
  · have hbuf : (c.shift off).buf = c.buf :=
      if_neg hmove
    rw [if_neg hmove]
    exact congrArg some (record_mk (c.shift off) hbuf c.buf_length)

end Record

/-- The variables of the server, where the slots but one are those of a given
server. -/
def embed (base : TcpServer) (i : Slot) (vars : TcpVars) : TcpServer where
  listenFd := base.listenFd
  epollFd := base.epollFd
  clients := Function.update base.clients i (record (vars.srv.clients i))
  clientCount := vars.srv.clientCount

section Embed

variable (base : TcpServer) (i : Slot) (vars : TcpVars)

@[simp] theorem embed_clients_self :
    (embed base i vars).clients i = record (vars.srv.clients i) :=
  Function.update_self ..

theorem setClient_embed
    (c : Tcp.Client) :
    (embed base i vars).setClient i (record c) = embed base i (vars.setClient i c) := by
  simp [embed, TcpServer.setClient]

theorem release_embed :
    (embed base i vars).release i = embed base i (vars.release i) := by
  simp [embed, TcpServer.release, record, Tcp.Client.released]

end Embed

/-! ## The runs stay within the bounds -/

section Tracking

variable {τ : Type} (S : Outside NetCall.Out τ) {base : TcpServer} {i : Slot}
  {m : TcpState τ}

theorem tracks_setClient
    (c : Tcp.Client) :
    Tracks (embed base i) (lift (modifyVars (TcpServer.setClient i (record c))))
      (modifyVars (TcpVars.setClient i c)) m :=
  tracks_modifyVars (setClient_embed base i m.vars c)

theorem tracks_freeClient :
    Tracks (embed base i) (freeClient S i) (Tcp.freeClient S i) m := by
  refine tracks_readVars_bind ?_
  rw [embed_clients_self]
  refine tracks_bind (tracks_callOut S _) (tracks_bind (tracks_callOut S _) ?_)
  exact tracks_modifyVars (release_embed base i _)

/-- The client is freed, and the reading loop ends. -/
theorem tracks_giveUp :
    Tracks (embed base i)
      (do
        freeClient S i
        return false)
      (do
        Tcp.freeClient S i
        return false) m :=
  tracks_bind (tracks_freeClient S) (tracks_pure false)

theorem tracks_tcpServerSend
    (fd : Int) (msg : Bytes) :
    Tracks (embed base i) (tcpServerSend S fd msg) (Tcp.tcpServerSend S fd msg) m := by
  refine tracks_bind (tracks_callOut S _) ?_
  rcases (callOut S (.write fd (cstr msg)) m).1 with ⟨n, fits, progress⟩ | _
  · refine tracks_bind (tracks_callOut S _) ?_
    rcases (callOut S (.write fd [10]) (callOut S (.write fd (cstr msg)) m).2).1 with
      ⟨n, fits, progress⟩ | _
    · exact tracks_pure true
    · exact tracks_pure false
  · exact tracks_pure false

/-- A callback that closes no client. -/
theorem tracks_perform :
    ∀ {as : List CallbackAction} {m : TcpState τ}, (∀ fd, .closeClient fd ∉ as) →
      Tracks (embed base i) (perform S as) (Tcp.perform S as) m
  | [], _, _ => tracks_pure ()
  | .send fd msg :: as, _, h => by
      refine tracks_bind (tracks_tcpServerSend S fd msg) (tracks_perform (fun fd' hfd => ?_))
      exact h fd' (List.mem_cons_of_mem _ hfd)
  | .closeClient fd :: _, _, h => absurd List.mem_cons_self (h fd)

/-- The reading loop, with fuel for every byte that is free. -/
theorem tracks_fillLoop
    {fuel : Nat} {c : Tcp.Client}
    (hfuel : droneRecvBufLen - c.bufLen ≤ fuel)
    (hc : m.vars.srv.clients i = c) :
    Tracks (embed base i) (fillLoop S fuel i) (Tcp.fillLoop S i c) m := by
  have hlen := c.bufLen_lt
  induction fuel generalizing c m with
  | zero =>
      omega
  | succ fuel ih =>
      rw [fillLoop, Tcp.fillLoop]
      refine tracks_readVars_left ?_
      rw [embed_clients_self, hc]
      have hleft : sizeSub droneRecvBufLen (record c).bufLen =
          some (droneRecvBufLen - c.bufLen) :=
        sizeSub_of_le hlen.le
      have hspace : sizeSub (droneRecvBufLen - c.bufLen) 1 = some c.space :=
        sizeSub_of_le (by omega)
      refine tracks_check hleft (tracks_check hspace ?_)
      refine tracks_ite (fun _ => tracks_giveUp S) (fun _ => ?_)
      refine tracks_bind (tracks_callOut S _) ?_
      rcases (callOut S (.read c.fd c.space) m).1 with ⟨bs, nonempty, fits⟩ | _ | _ | _
      · -- the bytes fit behind the fill level, and one less is free
        have hpos := List.length_pos_iff.mpr nonempty
        have hfits : bs.length ≤ droneRecvBufLen - c.bufLen - 1 := fits
        refine tracks_check (stores_record c fits) ?_
        refine tracks_bind (tracks_setClient (c.store bs fits)) (ih ?_ ?_ ?_)
        · simp only [Tcp.Client.store]
          omega
        · simp
        · exact (c.store bs fits).bufLen_lt
      · exact tracks_pure true
      · exact tracks_giveUp S
      · exact tracks_giveUp S

/-- A line behind its termination. -/
theorem tracks_deliverLine
    (hS : Passive S)
    {fuel off k len : Nat} {c : Tcp.Client}
    (hline : off + len ≤ droneRecvBufLen)
    (hnext : ∀ m' : TcpState τ, m'.vars = m.vars →
      Tracks (embed base i) (scanLoop S fuel i (off + k + 1))
        (Tcp.scanLoop S i (off + k + 1)) m') :
    Tracks (embed base i)
      (if 0 < len then do
        let line ← check ((record c).buf.loads off len)
        let cb : CallbackResult ← lift (callOut S (.onMessage c.fd line len))
        perform S cb.actions
        if cb.ret ≠ 0 then
          freeClient S i
        else
          scanLoop S fuel i (off + k + 1)
      else
        scanLoop S fuel i (off + k + 1))
      (deliverLine S i off k c len) m := by
  have hread : (record c).buf.loads off len = some ((c.buf.drop off).take len) :=
    Buffer.loads_ofList c.buf_length hline
  refine tracks_ite (fun _ => ?_) (fun _ => hnext m rfl)
  refine tracks_check hread (tracks_bind (tracks_callOut S _) ?_)
  have hpassive := hS c.fd ((c.buf.drop off).take len) len m.outside
  refine tracks_bind (tracks_perform S hpassive) ?_
  refine tracks_ite (fun _ => tracks_freeClient S) (fun _ => hnext _ ?_)
  exact (emits_perform S hpassive _).1

/-- The loop over the lines, with fuel for every byte of the text. -/
theorem tracks_scanLoop
    (hS : Passive S)
    {fuel off : Nat} {c : Tcp.Client}
    (hfuel : c.bufLen - off < fuel)
    (hc : m.vars.srv.clients i = c)
    (hoff : off ≤ c.bufLen) :
    Tracks (embed base i) (scanLoop S fuel i off) (Tcp.scanLoop S i off) m := by
  have hlen := c.bufLen_lt
  induction fuel generalizing off c m with
  | zero =>
      omega
  | succ fuel ih =>
      have hsub : sizeSub (record c).bufLen off = some (c.bufLen - off) :=
        sizeSub_of_le hoff
      have hfind : (record c).buf.find 10 off (c.bufLen - off) =
          some (memchr (c.text off) 10) := by
        rw [Tcp.Client.text, List.drop_take]
        exact Buffer.find_ofList c.buf_length 10 (by omega)
      rw [scanLoop]
      cases hk : memchr (c.text off) 10 with
      | none =>
          rw [Tracks, scanLoop_last S i m (by rw [hc]; exact hoff) (by rw [hc]; exact hk)]
          refine tracks_readVars_left ?_
          rw [embed_clients_self, hc]
          refine tracks_check hsub (tracks_check (hfind.trans (congrArg some hk)) ?_)
          exact tracks_check (shift_record c hoff) (tracks_setClient (c.shift off))
      | some k =>
          obtain ⟨l, t, ht, _, rfl⟩ := memchr_eq_some hk
          have hsize := c.text_length off
          rw [ht, List.length_append, List.length_cons] at hsize
          have hfull : (c.terminate off l.length).1.bufLen = c.bufLen :=
            (c.terminate_spec hoff ht).2.1
          have hshort := terminate_le c off l.length
          rw [Tracks, scanLoop_line S i m (by rw [hc]; exact hoff) (by rw [hc]; exact hk)]
          refine tracks_readVars_left ?_
          rw [embed_clients_self, hc]
          refine tracks_check hsub (tracks_check (hfind.trans (congrArg some hk)) ?_)
          refine tracks_check (terminate_record c (by omega)) ?_
          refine tracks_bind (tracks_setClient (c.terminate off l.length).1) ?_
          refine tracks_deliverLine S hS (by omega) (fun m' hm' => ?_)
          -- behind the newline the text is shorter, and the callback left the slot alone
          refine ih ?_ ?_ ?_ (c.terminate off l.length).1.bufLen_lt
          · omega
          · rw [hm']
            simp
          · omega

/-- `recv_client` stays within the bounds of the buffer, if the callback closes no
client itself. -/
theorem tracks_recvClient
    (hS : Passive S)
    {fuel : Nat}
    (hfuel : droneRecvBufLen ≤ fuel) :
    Tracks (embed base i) (recvClient S fuel i) (Tcp.recvClient S i) m := by
  refine tracks_readVars_right ?_
  refine tracks_bind (tracks_fillLoop S ((Nat.sub_le _ _).trans hfuel) rfl) ?_
  refine tracks_ite (fun _ => ?_) (fun _ => tracks_pure ())
  refine tracks_readVars_bind ?_
  rw [embed_clients_self]
  generalize (Tcp.fillLoop S i (m.vars.srv.clients i) m).2 = m₁
  generalize m₁.vars.srv.clients i = c
  have hlen := c.bufLen_lt
  -- the byte behind the fill level
  refine tracks_check (store_record c hlen 0) ?_
  refine tracks_bind (tracks_setClient (c.poke c.bufLen 0)) ?_
  have hroom : (c.poke c.bufLen 0).bufLen - 0 < fuel :=
    lt_of_lt_of_le hlen hfuel
  exact tracks_scanLoop S hS hroom (TcpVars.setClient_clients_self ..) (Nat.zero_le _)

end Tracking

/-! ## What is left in the slot -/

/-- A slot behind `recv_client`: it is free, or two bytes of its buffer are free and no
line in it is complete. -/
def Settled (c : Client) : Prop :=
  (c.fd = -1 ∧ c.bufLen = 0) ∨
    (c.bufLen ≤ droneRecvBufLen - 2 ∧ newline ∉ c.buf.toList.take c.bufLen)

section Settled

variable {τ : Type} {S : Outside NetCall.Out τ}

theorem settled_released
    (c : Tcp.Client) :
    Settled (record c.released) :=
  Or.inl ⟨rfl, rfl⟩

theorem settled_of_text
    {c : Tcp.Client}
    (hlen : (c.text 0).length ≤ droneRecvBufLen - 2)
    (htext : newline ∉ c.text 0) :
    Settled (record c) := by
  rw [c.text_length] at hlen
  exact Or.inr ⟨hlen, htext⟩

/-- The slot behind `recv_client`. -/
theorem settled_recvClient
    (hS : Passive S)
    (i : Slot) (m : TcpState τ) :
    Settled (record ((Tcp.recvClient S i m).2.vars.srv.clients i)) := by
  obtain ⟨ds, evs, c₁, hfill | hfill⟩ := fillLoop_cases S i _ m rfl
  · obtain ⟨ms, evs', c', _, _, _, _, _, hend⟩ := recvClient_paused hS rfl hfill
    rcases hend with ⟨hfin, htext⟩ | hstop
    · rw [hfin.vars, TcpVars.setClient_clients_self]
      refine settled_of_text ?_ (by rw [htext]; exact notMem_unfinished _)
      -- the reading loop ended with room for a byte and the NUL
      have hroom : droneRecvBufLen - c₁.bufLen - 1 ≠ 0 := hfill.space
      have hsize := c₁.text_length 0
      rw [htext]
      refine (length_unfinished_le _).trans ?_
      rw [← hfill.text]
      omega
    · rw [hstop.vars, TcpVars.release_clients_self]
      exact settled_released _
  · rw [(recvClient_gaveUp rfl hfill).vars, TcpVars.release_clients_self]
    exact settled_released _

/-- A record that leaves two bytes of its buffer free is one with its bounds. -/
theorem exists_record
    {c : Client}
    (hlen : c.bufLen ≤ droneRecvBufLen - 2) :
    ∃ c₀ : Tcp.Client, record c₀ = c :=
  ⟨{ fd := c.fd
     buf := c.buf.toList
     bufLen := c.bufLen
     buf_length := Vector.length_toList
     bufLen_lt := lt_of_le_of_lt hlen (by decide) }, rfl⟩

/-- **`recv_client` stays within its buffer.**  For every record that leaves two bytes of
the buffer free, every answer of the kernel and every callback that closes no client
itself, both loops end, no access is outside the buffer and no difference of sizes is
negative; and the slot is settled in the end. -/
theorem recvClient_bounds
    (hS : Passive S)
    (i : Slot) (m : Machine NetCall.Out τ TcpServer)
    (hlen : (m.vars.clients i).bufLen ≤ droneRecvBufLen - 2) :
    ∃ m' : Machine NetCall.Out τ TcpServer,
      (∀ fuel ≥ droneRecvBufLen, recvClient S fuel i m = some ((), m')) ∧
        Settled (m'.vars.clients i) := by
  obtain ⟨c, hc⟩ := exists_record hlen
  let m₀ : TcpState τ :=
    { outside := m.outside
      vars :=
        { srv :=
            { listenFd := m.vars.listenFd
              epollFd := m.vars.epollFd
              clients := fun _ => c
              clientCount := m.vars.clientCount }
          wrapped := false }
      trace := m.trace }
  have hstart : m₀.through (embed m.vars i) = m := by
    simp [m₀, Machine.through, embed, hc]
  refine ⟨(Tcp.recvClient S i m₀).2.through (embed m.vars i), fun fuel hfuel => ?_, ?_⟩
  · have h : Tracks (embed m.vars i) (recvClient S fuel i) (Tcp.recvClient S i) m₀ :=
      tracks_recvClient S hS hfuel
    rwa [Tracks, hstart] at h
  · rw [Machine.through, embed_clients_self]
    exact settled_recvClient hS i m₀

end Settled

/-- A server whose clients leave two bytes free, and a read that brings one byte. -/
def fullStart : Machine NetCall.Out NetScript TcpServer where
  outside :=
    { reports := [], accepts := [], writes := []
      reads := [.data (ascii "\n")] }
  vars :=
    { listenFd := 3
      epollFd := 4
      clients := fun _ =>
        { fd := 5, buf := Vector.replicate droneRecvBufLen 97, bufLen := droneRecvBufLen - 2 }
      clientCount := 8 }
  trace := []

/-- The buffer is exactly full behind the read. -/
theorem recvClient_bounds_full :
    ∃ m' : Machine NetCall.Out NetScript TcpServer,
      (∀ fuel ≥ droneRecvBufLen, recvClient scriptKernel fuel slot₀ fullStart = some ((), m')) ∧
        Settled (m'.vars.clients slot₀) :=
  recvClient_bounds passive_scriptKernel slot₀ fullStart le_rfl

end Checked
end Tcp
end PsdkBridge
