import PsdkBridge.Lib.CText
import PsdkBridge.Lib.Calls
import PsdkBridge.Lib.Framing

/-!
# The TCP server

This module follows `core/server/tcp_server.c`.  The server keeps a table of
clients, each with a receive buffer, and reacts to the events that `epoll_wait`
reports.  The kernel and the callback `on_message` are the outside of the server
and may answer anything; a callback may call the functions of the server before
it returns.

The clients carry the size of their buffer and the bound of its fill level.  The
scan for complete lines subtracts its offset from the fill level, which a callback
can reset: `wrapped` remembers that this difference was negative.  What the C
program does then is undefined, and the server stops here.
-/

namespace PsdkBridge
namespace Tcp

/-- `DRONE_MAX_CLIENTS`. -/
def droneMaxClients : Nat := 8

/-- `DRONE_RECV_BUF_LEN`. -/
def droneRecvBufLen : Nat := 8192

/-- `DRONE_RPC_BACKLOG`. -/
def droneRpcBacklog : Nat := 4

/-! ## Clients -/

/-- `Client`. -/
structure Client where
  fd : Int
  buf : Bytes
  bufLen : Nat
  buf_length : buf.length = droneRecvBufLen
  bufLen_lt : bufLen < droneRecvBufLen

namespace Client

/-- The free space, less one byte for the NUL. -/
def space (c : Client) : Nat :=
  droneRecvBufLen - c.bufLen - 1

/-- The bytes from an offset up to the fill level. -/
def text (c : Client) (off : Nat) : Bytes :=
  (c.buf.take c.bufLen).drop off

/-- What `read` leaves behind the fill level. -/
def store (c : Client) (bs : Bytes) (fits : bs.length ≤ c.space) : Client where
  fd := c.fd
  buf := c.buf.take c.bufLen ++ bs ++ c.buf.drop (c.bufLen + bs.length)
  bufLen := c.bufLen + bs.length
  buf_length := by
    have := c.buf_length
    have := c.bufLen_lt
    simp only [space] at fits
    simp only [List.length_append, List.length_take, List.length_drop]
    omega
  bufLen_lt := by
    have := c.bufLen_lt
    simp only [space] at fits
    omega

/-- One byte of the buffer is overwritten. -/
def poke (c : Client) (j : Nat) (b : UInt8) : Client where
  fd := c.fd
  buf := c.buf.set j b
  bufLen := c.bufLen
  buf_length := by
    rw [List.length_set, c.buf_length]
  bufLen_lt := c.bufLen_lt

/-- The bytes from an offset on are moved to the front. -/
def shift (c : Client) (off : Nat) : Client where
  fd := c.fd
  buf :=
    if 0 < c.bufLen - off ∧ off ≠ 0 then
      c.text off ++ c.buf.drop (c.text off).length
    else c.buf
  bufLen := c.bufLen - off
  buf_length := by
    have hbuf := c.buf_length
    split_ifs
    · simp only [text, List.length_append, List.length_drop, List.length_take]
      omega
    · exact hbuf
  bufLen_lt := by
    have := c.bufLen_lt
    omega

/-- A slot without a client; the buffer keeps its bytes. -/
def released (c : Client) : Client where
  fd := -1
  buf := c.buf
  bufLen := 0
  buf_length := c.buf_length
  bufLen_lt := by decide

/-- A slot with a new client; the buffer keeps its bytes. -/
def occupied (c : Client) (fd : Int) : Client where
  fd := fd
  buf := c.buf
  bufLen := 0
  buf_length := c.buf_length
  bufLen_lt := by decide

/-- A slot of a new server. -/
def fresh : Client where
  fd := -1
  buf := List.replicate droneRecvBufLen 0
  bufLen := 0
  buf_length := List.length_replicate
  bufLen_lt := by decide

end Client

/-- An index into the table of clients. -/
abbrev Slot := Fin droneMaxClients

/-- `TcpServer`, without the callback. -/
structure TcpServer where
  listenFd : Int
  epollFd : Int
  clients : Slot → Client
  clientCount : Int

/-- The variables of the server. -/
structure TcpVars where
  srv : TcpServer
  wrapped : Bool

/-- `find_client`. -/
def findClient (srv : TcpServer) (fd : Int) : Option Slot :=
  (List.finRange droneMaxClients).find? (fun i => decide ((srv.clients i).fd = fd))

/-- The first slot without a client. -/
def freeSlot (srv : TcpServer) : Option Slot :=
  (List.finRange droneMaxClients).find? (fun i => decide ((srv.clients i).fd < 0))

namespace TcpVars

/-- A slot is overwritten. -/
def setClient (i : Slot) (c : Client) (v : TcpVars) : TcpVars :=
  { v with srv := { v.srv with clients := Function.update v.srv.clients i c } }

/-- The assignments of `alloc_client`. -/
def occupy (i : Slot) (fd : Int) (v : TcpVars) : TcpVars :=
  { v with srv := { v.srv with
      clients := Function.update v.srv.clients i ((v.srv.clients i).occupied fd)
      clientCount := v.srv.clientCount + 1 } }

/-- The assignments of `free_client`. -/
def release (i : Slot) (v : TcpVars) : TcpVars :=
  { v with srv := { v.srv with
      clients := Function.update v.srv.clients i (v.srv.clients i).released
      clientCount := v.srv.clientCount - 1 } }

end TcpVars

/-! ## The outside -/

/-- What `read` returns for a buffer of `space` bytes. -/
inductive ReadResult (space : Nat) where
  | data (bs : Bytes) (nonempty : bs ≠ []) (fits : bs.length ≤ space)
  | again
  | eof
  | error

/-- What `write` returns for the bytes `bs`. -/
inductive WriteResult (bs : Bytes) where
  | wrote (n : Nat) (fits : n ≤ bs.length) (progress : bs ≠ [] → 0 < n)
  | failed

/-- A call of the server from within the callback. -/
inductive CallbackAction where
  | send (fd : Int) (msg : Bytes)
  | closeClient (fd : Int)

/-- What the callback did and returned. -/
structure CallbackResult where
  actions : List CallbackAction
  ret : Int

/-- The calls of the server. -/
inductive NetCall where
  | calloc
  | free
  | socket
  | setReuseAddr (fd : Int)
  | inetPton (bindIp : Bytes)
  | bind (fd : Int) (bindIp : Bytes) (port : UInt16)
  | listen (fd : Int) (backlog : Nat)
  | epollCreate
  | epollWait (maxEvents : Nat)
  | accept (listenFd : Int)
  | getFlags (fd : Int)
  | setNonblock (fd flags : Int)
  | setNodelay (fd : Int)
  | epollCtlAdd (fd : Int)
  | epollCtlDel (fd : Int)
  | close (fd : Int)
  | read (fd : Int) (space : Nat)
  | write (fd : Int) (bs : Bytes)
  | onMessage (fd : Int) (line : Bytes) (len : Nat)

/-- What a call answers.  The pointer of `calloc` is only tested for NULL, and
`epoll_wait` answers the descriptors of its events. -/
@[reducible] def NetCall.Out : NetCall → Type
  | .calloc => Bool
  | .free => Unit
  | .epollWait _ => List Int
  | .read _ space => ReadResult space
  | .write _ bs => WriteResult bs
  | .onMessage _ _ _ => CallbackResult
  | _ => Int

/-- A call and its answer. -/
abbrev NetEvent := CallEvent NetCall.Out

/-- The state of the server. -/
abbrev TcpState (τ : Type) := Machine NetCall.Out τ TcpVars

/-- A function of the server. -/
abbrev TcpM (τ α : Type) := Program NetCall.Out τ TcpVars α

section Functions

variable {τ : Type} (S : Outside NetCall.Out τ)

/-! ## Helpers -/

/-- `set_nonblock`. -/
def setNonblock (fd : Int) : TcpM τ Int := do
  let flags : Int ← callOut S (.getFlags fd)
  if flags < 0 then
    return -1
  else
    let rc : Int ← callOut S (.setNonblock fd flags)
    return rc

/-- `alloc_client`. -/
def allocClient (fd : Int) : TcpM τ (Option Slot) := do
  let vars ← readVars
  match freeSlot vars.srv with
  | none => return none
  | some i =>
      modifyVars (TcpVars.occupy i fd)
      return some i

/-- `free_client`. -/
def freeClient (i : Slot) : TcpM τ Unit := do
  let vars ← readVars
  let _ ← callOut S (.epollCtlDel (vars.srv.clients i).fd)
  let _ ← callOut S (.close (vars.srv.clients i).fd)
  modifyVars (TcpVars.release i)

/-! ## Accepting -/

/-- The part of `accept_client` behind `alloc_client`. -/
def registerClient (cfd : Int) (i : Slot) : TcpM τ Unit := do
  let rc : Int ← callOut S (.epollCtlAdd cfd)
  if rc < 0 then
    freeClient S i
  else
    return ()

/-- `accept_client`. -/
def acceptClient : TcpM τ Unit := do
  let vars ← readVars
  let cfd : Int ← callOut S (.accept vars.srv.listenFd)
  if cfd < 0 then
    return ()
  else if vars.srv.clientCount ≥ droneMaxClients then
    let _ ← callOut S (.close cfd)
  else
    let _ ← setNonblock S cfd
    let _ ← callOut S (.setNodelay cfd)
    let c ← allocClient cfd
    match c with
    | none =>
        let _ ← callOut S (.close cfd)
    | some i => registerClient S cfd i

/-! ## Calls from outside -/

/-- `tcp_server_send`; `false` is the return value `-1`. -/
def tcpServerSend (fd : Int) (msg : Bytes) : TcpM τ Bool := do
  let r : WriteResult (cstr msg) ← callOut S (.write fd (cstr msg))
  match r with
  | .failed => return false
  | .wrote _ _ _ =>
      let r : WriteResult [10] ← callOut S (.write fd [10])
      match r with
      | .failed => return false
      | .wrote _ _ _ => return true

/-- `tcp_server_close_client`. -/
def tcpServerCloseClient (fd : Int) : TcpM τ Unit := do
  let vars ← readVars
  match findClient vars.srv fd with
  | none => return ()
  | some i => freeClient S i

/-- What the callback does before it returns. -/
def perform : List CallbackAction → TcpM τ Unit
  | [] => return ()
  | .send fd msg :: as => do
      let _ ← tcpServerSend S fd msg
      perform as
  | .closeClient fd :: as => do
      tcpServerCloseClient S fd
      perform as

/-! ## Receiving -/

/-- The loop of `recv_client` that reads until there is nothing left; `false` is
a return from the function. -/
def fillLoop (i : Slot) (c : Client) : TcpM τ Bool := do
  if c.space = 0 then
    freeClient S i
    return false
  else
    let r : ReadResult c.space ← callOut S (.read c.fd c.space)
    match r with
    | .again => return true
    | .eof =>
        freeClient S i
        return false
    | .error =>
        freeClient S i
        return false
    | .data bs _nonempty fits =>
        modifyVars (TcpVars.setClient i (c.store bs fits))
        fillLoop i (c.store bs fits)
termination_by droneRecvBufLen - c.bufLen
decreasing_by
  have hpos := List.length_pos_iff.mpr _nonempty
  have hlt := c.bufLen_lt
  simp only [Client.store]
  omega

/-- The line in front of the newline at `off + k` is terminated: the newline and
one `\r` before it become NUL. -/
def Client.terminate (c : Client) (off k : Nat) : Client × Nat :=
  let c := c.poke (off + k) 0
  if 0 < k ∧ c.buf.getD (off + k - 1) 0 = 13 then (c.poke (off + k - 1) 0, k - 1)
  else (c, k)

/-- The loop of `recv_client` over the complete lines, from an offset on. -/
def scanLoop (i : Slot) (off : Nat) : TcpM τ Unit := do
  let vars ← readVars
  let c := vars.srv.clients i
  if c.bufLen < off then
    modifyVars (fun v => { v with wrapped := true })
  else
    match hk : memchr (c.text off) 10 with
    | none => modifyVars (TcpVars.setClient i (c.shift off))
    | some k =>
        let r := c.terminate off k
        modifyVars (TcpVars.setClient i r.1)
        if 0 < r.2 then
          let cb : CallbackResult ←
            callOut S (.onMessage r.1.fd ((r.1.buf.drop off).take r.2) r.2)
          perform S cb.actions
          if cb.ret ≠ 0 then
            freeClient S i
          else
            scanLoop i (off + k + 1)
        else
          scanLoop i (off + k + 1)
termination_by droneRecvBufLen - off
decreasing_by
  all_goals
    obtain ⟨l, t, ht, _, hl⟩ := memchr_eq_some hk
    have hlen := congrArg List.length ht
    have hlt := c.bufLen_lt
    have hbuf := c.buf_length
    simp only [Client.text, List.length_drop, List.length_take, List.length_append,
      List.length_cons] at hlen
    omega

/-- `recv_client`. -/
def recvClient (i : Slot) : TcpM τ Unit := do
  let vars ← readVars
  let more ← fillLoop S i (vars.srv.clients i)
  if more then
    let vars ← readVars
    let c := vars.srv.clients i
    modifyVars (TcpVars.setClient i (c.poke c.bufLen 0))
    scanLoop S i 0
  else
    return ()

/-! ## The event loop -/

/-- The loop of `tcp_server_poll` over the events. -/
def pollEvents : List Int → TcpM τ Unit
  | [] => return ()
  | fd :: fds => do
      let vars ← readVars
      if fd = vars.srv.listenFd then
        acceptClient S
      else
        match findClient vars.srv fd with
        | none => pure ()
        | some i => recvClient S i
      pollEvents fds

/-- `tcp_server_poll`. -/
def tcpServerPoll : TcpM τ Unit := do
  let fds : List Int ← callOut S (.epollWait (droneMaxClients + 1))
  pollEvents S fds

/-! ## Creation and destruction -/

/-- The end of a failed `tcp_server_create`. -/
def abandonServer (listenFd : Int) : Program NetCall.Out τ Unit (Option TcpServer) := do
  let _ ← callOut S (.close listenFd)
  let _ ← callOut S .free
  return none

/-- A new server. -/
def TcpServer.created (listenFd epollFd : Int) : TcpServer where
  listenFd := listenFd
  epollFd := epollFd
  clients := fun _ => Client.fresh
  clientCount := 0

/-- The part of `tcp_server_create` behind the choice of the address. -/
def listenAt (listenFd : Int) (bindIp : Bytes) (port : UInt16) :
    Program NetCall.Out τ Unit (Option TcpServer) := do
  let rc : Int ← callOut S (.bind listenFd bindIp port)
  if rc < 0 then
    abandonServer S listenFd
  else
    let rc : Int ← callOut S (.listen listenFd droneRpcBacklog)
    if rc < 0 then
      abandonServer S listenFd
    else
      let epollFd : Int ← callOut S .epollCreate
      if epollFd < 0 then
        abandonServer S listenFd
      else
        let _ ← callOut S (.epollCtlAdd listenFd)
        return some (TcpServer.created listenFd epollFd)

/-- `tcp_server_create`; `none` is NULL, and a NULL `bind_ip` is the empty
text. -/
def tcpServerCreate (bindIp : Bytes) (port : UInt16) :
    Program NetCall.Out τ Unit (Option TcpServer) := do
  let srv : Bool ← callOut S .calloc
  if !srv then
    return none
  else
    let listenFd : Int ← callOut S .socket
    if listenFd < 0 then
      let _ ← callOut S .free
      return none
    else
      let _ ← callOut S (.setReuseAddr listenFd)
      if bindIp = ascii "0.0.0.0" ∨ bindIp = [] then
        listenAt S listenFd bindIp port
      else
        let rc : Int ← callOut S (.inetPton bindIp)
        if rc ≠ 1 then
          abandonServer S listenFd
        else
          listenAt S listenFd bindIp port

/-- The loop of `tcp_server_destroy` over the table. -/
def closeClients : List Slot → TcpM τ Unit
  | [] => return ()
  | i :: is => do
      let vars ← readVars
      if 0 ≤ (vars.srv.clients i).fd then
        let _ ← callOut S (.close (vars.srv.clients i).fd)
      closeClients is

/-- `tcp_server_destroy`. -/
def tcpServerDestroy : TcpM τ Unit := do
  closeClients S (List.finRange droneMaxClients)
  let vars ← readVars
  let _ ← callOut S (.close vars.srv.epollFd)
  let _ ← callOut S (.close vars.srv.listenFd)
  let _ ← callOut S .free

end Functions

/-! ## Texts in the buffer -/

namespace Client

variable (c : Client)

theorem text_length
    (off : Nat) :
    (c.text off).length = c.bufLen - off := by
  have := c.buf_length
  have := c.bufLen_lt
  simp only [text, List.length_drop, List.length_take]
  omega

theorem text_add
    (off k : Nat) :
    c.text (off + k) = (c.text off).drop k := by
  simp only [text, List.drop_drop]

/-- The bytes that were read follow those that were there. -/
theorem text_store
    {bs : Bytes}
    (fits : bs.length ≤ c.space) :
    (c.store bs fits).text 0 = c.text 0 ++ bs := by
  have hlen : (c.buf.take c.bufLen ++ bs).length = c.bufLen + bs.length := by
    have := c.text_length 0
    simp only [text, List.drop_zero] at this
    rw [List.length_append]
    omega
  simp only [text, store, List.drop_zero]
  rw [← hlen, List.take_left]

/-- A byte in front of the offset or behind the fill level is not part of the
text. -/
theorem text_poke
    {off j : Nat} {b : UInt8}
    (h : j < off ∨ c.bufLen ≤ j) :
    (c.poke j b).text off = c.text off := by
  simp only [text, poke]
  rcases h with h | h
  · rw [List.take_set, List.drop_set_of_lt h]
  · rw [List.take_set_of_le h]

theorem text_shift
    (off : Nat) :
    (c.shift off).text 0 = c.text off := by
  have hlen := c.text_length off
  show (List.take (c.bufLen - off) (if 0 < c.bufLen - off ∧ off ≠ 0 then
    c.text off ++ c.buf.drop (c.text off).length else c.buf)).drop 0 = c.text off
  rw [List.drop_zero]
  by_cases h : 0 < c.bufLen - off ∧ off ≠ 0
  · rw [if_pos h, ← hlen, List.take_left]
  · rw [if_neg h]
    by_cases hoff : off = 0
    · subst hoff
      simp [text]
    · have hzero : c.bufLen - off = 0 := by omega
      rw [hzero, List.take_zero]
      exact (List.length_eq_zero_iff.mp (by rw [hlen, hzero])).symm

end Client

/-! ## The table after an assignment -/

namespace TcpVars

variable (i : Slot) (c c' : Client) (fd : Int) (v : TcpVars) {j : Slot}

theorem setClient_self :
    v.setClient i (v.srv.clients i) = v := by
  simp [setClient]

@[simp] theorem setClient_setClient :
    (v.setClient i c).setClient i c' = v.setClient i c' := by
  simp [setClient]

@[simp] theorem setClient_clients_self :
    (v.setClient i c).srv.clients i = c := by
  simp [setClient]

@[simp] theorem setClient_clients_of_ne
    (h : j ≠ i) :
    (v.setClient i c).srv.clients j = v.srv.clients j := by
  simp [setClient, h]

@[simp] theorem setClient_clientCount :
    (v.setClient i c).srv.clientCount = v.srv.clientCount := by
  rfl

@[simp] theorem occupy_clients_self :
    (v.occupy i fd).srv.clients i = (v.srv.clients i).occupied fd := by
  simp [occupy]

@[simp] theorem occupy_clients_of_ne
    (h : j ≠ i) :
    (v.occupy i fd).srv.clients j = v.srv.clients j := by
  simp [occupy, h]

@[simp] theorem occupy_clientCount :
    (v.occupy i fd).srv.clientCount = v.srv.clientCount + 1 := by
  rfl

@[simp] theorem release_clients_self :
    (v.release i).srv.clients i = (v.srv.clients i).released := by
  simp [release]

@[simp] theorem release_clients_of_ne
    (h : j ≠ i) :
    (v.release i).srv.clients j = v.srv.clients j := by
  simp [release, h]

@[simp] theorem release_clientCount :
    (v.release i).srv.clientCount = v.srv.clientCount - 1 := by
  rfl

end TcpVars

@[simp] theorem Client.occupied_fd
    (c : Client) (fd : Int) :
    (c.occupied fd).fd = fd := by
  rfl

@[simp] theorem Client.released_fd
    (c : Client) :
    c.released.fd = -1 := by
  rfl

/-! ## A concrete outside -/

/-- What a kernel has in store: the events, the new connections, what the reads
bring and how much the writes take. -/
structure NetScript where
  reports : List (List Int)
  accepts : List Int
  reads : List (Arrival UInt8)
  writes : List Nat

/-- What `read` answers to an arrival; data that does not fit is an error. -/
def readAnswer (space : Nat) : Arrival UInt8 → ReadResult space
  | .data bs => if h : bs ≠ [] ∧ bs.length ≤ space then .data bs h.1 h.2 else .error
  | .pause => .again
  | .hangup => .eof

/-- What `write` answers if the kernel takes `n` bytes; it fails if there are not
as many. -/
def writeAnswer (bs : Bytes) (n : Nat) : WriteResult bs :=
  if h : 0 < n ∧ n ≤ bs.length then .wrote n h.2 (fun _ => h.1) else .failed

/-- A kernel that follows the script, and a callback that does nothing. -/
def scriptKernel : Outside NetCall.Out NetScript
  | .calloc, s => (true, s)
  | .free, s => ((), s)
  | .socket, s => ((3 : Int), s)
  | .epollCreate, s => ((4 : Int), s)
  | .inetPton _, s => ((1 : Int), s)
  | .epollWait _, s =>
      ((s.reports.headD []).filter (fun fd => decide (0 ≤ fd)),
        { s with reports := s.reports.tail })
  | .accept _, s => (s.accepts.headD (-1), { s with accepts := s.accepts.tail })
  | .read _ space, s =>
      (readAnswer space (s.reads.headD .pause), { s with reads := s.reads.tail })
  | .write _ bs, s =>
      (writeAnswer bs (s.writes.headD 0), { s with writes := s.writes.tail })
  | .onMessage _ _ _, s => ({ actions := [], ret := 0 }, s)
  | .setReuseAddr _, s | .bind _ _ _, s | .listen _ _, s | .getFlags _, s
  | .setNonblock _ _, s | .setNodelay _, s | .epollCtlAdd _, s | .epollCtlDel _, s
  | .close _, s => ((0 : Int), s)

/-- The program before it creates a server. -/
def beforeCreate (s : NetScript) : Machine NetCall.Out NetScript Unit where
  outside := s
  vars := ()
  trace := []

end Tcp
end PsdkBridge
