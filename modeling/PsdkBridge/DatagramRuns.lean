import Mathlib.Data.List.Forall2
import Mathlib.Data.List.ReduceOption
import PsdkBridge.Datagrams

/-!
# Runs of datagrams

One buffer serves all datagrams of a server: `recvfrom` writes over its front, and the
loop that strips the trailing whitespace writes NULs into it.

* `Checked.runPolls_eq`: in the namespace `Checked` an index outside the buffer fails;
  no run of polls meets one.
* `runPolls_passed`: over a run of polls, the callback is called in order, once for
  each datagram that has text, and finds nothing of the earlier ones.
-/

namespace PsdkBridge

/-- The bytes of a datagram that `recvfrom` stores. -/
def storedBytes (datagram : Bytes) : Bytes :=
  datagram.take (droneMaxMsgLen - 1)

/-- Not all stored bytes are blanks or line ends. -/
def hasText (datagram : Bytes) : Bool :=
  (storedBytes datagram).any (fun b => !isTrailing b)

/-- A run of polls; `none` is a poll without a datagram. -/
def runPolls {ω : Type} (onMessage : SockaddrIn → Bytes → Nat → ω → ω)
    (srv : UdpServer) (rxs : List (Option (SockaddrIn × Bytes))) (w : ω) :
    UdpServer × ω :=
  rxs.foldl (fun s rx => udpServerPoll onMessage s.1 rx s.2) (srv, w)

/-- The arguments of a call of `on_message`. -/
structure Message where
  peer : SockaddrIn
  buf : Bytes
  len : Nat

/-- The text without the longest run of blanks and line ends at its end. -/
structure IsStripped (text msg : Bytes) : Prop where
  suffix : ∃ u, text = msg ++ u ∧ ∀ b ∈ u, isTrailing b = true
  longest : ∀ b ∈ msg.getLast?, isTrailing b = false

/-- The call passes the datagram: its sender, and its text behind which a NUL stands. -/
structure Passes (m : Message) (d : SockaddrIn × Bytes) : Prop where
  peer : m.peer = d.1
  length : m.buf.length = droneMaxMsgLen
  stripped : IsStripped (storedBytes d.2) (m.buf.take m.len)
  terminated : m.buf[m.len]? = some 0
  /-- What the callback reads as a C string is a matter of this datagram. -/
  own : cstr m.buf = cstr (messageOf d.2)

/-! ## Checked accesses -/

namespace Checked

/-- Read a byte of the buffer. -/
def readAt (buf : Bytes) (i : Nat) : Option UInt8 :=
  buf[i]?

/-- Write a byte of the buffer. -/
def writeAt (buf : Bytes) (i : Nat) (b : UInt8) : Option Bytes :=
  if i < buf.length then some (buf.set i b) else none

/-- `recvfrom`, for a size within the buffer. -/
def recvfrom (buf : Bytes) (size : Nat) (datagram : Bytes) : Option (Bytes × Nat) :=
  if size ≤ buf.length then some (PsdkBridge.recvfrom buf size datagram) else none

/-- The loop that strips trailing whitespace. -/
def stripTrailing : Nat → Bytes → Option (Bytes × Nat)
  | 0, buf => some (buf, 0)
  | len + 1, buf => do
      let b ← readAt buf len
      if isTrailing b then
        let buf ← writeAt buf len 0
        stripTrailing len buf
      else
        return (buf, len + 1)

/-- `udp_server_poll`. -/
def udpServerPoll {ω : Type} (onMessage : SockaddrIn → Bytes → Nat → ω → ω)
    (recvBuf : Bytes) (rx : Option (SockaddrIn × Bytes)) (w : ω) : Option (Bytes × ω) :=
  match rx with
  | none => some (recvBuf, w)
  | some (peer, datagram) => do
      let (recvBuf, len) ← recvfrom recvBuf (droneMaxMsgLen - 1) datagram
      if len = 0 then
        return (recvBuf, w)
      else
        let recvBuf ← writeAt recvBuf len 0
        let (recvBuf, len) ← stripTrailing len recvBuf
        if len = 0 then
          return (recvBuf, w)
        else
          return (recvBuf, onMessage peer recvBuf len w)

/-- A run of polls. -/
def runPolls {ω : Type} (onMessage : SockaddrIn → Bytes → Nat → ω → ω)
    (recvBuf : Bytes) (rxs : List (Option (SockaddrIn × Bytes))) (w : ω) :
    Option (Bytes × ω) :=
  rxs.foldlM (fun s rx => udpServerPoll onMessage s.1 rx s.2) (recvBuf, w)

/-- The loop stays in front of where it starts. -/
theorem stripTrailing_eq
    {len : Nat} {buf : Bytes}
    (h : len ≤ buf.length) :
    stripTrailing len buf = some (PsdkBridge.stripTrailing len buf) := by
  induction len generalizing buf with
  | zero =>
      rfl
  | succ len ih =>
      have hread : readAt buf len = some (buf.getD len 0) := by
        simp [readAt, List.getD_eq_getElem?_getD, List.getElem?_eq_getElem h]
      have hwrite : writeAt buf len 0 = some (buf.set len 0) := if_pos h
      simp only [stripTrailing, PsdkBridge.stripTrailing, hread, hwrite,
        Option.bind_eq_bind, Option.bind_some]
      split_ifs
      · exact ih (by rw [List.length_set]; omega)
      · rfl

/-- What `recvfrom` leaves: room for the NUL, and nothing new if nothing was stored. -/
theorem recvfrom_bounds
    (srv : UdpServer) (datagram : Bytes) :
    let r := PsdkBridge.recvfrom srv.recvBuf (droneMaxMsgLen - 1) datagram
    recvfrom srv.recvBuf (droneMaxMsgLen - 1) datagram = some r ∧
      r.2 < r.1.length ∧ (r.2 = 0 → r.1 = srv.recvBuf) := by
  have hbuf := srv.recvBuf_length
  have hmax : droneMaxMsgLen = 4096 := rfl
  refine ⟨if_pos (by omega), ?_, fun hzero => ?_⟩
  · rw [recvfrom_length (by omega)]
    simp only [PsdkBridge.recvfrom, List.length_take]
    omega
  · have hempty := List.length_eq_zero_iff.mp hzero
    simp only [PsdkBridge.recvfrom, hempty]
    rfl

/-- A poll finds all its indices in the buffer. -/
theorem udpServerPoll_eq
    {ω : Type} (onMessage : SockaddrIn → Bytes → Nat → ω → ω)
    (srv : UdpServer) (rx : Option (SockaddrIn × Bytes)) (w : ω) :
    udpServerPoll onMessage srv.recvBuf rx w =
      some ((PsdkBridge.udpServerPoll onMessage srv rx w).1.recvBuf,
        (PsdkBridge.udpServerPoll onMessage srv rx w).2) := by
  cases rx with
  | none =>
      rfl
  | some d =>
      obtain ⟨peer, datagram⟩ := d
      obtain ⟨hrecv, hlt, hzero⟩ := recvfrom_bounds srv datagram
      have hstrip : stripTrailing
          (PsdkBridge.recvfrom srv.recvBuf (droneMaxMsgLen - 1) datagram).2
          ((PsdkBridge.recvfrom srv.recvBuf (droneMaxMsgLen - 1) datagram).1.set
            (PsdkBridge.recvfrom srv.recvBuf (droneMaxMsgLen - 1) datagram).2 0) =
          some (srv.receive datagram) :=
        stripTrailing_eq (by rw [List.length_set]; exact hlt.le)
      simp only [udpServerPoll, PsdkBridge.udpServerPoll, hrecv, Option.bind_eq_bind,
        Option.bind_some]
      by_cases hlen :
          (PsdkBridge.recvfrom srv.recvBuf (droneMaxMsgLen - 1) datagram).2 = 0
      · rw [if_pos hlen, if_pos hlen, hzero hlen]
        rfl
      · rw [if_neg hlen, if_neg hlen]
        simp only [writeAt, if_pos hlt, Option.bind_some, hstrip]
        split_ifs <;> rfl

/-- **No index outside the buffer.**  A run of polls never fails, and is the plain
one. -/
theorem runPolls_eq
    {ω : Type} (onMessage : SockaddrIn → Bytes → Nat → ω → ω)
    (srv : UdpServer) (rxs : List (Option (SockaddrIn × Bytes))) (w : ω) :
    runPolls onMessage srv.recvBuf rxs w =
      some ((PsdkBridge.runPolls onMessage srv rxs w).1.recvBuf,
        (PsdkBridge.runPolls onMessage srv rxs w).2) := by
  unfold runPolls PsdkBridge.runPolls
  induction rxs generalizing srv w with
  | nil =>
      rfl
  | cons rx rxs ih =>
      rw [List.foldlM_cons, List.foldl_cons, udpServerPoll_eq]
      exact ih _ _

end Checked

/-! ## What the callback gets -/

theorem isStripped_messageOf
    (datagram : Bytes) :
    IsStripped (storedBytes datagram) (messageOf datagram) where
  suffix := ⟨_, List.rdropWhile_append_rtakeWhile.symm, fun _ => List.mem_rtakeWhile_imp⟩
  longest b hb := by
    obtain ⟨hne, rfl⟩ := List.mem_getLast?_eq_getLast hb
    exact Bool.eq_false_of_not_eq_true
      (List.rdropWhile_last_not isTrailing (storedBytes datagram) hne)

theorem hasText_iff
    (datagram : Bytes) :
    hasText datagram = true ↔ messageOf datagram ≠ [] := by
  rw [Ne, messageOf, List.rdropWhile_eq_nil_iff]
  simp [hasText, storedBytes]

/-- The call that a poll makes for a datagram. -/
theorem passes_message
    (peer : SockaddrIn) (datagram : Bytes)
    {z : Bytes}
    (hlength : (messageOf datagram ++ 0 :: z).length = droneMaxMsgLen) :
    Passes ⟨peer, messageOf datagram ++ 0 :: z, (messageOf datagram).length⟩
      (peer, datagram) where
  peer := rfl
  length := hlength
  stripped := by
    rw [List.take_left]
    exact isStripped_messageOf datagram
  terminated := by simp
  own := cstr_append_zero _ _

/-- The calls of a run of polls. -/
theorem runPolls_messages
    (srv : UdpServer) (rxs : List (Option (SockaddrIn × Bytes))) :
    ∃ msgs : List Message,
      List.Forall₂ Passes msgs (rxs.reduceOption.filter (fun d => hasText d.2)) ∧
      ∀ {ω : Type} (onMessage : SockaddrIn → Bytes → Nat → ω → ω) (w : ω),
        (runPolls onMessage srv rxs w).2 =
          msgs.foldl (fun w m => onMessage m.peer m.buf m.len w) w := by
  induction rxs generalizing srv with
  | nil =>
      exact ⟨[], .nil, fun _ _ => rfl⟩
  | cons rx rxs ih =>
      cases rx with
      | none =>
          exact ih srv
      | some d =>
          obtain ⟨peer, datagram⟩ := d
          obtain ⟨srv', z, hlength, hpoll⟩ := udpServerPoll_some srv peer datagram
          obtain ⟨msgs, hpasses, hrun⟩ := ih srv'
          rw [List.reduceOption_cons_of_some, List.filter_cons]
          by_cases hmsg : messageOf datagram = []
          · have htext : ¬ hasText datagram = true :=
              fun h => (hasText_iff datagram).mp h hmsg
            rw [if_neg htext]
            refine ⟨msgs, hpasses, fun onMessage w => ?_⟩
            rw [runPolls, List.foldl_cons, hpoll, if_pos hmsg]
            exact hrun onMessage w
          · rw [if_pos ((hasText_iff datagram).mpr hmsg)]
            refine ⟨_ :: msgs, .cons (passes_message peer datagram hlength) hpasses,
              fun onMessage w => ?_⟩
            rw [runPolls, List.foldl_cons, hpoll, if_neg hmsg]
            exact hrun onMessage _

/-- **Each datagram is passed once.**  Over a run of polls, whatever the buffer held
before: the callback is called in order, exactly for the datagrams with text, each call
passes its datagram, and no index lies outside the buffer. -/
theorem runPolls_passed
    (srv : UdpServer) (rxs : List (Option (SockaddrIn × Bytes))) :
    ∃ msgs : List Message,
      List.Forall₂ Passes msgs (rxs.reduceOption.filter (fun d => hasText d.2)) ∧
      ∀ {ω : Type} (onMessage : SockaddrIn → Bytes → Nat → ω → ω) (w : ω),
        (runPolls onMessage srv rxs w).2 =
          msgs.foldl (fun w m => onMessage m.peer m.buf m.len w) w ∧
        Checked.runPolls onMessage srv.recvBuf rxs w =
          some ((runPolls onMessage srv rxs w).1.recvBuf,
            (runPolls onMessage srv rxs w).2) := by
  obtain ⟨msgs, hpasses, hrun⟩ := runPolls_messages srv rxs
  exact ⟨msgs, hpasses, fun onMessage w =>
    ⟨hrun onMessage w, Checked.runPolls_eq onMessage srv rxs w⟩⟩

end PsdkBridge
