import Mathlib.Data.List.DropRight
import PsdkBridge.Replies
import PsdkBridge.Lib.JsonLocal

/-!
# From datagrams to requests

This module follows `core/server/udp_server.c`.  A datagram is shortened three
times before it is executed: `recvfrom` keeps what fits the receive buffer,
trailing blanks and line ends are stripped, and the text ends at its first NUL.
The tokener then stops behind the first complete value.

* `udpServerPoll_of_datagram`: what the callback gets.
* `executesOnlyRequests_iff`: which datagrams are executed although they are not
  one request as a whole.
-/

namespace PsdkBridge

/-- `UdpServer`: the receive buffer.  The socket and the callback are arguments
of the functions. -/
structure UdpServer where
  recvBuf : Bytes
  recvBuf_length : recvBuf.length = droneMaxMsgLen

/-- `udp_server_create`, as far as the buffer goes. -/
def udpServerCreate : UdpServer where
  recvBuf := List.replicate droneMaxMsgLen 0
  recvBuf_length := List.length_replicate

/-- `recvfrom` into a buffer: at most `size` bytes are stored, the rest of the
datagram is lost. -/
def recvfrom (buf : Bytes) (size : Nat) (datagram : Bytes) : Bytes × Nat :=
  (datagram.take size ++ buf.drop (datagram.take size).length,
    (datagram.take size).length)

/-- The bytes that are stripped from the end of a message. -/
def isTrailing (b : UInt8) : Bool :=
  decide (b = 10 ∨ b = 13 ∨ b = 32)

/-- The loop that strips trailing whitespace. -/
def stripTrailing : Nat → Bytes → Bytes × Nat
  | 0, buf => (buf, 0)
  | len + 1, buf =>
      if isTrailing (buf.getD len 0) then stripTrailing len (buf.set len 0)
      else (buf, len + 1)

theorem recvfrom_length
    {buf : Bytes} {size : Nat}
    (h : size ≤ buf.length)
    (datagram : Bytes) :
    (recvfrom buf size datagram).1.length = buf.length := by
  simp [recvfrom]
  omega

theorem stripTrailing_length
    (len : Nat) (buf : Bytes) :
    (stripTrailing len buf).1.length = buf.length := by
  induction len generalizing buf with
  | zero =>
      rfl
  | succ len ih =>
      simp only [stripTrailing]
      split_ifs
      · rw [ih, List.length_set]
      · rfl

/-- The buffer and the length behind the loop. -/
def UdpServer.receive (srv : UdpServer) (datagram : Bytes) : Bytes × Nat :=
  let r := recvfrom srv.recvBuf (droneMaxMsgLen - 1) datagram
  stripTrailing r.2 (r.1.set r.2 0)

theorem receive_length
    (srv : UdpServer) (datagram : Bytes) :
    (srv.receive datagram).1.length = droneMaxMsgLen := by
  have hbuf := srv.recvBuf_length
  unfold UdpServer.receive
  rw [stripTrailing_length, List.length_set, recvfrom_length (by omega), hbuf]

/-- `udp_server_poll`.  No datagram means that `poll` or `recvfrom` failed or
timed out; `on_message` gets the buffer and the length. -/
def udpServerPoll {ω : Type} (onMessage : SockaddrIn → Bytes → Nat → ω → ω)
    (srv : UdpServer) (rx : Option (SockaddrIn × Bytes)) (w : ω) :
    UdpServer × ω :=
  match rx with
  | none => (srv, w)
  | some (peer, datagram) =>
      if (recvfrom srv.recvBuf (droneMaxMsgLen - 1) datagram).2 = 0 then (srv, w)
      else
        let r := srv.receive datagram
        let srv' : UdpServer := ⟨r.1, receive_length srv datagram⟩
        if r.2 = 0 then (srv', w) else (srv', onMessage peer r.1 r.2 w)

/-! ## What the callback gets -/

/-- The message of a datagram: the bytes that are kept, without the trailing
whitespace. -/
def messageOf (datagram : Bytes) : Bytes :=
  (datagram.take (droneMaxMsgLen - 1)).rdropWhile isTrailing

/-- The loop leaves the stripped text with a NUL behind it. -/
theorem stripTrailing_text
    (t z : Bytes) :
    ∃ z', stripTrailing t.length (t ++ 0 :: z) =
      (t.rdropWhile isTrailing ++ 0 :: z', (t.rdropWhile isTrailing).length) := by
  induction t using List.reverseRecOn generalizing z with
  | nil =>
      exact ⟨z, rfl⟩
  | append_singleton t b ih =>
      have hlast : ((t ++ [b]) ++ 0 :: z).getD t.length 0 = b := by
        simp [List.getD_eq_getElem?_getD]
      have hset : ((t ++ [b]) ++ 0 :: z).set t.length 0 = t ++ 0 :: 0 :: z := by
        simp
      rw [List.length_append, List.length_singleton]
      simp only [stripTrailing, hlast, hset]
      by_cases hb : isTrailing b = true
      · rw [if_pos hb, List.rdropWhile_concat_pos _ _ _ hb]
        exact ih (0 :: z)
      · rw [if_neg hb, List.rdropWhile_concat_neg _ _ _ hb]
        exact ⟨z, by simp⟩

theorem receive_eq
    (srv : UdpServer) (datagram : Bytes) :
    ∃ z, srv.receive datagram =
      (messageOf datagram ++ 0 :: z, (messageOf datagram).length) := by
  have hbuf := srv.recvBuf_length
  have hlen : (datagram.take (droneMaxMsgLen - 1)).length < srv.recvBuf.length := by
    simp only [List.length_take, droneMaxMsgLen] at hbuf ⊢
    omega
  unfold messageOf UdpServer.receive recvfrom
  generalize datagram.take (droneMaxMsgLen - 1) = t at hlen ⊢
  obtain ⟨b, z, hdrop⟩ : ∃ b z, srv.recvBuf.drop t.length = b :: z :=
    ⟨_, _, List.drop_eq_getElem_cons hlen⟩
  have hset : (t ++ b :: z).set t.length 0 = t ++ 0 :: z := by simp
  simp only [hdrop, hset]
  exact stripTrailing_text t z

/-- What a poll does with a datagram: the callback is called if there is a message,
which stands in front of the first NUL that was written. -/
theorem udpServerPoll_some
    (srv : UdpServer) (peer : SockaddrIn) (datagram : Bytes) :
    ∃ (srv' : UdpServer) (z : Bytes),
      (messageOf datagram ++ 0 :: z).length = droneMaxMsgLen ∧
      ∀ {ω : Type} (onMessage : SockaddrIn → Bytes → Nat → ω → ω) (w : ω),
        udpServerPoll onMessage srv (some (peer, datagram)) w =
          (srv', if messageOf datagram = [] then w
            else onMessage peer (messageOf datagram ++ 0 :: z)
              (messageOf datagram).length w) := by
  obtain ⟨z, hz⟩ := receive_eq srv datagram
  have hlength := receive_length srv datagram
  rw [hz] at hlength
  by_cases hempty : datagram.take (droneMaxMsgLen - 1) = []
  · have hmsg : messageOf datagram = [] := by
      rw [messageOf, hempty]
      rfl
    refine ⟨srv, z, hlength, fun onMessage w => ?_⟩
    simp [udpServerPoll, recvfrom, hempty, hmsg]
  · have hpos : (datagram.take (droneMaxMsgLen - 1)).length ≠ 0 :=
      fun h => hempty (List.length_eq_zero_iff.mp h)
    refine ⟨⟨_, hlength⟩, z, hlength, fun onMessage w => ?_⟩
    simp only [udpServerPoll, recvfrom, hpos, if_false, hz, List.length_eq_zero_iff]
    split_ifs <;> rfl

/-- **The callback and its message.**  The callback is called exactly for the
datagrams with a message, and finds it in front of the first NUL it wrote. -/
theorem udpServerPoll_of_datagram
    {ω : Type} (onMessage : SockaddrIn → Bytes → Nat → ω → ω)
    (srv : UdpServer) (peer : SockaddrIn) (datagram : Bytes) (w : ω) :
    (messageOf datagram = [] ∧
      (udpServerPoll onMessage srv (some (peer, datagram)) w).2 = w) ∨
    (messageOf datagram ≠ [] ∧ ∃ z,
      (udpServerPoll onMessage srv (some (peer, datagram)) w).2 =
        onMessage peer (messageOf datagram ++ 0 :: z) (messageOf datagram).length w) := by
  obtain ⟨srv', z, _, hpoll⟩ := udpServerPoll_some srv peer datagram
  rw [hpoll]
  by_cases hmsg : messageOf datagram = []
  · exact Or.inl ⟨hmsg, if_pos hmsg⟩
  · exact Or.inr ⟨hmsg, z, if_neg hmsg⟩

/-! ## Executed datagrams -/

section Executed

variable {σ : Type} (E : Env σ)

/-- One round of the daemon: `handle_rpc` is the callback. -/
def pollDatagram (srv : UdpServer) (peer : SockaddrIn) (datagram : Bytes)
    (w : World σ) : World σ :=
  (udpServerPoll (fun p buf _ w => handleRpc E p buf w) srv (some (peer, datagram)) w).2

/-- The text that `rpc_parse` sees of a datagram. -/
def receivedText (datagram : Bytes) : Bytes :=
  cstr (messageOf datagram)

/-- The value is an object with a method member. -/
def HasMethod (root : Json) : Prop :=
  jsonObjectIsObject root = true ∧
    (jsonObjectObjectGetEx root (ascii "method")).isSome = true

/-- The tokener reads an object in the text. -/
def ReadsObject (P : Platform) (s : Bytes) : Prop :=
  ∃ root m, P.tokenerParseEx s = some (root, m) ∧ jsonObjectIsObject root = true

/-- The first object of the text ends behind `n` bytes: as soon as it is complete, the
tokener reads it. -/
structure ObjectEnds (P : Platform) (s : Bytes) (n : Nat) : Prop where
  reads : ReadsObject P (s.take n)
  first : ∀ k < n, ¬ ReadsObject P (s.take k)

/-- The tokener reads the datagram as an object with a method, and there is only
whitespace behind this object. -/
def IsRequest (P : Platform) (datagram : Bytes) : Prop :=
  ∃ root m n, P.tokenerParseEx datagram = some (root, m) ∧ HasMethod root ∧
    ObjectEnds P datagram n ∧ ∀ b ∈ datagram.drop n, isWs b = true

/-- A datagram with any effect is one request as a whole, without a NUL, and
was received whole. -/
def ExecutesOnlyRequests (srv : UdpServer) (peer : SockaddrIn) (datagram : Bytes)
    (w : World σ) : Prop :=
  (pollDatagram E srv peer datagram w).events ≠ w.events →
    IsRequest E.platform datagram ∧ (0 : UInt8) ∉ datagram ∧
      datagram.length ≤ droneMaxMsgLen - 1

/-- The received text starts with a request, but the datagram is longer than
the receive buffer, has a NUL in it, or goes on behind the request. -/
def CutToRequest (P : Platform) (datagram : Bytes) : Prop :=
  messageOf datagram ≠ [] ∧
  ∃ root m n, P.tokenerParseEx (receivedText datagram) = some (root, m) ∧
    HasMethod root ∧ ObjectEnds P (receivedText datagram) n ∧
    (droneMaxMsgLen - 1 < datagram.length ∨ (0 : UInt8) ∈ datagram ∨
      ∃ b ∈ datagram.drop n, isWs b = false)

/-- Whitespace behind the input does not change which object the tokener returns. -/
def SkipsWhitespace (P : Platform) : Prop :=
  ∀ s root m u, P.tokenerParseEx s = some (root, m) →
    jsonObjectIsObject root = true → (∀ b ∈ u, isWs b = true) →
    ∃ m', P.tokenerParseEx (s ++ u) = some (root, m')

namespace ObjectEnds

variable {P : Platform} {s : Bytes} {n n' : Nat}

theorem le_length
    (h : ObjectEnds P s n) :
    n ≤ s.length := by
  by_contra hlt
  refine h.first s.length (by omega) ?_
  have hreads := h.reads
  rwa [List.take_of_length_le (by omega)] at hreads ⊢

/-- The end is determined. -/
theorem unique
    (h : ObjectEnds P s n)
    (h' : ObjectEnds P s n') :
    n = n' := by
  by_contra hne
  rcases Nat.lt_or_gt_of_ne hne with hlt | hlt
  · exact h'.first n hlt h.reads
  · exact h.first n' hlt h'.reads

/-- What follows the object does not move its end. -/
theorem append
    (h : ObjectEnds P s n)
    (u : Bytes) :
    ObjectEnds P (s ++ u) n := by
  have hle := h.le_length
  have htake : ∀ k ≤ n, (s ++ u).take k = s.take k := fun k hk =>
    List.take_append_of_le_length (hk.trans hle)
  refine ⟨by rw [htake n le_rfl]; exact h.reads, fun k hk => ?_⟩
  rw [htake k hk.le]
  exact h.first k hk

end ObjectEnds

theorem exists_objectEnds
    {P : Platform} {s : Bytes}
    (h : ReadsObject P s) :
    ∃ n, ObjectEnds P s n := by
  classical
  have hex : ∃ n, ReadsObject P (s.take n) := ⟨s.length, by rwa [List.take_length]⟩
  exact ⟨Nat.find hex, Nat.find_spec hex, fun k hk => Nat.find_min hex hk⟩

/-- `rpc_parse` looks at the C string of its argument only. -/
theorem rpcParse_append_zero
    (P : Platform) (s z : Bytes) :
    rpcParse P (s ++ 0 :: z) = rpcParse P s := by
  simp only [rpcParse, cstr_append_zero]

/-- What `rpc_parse` accepts. -/
theorem rpcParse_isSome_iff
    (P : Platform) (line : Bytes) :
    (rpcParse P line).isSome = true ↔
      ∃ root n, P.tokenerParseEx (cstr line) = some (root, n) ∧ HasMethod root := by
  unfold rpcParse
  cases hparse : P.tokenerParseEx (cstr line) with
  | none =>
      simp
  | some p =>
      obtain ⟨root, n⟩ := p
      cases hobj : jsonObjectIsObject root <;>
        cases hmethod : jsonObjectObjectGetEx root (ascii "method") <;>
        simp [HasMethod, hobj, hmethod]

/-- A line has an effect exactly if it is a request. -/
theorem handleRpc_events_ne_iff
    (peer : SockaddrIn) (line : Bytes) (w : World σ) :
    (handleRpc E peer line w).events ≠ w.events ↔
      (rpcParse E.platform line).isSome = true := by
  cases hreq : rpcParse E.platform line with
  | none =>
      simp [handleRpc_of_none E peer hreq w]
  | some req =>
      rw [handleRpc_events E peer hreq w]
      simp

/-- A datagram has an effect exactly if its text starts with a request. -/
theorem pollDatagram_events_ne_iff
    (srv : UdpServer) (peer : SockaddrIn) (datagram : Bytes) (w : World σ) :
    (pollDatagram E srv peer datagram w).events ≠ w.events ↔
      messageOf datagram ≠ [] ∧
      ∃ root n, E.platform.tokenerParseEx (receivedText datagram) = some (root, n) ∧
        HasMethod root := by
  unfold pollDatagram receivedText
  rcases udpServerPoll_of_datagram (fun p buf _ w => handleRpc E p buf w) srv peer
      datagram w with ⟨hmsg, hw⟩ | ⟨hmsg, z, hw⟩
  · simp [hw, hmsg]
  · rw [hw, handleRpc_events_ne_iff, rpcParse_append_zero, rpcParse_isSome_iff]
    simp [hmsg]

/-- A datagram that fits and has no NUL is its text and trailing whitespace. -/
theorem datagram_eq_receivedText
    {datagram : Bytes}
    (hzero : (0 : UInt8) ∉ datagram)
    (hlen : datagram.length ≤ droneMaxMsgLen - 1) :
    ∃ u, datagram = receivedText datagram ++ u ∧ ∀ b ∈ u, isWs b = true := by
  have htake : datagram.take (droneMaxMsgLen - 1) = datagram :=
    List.take_of_length_le hlen
  have hmsg : messageOf datagram = datagram.rdropWhile isTrailing := by
    rw [messageOf, htake]
  have hcstr : cstr (messageOf datagram) = messageOf datagram := by
    apply cstr_eq_self
    intro h
    rw [hmsg] at h
    exact hzero ((List.rdropWhile_prefix isTrailing _).subset h)
  refine ⟨datagram.rtakeWhile isTrailing, ?_, ?_⟩
  · rw [receivedText, hcstr, hmsg, List.rdropWhile_append_rtakeWhile]
  · intro b hb
    have htrail := List.mem_rtakeWhile_imp hb
    simp only [isTrailing, decide_eq_true_eq] at htrail
    rcases htrail with rfl | rfl | rfl <;> rfl

/-- A datagram that is cut to a request is executed, but is no request. -/
theorem not_executesOnlyRequests_of_cut
    {E : Env σ} {datagram : Bytes}
    (hcut : CutToRequest E.platform datagram)
    (srv : UdpServer) (peer : SockaddrIn) (w : World σ) :
    ¬ ExecutesOnlyRequests E srv peer datagram w := by
  obtain ⟨hmsg, root, m, n, hparse, hroot, hends, hbad⟩ := hcut
  intro h
  obtain ⟨⟨_, _, n', _, _, hends', hws⟩, hzero, hlen⟩ :=
    h ((pollDatagram_events_ne_iff E srv peer datagram w).mpr
      ⟨hmsg, root, m, hparse, hroot⟩)
  rcases hbad with hlong | hnul | ⟨b, hb, hbws⟩
  · omega
  · exact hzero hnul
  · obtain ⟨u, hu, _⟩ := datagram_eq_receivedText hzero hlen
    have hwhole : ObjectEnds E.platform datagram n := by
      rw [hu]
      exact hends.append u
    obtain rfl := hwhole.unique hends'
    rw [hws b hb] at hbws
    cases hbws

/-- **Which datagrams are executed wrongly.**  Exactly those whose received text
starts with a request although the datagram is longer than the receive buffer,
contains a NUL, or goes on behind that request. -/
theorem executesOnlyRequests_iff
    {E : Env σ}
    (hP : SkipsWhitespace E.platform)
    (srv : UdpServer) (peer : SockaddrIn) (datagram : Bytes) (w : World σ) :
    ExecutesOnlyRequests E srv peer datagram w ↔
      ¬ CutToRequest E.platform datagram := by
  constructor
  · intro h hcut
    exact not_executesOnlyRequests_of_cut hcut srv peer w h
  · intro hcut hne
    obtain ⟨hmsg, root, m, hparse, hroot⟩ :=
      (pollDatagram_events_ne_iff E srv peer datagram w).mp hne
    obtain ⟨n, hends⟩ := exists_objectEnds ⟨root, m, hparse, hroot.1⟩
    have hlen : datagram.length ≤ droneMaxMsgLen - 1 := by
      by_contra h
      exact hcut ⟨hmsg, root, m, n, hparse, hroot, hends, Or.inl (by omega)⟩
    have hzero : (0 : UInt8) ∉ datagram :=
      fun h => hcut ⟨hmsg, root, m, n, hparse, hroot, hends, Or.inr (Or.inl h)⟩
    have hws : ∀ b ∈ datagram.drop n, isWs b = true := by
      intro b hb
      by_contra h
      exact hcut ⟨hmsg, root, m, n, hparse, hroot, hends,
        Or.inr (Or.inr ⟨b, hb, by simpa using h⟩)⟩
    refine ⟨?_, hzero, hlen⟩
    obtain ⟨u, hu, huws⟩ := datagram_eq_receivedText hzero hlen
    obtain ⟨m', hparse'⟩ := hP _ root m u hparse hroot.1 huws
    refine ⟨root, m', n, ?_, hroot, ?_, hws⟩
    · rwa [← hu] at hparse'
    · rw [hu]
      exact hends.append u

end Executed

/-! ## On the reader of the JSON grammar -/

/-- The reader decides an object without looking at what follows. -/
theorem readFirstValue_append
    {s : Bytes} {root : Json} {m : Nat}
    (hread : readFirstValue s = some (root, m))
    (hobj : jsonObjectIsObject root = true)
    (u : Bytes) :
    readFirstValue (s ++ u) = some (root, m) := by
  obtain ⟨⟨v, r⟩, hvalue, hp⟩ := Option.map_eq_some_iff.mp hread
  cases hp
  have hnum : v.isNumber = false := by
    cases v <;> first | rfl | cases hobj
  have happend := readValue_append
    (m := (s ++ u).length + 1) (by simp) hnum hvalue u
  rw [readFirstValue, happend, Option.map_some]
  simp only [List.length_append, Nat.add_sub_add_right]

theorem skipsWhitespace_gnuPlatform :
    SkipsWhitespace gnuPlatform :=
  fun _ _ m u hread hobj _ => ⟨m, readFirstValue_append hread hobj u⟩

/-- A text that is read up to its end is an object and nothing else. -/
theorem objectEnds_gnuPlatform
    {s : Bytes} {root : Json}
    (hread : gnuPlatform.tokenerParseEx s = some (root, s.length))
    (hobj : jsonObjectIsObject root = true) :
    ObjectEnds gnuPlatform s s.length := by
  refine ⟨⟨root, s.length, by rwa [List.take_length], hobj⟩, ?_⟩
  rintro k hk ⟨root', m, hread', hobj'⟩
  -- the count of a shorter text is the count of the whole
  have hwhole := readFirstValue_append hread' hobj' (s.drop k)
  rw [List.take_append_drop] at hwhole
  have hread : readFirstValue s = some (root, s.length) := hread
  obtain rfl : m = s.length := by
    rw [hread] at hwhole
    exact (Prod.mk.inj (Option.some.inj hwhole)).2.symm
  have hread' : readFirstValue (s.take k) = some (root', s.length) := hread'
  obtain ⟨⟨v, r⟩, _, hp⟩ := Option.map_eq_some_iff.mp hread'
  have hcount : (s.take k).length - r.length = s.length := (Prod.mk.inj hp).2
  rw [List.length_take] at hcount
  omega

theorem hasMethod_requestObject
    (i : Int) (k : Method) (params : List Member) :
    HasMethod (requestObject i k params) := by
  obtain ⟨_, hmethod, _⟩ := requestObject_get i k params
  exact ⟨rfl, by rw [hmethod]; rfl⟩

/-- A ping is executed as a whole. -/
theorem executesOnlyRequests_ping :
    ExecutesOnlyRequests stubEnv udpServerCreate localPeer
      (requestLine 1 .systemPing []) stubWorld := by
  refine (executesOnlyRequests_iff (E := stubEnv) skipsWhitespace_gnuPlatform
    udpServerCreate localPeer _ stubWorld).mpr ?_
  have hparse := tokenerParseEx_requestLine_append (i := 1) (by decide) .systemPing
    (List.forall_mem_nil Member.Ok) (List.forall_mem_nil _) delimited_nil
  have htext : receivedText (requestLine 1 .systemPing []) =
      requestLine 1 .systemPing [] := by
    decide +kernel
  rintro ⟨_, root, m, n, _, _, hends, hbad⟩
  rw [List.append_nil] at hparse
  rw [htext] at hends
  obtain rfl := hends.unique (objectEnds_gnuPlatform hparse rfl)
  rcases hbad with hlong | hnul | ⟨b, hb, _⟩
  · revert hlong
    decide +kernel
  · revert hnul
    decide +kernel
  · simp at hb

/-- A datagram with two requests: the first one is executed. -/
theorem two_requests_executed :
    ¬ ExecutesOnlyRequests stubEnv udpServerCreate localPeer
      (requestLine 1 .startRecording [] ++ requestLine 2 .stopRecording [])
      stubWorld := by
  have hdelim : Delimited (requestLine 2 .stopRecording []) := by
    simp [requestLine, objectText, Delimited, isDigit]
  have hread : ∀ {r}, Delimited r → gnuPlatform.tokenerParseEx
      (requestLine 1 .startRecording [] ++ r) = some (requestObject 1 .startRecording [],
        (requestLine 1 .startRecording []).length) :=
    tokenerParseEx_requestLine_append (by decide) .startRecording
      (List.forall_mem_nil Member.Ok) (List.forall_mem_nil _)
  have hparse := hread hdelim
  have hfirst := hread delimited_nil
  rw [List.append_nil] at hfirst
  have htext : receivedText
      (requestLine 1 .startRecording [] ++ requestLine 2 .stopRecording []) =
      requestLine 1 .startRecording [] ++ requestLine 2 .stopRecording [] := by
    decide +kernel
  have hends := (objectEnds_gnuPlatform hfirst rfl).append (requestLine 2 .stopRecording [])
  apply not_executesOnlyRequests_of_cut
  rw [← htext] at hparse hends
  refine ⟨by decide +kernel, requestObject 1 .startRecording [], _,
    (requestLine 1 .startRecording []).length, hparse,
    hasMethod_requestObject 1 .startRecording [], hends, Or.inr (Or.inr ⟨123, ?_, rfl⟩)⟩
  rw [List.drop_left]
  simp [requestLine, objectText]

end PsdkBridge
