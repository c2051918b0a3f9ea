import PsdkBridge.Uptime

/-!
# Runs of polls as runs of requests

Under a run of polls lie the receive buffer, the stripping of line ends, the NULs and the
tokener.  `serve` is what is left of a poll if one looks at requests only.

* `polls_agree`: two runs with the same requests do the same, whatever the receive buffer
  holds; a datagram that is no request might as well not have arrived.
* `clients_served`: every client is sent exactly one reply for each of its requests, in
  the order of the requests and under their identifiers, however the requests of other
  clients, damaged datagrams and empty polls lie between them.
-/

namespace PsdkBridge

section Polls

variable {σ : Type} (P : Platform) (D : DroneCtrl σ)

/-- The request in the datagram of a poll, with its sender. -/
def Poll.request (p : Poll σ) : Option (SockaddrIn × RpcRequest) :=
  match p.rx with
  | none => none
  | some (peer, datagram) =>
      if messageOf datagram = [] then none
      else (rpcParse P (messageOf datagram)).map (fun req => (peer, req))

/-- A poll without the server: the request, if there is one, is executed. -/
def serve (w : World σ) (p : Poll σ) : World σ :=
  let w := { w with ctrl := p.between w.ctrl }
  match p.request P with
  | none => w
  | some (peer, req) => (req.plan P).exec (p.env P D) peer req.id w

/-- A poll executes the request in its datagram. -/
theorem pollStep_eq_serve
    (s : UdpServer × World σ) (p : Poll σ) :
    (pollStep P D s p).2 = serve P D s.2 p := by
  unfold pollStep serve
  cases hrx : p.rx with
  | none =>
      simp only [Poll.request, hrx]
      rfl
  | some r =>
      obtain ⟨peer, datagram⟩ := r
      obtain ⟨srv', z, _, hpoll⟩ := udpServerPoll_some s.1 peer datagram
      rw [hpoll]
      by_cases hmsg : messageOf datagram = []
      · simp [Poll.request, hrx, hmsg]
      · rw [if_neg hmsg, handleRpc, rpcParse_append_zero]
        cases hreq : rpcParse P (messageOf datagram) with
        | none =>
            simp [Poll.request, Poll.env, hrx, hmsg, hreq]
        | some req =>
            simp [Poll.request, Poll.env, hrx, hmsg, hreq, dispatch_eq_exec]

/-- A run of polls executes the requests in its datagrams. -/
theorem pollSteps_eq_serves
    (s : UdpServer × World σ) (ps : List (Poll σ)) :
    (ps.foldl (pollStep P D) s).2 = ps.foldl (serve P D) s.2 := by
  induction ps generalizing s with
  | nil =>
      rfl
  | cons p ps ih =>
      rw [List.foldl_cons, List.foldl_cons, ih, pollStep_eq_serve]

/-- The two polls hold the same request, however it is wrapped, at the same time. -/
structure SameRequest (p q : Poll σ) : Prop where
  between : p.between = q.between
  startClock : p.startClock = q.startClock
  nowClock : p.nowClock = q.nowClock
  request : p.request P = q.request P

theorem serve_congr
    {p q : Poll σ}
    (h : SameRequest P p q)
    (w : World σ) :
    serve P D w p = serve P D w q := by
  simp only [serve, Poll.env, h.between, h.startClock, h.nowClock, h.request]

/-- **Only requests matter.**  Two runs of polls whose requests are the same end in the
same world with the same events, whatever the receive buffers held at first, and whatever
else was in the datagrams: blanks and line ends behind a request, datagrams that are no
request instead of none. -/
theorem polls_agree
    {ps qs : List (Poll σ)}
    (h : List.Forall₂ (SameRequest P) ps qs)
    (srv srv' : UdpServer) (w : World σ) :
    (ps.foldl (pollStep P D) (srv, w)).2 = (qs.foldl (pollStep P D) (srv', w)).2 := by
  rw [pollSteps_eq_serves, pollSteps_eq_serves]
  show ps.foldl (serve P D) w = qs.foldl (serve P D) w
  induction h generalizing w with
  | nil =>
      rfl
  | cons hpq _ ih =>
      rw [List.foldl_cons, List.foldl_cons, serve_congr P D hpq, ih]

/-! ## What a poll changes -/

variable {P D} {w : World σ} {p : Poll σ}

theorem serve_of_none
    (h : p.request P = none) :
    serve P D w p = { w with ctrl := p.between w.ctrl } := by
  simp only [serve, h]

theorem serve_of_some
    {peer : SockaddrIn} {req : RpcRequest}
    (h : p.request P = some (peer, req)) :
    serve P D w p =
      (req.plan P).exec (p.env P D) peer req.id { w with ctrl := p.between w.ctrl } := by
  simp only [serve, h]

/-- The drone control layer is changed by at most one drone call. -/
theorem serve_ctrl :
    (serve P D w p).ctrl = p.between w.ctrl ∨
      ∃ c, (serve P D w p).ctrl = (D c (p.between w.ctrl)).2 := by
  cases hreq : p.request P with
  | none =>
      left
      rw [serve_of_none hreq]
  | some r =>
      obtain ⟨peer, req⟩ := r
      rw [serve_of_some hreq, exec_ctrl]
      cases req.plan P with
      | ping | refuse =>
          exact Or.inl rfl
      | invoke c =>
          exact Or.inr ⟨c, rfl⟩

/-- The events of a poll. -/
theorem serve_events
    {peer : SockaddrIn} {req : RpcRequest}
    (h : p.request P = some (peer, req)) :
    (serve P D w p).events =
      w.events ++ (req.plan P).calls (p.env P D) { w with ctrl := p.between w.ctrl } ++
        [sendEvent peer ((req.plan P).reply (p.env P D) req.id
          { w with ctrl := p.between w.ctrl })] := by
  rw [serve_of_some h, exec_events]

end Polls

/-! ## What a client gets -/

/-- The datagram, if it is sent to the peer. -/
def Event.sentTo (peer : SockaddrIn) : Event → Option Bytes
  | .call _ _ => none
  | .send dest buf _ => if dest = peer then some buf else none

/-- The request of a poll, if it comes from the peer. -/
def Poll.requestOf {σ : Type} (P : Platform) (peer : SockaddrIn) (p : Poll σ) :
    Option RpcRequest :=
  (p.request P).bind (fun r => if r.1 = peer then some r.2 else none)

/-- The datagram is a reply to the request: a result or an error, and not both, under its
identifier. -/
structure Answers (req : RpcRequest) (buf : Bytes) : Prop where
  carries : CarriesId req.id.toInt buf
  kind : ErrorReply req.id buf ↔ ¬ ResultReply req.id buf

section Clients

variable {σ : Type} {P : Platform} {D : DroneCtrl σ}

/-- The calls of a plan are no datagrams. -/
theorem sentTo_calls
    (E : Env σ) (w : World σ) (peer : SockaddrIn) (pl : Plan) :
    (pl.calls E w).filterMap (Event.sentTo peer) = [] := by
  cases pl with
  | ping | refuse =>
      rfl
  | invoke =>
      rfl

theorem answers_reply
    (E : Env σ) (w : World σ) (req : RpcRequest) (pl : Plan) :
    Answers req ((pl.reply E req.id w).take (droneMaxMsgLen - 1)) where
  carries := carriesId_take_reply E pl req.id w
  kind := by rw [errorReply_iff_not_succeeds, resultReply_iff_succeeds]

/-- One poll: a reply to the client exactly if it holds a request of the client. -/
theorem serve_sentTo
    (w : World σ) (p : Poll σ) :
    ∃ evs, (serve P D w p).events = w.events ++ evs ∧
      ∀ peer, List.Forall₂ Answers (p.requestOf P peer).toList
        (evs.filterMap (Event.sentTo peer)) := by
  cases hreq : p.request P with
  | none =>
      refine ⟨[], ?_, fun peer => ?_⟩
      · rw [serve_of_none hreq, List.append_nil]
      · simp only [Poll.requestOf, hreq]
        exact .nil
  | some r =>
      obtain ⟨sender, req⟩ := r
      refine ⟨_, by rw [serve_events hreq, List.append_assoc], fun peer => ?_⟩
      rw [List.filterMap_append, sentTo_calls, List.nil_append]
      by_cases hpeer : sender = peer
      · simp only [Poll.requestOf, hreq, Option.bind_some, if_pos hpeer,
          Option.toList_some, sendEvent, List.filterMap_cons, List.filterMap_nil,
          Event.sentTo]
        exact .cons (answers_reply _ _ _ _) .nil
      · simp only [Poll.requestOf, hreq, Option.bind_some, if_neg hpeer,
          Option.toList_none, sendEvent, List.filterMap_cons, List.filterMap_nil,
          Event.sentTo]
        exact .nil

/-- A run of requests, by adding up the polls. -/
theorem serves_sentTo
    (ps : List (Poll σ)) (w : World σ) :
    ∃ evs, (ps.foldl (serve P D) w).events = w.events ++ evs ∧
      ∀ peer, List.Forall₂ Answers (ps.filterMap (Poll.requestOf P peer))
        (evs.filterMap (Event.sentTo peer)) := by
  induction ps generalizing w with
  | nil =>
      exact ⟨[], (List.append_nil _).symm, fun _ => .nil⟩
  | cons p ps ih =>
      obtain ⟨evs, hfirst, hanswers⟩ := serve_sentTo (P := P) (D := D) w p
      obtain ⟨evs', hrest, hanswers'⟩ := ih (serve P D w p)
      refine ⟨evs ++ evs', ?_, fun peer => ?_⟩
      · rw [List.foldl_cons, hrest, hfirst, List.append_assoc]
      · have hcons : (p :: ps).filterMap (Poll.requestOf P peer) =
            (p.requestOf P peer).toList ++ ps.filterMap (Poll.requestOf P peer) := by
          cases h : p.requestOf P peer <;> simp [h]
        rw [hcons, List.filterMap_append]
        exact List.rel_append (hanswers peer) (hanswers' peer)

/-- **Every client is served.**  In every run of polls, with any mixture of clients,
damaged datagrams and empty polls: the datagrams that are sent to a client are replies to
its requests, one for each, in their order. -/
theorem clients_served
    (P : Platform) (D : DroneCtrl σ) (s : UdpServer × World σ) (ps : List (Poll σ)) :
    ∃ evs, (ps.foldl (pollStep P D) s).2.events = s.2.events ++ evs ∧
      ∀ peer, List.Forall₂ Answers (ps.filterMap (Poll.requestOf P peer))
        (evs.filterMap (Event.sentTo peer)) := by
  rw [pollSteps_eq_serves]
  exact serves_sentTo ps s.2

end Clients

/-! ## A run with noise -/

/-- A poll with a blank datagram. -/
def blankPoll : Poll Stub.StubState where
  between := id
  rx := some (localPeer, [32, 10])
  startClock := ⟨5, 0⟩
  nowClock := ⟨5, 0⟩

/-- A server whose buffer is full of letters. -/
def dirtyServer : UdpServer where
  recvBuf := List.replicate droneMaxMsgLen 120
  recvBuf_length := List.length_replicate

/-- A ping behind a blank datagram, with a line end, and a ping alone. -/
theorem polls_agree_noise :
    (([blankPoll, { pingPoll ⟨5, 0⟩ ⟨6, 0⟩ with
          rx := some (localPeer, requestLine 1 .systemPing [] ++ [13, 10]) }]).foldl
        (pollStep gnuPlatform stubEnv.droneCtrl) (udpServerCreate, stubWorld)).2 =
      (([{ blankPoll with rx := none }, pingPoll ⟨5, 0⟩ ⟨6, 0⟩]).foldl
        (pollStep gnuPlatform stubEnv.droneCtrl) (dirtyServer, stubWorld)).2 := by
  have hline : messageOf (requestLine 1 .systemPing [] ++ [13, 10]) =
      messageOf (requestLine 1 .systemPing []) := by
    decide +kernel
  have hblank : messageOf [32, 10] = [] := by
    decide +kernel
  refine polls_agree gnuPlatform stubEnv.droneCtrl (.cons ?_ (.cons ?_ .nil))
    udpServerCreate dirtyServer stubWorld
  · exact ⟨rfl, rfl, rfl, by simp only [Poll.request, blankPoll, hblank, if_true]⟩
  · exact ⟨rfl, rfl, rfl, by simp only [Poll.request, pingPoll, hline]⟩

end PsdkBridge
