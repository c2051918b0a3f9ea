import PsdkBridge.Requests

/-!
# One reply for every request

The envelope of a reply is its start: the identifier of the request and the
kind of the response.  Whatever is cut off at the end of the reply buffer, the
envelope is there, so the kind and the identifier of a reply can be read off
the buffer that is sent.

* `handleRpc_one_reply`: a request makes at most one drone call and is answered
  by exactly one attempt to send, and the answer is a result exactly when the
  call succeeded or the request was a ping.
* `reply_id_iff`: the reply carries the identifier of the request exactly when
  that identifier is a 32-bit number.
-/

namespace PsdkBridge

/-- The start of a success response. -/
def resultHead (id : Int) : Bytes :=
  ascii "\x7b\"id\":" ++ decInt id ++ ascii ",\"result\":"

/-- The start of an error response. -/
def errorHead (id : Int) : Bytes :=
  ascii "\x7b\"id\":" ++ decInt id ++ ascii ",\"error\":\""

/-- The buffer holds a success response to the request `id`. -/
def ResultReply (id : Int32) (buf : Bytes) : Prop :=
  resultHead id.toInt <+: buf

/-- The buffer holds an error response to the request `id`. -/
def ErrorReply (id : Int32) (buf : Bytes) : Prop :=
  errorHead id.toInt <+: buf

/-- The buffer holds a response whose identifier is `i`. -/
def CarriesId (i : Int) (buf : Bytes) : Prop :=
  ascii "\x7b\"id\":" ++ decInt i ++ ascii "," <+: buf

/-- The parameter checks of the handlers: the branches that answer
`missing param`, `invalid file name` or `missing or invalid param`. -/
def Method.badParams (P : Platform) (params : Json) : Method → Bool
  | .uploadKmz =>
      match rpcParamStr P params (ascii "file") with
      | none => true
      | some name =>
          decide (name = []) || strstr name (ascii "..") || strchr name 47
  | .setRthAltitude =>
      (binary32.convert
        (rpcParamDouble P params (ascii "altitude_m") (.fin (-1)))).lt (.fin 0)
  | .setCameraMode => decide (rpcParamInt P params (ascii "mode") (-1) < 0)
  | .setCameraZoom =>
      (binary32.convert
        (rpcParamDouble P params (ascii "zoom_factor") (.fin (-1)))).lt (.fin 1)
  | .setHomeLocation =>
      let lat := rpcParamDouble P params (ascii "lat") (.fin 999)
      let lon := rpcParamDouble P params (ascii "lon") (.fin 999)
      lat.gt (.fin 90) || lat.lt (.fin (-90)) ||
        lon.gt (.fin 180) || lon.lt (.fin (-180))
  | .setObstacleAvoidance => decide (rpcParamInt P params (ascii "mode") (-1) < 0)
  | _ => false

/-! ## The envelope survives in the buffer -/

theorem natAbs_toInt_lt
    (id : Int32) :
    id.toInt.natAbs < 10 ^ 10 := by
  have h₁ := id.toInt_lt
  have h₂ := id.le_toInt
  omega

theorem decInt_id_length_le
    (id : Int32) :
    (decInt id.toInt).length ≤ 11 :=
  decInt_length_le (by norm_num) (natAbs_toInt_lt id)

theorem prefix_take
    {p t : Bytes} {n : Nat}
    (h : p <+: t)
    (hn : p.length ≤ n) :
    p <+: t.take n :=
  List.prefix_take_iff.mpr ⟨h, hn⟩

theorem resultHead_length_le
    (id : Int32) :
    (resultHead id.toInt).length ≤ droneMaxMsgLen - 1 := by
  have := decInt_id_length_le id
  simp [resultHead, ascii, droneMaxMsgLen]
  omega

theorem errorHead_length_le
    (id : Int32) :
    (errorHead id.toInt).length ≤ droneMaxMsgLen - 1 := by
  have := decInt_id_length_le id
  simp [errorHead, ascii, droneMaxMsgLen]
  omega

theorem resultHead_starts
    (id : Int32) (body : Option Bytes) :
    resultHead id.toInt <+: resultText id body := by
  simp only [resultText, resultHead, List.append_assoc]
  exact ⟨_, by simp only [List.append_assoc]; rfl⟩

theorem errorHead_starts
    (id : Int32) (message : Bytes) :
    errorHead id.toInt <+: errorText id message := by
  simp only [errorText, errorHead, List.append_assoc]
  exact ⟨_, by simp only [List.append_assoc]; rfl⟩

theorem resultReply_take
    (id : Int32) (body : Option Bytes) :
    ResultReply id ((resultText id body).take (droneMaxMsgLen - 1)) :=
  prefix_take (resultHead_starts id body) (resultHead_length_le id)

theorem errorReply_take
    (id : Int32) (message : Bytes) :
    ErrorReply id ((errorText id message).take (droneMaxMsgLen - 1)) :=
  prefix_take (errorHead_starts id message) (errorHead_length_le id)

/-- A response is not of both kinds. -/
theorem not_resultReply_of_errorReply
    {id : Int32} {buf : Bytes}
    (h : ErrorReply id buf) :
    ¬ ResultReply id buf := by
  intro h'
  obtain ⟨t, rfl⟩ := h
  obtain ⟨t', ht'⟩ := h'
  simp [resultHead, errorHead, ascii] at ht'

/-! ## Plans and the kind of their replies -/

section Kinds

variable {σ : Type} (E : Env σ)

/-- The plan ends in a success response. -/
def Plan.Succeeds (w : World σ) : Plan → Prop
  | .ping => True
  | .refuse _ => False
  | .invoke c _ _ => (E.droneCtrl c w.ctrl).1.1 = .ok

theorem resultReply_of_succeeds
    {pl : Plan} {w : World σ}
    (h : pl.Succeeds E w)
    (id : Int32) :
    ResultReply id ((pl.reply E id w).take (droneMaxMsgLen - 1)) := by
  cases pl with
  | ping =>
      exact resultReply_take id (some (Plan.pingBody E w))
  | refuse msg =>
      exact h.elim
  | invoke c failure body =>
      simp only [Plan.Succeeds] at h
      simp only [Plan.reply, h, if_true]
      exact resultReply_take id _

theorem errorReply_of_not_succeeds
    {pl : Plan} {w : World σ}
    (h : ¬ pl.Succeeds E w)
    (id : Int32) :
    ErrorReply id ((pl.reply E id w).take (droneMaxMsgLen - 1)) := by
  cases pl with
  | ping =>
      exact absurd trivial h
  | refuse msg =>
      exact errorReply_take id _
  | invoke c failure body =>
      simp only [Plan.Succeeds] at h
      simp only [Plan.reply, h, if_false]
      exact errorReply_take id _

/-- The reply of a plan is a success response exactly if the plan succeeds. -/
theorem resultReply_iff_succeeds
    (pl : Plan) (w : World σ) (id : Int32) :
    ResultReply id ((pl.reply E id w).take (droneMaxMsgLen - 1)) ↔
      pl.Succeeds E w := by
  constructor
  · intro h
    by_contra hs
    exact not_resultReply_of_errorReply (errorReply_of_not_succeeds E hs id) h
  · intro h
    exact resultReply_of_succeeds E h id

theorem errorReply_iff_not_succeeds
    (pl : Plan) (w : World σ) (id : Int32) :
    ErrorReply id ((pl.reply E id w).take (droneMaxMsgLen - 1)) ↔
      ¬ pl.Succeeds E w := by
  constructor
  · intro h hs
    exact not_resultReply_of_errorReply h (resultReply_of_succeeds E hs id)
  · intro h
    exact errorReply_of_not_succeeds E h id

end Kinds

/-- A parameter check that fails makes the plan refuse. -/
theorem plan_refuses_of_badParams
    {P : Platform} {params : Json} {k : Method}
    (h : k.badParams P params = true) :
    ∃ msg, k.plan P params = .refuse msg := by
  cases k with
  | uploadKmz =>
      simp only [Method.badParams, Method.plan] at h ⊢
      cases hn : rpcParamStr P params (ascii "file") with
      | none =>
          exact ⟨_, rfl⟩
      | some name =>
          simp only [hn] at h
          simp only [uploadPlan]
          split_ifs with h₁ h₂
          · exact ⟨_, rfl⟩
          · exact ⟨_, rfl⟩
          · simp_all
  | setRthAltitude | setCameraMode | setCameraZoom | setHomeLocation
  | setObstacleAvoidance =>
      simp only [Method.badParams, decide_eq_true_eq] at h
      simp only [Method.plan, h, if_true]
      exact ⟨_, rfl⟩
  | _ =>
      simp [Method.badParams] at h

/-- Only `system.ping` is answered without a call and without a refusal. -/
theorem plan_eq_ping_iff
    (P : Platform) (req : RpcRequest) :
    req.plan P = .ping ↔ req.method = ascii "system.ping" := by
  constructor
  · intro h
    cases hk : Method.ofText req.method with
    | none =>
        rw [RpcRequest.plan, hk] at h
        cases h
    | some k =>
        have hm := Method.ofText_eq_some.mp hk
        rw [plan_of_name hm] at h
        rcases plan_cases P req.params k with ⟨rfl, _⟩ | ⟨_, hrefuse⟩ | ⟨_, _, _, _, hinvoke⟩
        · exact hm
        · rw [hrefuse] at h
          cases h
        · rw [hinvoke] at h
          cases h
  · intro h
    rw [plan_of_name (k := .systemPing) h]
    rfl

section Envelope

variable {σ : Type} (E : Env σ) (peer : SockaddrIn)

/-- A request is answered with a result exactly if its plan succeeds. -/
theorem acknowledged_iff
    {line : Bytes} {req : RpcRequest}
    (hreq : rpcParse E.platform line = some req)
    (w : World σ) :
    (∃ buf len, .send peer buf len ∈ newEvents E peer line w ∧ ResultReply req.id buf) ↔
      (req.plan E.platform).Succeeds E w := by
  have hsend : ∀ buf len, .send peer buf len ∈ newEvents E peer line w ↔
      .send peer buf len = sendEvent peer ((req.plan E.platform).reply E req.id w) := by
    intro buf len
    rw [newEvents_of_some E peer hreq w]
    cases req.plan E.platform with
    | ping | refuse | invoke =>
        simp [Plan.calls]
  simp only [hsend, sendEvent, Event.send.injEq, true_and]
  constructor
  · rintro ⟨buf, len, ⟨rfl, _⟩, hres⟩
    exact (resultReply_iff_succeeds E _ w req.id).mp hres
  · intro h
    exact ⟨_, _, ⟨rfl, rfl⟩, (resultReply_iff_succeeds E _ w req.id).mpr h⟩

/-- **One request, one reply.**  A line that is no request has no effect.  A
request makes at most one drone call, none if it is a ping, names no method or
fails a parameter check; it is answered by one attempt to send to its peer,
under its identifier, and the answer is a result exactly if the request is a
ping or the call was made and succeeded. -/
theorem handleRpc_one_reply
    (line : Bytes) (w : World σ) :
    (rpcParse E.platform line = none → handleRpc E peer line w = w) ∧
    (∀ req, rpcParse E.platform line = some req →
      ∃ (calls : List Event) (buf : Bytes) (len : Nat),
        (handleRpc E peer line w).events =
          w.events ++ calls ++ [.send peer buf len] ∧
        (calls = [] ∨ ∃ c, calls = [.call c (E.droneCtrl c w.ctrl).1.1]) ∧
        (req.method = ascii "system.ping" → calls = []) ∧
        ((∀ k : Method, req.method ≠ ascii k.name) → calls = []) ∧
        (∀ k : Method, req.method = ascii k.name →
          k.badParams E.platform req.params = true → calls = []) ∧
        (ErrorReply req.id buf ↔ ¬ ResultReply req.id buf) ∧
        (ResultReply req.id buf ↔
          req.method = ascii "system.ping" ∨ ∃ c, calls = [.call c .ok])) := by
  refine ⟨fun h => handleRpc_of_none E peer h w, ?_⟩
  intro req hreq
  have hev := handleRpc_events E peer hreq w
  refine ⟨(req.plan E.platform).calls E w, _, _, hev, ?_, ?_, ?_, ?_, ?_, ?_⟩
  · cases req.plan E.platform with
    | ping =>
        exact Or.inl rfl
    | refuse msg =>
        exact Or.inl rfl
    | invoke c failure body =>
        exact Or.inr ⟨c, rfl⟩
  · intro h
    rw [(plan_eq_ping_iff E.platform req).mpr h]
    rfl
  · intro h
    simp only [RpcRequest.plan, Method.ofText_eq_none.mpr h]
    rfl
  · intro k hk hbad
    obtain ⟨msg, hmsg⟩ := plan_refuses_of_badParams hbad
    simp only [RpcRequest.plan, Method.ofText_eq_some.mpr hk, hmsg]
    rfl
  · rw [errorReply_iff_not_succeeds, resultReply_iff_succeeds]
  · rw [resultReply_iff_succeeds, ← plan_eq_ping_iff E.platform req]
    cases req.plan E.platform with
    | ping =>
        simp [Plan.Succeeds]
    | refuse msg =>
        simp [Plan.Succeeds, Plan.calls]
    | invoke c failure body =>
        simp [Plan.Succeeds, Plan.calls]

end Envelope

/-! ## The identifier of a reply -/

section Identifier

variable {σ τ : Type}

/-- The line is a request whose member `id` is the integer `i`. -/
def RequestWithId (P : Platform) (line : Bytes) (i : Int) : Prop :=
  ∃ root n, P.tokenerParseEx (cstr line) = some (root, n) ∧
    jsonObjectIsObject root = true ∧
    jsonObjectObjectGetEx root (ascii "id") = some (.int i) ∧
    (jsonObjectObjectGetEx root (ascii "method")).isSome = true

/-- The buffer that is sent in answer to a line. -/
def ReplyTo (E : Env σ) (peer : SockaddrIn) (line : Bytes) (w : World σ)
    (buf : Bytes) : Prop :=
  ∃ pre len, (handleRpc E peer line w).events =
    w.events ++ pre ++ [.send peer buf len]

/-- The range of the field `id`. -/
def InInt32 (i : Int) : Prop :=
  -2 ^ 31 ≤ i ∧ i ≤ 2 ^ 31 - 1

instance (i : Int) : Decidable (InInt32 i) :=
  inferInstanceAs (Decidable (_ ∧ _))

/-- A buffer carries at most one identifier. -/
theorem carriesId_unique
    {i j : Int} {buf : Bytes}
    (hi : CarriesId i buf)
    (hj : CarriesId j buf) :
    i = j := by
  obtain ⟨t, rfl⟩ := hi
  obtain ⟨t', ht'⟩ := hj
  have hcomma : ascii "," = [44] := rfl
  simp only [List.append_assoc, hcomma, List.singleton_append] at ht'
  have hnum := List.append_cancel_left ht'
  have hcut : ∀ (k : Int) (r : Bytes),
      (decInt k ++ 44 :: r).takeWhile (fun b => b ≠ 44) = decInt k := by
    intro k r
    rw [List.takeWhile_append_of_pos]
    · simp
    · intro b hb
      have hne : b ≠ 44 := fun h => notMem_decInt rfl (by decide) k (h ▸ hb)
      simpa using hne
  apply decInt_injective
  rw [← hcut i t, ← hnum, hcut j t']

/-- The reply to a request carries the stored identifier. -/
theorem carriesId_take_reply
    (E : Env σ) (pl : Plan) (id : Int32) (w : World σ) :
    CarriesId id.toInt ((pl.reply E id w).take (droneMaxMsgLen - 1)) := by
  by_cases hs : pl.Succeeds E w
  · refine List.IsPrefix.trans ?_ (resultReply_of_succeeds E hs id)
    exact ⟨ascii "\"result\":", by simp [resultHead, ascii]⟩
  · refine List.IsPrefix.trans ?_ (errorReply_of_not_succeeds E hs id)
    exact ⟨ascii "\"error\":\"", by simp [errorHead, ascii]⟩

theorem rpcParse_of_requestWithId
    {P : Platform} {line : Bytes} {i : Int}
    (h : RequestWithId P line i) :
    ∃ req, rpcParse P line = some req ∧ req.id = Int32.ofIntClamp i := by
  obtain ⟨root, n, hparse, hobj, hid, hmethod⟩ := h
  obtain ⟨jmethod, hm⟩ := Option.isSome_iff_exists.mp hmethod
  refine ⟨_, by simp only [rpcParse, hparse, hobj, if_true, hm]; rfl, ?_⟩
  simp only [hid, jsonObjectGetInt]

/-- A request is answered, and only under its identifier clamped to 32 bits. -/
theorem replyTo_request
    {E : Env σ} {line : Bytes} {i : Int}
    (h : RequestWithId E.platform line i)
    (peer : SockaddrIn) (w : World σ) :
    ∃ buf, (∀ b, ReplyTo E peer line w b ↔ b = buf) ∧
      CarriesId (Int32.ofIntClamp i).toInt buf := by
  obtain ⟨req, hreq, hid⟩ := rpcParse_of_requestWithId h
  have hev := handleRpc_events E peer hreq w
  refine ⟨((req.plan E.platform).reply E req.id w).take (droneMaxMsgLen - 1),
    ?_, ?_⟩
  · intro b
    constructor
    · rintro ⟨pre, len, hpre⟩
      rw [hev] at hpre
      have hlast := List.append_inj_right' hpre rfl
      simp only [sendEvent, List.cons.injEq, Event.send.injEq, and_true,
        true_and] at hlast
      exact hlast.1.symm
    · rintro rfl
      exact ⟨_, _, hev⟩
  · rw [← hid]
    exact carriesId_take_reply E (req.plan E.platform) req.id w

theorem toInt_ofIntClamp_cases
    (i : Int) :
    (InInt32 i ∧ (Int32.ofIntClamp i).toInt = i) ∨
    (2 ^ 31 - 1 < i ∧ (Int32.ofIntClamp i).toInt = 2 ^ 31 - 1) ∨
    (i < -2 ^ 31 ∧ (Int32.ofIntClamp i).toInt = -2 ^ 31) := by
  have hmin : Int32.minValue.toInt = -2 ^ 31 := by decide
  have hmax : Int32.maxValue.toInt = 2 ^ 31 - 1 := by decide
  by_cases hl : -2 ^ 31 ≤ i
  · by_cases hr : i ≤ 2 ^ 31 - 1
    · left
      exact ⟨⟨hl, hr⟩, Int32.toInt_ofIntClamp (hmin ▸ hl) (hmax ▸ hr)⟩
    · right
      left
      refine ⟨by omega, ?_⟩
      unfold Int32.ofIntClamp
      rw [dif_pos (hmin ▸ hl), dif_neg (hmax ▸ hr), hmax]
  · right
    right
    refine ⟨by omega, ?_⟩
    unfold Int32.ofIntClamp
    rw [dif_neg (hmin ▸ hl), hmin]

/-- **When a reply carries the identifier of its request.**  Exactly for the
identifiers in the range of the field `id`; two different identifiers share the
identifier of their replies exactly if both lie beyond the same end of that
range, or at it. -/
theorem reply_id_iff
    {E : Env σ} {F : Env τ} {line line' : Bytes} {i j : Int}
    (h : RequestWithId E.platform line i)
    (h' : RequestWithId F.platform line' j)
    (peer peer' : SockaddrIn) (w : World σ) (w' : World τ) :
    ((∃ buf, ReplyTo E peer line w buf ∧ CarriesId i buf) ↔ InInt32 i) ∧
    (i ≠ j →
      ((∃ buf buf' k, ReplyTo E peer line w buf ∧ ReplyTo F peer' line' w' buf' ∧
          CarriesId k buf ∧ CarriesId k buf') ↔
        (2 ^ 31 - 1 ≤ i ∧ 2 ^ 31 - 1 ≤ j) ∨ (i ≤ -2 ^ 31 ∧ j ≤ -2 ^ 31))) := by
  obtain ⟨b, hb, hid⟩ := replyTo_request h peer w
  obtain ⟨b', hb', hid'⟩ := replyTo_request h' peer' w'
  have hi := toInt_ofIntClamp_cases i
  have hj := toInt_ofIntClamp_cases j
  constructor
  · constructor
    · rintro ⟨buf, hbuf, hcarry⟩
      rw [(hb buf).mp hbuf] at hcarry
      have := carriesId_unique hcarry hid
      simp only [InInt32] at hi ⊢
      omega
    · intro hrange
      refine ⟨b, (hb b).mpr rfl, ?_⟩
      have hclamp : (Int32.ofIntClamp i).toInt = i := by
        simp only [InInt32] at hi hrange
        omega
      rwa [hclamp] at hid
  · intro hne
    have hiff : (∃ buf buf' k, ReplyTo E peer line w buf ∧
          ReplyTo F peer' line' w' buf' ∧ CarriesId k buf ∧ CarriesId k buf') ↔
        (Int32.ofIntClamp i).toInt = (Int32.ofIntClamp j).toInt := by
      constructor
      · rintro ⟨buf, buf', k, hbuf, hbuf', hk, hk'⟩
        rw [(hb buf).mp hbuf] at hk
        rw [(hb' buf').mp hbuf'] at hk'
        rw [carriesId_unique hid hk, carriesId_unique hid' hk']
      · intro heq
        exact ⟨b, b', _, (hb b).mpr rfl, (hb' b').mpr rfl, hid, heq ▸ hid'⟩
    rw [hiff]
    simp only [InInt32] at hi hj
    omega

end Identifier

/-- A request as clients write it carries its identifier. -/
theorem requestWithId_ping
    {i : Int}
    (hi : -2 ^ 63 ≤ i ∧ i < 2 ^ 64) :
    RequestWithId gnuPlatform (requestLine i .systemPing []) i := by
  obtain ⟨hid, hmethod, _⟩ := requestObject_get i .systemPing []
  refine ⟨_, _, tokenerParseEx_requestLine hi .systemPing (by simp) (by simp) (by simp),
    rfl, hid, ?_⟩
  rw [hmethod]
  rfl

/-- Two pings with small identifiers get their own replies. -/
theorem reply_id_of_pings :
    (∃ buf, ReplyTo stubEnv localPeer (requestLine 1 .systemPing []) stubWorld buf ∧
      CarriesId 1 buf) ∧
    ¬ ∃ buf buf' k,
      ReplyTo stubEnv localPeer (requestLine 1 .systemPing []) stubWorld buf ∧
      ReplyTo stubEnv localPeer (requestLine 2 .systemPing []) stubWorld buf' ∧
      CarriesId k buf ∧ CarriesId k buf' := by
  have h := reply_id_iff (E := stubEnv) (F := stubEnv) (requestWithId_ping (i := 1) (by decide))
    (requestWithId_ping (i := 2) (by decide)) localPeer localPeer stubWorld stubWorld
  refine ⟨h.1.mpr (by decide), ?_⟩
  rw [h.2 (by decide)]
  omega

/-- A millisecond timestamp is not echoed, and it shares the identifier of its
reply with the next one. -/
theorem reply_id_saturates :
    RequestWithId gnuPlatform (requestLine 1700000000000 .systemPing [])
      1700000000000 ∧
    RequestWithId gnuPlatform (requestLine 1700000000001 .systemPing [])
      1700000000001 ∧
    (¬ ∃ buf,
      ReplyTo stubEnv localPeer (requestLine 1700000000000 .systemPing [])
        stubWorld buf ∧
      CarriesId 1700000000000 buf) ∧
    ∃ buf buf' k,
      ReplyTo stubEnv localPeer (requestLine 1700000000000 .systemPing [])
        stubWorld buf ∧
      ReplyTo stubEnv localPeer (requestLine 1700000000001 .systemPing [])
        stubWorld buf' ∧
      CarriesId k buf ∧ CarriesId k buf' := by
  have h := requestWithId_ping (i := 1700000000000) (by decide)
  have h' := requestWithId_ping (i := 1700000000001) (by decide)
  obtain ⟨b, hb, hid⟩ := replyTo_request (E := stubEnv) h localPeer stubWorld
  obtain ⟨b', hb', hid'⟩ := replyTo_request (E := stubEnv) h' localPeer stubWorld
  have hclamp : (Int32.ofIntClamp 1700000000000).toInt = 2 ^ 31 - 1 := by decide
  have hclamp' : (Int32.ofIntClamp 1700000000001).toInt = 2 ^ 31 - 1 := by decide
  rw [hclamp] at hid
  rw [hclamp'] at hid'
  refine ⟨h, h', ?_, b, b', _, (hb b).mpr rfl, (hb' b').mpr rfl, hid, hid'⟩
  rintro ⟨buf, hbuf, hcarry⟩
  rw [(hb buf).mp hbuf] at hcarry
  have := carriesId_unique hcarry hid
  omega

end PsdkBridge
