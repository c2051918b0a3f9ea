import PsdkBridge.Replies

/-!
# Replies and the buffer they are sent from

`send_result` and `send_error` render a reply into a buffer of
`DRONE_MAX_MSG_LEN` bytes and send as many bytes as the builder returned.  The
builder returns the length of the whole rendering, also when only a part of it
was stored.

All replies but one are bounded by the buffers their result texts are printed
into.  The reply to an upload repeats the file name twice, and
`sendsWhole_iff` says for which names the bytes sent are the reply.
-/

namespace PsdkBridge

section Upload

variable {σ : Type} (E : Env σ)

/-- The request uploads `name`, and the drone control layer accepts the file. -/
structure UploadAnswered (w : World σ) (req : RpcRequest) (name : Bytes) : Prop where
  method : req.method = ascii "drone.upload_kmz"
  file : rpcParamStr E.platform req.params (ascii "file") = some name
  nonempty : name ≠ []
  noDots : strstr name (ascii "..") = false
  noSlash : strchr name 47 = false
  done : (E.droneCtrl (.uploadKmz (kmzPath name)) w.ctrl).1.1 = .ok

theorem plan_of_uploadAnswered
    {E : Env σ} {w : World σ} {req : RpcRequest} {name : Bytes}
    (h : UploadAnswered E w req name) :
    req.plan E.platform =
      .invoke (.uploadKmz (kmzPath name)) "kmz upload failed"
        (fun _ => some (kmzResult name (kmzPath name))) := by
  have hk : Method.ofText req.method = some .uploadKmz :=
    Method.ofText_eq_some.mpr h.method
  simp only [RpcRequest.plan, hk, Method.plan, h.file, uploadPlan, h.nonempty,
    h.noDots, h.noSlash, Bool.or_self, Bool.false_eq_true, if_false]

theorem reply_of_uploadAnswered
    {E : Env σ} {w : World σ} {req : RpcRequest} {name : Bytes}
    (h : UploadAnswered E w req name) :
    (req.plan E.platform).reply E req.id w =
      resultText req.id (some (kmzResult name (kmzPath name))) := by
  rw [plan_of_uploadAnswered h]
  simp only [Plan.reply, h.done, if_true]

/-- The errors that answer an upload or an unknown method. -/
def uploadErrors : List String :=
  ["method not found", "missing param: file", "invalid file name",
    "kmz upload failed"]

/-- An upload is answered by a success or by one of four errors. -/
theorem upload_cases
    (w : World σ) {req : RpcRequest}
    (hm : req.method = ascii "drone.upload_kmz") :
    (∃ name, UploadAnswered E w req name) ∨
      ∃ msg ∈ uploadErrors,
        (req.plan E.platform).reply E req.id w = errorText req.id (ascii msg) := by
  have hk : Method.ofText req.method = some .uploadKmz :=
    Method.ofText_eq_some.mpr hm
  rw [RpcRequest.plan, hk]
  rcases uploadPlan_cases E.platform req.params with
    ⟨msg, hmsg, h⟩ | ⟨name, hname, hempty, hdots, hslash, h⟩
  · right
    refine ⟨msg, ?_, ?_⟩
    · exact List.mem_of_mem_tail (List.mem_append_left ["kmz upload failed"] hmsg)
    · simp only [h]
      rfl
  · by_cases hdone : (E.droneCtrl (.uploadKmz (kmzPath name)) w.ctrl).1.1 = .ok
    · left
      exact ⟨name, hm, hname, hempty, hdots, hslash, hdone⟩
    · right
      refine ⟨"kmz upload failed", by decide, ?_⟩
      simp only [h, Plan.reply, hdone, if_false]

/-- A request uploads a file, is refused, or has the plan of another method. -/
theorem request_cases
    (w : World σ) (req : RpcRequest) :
    (∃ name, UploadAnswered E w req name) ∨
    (∃ msg ∈ uploadErrors,
      (req.plan E.platform).reply E req.id w = errorText req.id (ascii msg)) ∨
    ∃ k : Method, k ≠ .uploadKmz ∧ req.method = ascii k.name ∧
      req.plan E.platform = k.plan E.platform req.params := by
  cases hk : Method.ofText req.method with
  | none =>
      right
      left
      refine ⟨"method not found", by decide, ?_⟩
      simp only [RpcRequest.plan, hk, Plan.reply]
  | some k =>
      have hm := Method.ofText_eq_some.mp hk
      by_cases hup : k = .uploadKmz
      · subst hup
        rcases upload_cases E w hm with h | h
        · exact Or.inl h
        · exact Or.inr (Or.inl h)
      · right
        right
        refine ⟨k, hup, hm, ?_⟩
        simp only [RpcRequest.plan, hk]

end Upload

/-! ## Lengths -/

theorem resultText_length_some
    (id : Int32) {body : Bytes}
    (h : body ≠ []) :
    (resultText id (some body)).length =
      17 + (decInt id.toInt).length + body.length := by
  cases body with
  | nil =>
      exact absurd rfl h
  | cons b body =>
      simp [resultText, ascii]
      omega

theorem resultText_length_le
    (id : Int32) {body : Option Bytes} {n : Nat}
    (hn : 2 ≤ n)
    (h : ∀ b, body = some b → b.length ≤ n) :
    (resultText id body).length ≤ 28 + n := by
  have hid := decInt_id_length_le id
  rcases body with _ | _ | ⟨b, body⟩
  · simp [resultText, ascii]
    omega
  · simp [resultText, ascii]
    omega
  · rw [resultText_length_some id (by simp)]
    have := h _ rfl
    omega

theorem errorText_length_le
    (id : Int32) {message : Bytes} {n : Nat}
    (h : message.length ≤ n) :
    (errorText id message).length ≤ 29 + n := by
  have hid := decInt_id_length_le id
  simp [errorText, ascii]
  omega

theorem kmzBaseDir_length :
    kmzBaseDir.length = 28 := by
  rfl

/-- The result text of an upload, as long as neither buffer is exceeded. -/
def kmzResultText (name : Bytes) : Bytes :=
  ascii "\x7b\"uploaded\":true,\"file\":\"" ++ name ++
    ascii "\",\"path\":\"" ++ (kmzBaseDir ++ ascii "/" ++ name) ++ ascii "\"\x7d"

theorem kmzResultText_length
    (name : Bytes) :
    (kmzResultText name).length = 66 + 2 * name.length := by
  simp [kmzResultText, kmzBaseDir_length, ascii]
  omega

theorem kmzResult_of_short
    {name : Bytes}
    (h : 66 + 2 * name.length < pathMax + 64) :
    kmzPath name = kmzBaseDir ++ ascii "/" ++ name ∧
      kmzResult name (kmzPath name) = kmzResultText name := by
  have hpath : kmzPath name = kmzBaseDir ++ ascii "/" ++ name := by
    apply snprintf_stored_of_lt
    simp [kmzBaseDir_length, ascii, pathMax] at h ⊢
    omega
  refine ⟨hpath, ?_⟩
  rw [hpath]
  apply snprintf_stored_of_lt
  have hlen := kmzResultText_length name
  rw [kmzResultText] at hlen
  rw [hlen]
  exact h

/-- The result text of a long name fills its buffer. -/
theorem kmzResult_length_of_long
    {name : Bytes}
    (h : ¬ 66 + 2 * name.length < pathMax + 64) :
    (kmzResult name (kmzPath name)).length = pathMax + 63 := by
  simp [kmzResult, kmzPath, snprintf, kmzBaseDir_length, ascii, pathMax] at h ⊢
  omega

/-- The length of the reply to an upload decides whether it fits. -/
theorem upload_reply_fits_iff
    (id : Int32) (name : Bytes) :
    (resultText id (some (kmzResult name (kmzPath name)))).length < droneMaxMsgLen ↔
      83 + (decInt id.toInt).length + 2 * name.length < droneMaxMsgLen := by
  by_cases h : 66 + 2 * name.length < pathMax + 64
  · have hlen := kmzResultText_length name
    have hne : kmzResultText name ≠ [] := by
      intro hnil
      rw [hnil, List.length_nil] at hlen
      omega
    rw [(kmzResult_of_short h).2, resultText_length_some id hne, hlen]
    omega
  · have hlen := kmzResult_length_of_long h
    have hne : kmzResult name (kmzPath name) ≠ [] := by
      intro hnil
      simp [hnil, pathMax] at hlen
    rw [resultText_length_some id hne, hlen]
    simp only [pathMax, droneMaxMsgLen] at h ⊢
    omega

/-! ## Every other reply is short -/

/-- The texts of a plan are short enough for any reply buffer. -/
def Plan.Short : Plan → Prop
  | .ping => True
  | .refuse msg => (ascii msg).length ≤ 100
  | .invoke _ failure body =>
      (ascii failure).length ≤ 100 ∧
        ∀ out b, body out = some b → b.length ≤ 511

section Short

variable {σ : Type}

theorem reply_length_le_of_short
    {pl : Plan}
    (h : pl.Short)
    (E : Env σ) (id : Int32) (w : World σ) :
    (pl.reply E id w).length ≤ 539 := by
  cases pl with
  | ping =>
      simp only [Plan.reply]
      refine resultText_length_le id (n := 511) (by norm_num) ?_
      intro b hb
      cases hb
      exact (snprintf_stored_length_le _ _).trans (by norm_num)
  | refuse msg =>
      exact (errorText_length_le id h).trans (by norm_num)
  | invoke c failure body =>
      obtain ⟨hfailure, hbody⟩ := h
      simp only [Plan.reply]
      split_ifs
      · exact resultText_length_le id (by norm_num) (hbody _)
      · exact (errorText_length_le id hfailure).trans (by norm_num)

theorem short_getPlan
    (c : DroneCall) {failure : String} {bufSz : Nat} (print : c.Out → Bytes)
    (hfailure : (ascii failure).length ≤ 100)
    (hsz : bufSz ≤ 512) :
    (getPlan c failure bufSz print).Short := by
  refine ⟨hfailure, ?_⟩
  intro out b hb
  cases hb
  have := snprintf_stored_length_le bufSz (print out)
  omega

theorem short_commandPlan
    (c : DroneCall) {failure : String}
    (hfailure : (ascii failure).length ≤ 100) :
    (commandPlan c failure).Short := by
  refine ⟨hfailure, ?_⟩
  intro out b hb
  cases hb

theorem short_guard
    {p : Prop} [Decidable p] {msg : String} {pl : Plan}
    (hmsg : (ascii msg).length ≤ 100)
    (hpl : pl.Short) :
    (if p then .refuse msg else pl : Plan).Short := by
  split_ifs
  · exact hmsg
  · exact hpl

/-- All methods but the upload have short texts. -/
theorem short_plan
    (P : Platform) (params : Json) {k : Method}
    (hk : k ≠ .uploadKmz) :
    (k.plan P params).Short := by
  cases k with
  | uploadKmz =>
      exact absurd rfl hk
  | systemPing =>
      trivial
  | getTelemetry | getBatteryInfo | getGimbalAngle | getCameraState
  | getRtkStatus =>
      exact short_getPlan _ _ (by decide) (by norm_num)
  | setRthAltitude | setCameraMode | setCameraZoom | setHomeLocation
  | setObstacleAvoidance =>
      exact short_guard (by decide) (short_commandPlan _ (by decide))
  | setGimbalAngle | shootPhoto | startRecording | stopRecording =>
      exact short_commandPlan _ (by decide)

/-- A reply is short unless it reports an upload. -/
theorem uploadAnswered_or_short
    (E : Env σ) (w : World σ) (req : RpcRequest) :
    (∃ name, UploadAnswered E w req name) ∨
      ((req.plan E.platform).reply E req.id w).length ≤ 539 := by
  rcases request_cases E w req with hup | ⟨msg, hmsg, hreply⟩ | ⟨k, hk, _, hplan⟩
  · left
    exact hup
  · right
    have hlen : ∀ m ∈ uploadErrors, (ascii m).length ≤ 100 := by decide
    rw [hreply]
    exact (errorText_length_le req.id (hlen msg hmsg)).trans (by norm_num)
  · right
    rw [hplan]
    exact reply_length_le_of_short (short_plan E.platform req.params hk) E req.id w

end Short

/-! ## What is sent -/

section Sent

variable {σ : Type} (E : Env σ) (peer : SockaddrIn)

/-- Whatever a line makes the daemon send is the complete reply, with its own
length, and fits the buffer together with its NUL. -/
def SendsWhole (line : Bytes) (w : World σ) : Prop :=
  ∀ req, rpcParse E.platform line = some req →
    ∀ p buf len, .send p buf len ∈ newEvents E peer line w →
      len = buf.length ∧ len < droneMaxMsgLen ∧
        buf = (req.plan E.platform).reply E req.id w

/-- An upload is answered whose reply does not fit the buffer. -/
def OversizeUpload (line : Bytes) (w : World σ) : Prop :=
  ∃ req name, rpcParse E.platform line = some req ∧
    UploadAnswered E w req name ∧
    droneMaxMsgLen ≤ 83 + (decInt req.id.toInt).length + 2 * name.length

theorem send_mem_newEvents
    {line : Bytes} {req : RpcRequest}
    (hreq : rpcParse E.platform line = some req)
    (w : World σ) (p : SockaddrIn) (buf : Bytes) (len : Nat) :
    .send p buf len ∈ newEvents E peer line w ↔
      .send p buf len = sendEvent peer ((req.plan E.platform).reply E req.id w) := by
  rw [newEvents_of_some E peer hreq w]
  cases req.plan E.platform <;> simp [Plan.calls]

/-- What is sent is whole exactly if the reply fits. -/
theorem sendsWhole_iff_fits
    {line : Bytes} {req : RpcRequest}
    (hreq : rpcParse E.platform line = some req)
    (w : World σ) :
    SendsWhole E peer line w ↔
      ((req.plan E.platform).reply E req.id w).length < droneMaxMsgLen := by
  constructor
  · intro h
    obtain ⟨_, hlt, _⟩ := h req hreq _ _ _
      ((send_mem_newEvents E peer hreq w _ _ _).mpr rfl)
    exact hlt
  · intro hlt req' hreq' p buf len hsend
    rw [hreq] at hreq'
    cases hreq'
    have htake : ((req.plan E.platform).reply E req.id w).take (droneMaxMsgLen - 1) =
        (req.plan E.platform).reply E req.id w :=
      List.take_of_length_le (by omega)
    have hev := (send_mem_newEvents E peer hreq w p buf len).mp hsend
    rw [sendEvent, htake] at hev
    cases hev
    exact ⟨rfl, hlt, rfl⟩

theorem not_sendsWhole_of_oversizeUpload
    {line : Bytes} {w : World σ}
    (h : OversizeUpload E line w) :
    ¬ SendsWhole E peer line w := by
  obtain ⟨req, name, hreq, hup, hlen⟩ := h
  rw [sendsWhole_iff_fits E peer hreq w, reply_of_uploadAnswered hup,
    upload_reply_fits_iff]
  omega

/-- **When the bytes sent are the reply.**  For every line, exactly unless it
uploads a file whose name, written twice, makes the reply longer than the
buffer. -/
theorem sendsWhole_iff
    (line : Bytes) (w : World σ) :
    SendsWhole E peer line w ↔ ¬ OversizeUpload E line w := by
  constructor
  · intro h hover
    exact not_sendsWhole_of_oversizeUpload E peer hover h
  · intro hover req hreq
    refine (sendsWhole_iff_fits E peer hreq w).mpr ?_ req hreq
    rcases uploadAnswered_or_short E w req with ⟨name, hup⟩ | hshort
    · rw [reply_of_uploadAnswered hup, upload_reply_fits_iff]
      by_contra hlen
      exact hover ⟨req, name, hreq, hup, by omega⟩
    · exact hshort.trans_lt (by norm_num [droneMaxMsgLen])

end Sent

/-- The parameters of an upload: `text` writes the file name `name`. -/
def fileParam (text name : Bytes) : List Member :=
  [{ key := ascii "file", text := text, val := .str name }]

/-- The name reaches the handler as it is. -/
theorem rpcParamStr_fileParam
    (text : Bytes) {name : Bytes}
    (hname : (0 : UInt8) ∉ name) :
    rpcParamStr gnuPlatform
        (.obj ((fileParam text name).map (fun m => (m.key, m.val)))) (ascii "file") =
      some name := by
  simp [rpcParamStr, fileParam, jsonObjectObjectGetEx, jsonObjectGetString,
    cstr_eq_self hname]

/-- The stub accepts every upload. -/
theorem stub_uploadKmz_ok
    (name : Bytes) :
    (stubEnv.droneCtrl (.uploadKmz (kmzPath name)) stubWorld.ctrl).1.1 = .ok := by
  have hpath : cstr (kmzPath name) ≠ [] := by
    simp [kmzPath, kmzBaseDir, snprintf, pathMax, ascii, cstr]
  simp [stubEnv, Stub.stubCtrl, Stub.droneUploadKmz, hpath]

/-- The stub answers an upload of a file without dots and slashes in its name. -/
theorem uploadAnswered_stub
    {text name : Bytes}
    (hreads : Reads text (.str name))
    (htext : (0 : UInt8) ∉ text)
    (hname : (0 : UInt8) ∉ name)
    (hne : name ≠ [])
    (hdot : (46 : UInt8) ∉ name)
    (hslash : (47 : UInt8) ∉ name) :
    ∃ req, rpcParse gnuPlatform (requestLine 1 .uploadKmz (fileParam text name)) =
        some req ∧
      req.id = 1 ∧
      req.params = .obj ((fileParam text name).map (fun m => (m.key, m.val))) ∧
      UploadAnswered stubEnv stubWorld req name := by
  have hkey : Plain (ascii "file") := by decide
  have hok : ∀ m ∈ fileParam text name, m.Ok := by
    simp only [fileParam, List.mem_singleton, forall_eq]
    exact ⟨hkey, hreads⟩
  have hzero : ∀ m ∈ fileParam text name, (0 : UInt8) ∉ m.render := by
    simp [fileParam, Member.render, ascii, htext]
  have hstored : ∀ m ∈ fileParam text name, m.val.Storable := by
    simp only [fileParam, List.mem_singleton, forall_eq]
    exact storable_str name
  have hdots : strstr name (ascii "..") = false := by
    simp only [strstr, decide_eq_false_iff_not]
    intro h
    exact hdot (h.subset (by decide))
  refine ⟨_, rpcParse_requestLine (by decide) .uploadKmz hok hstored hzero, rfl, rfl, ?_⟩
  exact ⟨rfl, rpcParamStr_fileParam text hname, hne, hdots,
    by simpa [strchr] using hslash, stub_uploadKmz_ok name⟩

/-- A name of `n` letters. -/
def longName (n : Nat) : Bytes :=
  List.replicate n 97

/-- The request that uploads a file with a name of `n` letters. -/
def longUpload (n : Nat) : Bytes :=
  requestLine 1 .uploadKmz (fileParam (34 :: longName n ++ [34]) (longName n))

theorem not_sendsWhole_longUpload
    {n : Nat}
    (h : 2006 ≤ n) :
    ¬ SendsWhole stubEnv localPeer (longUpload n) stubWorld := by
  have hlen : (longName n).length = n := List.length_replicate
  have hne : longName n ≠ [] := by
    intro hnil
    rw [hnil, List.length_nil] at hlen
    omega
  have hmem : ∀ b ∈ longName n, b = 97 := fun b hb => List.eq_of_mem_replicate hb
  have hplain : Plain (longName n) := by
    intro b hb
    rw [hmem b hb]
    rfl
  have hnot : ∀ b : UInt8, b ≠ 97 → b ∉ longName n := fun b hb hm => hb (hmem b hm)
  have hzero := hnot 0 (by decide)
  obtain ⟨req, hreq, hid, _, hup⟩ := uploadAnswered_stub (reads_str hplain)
    (by simp [hzero]) hzero hne (hnot 46 (by decide)) (hnot 47 (by decide))
  apply not_sendsWhole_of_oversizeUpload
  refine ⟨req, longName n, hreq, hup, ?_⟩
  have hone : (decInt (1 : Int32).toInt).length = 1 := by decide
  rw [hid, hlen, hone]
  simp only [droneMaxMsgLen]
  omega

/-- A name of 2007 letters makes the daemon send bytes from behind its reply
buffer. -/
theorem upload_of_long_name_overruns :
    ¬ SendsWhole stubEnv localPeer (longUpload 2007) stubWorld :=
  not_sendsWhole_longUpload (by norm_num)

end PsdkBridge
