import PsdkBridge.Requests

/-!
# Where a NULL pointer can be taken for a string

`json_object_get_string` returns NULL for the value `null`, and a member that is
`null` is found like any other.  The namespace `Strict` repeats the functions that
hold a pointer which may be NULL: here a NULL pointer has no text, and the function
that uses it as a string fails.

`Strict.handleRpc_eq` shows that nothing else changes, and `noNullUse_iff` says for
exactly which lines the failure occurs.
-/

namespace PsdkBridge

namespace Strict

/-- A NULL pointer is used as a string. -/
inductive Fault where
  | nullUse
deriving DecidableEq

/-- The string behind a pointer. -/
def deref : Option Bytes → Except Fault Bytes
  | none => .error .nullUse
  | some s => .ok s

/-- `rpc_parse`; the result `none` is the return value `-1`. -/
def rpcParse (P : Platform) (line : Bytes) : Except Fault (Option RpcRequest) :=
  match P.tokenerParseEx (cstr line) with
  | none => return none
  | some (root, _) =>
      if jsonObjectIsObject root then
        let id :=
          match jsonObjectObjectGetEx root (ascii "id") with
          | some jid => jsonObjectGetInt P jid
          | none => -1
        match jsonObjectObjectGetEx root (ascii "method") with
        | none => return none
        | some jmethod => do
            let text ← deref (jsonObjectGetString P jmethod)
            return some {
              id := id
              method := (snprintf rpcMethodLen (cstr text)).stored
              params := (jsonObjectObjectGetEx root (ascii "params")).getD .null
              root := root }
      else return none

section Handlers

variable {σ : Type} (E : Env σ) (peer : SockaddrIn)

/-- `send_result` with `rpc_build_result`. -/
def sendResult (id : Int32) (resultJson : Option Bytes) (w : World σ) :
    Except Fault (World σ) := do
  let resultJson :=
    if resultJson = none ∨ resultJson = some [] then some (ascii "\x7b\x7d") else resultJson
  let text ← deref resultJson
  return sendPrinted peer
    (snprintf droneMaxMsgLen
      (ascii "\x7b\"id\":" ++ decInt id.toInt ++ ascii ",\"result\":" ++ text ++ ascii "\x7d"))
    w

/-- `h_drone_upload_kmz`. -/
def hDroneUploadKmz (id : Int32) (params : Json) (w : World σ) :
    Except Fault (World σ) :=
  let name := rpcParamStr E.platform params (ascii "file")
  if name = none then return sendError peer id "missing param: file" w
  else do
    let name ← deref name
    if name = [] then
      return sendError peer id "missing param: file" w
    else if strstr name (ascii "..") || strchr name 47 then
      return sendError peer id "invalid file name" w
    else
      let path := kmzPath name
      let r := callDrone E (.uploadKmz path) w
      if r.1 ≠ .ok then
        return sendError peer id "kmz upload failed" r.2.2
      else
        sendResult peer id (some (kmzResult name path)) r.2.2

/-- The dispatch on the method name.  The handlers of the other methods hold no
pointer to a string but the NULL that they pass to `send_result`. -/
def dispatch (req : RpcRequest) (w : World σ) : Except Fault (World σ) :=
  if req.method = ascii "drone.upload_kmz" then
    hDroneUploadKmz E peer req.id req.params w
  else
    return PsdkBridge.dispatch E peer req w

/-- `handle_rpc`. -/
def handleRpc (line : Bytes) (w : World σ) : Except Fault (World σ) := do
  match ← rpcParse E.platform line with
  | none => return w
  | some req => dispatch E peer req w

end Handlers

end Strict

/-- The line is read as an object whose member `method` is `null`. -/
def NullMethod (P : Platform) (line : Bytes) : Prop :=
  ∃ root n, P.tokenerParseEx (cstr line) = some (root, n) ∧
    jsonObjectObjectGetEx root (ascii "method") = some .null

namespace Strict

/-- The pointer of `json_object_get_string` is NULL for `null` only. -/
theorem deref_jsonObjectGetString
    (P : Platform) {v : Json}
    (h : v ≠ .null) :
    ∃ s, jsonObjectGetString P v = some s := by
  cases v with
  | null =>
      exact absurd rfl h
  | str s =>
      exact ⟨s, rfl⟩
  | _ =>
      exact ⟨_, rfl⟩

theorem rpcParse_of_nullMethod
    {P : Platform} {line : Bytes}
    (h : NullMethod P line) :
    rpcParse P line = .error .nullUse := by
  obtain ⟨root, n, hread, hmethod⟩ := h
  have hobj : jsonObjectIsObject root = true := by
    cases root with
    | obj members =>
        rfl
    | _ =>
        cases hmethod
  simp only [rpcParse, hread, hobj, if_true, hmethod]
  rfl

/-- Without a `null` in the place of the method, parsing is what it was. -/
theorem rpcParse_eq
    {P : Platform} {line : Bytes}
    (h : ¬ NullMethod P line) :
    rpcParse P line = .ok (PsdkBridge.rpcParse P line) := by
  unfold rpcParse PsdkBridge.rpcParse
  cases hread : P.tokenerParseEx (cstr line) with
  | none =>
      rfl
  | some p =>
      obtain ⟨root, n⟩ := p
      simp only
      split_ifs with hobj
      · cases hmethod : jsonObjectObjectGetEx root (ascii "method") with
        | none =>
            rfl
        | some jmethod =>
            have hne : jmethod ≠ .null := by
              rintro rfl
              exact h ⟨root, n, hread, hmethod⟩
            obtain ⟨s, hs⟩ := deref_jsonObjectGetString P hne
            simp only [hs, Option.getD_some]
            rfl
      · rfl

section Handlers

variable {σ : Type} (E : Env σ) (peer : SockaddrIn)

/-- A NULL result is replaced before it is printed. -/
theorem sendResult_eq
    (id : Int32) (resultJson : Option Bytes) (w : World σ) :
    sendResult peer id resultJson w = .ok (PsdkBridge.sendResult peer id resultJson w) := by
  cases resultJson with
  | none =>
      rfl
  | some s =>
      cases s with
      | nil =>
          rfl
      | cons b s =>
          rfl

/-- The name of a file is looked at only behind the test for NULL. -/
theorem hDroneUploadKmz_eq
    (id : Int32) (params : Json) (w : World σ) :
    hDroneUploadKmz E peer id params w =
      .ok (PsdkBridge.hDroneUploadKmz E peer id params w) := by
  unfold hDroneUploadKmz PsdkBridge.hDroneUploadKmz
  cases rpcParamStr E.platform params (ascii "file") with
  | none =>
      rfl
  | some name =>
      simp only [reduceCtorEq, if_false, deref, sendResult_eq]
      show (if name = [] then _ else _) = _
      split_ifs <;> rfl

theorem dispatch_eq
    (req : RpcRequest) (w : World σ) :
    dispatch E peer req w = .ok (PsdkBridge.dispatch E peer req w) := by
  unfold dispatch
  split_ifs with hm
  · rw [hDroneUploadKmz_eq]
    have hplain := dispatch_of_name E peer .uploadKmz hm w
    exact congrArg Except.ok hplain.symm
  · rfl

theorem handleRpc_of_nullMethod
    {line : Bytes}
    (h : NullMethod E.platform line)
    (w : World σ) :
    handleRpc E peer line w = .error .nullUse := by
  unfold handleRpc
  rw [rpcParse_of_nullMethod h]
  rfl

/-- **The strict functions are the plain ones**, unless the method is `null`. -/
theorem handleRpc_eq
    {line : Bytes}
    (h : ¬ NullMethod E.platform line)
    (w : World σ) :
    handleRpc E peer line w = .ok (PsdkBridge.handleRpc E peer line w) := by
  unfold handleRpc PsdkBridge.handleRpc
  rw [rpcParse_eq h]
  cases PsdkBridge.rpcParse E.platform line with
  | none =>
      rfl
  | some req =>
      exact dispatch_eq E peer req w

end Handlers

end Strict

section Lines

variable {σ : Type} (E : Env σ) (peer : SockaddrIn)

/-- No NULL pointer is used as a string: not while the line is handled, and not in a
reply, whatever its result text. -/
structure NoNullUse (line : Bytes) (w : World σ) : Prop where
  handled : Strict.handleRpc E peer line w ≠ .error .nullUse
  answered : ∀ id resultJson w', Strict.sendResult (σ := σ) peer id resultJson w' ≠
    .error .nullUse

/-- **When no NULL pointer is used as a string.**  Exactly unless the line is an object
whose member `method` is `null`. -/
theorem noNullUse_iff
    (line : Bytes) (w : World σ) :
    NoNullUse E peer line w ↔ ¬ NullMethod E.platform line := by
  constructor
  · intro hsafe hnull
    exact hsafe.handled (Strict.handleRpc_of_nullMethod E peer hnull w)
  · intro h
    refine ⟨?_, fun id resultJson w' => ?_⟩
    · rw [Strict.handleRpc_eq E peer h w]
      exact fun heq => nomatch heq
    · rw [Strict.sendResult_eq]
      exact fun heq => nomatch heq

end Lines

/-- The members of the request `{"id":1,"method":null}`. -/
def nullMethodMembers : List Member :=
  [{ key := ascii "id", text := decInt 1, val := .int 1 },
    { key := ascii "method", text := ascii "null", val := .null }]

theorem nullMethod_nullMethodMembers :
    NullMethod gnuPlatform (objectText nullMethodMembers) := by
  have hok : ∀ m ∈ nullMethodMembers, m.Ok := by
    have hkeys : Plain (ascii "id") ∧ Plain (ascii "method") := by decide
    intro m hm
    simp only [nullMethodMembers, List.mem_cons, List.not_mem_nil, or_false] at hm
    rcases hm with rfl | rfl
    · exact ⟨hkeys.1, reads_int 1⟩
    · exact ⟨hkeys.2, reads_null⟩
  have hzero : (0 : UInt8) ∉ objectText nullMethodMembers := by
    decide +kernel
  have hstored : ∀ m ∈ nullMethodMembers, m.val.Storable := by
    intro m hm
    simp only [nullMethodMembers, List.mem_cons, List.not_mem_nil, or_false] at hm
    rcases hm with rfl | rfl <;> rfl
  have hread := tokenerParseEx_objectText_append hok hstored delimited_nil
  rw [List.append_nil] at hread
  rw [← cstr_eq_self hzero] at hread
  exact ⟨_, _, hread, rfl⟩

/-- The name of the method is printed from a NULL pointer. -/
theorem nullMethod_faults :
    objectText nullMethodMembers = ascii "\x7b\"id\":1,\"method\":null\x7d" ∧
    Strict.handleRpc stubEnv localPeer (objectText nullMethodMembers) stubWorld =
      .error .nullUse ∧
    ¬ NoNullUse stubEnv localPeer (objectText nullMethodMembers) stubWorld := by
  have hfault := Strict.handleRpc_of_nullMethod stubEnv localPeer
    nullMethod_nullMethodMembers stubWorld
  refine ⟨?_, hfault, fun hsafe => hsafe.handled hfault⟩
  decide +kernel

end PsdkBridge
