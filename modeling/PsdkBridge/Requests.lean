import PsdkBridge.Dispatch
import PsdkBridge.StubCtrl
import PsdkBridge.Lib.JsonReads

/-!
# Requests as clients write them

A client writes a request as the object `id`, `method`, `params`.  On a
platform whose tokener reads the JSON grammar, `rpc_parse` recovers exactly
these three parts (`rpcParse_requestLine`), so that concrete requests can be
followed from the datagram to the reply.

The module also fixes a build and a starting state for such requests: the stub
build, before its first request.
-/

namespace PsdkBridge

/-- The stub build on a platform that reads JSON. -/
def stubEnv : Env Stub.StubState where
  platform := gnuPlatform
  droneCtrl := Stub.stubCtrl {
    lat := .fin 0
    lon := .fin 0
    altMslM := .fin 0
    headingDeg := .fin 0 }
  startClock := { tvSec := 0, tvNsec := 0 }
  nowClock := { tvSec := 0, tvNsec := 0 }

/-- The daemon before its first request. -/
def stubWorld : World Stub.StubState where
  ctrl := Stub.initial
  gStart := { tvSec := 0, tvNsec := 0 }
  gStarted := false
  events := []

/-- A client of the local network. -/
def localPeer : SockaddrIn where
  addr := 0xC0A80102
  port := 40000

/-- The members of a request. -/
def requestMembers (i : Int) (k : Method) (params : List Member) : List Member :=
  [{ key := ascii "id", text := decInt i, val := .int i },
    { key := ascii "method", text := 34 :: ascii k.name ++ [34],
      val := .str (ascii k.name) },
    { key := ascii "params", text := objectText params,
      val := .obj (params.map (fun m => (m.key, m.val))) }]

/-- The text of a request. -/
def requestLine (i : Int) (k : Method) (params : List Member) : Bytes :=
  objectText (requestMembers i k params)

/-- The object a request denotes. -/
def requestObject (i : Int) (k : Method) (params : List Member) : Json :=
  .obj ((requestMembers i k params).map (fun m => (m.key, m.val)))

theorem plain_name
    (k : Method) :
    Plain (ascii k.name) := by
  cases k <;> decide

theorem requestMembers_ok
    (i : Int) (k : Method) {params : List Member}
    (hok : ∀ m ∈ params, m.Ok) :
    ∀ m ∈ requestMembers i k params, m.Ok := by
  have hid : Plain (ascii "id") := by decide
  have hmethod : Plain (ascii "method") := by decide
  have hparams : Plain (ascii "params") := by decide
  intro m hm
  simp only [requestMembers, List.mem_cons, List.not_mem_nil, or_false] at hm
  rcases hm with rfl | rfl | rfl
  · exact ⟨hid, reads_int i⟩
  · exact ⟨hmethod, reads_str (plain_name k)⟩
  · exact ⟨hparams, reads_object hok⟩

/-! ## No NUL in the text of a request -/

theorem zero_notMem_membersText :
    ∀ {ms : List Member}, (∀ m ∈ ms, (0 : UInt8) ∉ m.render) →
      (0 : UInt8) ∉ membersText ms
  | [], _ => by
      simp [membersText]
  | [m], h => by
      have hm := h m (by simp)
      simp [membersText, hm]
  | m :: m' :: ms, h => by
      have hm := h m (by simp)
      have ih := zero_notMem_membersText
        (fun x hx => h x (List.mem_cons_of_mem m hx))
      simp [membersText, hm, ih]

theorem zero_notMem_name
    (k : Method) :
    (0 : UInt8) ∉ ascii k.name := by
  cases k <;> decide

theorem zero_notMem_requestLine
    (i : Int) (k : Method) {params : List Member}
    (h : ∀ m ∈ params, (0 : UInt8) ∉ m.render) :
    (0 : UInt8) ∉ requestLine i k params := by
  have hname := zero_notMem_name k
  have hparams := zero_notMem_membersText h
  have hmembers : ∀ m ∈ requestMembers i k params, (0 : UInt8) ∉ m.render := by
    intro m hm
    simp only [requestMembers, List.mem_cons, List.not_mem_nil, or_false] at hm
    rcases hm with rfl | rfl | rfl
    · have hid : (0 : UInt8) ∉ decInt i := notMem_decInt rfl (by decide) i
      simp [Member.render, ascii, hid]
    · simp only [ascii] at hname
      simp [Member.render, ascii]
      simpa using hname
    · simp [Member.render, ascii, objectText, hparams]
  simpa [requestLine, objectText] using zero_notMem_membersText hmembers

/-! ## Parsing -/

/-- The tokener reads an object up to its end. -/
theorem tokenerParseEx_objectText_append
    {ms : List Member}
    (hok : ∀ m ∈ ms, m.Ok)
    (hstored : ∀ m ∈ ms, m.val.Storable)
    {r : Bytes}
    (hr : Delimited r) :
    gnuPlatform.tokenerParseEx (objectText ms ++ r) =
      some (.obj (ms.map (fun m => (m.key, m.val))), (objectText ms).length) := by
  have hread : readValue ((objectText ms ++ r).length + 1) (objectText ms ++ r) =
      some (.obj (ms.map (fun m => (m.key, m.val))), r) := by
    apply reads_object hok _ r _ hr
    simp only [List.length_append]
    omega
  have hobject : (Json.obj (ms.map (fun m => (m.key, m.val)))).Storable :=
    storable_obj (List.forall_mem_map.mpr hstored)
  show readFirstValue (objectText ms ++ r) = _
  rw [readFirstValue, hread, Option.map_some, List.length_append, Nat.add_sub_cancel,
    hobject]

/-- The values of a request are stored as they are. -/
theorem requestMembers_storable
    {i : Int}
    (hi : -2 ^ 63 ≤ i ∧ i < 2 ^ 64)
    (k : Method) {params : List Member}
    (hstored : ∀ m ∈ params, m.val.Storable) :
    ∀ m ∈ requestMembers i k params, m.val.Storable := by
  intro m hm
  simp only [requestMembers, List.mem_cons, List.not_mem_nil, or_false] at hm
  rcases hm with rfl | rfl | rfl
  · exact storable_int hi
  · exact storable_str _
  · exact storable_obj (List.forall_mem_map.mpr hstored)

theorem tokenerParseEx_requestLine_append
    {i : Int}
    (hi : -2 ^ 63 ≤ i ∧ i < 2 ^ 64)
    (k : Method) {params : List Member}
    (hok : ∀ m ∈ params, m.Ok)
    (hstored : ∀ m ∈ params, m.val.Storable)
    {r : Bytes}
    (hr : Delimited r) :
    gnuPlatform.tokenerParseEx (requestLine i k params ++ r) =
      some (requestObject i k params, (requestLine i k params).length) :=
  tokenerParseEx_objectText_append (requestMembers_ok i k hok)
    (requestMembers_storable hi k hstored) hr

/-- The tokener reads a request as a whole. -/
theorem tokenerParseEx_requestLine
    {i : Int}
    (hi : -2 ^ 63 ≤ i ∧ i < 2 ^ 64)
    (k : Method) {params : List Member}
    (hok : ∀ m ∈ params, m.Ok)
    (hstored : ∀ m ∈ params, m.val.Storable)
    (hzero : ∀ m ∈ params, (0 : UInt8) ∉ m.render) :
    gnuPlatform.tokenerParseEx (cstr (requestLine i k params)) =
      some (requestObject i k params, (requestLine i k params).length) := by
  have hread := tokenerParseEx_requestLine_append hi k hok hstored delimited_nil
  rw [List.append_nil] at hread
  rw [cstr_eq_self (zero_notMem_requestLine i k hzero), hread]

theorem requestObject_get
    (i : Int) (k : Method) (params : List Member) :
    jsonObjectObjectGetEx (requestObject i k params) (ascii "id") =
        some (.int i) ∧
    jsonObjectObjectGetEx (requestObject i k params) (ascii "method") =
        some (.str (ascii k.name)) ∧
    jsonObjectObjectGetEx (requestObject i k params) (ascii "params") =
        some (.obj (params.map (fun m => (m.key, m.val)))) := by
  refine ⟨?_, ?_, ?_⟩ <;>
    simp [requestObject, requestMembers, jsonObjectObjectGetEx, ascii]

/-- The name of a method fits the field `method`. -/
theorem snprintf_name
    (k : Method) :
    (snprintf rpcMethodLen (cstr (ascii k.name))).stored = ascii k.name := by
  cases k <;> decide

/-- `rpc_parse` recovers what the client wrote. -/
theorem rpcParse_requestLine
    {i : Int}
    (hi : -2 ^ 63 ≤ i ∧ i < 2 ^ 64)
    (k : Method) {params : List Member}
    (hok : ∀ m ∈ params, m.Ok)
    (hstored : ∀ m ∈ params, m.val.Storable)
    (hzero : ∀ m ∈ params, (0 : UInt8) ∉ m.render) :
    rpcParse gnuPlatform (requestLine i k params) =
      some {
        id := Int32.ofIntClamp i
        method := ascii k.name
        params := .obj (params.map (fun m => (m.key, m.val)))
        root := requestObject i k params } := by
  obtain ⟨hid, hmethod, hparams⟩ := requestObject_get i k params
  have hobj : jsonObjectIsObject (requestObject i k params) = true := rfl
  simp only [rpcParse, tokenerParseEx_requestLine hi k hok hstored hzero, hobj, if_true, hid,
    hmethod, hparams, jsonObjectGetInt, jsonObjectGetString, Option.getD_some,
    snprintf_name]

end PsdkBridge
