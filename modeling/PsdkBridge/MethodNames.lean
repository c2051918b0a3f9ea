import PsdkBridge.Requests

/-!
# Which values name a method

`rpc_parse` copies the text of the member `method` into a field of 64 bytes and
`handle_rpc` compares the field with the sixteen names.  The text comes from a
JSON value of any type, it ends at its first NUL, and the copy is cut after 63
bytes.

`dispatchedByName_iff` says exactly which values of the member are mistaken for
a name: the strings that continue a name with a NUL byte.
-/

namespace PsdkBridge

/-- The bytes that start the text of a JSON value that is no string: an opening
bracket or brace, a sign, a digit, or the first letter of a literal. -/
def startsValue (b : UInt8) : Bool :=
  isDigit b || decide (b ∈ ascii "\x7b[-tfnNiI")

/-- The text of a value that is no string starts like a JSON value. -/
def RendersJson (P : Platform) : Prop :=
  ∀ v, (∀ s, v ≠ .str s) →
    ∃ b t, P.toJsonString v = b :: t ∧ startsValue b = true

/-- The line is a request object, and `v` is its member `method`. -/
def MethodMember (P : Platform) (line : Bytes) (v : Json) : Prop :=
  ∃ root n, P.tokenerParseEx (cstr line) = some (root, n) ∧
    jsonObjectIsObject root = true ∧
    jsonObjectObjectGetEx root (ascii "method") = some v

/-! ## The field `method` -/

theorem name_length_lt
    (k : Method) :
    (ascii k.name).length < rpcMethodLen - 1 := by
  cases k <;> decide

/-- What `rpc_parse` stores is a name exactly if the text is the name, or
continues it with a NUL.  Names are too short to be the result of a cut. -/
theorem stored_eq_name_iff
    (k : Method) (s : Bytes) :
    (snprintf rpcMethodLen (cstr s)).stored = ascii k.name ↔
      s = ascii k.name ∨ ∃ t, s = ascii k.name ++ 0 :: t := by
  rw [← cstr_eq_iff (zero_notMem_name k)]
  have hlen := name_length_lt k
  constructor
  · intro h
    have hshort : (cstr s).length < rpcMethodLen - 1 := by
      rw [← h] at hlen
      simp only [snprintf, List.length_take] at hlen
      omega
    rw [← h, snprintf_stored_of_lt (by omega)]
  · intro h
    rw [h, snprintf_stored_of_lt (by omega)]

/-- No name starts like a value that is no string. -/
theorem name_eq_cons
    (k : Method) :
    ∃ b t, ascii k.name = b :: t ∧ startsValue b = false := by
  cases k <;> exact ⟨_, _, rfl, by decide⟩

theorem rpcParse_of_methodMember
    {P : Platform} {line : Bytes} {v : Json}
    (h : MethodMember P line v) :
    ∃ req, rpcParse P line = some req ∧
      req.method =
        (snprintf rpcMethodLen (cstr ((jsonObjectGetString P v).getD P.nullText))).stored := by
  obtain ⟨root, n, htok, hobj, hget⟩ := h
  simp only [rpcParse, htok, hobj, if_true, hget, Option.some.injEq, exists_eq_left']

/-- The field `method` holds a name exactly if the member is a string that
starts with the name and ends there, or continues with a NUL. -/
theorem method_eq_name_iff
    {P : Platform}
    (hP : RendersJson P)
    {line : Bytes} {v : Json}
    (hmember : MethodMember P line v)
    (hnull : v ≠ .null)
    {req : RpcRequest}
    (hreq : rpcParse P line = some req)
    (k : Method) :
    req.method = ascii k.name ↔
      v = .str (ascii k.name) ∨ ∃ t, v = .str (ascii k.name ++ 0 :: t) := by
  obtain ⟨req', hreq', hfield⟩ := rpcParse_of_methodMember hmember
  obtain rfl : req' = req := Option.some.inj (hreq'.symm.trans hreq)
  rw [hfield]
  have hother : (∀ s, v ≠ .str s) →
      ((snprintf rpcMethodLen (cstr (P.toJsonString v))).stored = ascii k.name ↔
        v = .str (ascii k.name) ∨ ∃ t, v = .str (ascii k.name ++ 0 :: t)) := by
    intro hv
    obtain ⟨b, t, htext, hb⟩ := hP v hv
    obtain ⟨c, u, hname, hc⟩ := name_eq_cons k
    have hne : b ≠ c := by
      rintro rfl
      rw [hb] at hc
      cases hc
    rw [stored_eq_name_iff, htext, hname]
    simp [hne, hv]
  cases v with
  | null =>
      exact absurd rfl hnull
  | str s =>
      simp only [jsonObjectGetString, Option.getD_some, stored_eq_name_iff, Json.str.injEq]
  | bool | int | dbl | arr | obj =>
      exact hother (by simp)

/-! ## Requests -/

section Requests

variable {σ : Type} (E : Env σ) (peer : SockaddrIn)

/-- The line is handled by the handler of the method. -/
def RunsHandler (line : Bytes) (w : World σ) (k : Method) : Prop :=
  ∃ req, rpcParse E.platform line = some req ∧ req.method = ascii k.name ∧
    handleRpc E peer line w = k.handle E peer req.id req.params w

/-- The line is answered with the error for unknown methods, and nothing else
happens. -/
def RefusesMethod (line : Bytes) (w : World σ) : Prop :=
  ∃ req, rpcParse E.platform line = some req ∧
    handleRpc E peer line w = sendError peer req.id "method not found" w

/-- The handler of a method runs exactly if the member `method` is the string
with its name; every other value is refused. -/
def DispatchedByName (line : Bytes) (v : Json) (w : World σ) : Prop :=
  (∀ k : Method, RunsHandler E peer line w k ↔ v = .str (ascii k.name)) ∧
  ((∀ k : Method, v ≠ .str (ascii k.name)) → RefusesMethod E peer line w)

theorem runsHandler_iff
    {line : Bytes} {req : RpcRequest}
    (hreq : rpcParse E.platform line = some req)
    (w : World σ) (k : Method) :
    RunsHandler E peer line w k ↔ req.method = ascii k.name := by
  constructor
  · rintro ⟨req', hreq', hm, _⟩
    obtain rfl : req' = req := Option.some.inj (hreq'.symm.trans hreq)
    exact hm
  · intro hm
    refine ⟨req, hreq, hm, ?_⟩
    simp only [handleRpc, hreq, dispatch_of_name E peer k hm]

/-- **Which values of `method` are mistaken for a name.**  The sixteen names are
matched exactly, unless the member is a string that continues a name with a NUL
byte. -/
theorem dispatchedByName_iff
    (hP : RendersJson E.platform)
    {line : Bytes} {v : Json}
    (hmember : MethodMember E.platform line v)
    (hnull : v ≠ .null)
    (w : World σ) :
    DispatchedByName E peer line v w ↔
      ¬ ∃ (k : Method) (t : Bytes), v = .str (ascii k.name ++ 0 :: t) := by
  obtain ⟨req, hreq, _⟩ := rpcParse_of_methodMember hmember
  have hfield := method_eq_name_iff hP hmember hnull hreq
  constructor
  · rintro ⟨hruns, _⟩ ⟨k, t, rfl⟩
    have hk := (hruns k).mp
      ((runsHandler_iff E peer hreq w k).mpr ((hfield k).mpr (.inr ⟨t, rfl⟩)))
    simp at hk
  · intro hcut
    have hexact : ∀ k : Method, req.method = ascii k.name ↔ v = .str (ascii k.name) := by
      intro k
      rw [hfield k]
      exact or_iff_left (fun ⟨t, ht⟩ => hcut ⟨k, t, ht⟩)
    constructor
    · intro k
      rw [runsHandler_iff E peer hreq w k, hexact k]
    · intro hv
      refine ⟨req, hreq, ?_⟩
      simp only [handleRpc, hreq]
      exact dispatch_of_unknown E peer (fun k hm => hv k ((hexact k).mp hm)) w

end Requests

theorem startsValue_of_mem_decNat
    {b : UInt8} {n : Nat}
    (h : b ∈ decNat n) :
    startsValue b = true := by
  simp [startsValue, isDigit_of_mem_decNat h]

theorem decNat_append_starts
    (n : Nat) (s : Bytes) :
    ∃ b t, decNat n ++ s = b :: t ∧ startsValue b = true := by
  obtain ⟨b, t, h⟩ := List.exists_cons_of_ne_nil (decNat_ne_nil n)
  exact ⟨b, t ++ s, by rw [h]; rfl, startsValue_of_mem_decNat (by rw [h]; simp)⟩

theorem rendersJson_gnuPlatform :
    RendersJson gnuPlatform := by
  intro v hv
  cases v with
  | str s =>
      exact absurd rfl (hv s)
  | null | arr | obj =>
      exact ⟨_, _, rfl, by decide⟩
  | bool b =>
      cases b <;> exact ⟨_, _, rfl, by decide⟩
  | int i =>
      show ∃ b t, decInt i = b :: t ∧ _
      unfold decInt
      split_ifs
      · exact ⟨45, _, rfl, by decide⟩
      · simpa using decNat_append_starts i.natAbs []
  | dbl d =>
      show ∃ b t, fixedText 6 d = b :: t ∧ _
      cases d with
      | nan =>
          exact ⟨_, _, rfl, by decide⟩
      | inf neg =>
          cases neg <;> exact ⟨_, _, rfl, by decide⟩
      | fin q =>
          simp only [fixedText]
          split_ifs
          · exact ⟨45, _, rfl, by decide⟩
          · simp only [List.nil_append, List.append_assoc]
            exact decNat_append_starts _ _

theorem methodMember_requestLine
    {i : Int}
    (hi : -2 ^ 63 ≤ i ∧ i < 2 ^ 64)
    (k : Method) :
    MethodMember gnuPlatform (requestLine i k []) (.str (ascii k.name)) :=
  ⟨_, _, tokenerParseEx_requestLine hi k (by simp) (by simp) (by simp), rfl,
    (requestObject_get i k []).2.1⟩

/-- A ping is dispatched by its name. -/
theorem dispatchedByName_ping :
    DispatchedByName stubEnv localPeer (requestLine 1 .systemPing [])
      (.str (ascii "system.ping")) stubWorld := by
  apply (dispatchedByName_iff stubEnv localPeer rendersJson_gnuPlatform
    (methodMember_requestLine (by decide) .systemPing) (by simp) stubWorld).mpr
  rintro ⟨k, t, h⟩
  have hzero : (0 : UInt8) ∈ ascii Method.systemPing.name := by
    rw [Json.str.inj h]
    simp
  exact absurd hzero (zero_notMem_name .systemPing)

/-- A string literal that continues the name of the ping with a NUL. -/
def nulNameText : Bytes :=
  ascii "\"system.ping\\u0000x\""

/-- The members of a request with this literal. -/
def nulNameMembers : List Member :=
  [{ key := ascii "id", text := decInt 1, val := .int 1 },
    { key := ascii "method", text := nulNameText,
      val := .str (ascii "system.ping" ++ [0, 120]) }]

theorem reads_nulNameText :
    Reads nulNameText (.str (ascii "system.ping" ++ [0, 120])) := by
  intro n r hn _
  obtain ⟨n, rfl⟩ : ∃ m, n = m + 1 := ⟨n - 1, by omega⟩
  have htext : nulNameText ++ r =
      34 :: 115 :: 121 :: 115 :: 116 :: 101 :: 109 :: 46 :: 112 :: 105 :: 110 :: 103 ::
        92 :: 117 :: 48 :: 48 :: 48 :: 48 :: 120 :: 34 :: r := rfl
  have hname : ascii "system.ping" = [115, 121, 115, 116, 101, 109, 46, 112, 105, 110, 103] :=
    rfl
  have hnul : String.utf8EncodeChar (Char.ofNat 0) = [0] := by decide
  rw [htext]
  simp [readValue, skipWs_of_not_ws (b := 34) rfl, readString, hexVal, assemble,
    scalarOf, utf8Encode, hname, hnul]

theorem methodMember_nulName :
    MethodMember gnuPlatform (objectText nulNameMembers)
      (.str (ascii "system.ping" ++ [0, 120])) := by
  have hok : ∀ m ∈ nulNameMembers, m.Ok := by
    intro m hm
    simp only [nulNameMembers, List.mem_cons, List.not_mem_nil, or_false] at hm
    rcases hm with rfl | rfl
    · exact ⟨by decide, reads_int 1⟩
    · exact ⟨by decide, reads_nulNameText⟩
  have hzero : (0 : UInt8) ∉ objectText nulNameMembers := by decide
  have hstored : ∀ m ∈ nulNameMembers, m.val.Storable := by
    intro m hm
    simp only [nulNameMembers, List.mem_cons, List.not_mem_nil, or_false] at hm
    rcases hm with rfl | rfl <;> rfl
  have hread := tokenerParseEx_objectText_append hok hstored delimited_nil
  rw [List.append_nil] at hread
  rw [← cstr_eq_self hzero] at hread
  exact ⟨_, _, hread, rfl, rfl⟩

/-- The method `system.ping\u0000x` is no name, but it is handled as a ping. -/
theorem nulName_runs_ping :
    MethodMember gnuPlatform (objectText nulNameMembers)
        (.str (ascii "system.ping" ++ [0, 120])) ∧
      RunsHandler stubEnv localPeer (objectText nulNameMembers) stubWorld .systemPing ∧
      ¬ DispatchedByName stubEnv localPeer (objectText nulNameMembers)
        (.str (ascii "system.ping" ++ [0, 120])) stubWorld := by
  obtain ⟨req, hreq, hfield⟩ := rpcParse_of_methodMember methodMember_nulName
  have hm : req.method = ascii Method.systemPing.name := by
    rw [hfield]
    decide
  have hruns := (runsHandler_iff stubEnv localPeer hreq stubWorld .systemPing).mpr hm
  refine ⟨methodMember_nulName, hruns, ?_⟩
  rintro ⟨hname, _⟩
  have heq := (hname .systemPing).mp hruns
  simp [Method.name] at heq

end PsdkBridge
