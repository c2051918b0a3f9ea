import PsdkBridge.ReplyBuffer
import PsdkBridge.Lib.Utf8

/-!
# Replies as JSON texts

A reply is assembled by format strings.  Where only literals and numerals are
put together, the result is a JSON text of a response object
(`wellFormed_of_printable`).  The reply to an upload also contains the file
name, twice and without escaping: `repliesWellFormed_iff` says for which names
the datagram is a JSON text that names the file that was requested.

The methods that print floating-point numbers are left aside here.
-/

namespace PsdkBridge

/-- The object of a success response. -/
def resultObject (id : Int32) (members : List (Bytes × Json)) : Json :=
  .obj [(ascii "id", .int id.toInt), (ascii "result", .obj members)]

/-- The object of an error response. -/
def errorObject (id : Int32) (msg : Bytes) : Json :=
  .obj [(ascii "id", .int id.toInt), (ascii "error", .str msg)]

/-- The member `id` of a response. -/
def idMember (id : Int32) : Member where
  key := ascii "id"
  text := decInt id.toInt
  val := .int id.toInt

theorem idMember_ok
    (id : Int32) :
    (idMember id).Ok :=
  ⟨show Plain (ascii "id") by decide, reads_int id.toInt⟩

/-! ## Texts that decode to responses -/

theorem resultText_eq_objectText
    (id : Int32) {body : Bytes}
    (hbody : body ≠ [])
    (v : Json) :
    resultText id (some body) =
      objectText [idMember id, { key := ascii "result", text := body, val := v }] := by
  cases body with
  | nil =>
      exact absurd rfl hbody
  | cons b body =>
      simp [resultText, objectText, membersText, Member.render, idMember, ascii]

theorem errorText_eq_objectText
    (id : Int32) (msg : Bytes) :
    errorText id msg =
      objectText [idMember id,
        { key := ascii "error", text := 34 :: msg ++ [34], val := .str msg }] := by
  simp [errorText, objectText, membersText, Member.render, idMember, ascii]

theorem ne_nil_of_reads
    {text : Bytes} {v : Json}
    (h : Reads text v) :
    text ≠ [] := by
  rintro rfl
  have := h 1 [] (by simp) delimited_nil
  simp [readValue, skipWs] at this

theorem decode_resultText
    (id : Int32) {body : Bytes} {members : List (Bytes × Json)}
    (h : Reads body (.obj members)) :
    decode (resultText id (some body)) = some (resultObject id members) := by
  have hkey : Plain (ascii "result") := by decide
  rw [resultText_eq_objectText id (ne_nil_of_reads h) (.obj members)]
  apply decode_of_reads
  refine reads_object ?_
  simp only [List.mem_cons, List.not_mem_nil, or_false, forall_eq_or_imp, forall_eq]
  exact ⟨idMember_ok id, hkey, h⟩

theorem decode_errorText
    (id : Int32) {msg : Bytes}
    (h : Plain msg) :
    decode (errorText id msg) = some (errorObject id msg) := by
  have hkey : Plain (ascii "error") := by decide
  rw [errorText_eq_objectText]
  apply decode_of_reads
  refine reads_object ?_
  simp only [List.mem_cons, List.not_mem_nil, or_false, forall_eq_or_imp, forall_eq]
  exact ⟨idMember_ok id, hkey, reads_str h⟩

theorem reads_empty_object :
    Reads (ascii "\x7b\x7d") (.obj []) :=
  reads_object (List.forall_mem_nil Member.Ok)

theorem isAscii_resultText
    (id : Int32) {body : Bytes}
    (h : IsAscii body) :
    IsAscii (resultText id (some body)) := by
  have hid := isAscii_decInt id.toInt
  have hopen : IsAscii (ascii "\x7b\"id\":") := by decide
  have hresult : IsAscii (ascii ",\"result\":") := by decide
  have hempty : IsAscii (ascii "\x7b\x7d") := by decide
  have hclose : IsAscii (ascii "\x7d") := by decide
  cases body with
  | nil =>
      simp only [resultText, isAscii_append, and_assoc]
      exact ⟨hopen, hid, hresult, hempty, hclose⟩
  | cons b body =>
      simp only [resultText, isAscii_append, and_assoc]
      exact ⟨hopen, hid, hresult, h, hclose⟩

theorem isAscii_errorText
    (id : Int32) {msg : Bytes}
    (h : IsAscii msg) :
    IsAscii (errorText id msg) := by
  have hid := isAscii_decInt id.toInt
  have hopen : IsAscii (ascii "\x7b\"id\":") := by decide
  have herror : IsAscii (ascii ",\"error\":\"") := by decide
  have hclose : IsAscii (ascii "\"\x7d") := by decide
  simp only [errorText, isAscii_append, and_assoc]
  exact ⟨hopen, hid, herror, h, hclose⟩

/-! ## Plans that print literals and numerals only -/

/-- The text is a JSON text of a response to the request `id`. -/
def WellFormed (id : Int32) (text : Bytes) : Prop :=
  IsUtf8 text ∧
    ((∃ msg, decode text = some (errorObject id msg)) ∨
      ∃ members, decode text = some (resultObject id members))

/-- A message that needs no escaping. -/
def PlainMessage (msg : String) : Prop :=
  Plain (ascii msg) ∧ IsAscii (ascii msg)

instance (msg : String) : Decidable (PlainMessage msg) :=
  inferInstanceAs (Decidable (_ ∧ _))

/-- Every error of an upload and of the dispatch needs no escaping. -/
theorem plainMessage_uploadErrors :
    ∀ msg ∈ uploadErrors, PlainMessage msg := by
  decide

/-- A result text that is absent or an ASCII text of an object. -/
def PrintableBody (body : Option Bytes) : Prop :=
  body = none ∨
    ∃ text members, body = some text ∧ Reads text (.obj members) ∧ IsAscii text

/-- All texts of the plan are literals and numerals. -/
def Plan.Printable : Plan → Prop
  | .ping => True
  | .refuse msg => PlainMessage msg
  | .invoke _ failure body => PlainMessage failure ∧ ∀ out, PrintableBody (body out)

theorem wellFormed_errorText
    (id : Int32) {msg : String}
    (h : PlainMessage msg) :
    WellFormed id (errorText id (ascii msg)) :=
  ⟨isUtf8_of_isAscii (isAscii_errorText id h.2),
    Or.inl ⟨ascii msg, decode_errorText id h.1⟩⟩

theorem wellFormed_resultText
    (id : Int32) {body : Option Bytes}
    (h : PrintableBody body) :
    WellFormed id (resultText id body) := by
  rcases h with rfl | ⟨text, members, rfl, hreads, hascii⟩
  · have hnone : resultText id none = resultText id (some (ascii "\x7b\x7d")) := rfl
    rw [hnone]
    exact ⟨isUtf8_of_isAscii (isAscii_resultText id (by decide)),
      Or.inr ⟨[], decode_resultText id reads_empty_object⟩⟩
  · exact ⟨isUtf8_of_isAscii (isAscii_resultText id hascii),
      Or.inr ⟨members, decode_resultText id hreads⟩⟩

theorem reads_nat
    (n : Nat) :
    Reads (decNat n) (.int n) := by
  rw [← decInt_natCast]
  exact reads_int n

theorem isAscii_decNat
    (n : Nat) :
    IsAscii (decNat n) := by
  rw [← decInt_natCast]
  exact isAscii_decInt n

section Bodies

/-- The members of the answer to a ping. -/
def pingMembers (ms : Nat) : List Member :=
  [{ key := ascii "pong", text := ascii "true", val := .bool true },
    { key := ascii "uptime_ms", text := decNat ms, val := .int ms }]

variable {σ : Type}

/-- The text that the answer to a ping is printed from. -/
def pingText (ms : UInt64) : Bytes :=
  ascii "\x7b\"pong\":true,\"uptime_ms\":" ++ decNat ms.toNat ++ ascii "\x7d"

theorem pingText_length_lt
    (ms : UInt64) :
    (pingText ms).length < 128 := by
  have hlen : (decNat ms.toNat).length ≤ 20 :=
    decNat_length_le (by norm_num) (ms.toNat_lt.trans (by norm_num))
  simp [pingText, ascii]
  omega

theorem pingBody_eq
    (E : Env σ) (w : World σ) :
    Plan.pingBody E w = pingText (uptimeMs E w).1 :=
  snprintf_stored_of_lt (pingText_length_lt _)

theorem pingText_eq
    (ms : UInt64) :
    pingText ms = objectText (pingMembers ms.toNat) := by
  simp [pingText, objectText, membersText, Member.render, pingMembers, ascii]

/-- The value of the answer to a ping. -/
theorem reads_pingText
    (ms : UInt64) :
    Reads (pingText ms)
      (.obj ((pingMembers ms.toNat).map (fun m => (m.key, m.val)))) := by
  rw [pingText_eq]
  apply reads_object
  have hpong : Plain (ascii "pong") := by decide
  have huptime : Plain (ascii "uptime_ms") := by decide
  simp only [pingMembers, List.mem_cons, List.not_mem_nil, or_false,
    forall_eq_or_imp, forall_eq]
  exact ⟨⟨hpong, reads_true⟩, huptime, reads_nat _⟩

theorem printableBody_ping
    (E : Env σ) (w : World σ) :
    PrintableBody (some (Plan.pingBody E w)) := by
  rw [pingBody_eq]
  right
  refine ⟨_, _, rfl, reads_pingText _, ?_⟩
  have hhead : IsAscii (ascii "\x7b\"pong\":true,\"uptime_ms\":") := by decide
  have hclose : IsAscii (ascii "\x7d") := by decide
  simp only [pingText, isAscii_append, and_assoc]
  exact ⟨hhead, isAscii_decNat _, hclose⟩

/-- The members of the battery report. -/
def batteryMembers (b : DroneBatteryInfo) : List Member :=
  [{ key := ascii "voltage_mv", text := decNat b.voltageMv.toNat,
      val := .int b.voltageMv.toNat },
    { key := ascii "current_ma", text := decInt b.currentMa.toInt,
      val := .int b.currentMa.toInt },
    { key := ascii "remaining_pct", text := decNat b.remainingPct.toNat,
      val := .int b.remainingPct.toNat },
    { key := ascii "temperature_dc", text := decInt b.temperatureDc.toInt,
      val := .int b.temperatureDc.toInt },
    { key := ascii "cycle_count", text := decNat b.cycleCount.toNat,
      val := .int b.cycleCount.toNat }]

theorem printBatteryInfo_eq
    (b : DroneBatteryInfo) :
    printBatteryInfo b = objectText (batteryMembers b) := by
  simp [printBatteryInfo, objectText, membersText, Member.render, batteryMembers,
    ascii]

theorem printBatteryInfo_length_lt
    (b : DroneBatteryInfo) :
    (printBatteryInfo b).length < 256 := by
  have h₁ : (decNat b.voltageMv.toNat).length ≤ 10 :=
    decNat_length_le (by norm_num) (b.voltageMv.toNat_lt.trans (by norm_num))
  have h₂ := decInt_id_length_le b.currentMa
  have h₃ : (decNat b.remainingPct.toNat).length ≤ 3 :=
    decNat_length_le (by norm_num) (b.remainingPct.toNat_lt.trans (by norm_num))
  have h₄ : (decInt b.temperatureDc.toInt).length ≤ 6 := by
    have hlo := b.temperatureDc.le_toInt
    have hhi := b.temperatureDc.toInt_lt
    exact decInt_length_le (k := 5) (by norm_num) (by omega)
  have h₅ : (decNat b.cycleCount.toNat).length ≤ 10 :=
    decNat_length_le (by norm_num) (b.cycleCount.toNat_lt.trans (by norm_num))
  simp [printBatteryInfo, ascii]
  omega

/-- The value of the battery report. -/
theorem reads_printBatteryInfo
    (b : DroneBatteryInfo) :
    Reads (printBatteryInfo b)
      (.obj ((batteryMembers b).map (fun m => (m.key, m.val)))) := by
  rw [printBatteryInfo_eq]
  apply reads_object
  have h₁ : Plain (ascii "voltage_mv") := by decide
  have h₂ : Plain (ascii "current_ma") := by decide
  have h₃ : Plain (ascii "remaining_pct") := by decide
  have h₄ : Plain (ascii "temperature_dc") := by decide
  have h₅ : Plain (ascii "cycle_count") := by decide
  simp only [batteryMembers, List.mem_cons, List.not_mem_nil, or_false,
    forall_eq_or_imp, forall_eq]
  exact ⟨⟨h₁, reads_nat _⟩, ⟨h₂, reads_int _⟩, ⟨h₃, reads_nat _⟩,
    ⟨h₄, reads_int _⟩, h₅, reads_nat _⟩

theorem printableBody_battery
    (b : DroneBatteryInfo) :
    PrintableBody (some (snprintf 256 (printBatteryInfo b)).stored) := by
  rw [snprintf_stored_of_lt (printBatteryInfo_length_lt b)]
  right
  refine ⟨_, _, rfl, reads_printBatteryInfo b, ?_⟩
  simp only [printBatteryInfo, isAscii_append, isAscii_decNat, isAscii_decInt,
    and_true]
  decide

end Bodies

section Printable

variable {σ : Type}

theorem wellFormed_of_printable
    {pl : Plan}
    (h : pl.Printable)
    (E : Env σ) (id : Int32) (w : World σ) :
    WellFormed id (pl.reply E id w) := by
  cases pl with
  | ping =>
      simp only [Plan.reply]
      exact wellFormed_resultText id (printableBody_ping E w)
  | refuse msg =>
      exact wellFormed_errorText id h
  | invoke c failure body =>
      simp only [Plan.reply]
      split_ifs
      · exact wellFormed_resultText id (h.2 _)
      · exact wellFormed_errorText id h.1

theorem printable_commandPlan
    (c : DroneCall) {failure : String}
    (h : PlainMessage failure) :
    (commandPlan c failure).Printable :=
  ⟨h, fun _ => Or.inl rfl⟩

theorem printable_guard
    {p : Prop} [Decidable p] {msg : String} {pl : Plan}
    (hmsg : PlainMessage msg)
    (hpl : pl.Printable) :
    (if p then .refuse msg else pl : Plan).Printable := by
  split_ifs
  · exact hmsg
  · exact hpl

/-- The method prints a floating-point number. -/
def Method.PrintsFloats : Method → Prop
  | .getTelemetry => True
  | .getGimbalAngle => True
  | .getCameraState => True
  | .getRtkStatus => True
  | _ => False

theorem printable_plan
    (P : Platform) (params : Json) {k : Method}
    (hk : k ≠ .uploadKmz)
    (hfloat : ¬ k.PrintsFloats) :
    (k.plan P params).Printable := by
  cases k with
  | uploadKmz =>
      exact absurd rfl hk
  | systemPing =>
      trivial
  | getBatteryInfo =>
      exact ⟨by decide, printableBody_battery⟩
  | getTelemetry | getGimbalAngle | getCameraState | getRtkStatus =>
      exact absurd trivial hfloat
  | setRthAltitude | setCameraMode | setCameraZoom | setHomeLocation
  | setObstacleAvoidance =>
      exact printable_guard (by decide) (printable_commandPlan _ (by decide))
  | setGimbalAngle | shootPhoto | startRecording | stopRecording =>
      exact printable_commandPlan _ (by decide)

/-- A reply is a response text unless it reports an upload or floating-point
numbers. -/
theorem uploadAnswered_or_wellFormed
    (E : Env σ) (w : World σ) {req : RpcRequest}
    (hfloat : ∀ k : Method, req.method = ascii k.name → ¬ k.PrintsFloats) :
    (∃ name, UploadAnswered E w req name) ∨
      WellFormed req.id ((req.plan E.platform).reply E req.id w) := by
  rcases request_cases E w req with hup | ⟨msg, hmsg, hreply⟩ | ⟨k, hk, hm, hplan⟩
  · left
    exact hup
  · right
    rw [hreply]
    exact wellFormed_errorText req.id (plainMessage_uploadErrors msg hmsg)
  · right
    rw [hplan]
    exact wellFormed_of_printable
      (printable_plan E.platform req.params hk (hfloat k hm)) E req.id w

end Printable

/-! ## The reply to an upload -/

/-- What stands in front of the file name. -/
def uploadHead (id : Int32) : Bytes :=
  ascii "\x7b\"id\":" ++ decInt id.toInt ++
    ascii ",\"result\":\x7b\"uploaded\":true,\"file\":\""

/-- What stands between the two occurrences of the file name, up to the quote
that closes the first one. -/
def uploadMiddle : Bytes :=
  ascii ",\"path\":\"" ++ kmzBaseDir ++ ascii "/"

theorem isAscii_uploadHead
    (id : Int32) :
    IsAscii (uploadHead id) := by
  simp only [uploadHead, isAscii_append, isAscii_decInt, and_true]
  decide

theorem isAscii_uploadMiddle :
    IsAscii uploadMiddle := by
  decide

theorem kmzResultText_ne_nil
    (name : Bytes) :
    kmzResultText name ≠ [] := by
  intro hnil
  have hlen := kmzResultText_length name
  rw [hnil, List.length_nil] at hlen
  omega

/-- The reply to an upload, cut at the file name. -/
theorem uploadReply_eq
    (id : Int32) (name : Bytes) :
    resultText id (some (kmzResultText name)) =
      uploadHead id ++ name ++
        34 :: (uploadMiddle ++ name ++ 34 :: ascii "\x7d\x7d") := by
  rw [resultText_eq_objectText id (kmzResultText_ne_nil name) .null]
  simp [objectText, membersText, Member.render, idMember, kmzResultText, uploadHead,
    uploadMiddle, ascii]

theorem isUtf8_uploadReply
    (id : Int32) (name : Bytes) :
    IsUtf8 (resultText id (some (kmzResultText name))) ↔ IsUtf8 name := by
  have hend : IsUtf8 (ascii "\x7d\x7d") := by decide
  rw [uploadReply_eq, isUtf8_around (isAscii_uploadHead id) (by decide),
    isUtf8_around isAscii_uploadMiddle (by decide)]
  simp only [hend, and_true, and_self]

/-- The member `uploaded`. -/
def uploadedMember : Member where
  key := ascii "uploaded"
  text := ascii "true"
  val := .bool true

theorem uploadedMember_ok :
    uploadedMember.Ok :=
  ⟨show Plain (ascii "uploaded") by decide, reads_true⟩

/-- The members of the answer to an upload. -/
def uploadMembers (name : Bytes) : List Member :=
  [uploadedMember,
    { key := ascii "file", text := 34 :: name ++ [34], val := .str name },
    { key := ascii "path", text := 34 :: (kmzBaseDir ++ ascii "/" ++ name) ++ [34],
      val := .str (kmzBaseDir ++ ascii "/" ++ name) }]

theorem plain_append
    {s t : Bytes}
    (hs : Plain s)
    (ht : Plain t) :
    Plain (s ++ t) := by
  intro b hb
  rcases List.mem_append.mp hb with h | h
  · exact hs b h
  · exact ht b h

/-- A plain name is reported as it is. -/
theorem decode_uploadReply
    (id : Int32) {name : Bytes}
    (h : Plain name) :
    decode (resultText id (some (kmzResultText name))) =
      some (resultObject id ((uploadMembers name).map (fun m => (m.key, m.val)))) := by
  apply decode_resultText
  have htext : kmzResultText name = objectText (uploadMembers name) := by
    simp [kmzResultText, objectText, membersText, Member.render, uploadMembers,
      uploadedMember, ascii]
  rw [htext]
  apply reads_object
  have hfile : Plain (ascii "file") := by decide
  have hkey : Plain (ascii "path") := by decide
  have hdir : Plain (kmzBaseDir ++ ascii "/") := by decide
  simp only [uploadMembers, List.mem_cons, List.not_mem_nil, or_false,
    forall_eq_or_imp, forall_eq]
  exact ⟨uploadedMember_ok, ⟨hfile, reads_str h⟩, hkey,
    reads_str (plain_append hdir h)⟩

/-- The literal behind `file` is the second member of any decoding, and it is
closed in front of a comma or a brace. -/
theorem decode_uploadReply_file
    {id : Int32} {name : Bytes} {j : Json}
    (h : decode (resultText id (some (kmzResultText name))) = some j) :
    ∃ us r more rest,
      readString .text
          (name ++ 34 :: (uploadMiddle ++ name ++ 34 :: ascii "\x7d\x7d")) =
        some (us, r) ∧
      j = .obj ((ascii "id", .int id.toInt) ::
        (ascii "result", .obj ((ascii "uploaded", .bool true) ::
          (ascii "file", .str (assemble us)) :: more)) :: rest) ∧
      (expect 125 r ≠ none ∨ expect 44 r ≠ none) := by
  set tail := name ++ 34 :: (uploadMiddle ++ name ++ 34 :: ascii "\x7d\x7d") with htail
  have htext : resultText id (some (kmzResultText name)) =
      123 :: ((idMember id).render ++ 44 :: (34 :: ascii "result" ++ 34 :: 58 ::
        (123 :: (uploadedMember.render ++ 44 ::
          (34 :: ascii "file" ++ 34 :: 58 :: 34 :: tail))))) := by
    rw [uploadReply_eq, htail]
    simp [uploadHead, Member.render, idMember, uploadedMember, ascii]
  have hresult : Plain (ascii "result") := by decide
  have hfile : Plain (ascii "file") := by decide
  obtain ⟨n, hn, hid⟩ : ∃ n,
      (resultText id (some (kmzResultText name))).length + 1 = n + 5 ∧
        (idMember id).text.length < n + 3 ∧ uploadedMember.text.length < n := by
    refine ⟨(resultText id (some (kmzResultText name))).length - 4, ?_⟩
    rw [htext]
    simp [Member.render, idMember, uploadedMember, ascii]
    omega
  obtain ⟨r₀, hread⟩ := readValue_of_decode h
  rw [hn, htext, readValue_object_cons (idMember_ok id) hid.1,
    readMembers_key hresult, readValue_object_cons uploadedMember_ok hid.2] at hread
  obtain ⟨⟨ms, r₁⟩, hmembers, hj⟩ := Option.map_eq_some_iff.mp hread
  obtain ⟨⟨v, r₂⟩, hvalue, hclose⟩ := Option.bind_eq_some_iff.mp hmembers
  obtain ⟨⟨inner, r₃⟩, hinner, hv⟩ := Option.map_eq_some_iff.mp hvalue
  obtain ⟨us, r, more, hstr, rfl, hend⟩ := readMembers_key_str hfile hinner
  obtain ⟨⟨rest, rfl⟩, _⟩ := closeOrComma_head hclose
  cases hv
  cases hj
  exact ⟨us, r, more, rest, hstr, rfl, hend⟩

/-- A reply that names the requested file has read its name as a plain block. -/
theorem plain_of_decode_uploadReply
    {id : Int32} {s : Bytes} {members : List (Bytes × Json)}
    (hdecode : decode (resultText id (some (kmzResultText (cstr s)))) =
      some (resultObject id members))
    (hfile : ∀ v, (ascii "file", v) ∈ members → v = .str s) :
    Plain s ∧ cstr s = s := by
  obtain ⟨us, r, more, rest, hstr, hj, hend⟩ := decode_uploadReply_file hdecode
  simp only [resultObject, Json.obj.injEq, List.cons.injEq, Prod.mk.injEq, true_and]
    at hj
  obtain ⟨rfl, -⟩ := hj
  have hs : assemble us = s := by
    have := hfile (.str (assemble us)) (by simp)
    simpa using this
  have hle : (cstr s).length ≤ (assemble us).length := by
    rw [hs]
    exact cstr_length_le s
  rcases readString_block hstr hle with ⟨_, hplain, heq⟩ | ⟨us₂, hescape⟩
  · rw [hs] at heq
    rw [← heq] at hplain
    exact ⟨hplain, heq.symm⟩
  · -- the escaped quote is followed by a comma and the quote that opens `path`
    exfalso
    have hmiddle : ∃ t, uploadMiddle ++ cstr s ++ 34 :: ascii "\x7d\x7d" =
        44 :: 34 :: 112 :: t := ⟨_, rfl⟩
    obtain ⟨t, ht⟩ := hmiddle
    rw [ht] at hescape
    have hr : r = 112 :: t := by
      simp [readString, simpleEscape] at hescape
      exact hescape.2.symm
    subst hr
    have hws : isWs 112 = false := rfl
    rcases hend with h | h
    · exact h (expect_other hws (by decide) t)
    · exact h (expect_other hws (by decide) t)

/-! ## Which replies are well formed -/

/-- The file name that a request asks for, with any NULs in it. -/
def requestedFile (P : Platform) (params : Json) : Option Bytes :=
  (jsonObjectObjectGetEx params (ascii "file")).bind (jsonObjectGetString P)

theorem rpcParamStr_file
    (P : Platform) (params : Json) :
    rpcParamStr P params (ascii "file") = (requestedFile P params).map cstr := by
  unfold rpcParamStr requestedFile
  cases jsonObjectObjectGetEx params (ascii "file") <;> rfl

/-- The member `file` is there, and it is the string `s` wherever it occurs. -/
def FileIs (members : List (Bytes × Json)) (s : Bytes) : Prop :=
  (∃ v, (ascii "file", v) ∈ members) ∧ ∀ v, (ascii "file", v) ∈ members → v = .str s

section WellFormedReplies

variable {σ : Type} (E : Env σ) (peer : SockaddrIn)

/-- Whatever a line makes the daemon send, if it fits the buffer and prints no
floating-point number, is a JSON text of a response; a success response to an
upload names the requested file. -/
def RepliesWellFormed (line : Bytes) (w : World σ) : Prop :=
  ∀ req, rpcParse E.platform line = some req →
    (∀ k : Method, req.method = ascii k.name → ¬ k.PrintsFloats) →
    ((req.plan E.platform).reply E req.id w).length < droneMaxMsgLen →
    ∀ p buf len, .send p buf len ∈ newEvents E peer line w →
      WellFormed req.id buf ∧
      (req.method = ascii "drone.upload_kmz" →
        ∀ members, decode buf = some (resultObject req.id members) →
          ∃ s, requestedFile E.platform req.params = some s ∧ FileIs members s)

/-- An upload is answered in a reply that fits, for a file name that a string
literal cannot hold unescaped. -/
def UnescapedUpload (line : Bytes) (w : World σ) : Prop :=
  ∃ req s, rpcParse E.platform line = some req ∧
    requestedFile E.platform req.params = some s ∧
    UploadAnswered E w req (cstr s) ∧
    83 + (decInt req.id.toInt).length + 2 * (cstr s).length < droneMaxMsgLen ∧
    ¬ (IsUtf8 s ∧ Plain s)

/-- The reply to an upload that fits. -/
theorem uploadReply_of_fits
    {E : Env σ} {w : World σ} {req : RpcRequest} {name : Bytes}
    (hup : UploadAnswered E w req name)
    (hfit : 83 + (decInt req.id.toInt).length + 2 * name.length < droneMaxMsgLen) :
    (req.plan E.platform).reply E req.id w =
      resultText req.id (some (kmzResultText name)) := by
  have hshort : 66 + 2 * name.length < pathMax + 64 := by
    simp only [droneMaxMsgLen, pathMax] at hfit ⊢
    omega
  rw [reply_of_uploadAnswered hup, (kmzResult_of_short hshort).2]

/-- What is sent for a reply that fits. -/
theorem eq_reply_of_send
    {line : Bytes} {req : RpcRequest} {w : World σ}
    (hreq : rpcParse E.platform line = some req)
    (hfit : ((req.plan E.platform).reply E req.id w).length < droneMaxMsgLen)
    {p : SockaddrIn} {buf : Bytes} {len : Nat}
    (hsend : .send p buf len ∈ newEvents E peer line w) :
    buf = (req.plan E.platform).reply E req.id w := by
  have hwhole := (sendsWhole_iff_fits E peer hreq w).mpr hfit
  exact (hwhole req hreq p buf len hsend).2.2

/-- A name that needs escaping is not reported correctly. -/
theorem not_repliesWellFormed_of_unescaped
    {line : Bytes} {w : World σ}
    (h : UnescapedUpload E line w) :
    ¬ RepliesWellFormed E peer line w := by
  obtain ⟨req, s, hreq, hs, hup, hfit, hbad⟩ := h
  have hreply := uploadReply_of_fits hup hfit
  have hlen : ((req.plan E.platform).reply E req.id w).length < droneMaxMsgLen := by
    rw [reply_of_uploadAnswered hup, upload_reply_fits_iff]
    exact hfit
  have hfloat : ∀ k : Method, req.method = ascii k.name → ¬ k.PrintsFloats := by
    intro k hk
    have hsame : Method.ofText req.method = some .uploadKmz :=
      Method.ofText_eq_some.mpr hup.method
    rw [Method.ofText_eq_some.mpr hk] at hsame
    cases hsame
    exact id
  intro hwf
  have hsend := (send_mem_newEvents E peer hreq w peer _ _).mpr rfl
  obtain ⟨⟨hutf, hkind⟩, hfile⟩ := hwf req hreq hfloat hlen _ _ _ hsend
  rw [eq_reply_of_send E peer hreq hlen hsend, hreply] at hutf hkind hfile
  rcases hkind with ⟨msg, hmsg⟩ | ⟨members, hmembers⟩
  · obtain ⟨us, r, more, rest, _, hj, _⟩ := decode_uploadReply_file hmsg
    simp [errorObject, ascii] at hj
  · obtain ⟨s', hs', _, hall⟩ := hfile hup.method members hmembers
    rw [hs] at hs'
    cases hs'
    obtain ⟨hplain, hcstr⟩ := plain_of_decode_uploadReply hmembers hall
    refine hbad ⟨?_, hplain⟩
    rw [isUtf8_uploadReply, hcstr] at hutf
    exact hutf

/-- The reply to an upload of a plain name. -/
theorem wellFormed_uploadReply
    (id : Int32) {name : Bytes}
    (hutf : IsUtf8 name)
    (hplain : Plain name) :
    WellFormed id (resultText id (some (kmzResultText name))) ∧
      ∀ members,
        decode (resultText id (some (kmzResultText name))) =
          some (resultObject id members) →
        FileIs members name := by
  have hdecode := decode_uploadReply id hplain
  refine ⟨⟨(isUtf8_uploadReply id name).mpr hutf, Or.inr ⟨_, hdecode⟩⟩, ?_⟩
  intro members hmembers
  rw [hdecode] at hmembers
  simp only [resultObject, Option.some.injEq, Json.obj.injEq, List.cons.injEq,
    Prod.mk.injEq, true_and, and_true] at hmembers
  subst hmembers
  constructor
  · exact ⟨.str name, by simp [uploadMembers]⟩
  · intro v hv
    simpa [uploadMembers, uploadedMember, ascii] using hv

/-- **When replies are well formed.**  For every line, exactly unless it uploads
a file whose name is not valid UTF-8 or contains a quote, a backslash or a
control character. -/
theorem repliesWellFormed_iff
    (line : Bytes) (w : World σ) :
    RepliesWellFormed E peer line w ↔ ¬ UnescapedUpload E line w := by
  constructor
  · intro h hbad
    exact not_repliesWellFormed_of_unescaped E peer hbad h
  · intro hgood req hreq hfloat hlen p buf len hsend
    rw [eq_reply_of_send E peer hreq hlen hsend]
    by_cases hm : req.method = ascii "drone.upload_kmz"
    · rcases upload_cases E w hm with ⟨name, hup⟩ | ⟨msg, hmsg, hreply⟩
      · have hname := hup.file
        rw [rpcParamStr_file] at hname
        obtain ⟨s, hs, rfl⟩ := Option.map_eq_some_iff.mp hname
        rw [reply_of_uploadAnswered hup, upload_reply_fits_iff] at hlen
        have hok : IsUtf8 s ∧ Plain s := by
          by_contra hbad
          exact hgood ⟨req, s, hreq, hs, hup, hlen, hbad⟩
        have hzero : (0 : UInt8) ∉ s := fun h0 => by
          simpa [plainByte] using hok.2 0 h0
        rw [uploadReply_of_fits hup hlen, cstr_eq_self hzero]
        obtain ⟨hwf, hfile⟩ := wellFormed_uploadReply req.id hok.1 hok.2
        exact ⟨hwf, fun _ members hmembers => ⟨s, hs, hfile members hmembers⟩⟩
      · have hplain := plainMessage_uploadErrors msg hmsg
        rw [hreply]
        refine ⟨wellFormed_errorText req.id hplain, ?_⟩
        intro _ members hmembers
        rw [decode_errorText req.id hplain.1] at hmembers
        simp [errorObject, resultObject, ascii] at hmembers
    · rcases uploadAnswered_or_wellFormed E w hfloat with ⟨name, hup⟩ | hwf
      · exact absurd hup.method hm
      · exact ⟨hwf, fun h => absurd h hm⟩

end WellFormedReplies

/-- The literal of the file name `a"b`. -/
def quotedNameText : Bytes :=
  ascii "\"a\\\"b\""

theorem reads_quotedNameText :
    Reads quotedNameText (.str (ascii "a\"b")) := by
  intro n r hn _
  obtain ⟨n, rfl⟩ : ∃ m, n = m + 1 := ⟨n - 1, by omega⟩
  have htext : quotedNameText ++ r = 34 :: 97 :: 92 :: 34 :: 98 :: 34 :: r := rfl
  have hname : ascii "a\"b" = [97, 34, 98] := rfl
  rw [htext]
  simp [readValue, skipWs_of_not_ws (b := 34) rfl, readString, simpleEscape,
    assemble, hname]

/-- The reply to an upload of the file `a"b` is no JSON text that names it. -/
theorem upload_of_quote_malformed :
    ¬ RepliesWellFormed stubEnv localPeer
      (requestLine 1 .uploadKmz (fileParam quotedNameText (ascii "a\"b")))
      stubWorld := by
  obtain ⟨req, hreq, hid, hparams, hup⟩ := uploadAnswered_stub reads_quotedNameText
    (by decide) (by decide) (by decide) (by decide) (by decide)
  have hcstr : cstr (ascii "a\"b") = ascii "a\"b" := by decide
  apply not_repliesWellFormed_of_unescaped
  refine ⟨req, ascii "a\"b", hreq, ?_, ?_, ?_, by decide⟩
  · rw [hparams]
    simp [requestedFile, fileParam, jsonObjectObjectGetEx, jsonObjectGetString]
  · rw [hcstr]
    exact hup
  · rw [hid]
    decide

end PsdkBridge
