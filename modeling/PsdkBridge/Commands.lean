import PsdkBridge.KmzUpload
import PsdkBridge.Polls
import PsdkBridge.Lib.JsonWrites

/-!
# The commands that clients can give

The handlers check the parameters of a request before they call a drone function.
`DroneCall.Offered` says which calls are left, in terms of the arguments, and
`DroneCall.request` writes a request for a call, as `rpc.h` describes it.

`commands_accepted` says that the two fit: a run of polls can call any sequence of offered
drone functions, and no other sequence, and the requests that are written for a sequence
lead to it.  The arguments have to be finite values of their types, and a path must not be
so long that its request does not fit a datagram.
-/

namespace PsdkBridge

/-! ## The tokener -/

/-- `json-c` holds the value: it nests at most `n` levels, its integers have 64 bits, its
other numbers are values of the type `double`, and the names in an object are different
and without a NUL. -/
inductive Json.Held : Nat → Json → Prop
  | null {n : Nat} : Held n .null
  | bool {n : Nat} {b : Bool} : Held n (.bool b)
  | int {n : Nat} {i : Int} (h : -2 ^ 63 ≤ i ∧ i < 2 ^ 63) : Held n (.int i)
  | dbl {n : Nat} {q : ℚ} (h : binary64.Holds q) : Held n (.dbl (.fin q))
  | str {n : Nat} {s : Bytes} : Held n (.str s)
  | arr {n : Nat} {elems : List Json} (h : ∀ v ∈ elems, Held n v) :
      Held (n + 1) (.arr elems)
  | obj {n : Nat} {members : List (Bytes × Json)}
      (hnames : (members.map Prod.fst).Nodup)
      (hnul : ∀ m ∈ members, (0 : UInt8) ∉ m.1)
      (h : ∀ m ∈ members, Held n m.2) :
      Held (n + 1) (.obj members)

/-- The tokener reads a JSON text that denotes an object, if it holds the object. -/
def ReadsJson (P : Platform) : Prop :=
  ∀ t members, decode t = some (.obj members) → (Json.obj members).Held 2 →
    ∃ n, P.tokenerParseEx t = some (.obj members, n)

theorem Json.Held.storable
    {n : Nat} {v : Json}
    (h : v.Held n) :
    v.Storable := by
  induction h with
  | null | bool | str =>
      rfl
  | int h =>
      exact storable_int ⟨h.1, by omega⟩
  | dbl h =>
      exact storable_dbl h
  | arr _ ih =>
      exact storable_arr ih
  | obj _ _ _ ih =>
      exact storable_obj ih

theorem readsJson_gnuPlatform :
    ReadsJson gnuPlatform := by
  intro t members h hheld
  obtain ⟨r, hread⟩ := readValue_of_decode h
  refine ⟨t.length - r.length, ?_⟩
  show readFirstValue t = _
  rw [readFirstValue, hread, Option.map_some, hheld.storable]

theorem held_int32
    (n : Nat) (i : Int32) :
    (Json.int i.toInt).Held n := by
  have hlo := Int32.le_toInt i
  have hhi := Int32.toInt_lt i
  exact .int ⟨by omega, by omega⟩

theorem zero_notMem_key
    {m : Member}
    (h : (0 : UInt8) ∉ m.render) :
    (0 : UInt8) ∉ m.key := by
  intro hmem
  refine h ?_
  simp [Member.render, hmem]

/-- `rpc_parse` recovers what a client wrote. -/
theorem rpcParse_of_readsJson
    {P : Platform}
    (hP : ReadsJson P)
    (id : Int32) (k : Method) {params : List Member}
    (hok : ∀ m ∈ params, m.Ok)
    (hzero : ∀ m ∈ params, (0 : UInt8) ∉ m.render)
    (hheld : ∀ m ∈ params, m.val.Held 0)
    (hnames : (params.map Member.key).Nodup) :
    rpcParse P (requestLine id.toInt k params) =
      some {
        id := id
        method := ascii k.name
        params := .obj (params.map (fun m => (m.key, m.val)))
        root := requestObject id.toInt k params } := by
  have hdecode : decode (requestLine id.toInt k params) =
      some (requestObject id.toInt k params) :=
    decode_of_reads (reads_object (requestMembers_ok id.toInt k hok))
  have hparams : (Json.obj (params.map (fun m => (m.key, m.val)))).Held 1 := by
    refine .obj (by simpa [Function.comp_def] using hnames) ?_ ?_
    · simp only [List.forall_mem_map]
      exact fun m hm => zero_notMem_key (hzero m hm)
    · simp only [List.forall_mem_map]
      exact hheld
  have hroot : (requestObject id.toInt k params).Held 2 := by
    have hnames : [ascii "id", ascii "method", ascii "params"].Nodup := by decide
    have hnul : (0 : UInt8) ∉ ascii "id" ∧ (0 : UInt8) ∉ ascii "method" ∧
        (0 : UInt8) ∉ ascii "params" := by
      decide
    refine .obj hnames ?_ ?_ <;>
      simp only [requestMembers, List.map_cons, List.map_nil, List.forall_mem_cons]
    · exact ⟨hnul.1, hnul.2.1, hnul.2.2, List.forall_mem_nil _⟩
    · exact ⟨held_int32 1 id, .str, hparams, List.forall_mem_nil _⟩
  obtain ⟨n, htok⟩ : ∃ n, P.tokenerParseEx (requestLine id.toInt k params) =
      some (requestObject id.toInt k params, n) := hP _ _ hdecode hroot
  obtain ⟨hid, hmethod, hget⟩ := requestObject_get id.toInt k params
  have hobj : jsonObjectIsObject (requestObject id.toInt k params) = true := rfl
  rw [rpcParse, cstr_eq_self (zero_notMem_requestLine id.toInt k hzero), htok]
  simp only [hobj, if_true, hid, hmethod, hget, jsonObjectGetInt, Int32.ofIntClamp_toInt,
    jsonObjectGetString, Option.getD_some, snprintf_name]

/-! ## Calls -/

/-- A finite value of a floating-point type. -/
def FNum.ValueOf (f : BinFormat) (x : FNum) : Prop :=
  ∃ q, x = .fin q ∧ f.Holds q

/-- A name without a path. -/
structure FileName (name : Bytes) : Prop where
  nonempty : name ≠ []
  no_nul : (0 : UInt8) ∉ name
  no_dots : ¬ ascii ".." <:+: name
  no_slash : (47 : UInt8) ∉ name

namespace DroneCall

/-- The handlers let the call through. -/
def Offered : DroneCall → Prop
  | setRthAltitude altM => altM.AtLeast 0
  | setCameraMode mode => ∃ n : Int32, 0 ≤ n ∧ mode = .ofInt n
  | setCameraZoom zoomFactor => zoomFactor.AtLeast 1
  | setHomeLocation loc => loc.lat.Between (-90) 90 ∧ loc.lon.Between (-180) 180
  | setObstacleAvoidance mode => ∃ n : Int32, 0 ≤ n ∧ mode = .ofInt n
  | uploadKmz path => ∃ name, FileName name ∧ path = kmzPath name
  | _ => True

/-- The arguments can be written down. -/
def Writable : DroneCall → Prop
  | setRthAltitude altM => altM.ValueOf binary32
  | setGimbalAngle a =>
      a.pitch.ValueOf binary32 ∧ a.roll.ValueOf binary32 ∧ a.yaw.ValueOf binary32
  | setCameraZoom zoomFactor => zoomFactor.ValueOf binary32
  | setHomeLocation loc =>
      loc.lat.ValueOf binary64 ∧ loc.lon.ValueOf binary64 ∧ loc.altM.ValueOf binary32
  | uploadKmz path => path.length ≤ 600
  | _ => True

end DroneCall

/-- A lower bound on a finite number. -/
theorem atLeast_of_valueOf
    {f : BinFormat} {lo : ℚ} {x : FNum}
    (hx : x.ValueOf f)
    (h : ¬ x.lt (.fin lo) = true) :
    x.AtLeast lo := by
  obtain ⟨q, rfl, _⟩ := hx
  exact ⟨q, rfl, by simpa using h⟩

/-- **Only offered calls.**  Whatever the parameters, if a method calls a drone function
with arguments that can be written down, then the call is offered. -/
theorem offered_of_plan
    {P : Platform} {params : Json} {k : Method} {c : DroneCall}
    (h : (k.plan P params).command = some c)
    (hc : c.Writable) :
    c.Offered := by
  cases k with
  | systemPing =>
      cases h
  | uploadKmz =>
      rcases uploadPlan_cases P params with
        ⟨_, _, hplan⟩ | ⟨name, hname, hempty, hdots, hslash, hplan⟩
      · rw [hplan] at h
        cases h
      · rw [hplan] at h
        obtain rfl := Option.some.inj h
        exact ⟨name, ⟨hempty, zero_notMem_of_rpcParamStr hname, of_decide_eq_false hdots,
          of_decide_eq_false hslash⟩, rfl⟩
  | setRthAltitude =>
      simp only [Method.plan] at h
      split_ifs at h with hlt
      · cases h
      · obtain rfl := Option.some.inj h
        exact atLeast_of_valueOf hc hlt
  | setCameraZoom =>
      simp only [Method.plan] at h
      split_ifs at h with hlt
      · cases h
      · obtain rfl := Option.some.inj h
        exact atLeast_of_valueOf hc hlt
  | setCameraMode =>
      simp only [Method.plan] at h
      split_ifs at h with hlt
      · cases h
      · obtain rfl := Option.some.inj h
        exact ⟨_, Int32.not_lt.mp hlt, rfl⟩
  | setObstacleAvoidance =>
      simp only [Method.plan] at h
      split_ifs at h with hlt
      · cases h
      · obtain rfl := Option.some.inj h
        exact ⟨_, Int32.not_lt.mp hlt, rfl⟩
  | setHomeLocation =>
      simp only [Method.plan] at h
      split_ifs at h with hlt
      · cases h
      · obtain rfl := Option.some.inj h
        obtain ⟨⟨lat, hlat, _⟩, ⟨lon, hlon, _⟩, _⟩ := hc
        simp only at hlat hlon
        rw [hlat, hlon] at hlt
        simp only [FNum.gt_fin_fin, FNum.lt_fin_fin, Bool.or_eq_true, decide_eq_true_eq,
          not_or, not_lt] at hlt
        exact ⟨⟨lat, hlat, hlt.1.1.2, hlt.1.1.1⟩, ⟨lon, hlon, hlt.2, hlt.1.2⟩⟩
  | _ =>
      obtain rfl := Option.some.inj h
      trivial

/-! ## Writing a request -/

/-- The number behind a finite value. -/
def FNum.toRat : FNum → ℚ
  | .fin q => q
  | _ => 0

/-- The integer behind a mode. -/
def ObstacleAvoidMode.toInt : ObstacleAvoidMode → Int32
  | .close => 0
  | .opened => 1
  | .brake => 2
  | .other n => n

/-- The values of the type `double` have up to 1074 decimals. -/
def writeNumber (key : String) (x : FNum) : Member where
  key := ascii key
  text := numeral 1074 x.toRat
  val := .dbl (.fin x.toRat)

def writeInt (key : String) (i : Int32) : Member where
  key := ascii key
  text := decInt i.toInt
  val := .int i.toInt

def writeText (key : String) (s : Bytes) : Member where
  key := ascii key
  text := quoted s
  val := .str s

namespace DroneCall

/-- The parameters of a request for the call. -/
def params : DroneCall → List Member
  | setRthAltitude altM => [writeNumber "altitude_m" altM]
  | setGimbalAngle a =>
      [writeNumber "pitch" a.pitch, writeNumber "roll" a.roll, writeNumber "yaw" a.yaw]
  | setCameraMode mode => [writeInt "mode" mode.toInt]
  | setCameraZoom zoomFactor => [writeNumber "zoom_factor" zoomFactor]
  | setHomeLocation loc =>
      [writeNumber "lat" loc.lat, writeNumber "lon" loc.lon, writeNumber "alt_m" loc.altM]
  | setObstacleAvoidance mode => [writeInt "mode" mode.toInt]
  | uploadKmz path => [writeText "file" (path.drop (kmzBaseDir.length + 1))]
  | _ => []

/-- A request for the call. -/
def request (id : Int32) (c : DroneCall) : Bytes :=
  requestLine id.toInt c.method c.params

end DroneCall

/-- The parameters have different names. -/
theorem params_nodup
    (c : DroneCall) :
    (c.params.map Member.key).Nodup := by
  cases c with
  | setGimbalAngle a =>
      show [ascii "pitch", ascii "roll", ascii "yaw"].Nodup
      decide
  | setHomeLocation loc =>
      show [ascii "lat", ascii "lon", ascii "alt_m"].Nodup
      decide
  | setRthAltitude | setCameraMode | setCameraZoom | setObstacleAvoidance | uploadKmz =>
      exact List.nodup_singleton _
  | _ =>
      exact List.nodup_nil

/-- The member can stand in a request, and takes up to `n` bytes there. -/
structure Member.Sent (n : Nat) (m : Member) : Prop where
  ok : m.Ok
  no_nul : (0 : UInt8) ∉ m.render
  held : m.val.Held 0
  short : m.render.length ≤ n

theorem zero_notMem_render
    {m : Member}
    (hkey : Plain m.key)
    (htext : (0 : UInt8) ∉ m.text) :
    (0 : UInt8) ∉ m.render := by
  have hzero : (0 : UInt8) ∉ m.key := by
    intro hmem
    have hplain := hkey 0 hmem
    revert hplain
    decide
  simp [Member.render, hzero, htext]

section Sent

variable {key : String} (hkey : Plain (ascii key)) (hlen : (ascii key).length ≤ 11)
include hkey hlen

theorem sent_writeNumber
    {f : BinFormat} {x : FNum}
    (hx : x.ValueOf f)
    (hf : ∀ q, f.Holds q → binary64.Holds q)
    (hrange : ∀ q, x = .fin q → |q| < 2 ^ 128) :
    (writeNumber key x).Sent 1129 := by
  obtain ⟨q, rfl, hq⟩ := hx
  have hheld := hf q hq
  have hdecimals : HasDecimals 1074 q := hheld.decimals (by decide)
  have hlength : (numeral 1074 q).length ≤ 39 + 1074 + 2 := by
    refine numeral_length_le hdecimals (by norm_num) (by norm_num) ?_
    have hbound := hrange q rfl
    norm_num at hbound ⊢
    linarith
  refine ⟨⟨hkey, reads_numeral hdecimals (by norm_num)⟩, ?_, .dbl hheld, ?_⟩
  · exact zero_notMem_render hkey (notMem_fixedNumeral rfl (by decide) (by decide) _ _ _)
  · simp only [Member.render, writeNumber, FNum.toRat, List.length_cons, List.length_append]
    omega

theorem sent_writeInt
    (i : Int32) :
    (writeInt key i).Sent 1129 := by
  have hlength := decInt_id_length_le i
  refine ⟨⟨hkey, reads_int i.toInt⟩, ?_, held_int32 0 i, ?_⟩
  · exact zero_notMem_render hkey (notMem_decInt rfl (by decide) _)
  · simp only [Member.render, writeInt, List.length_cons, List.length_append]
    omega

theorem sent_writeText
    {s : Bytes} {n : Nat}
    (hs : s.length ≤ n) :
    (writeText key s).Sent (6 * n + 16) := by
  have hlength := quoted_length_le s
  refine ⟨⟨hkey, reads_quoted s⟩, ?_, .str, ?_⟩
  · refine zero_notMem_render hkey fun hmem => ?_
    exact not_control_of_mem_quoted hmem (by decide)
  · simp only [Member.render, writeText, List.length_cons, List.length_append]
    omega

end Sent

/-- A value of the type `float`. -/
theorem sent_writeFloat
    {key : String} {x : FNum}
    (hkey : Plain (ascii key))
    (hlen : (ascii key).length ≤ 11)
    (hx : x.ValueOf binary32) :
    (writeNumber key x).Sent 1129 := by
  refine sent_writeNumber hkey hlen hx ?_ ?_
  · exact fun q hq => hq.widen (by decide) (by decide) (by decide)
  · rintro q rfl
    obtain ⟨_, ⟨⟩, hq⟩ := hx
    simpa [binary32] using (BinFormat.holds_iff.mp hq).2

/-- An angle of the type `double`. -/
theorem sent_writeAngle
    {key : String} {x : FNum} {b : ℚ}
    (hkey : Plain (ascii key))
    (hlen : (ascii key).length ≤ 11)
    (hx : x.ValueOf binary64)
    (hrange : x.Between (-b) b)
    (hb : b < 2 ^ 128) :
    (writeNumber key x).Sent 1129 := by
  refine sent_writeNumber hkey hlen hx (fun _ hq => hq) ?_
  rintro q rfl
  obtain ⟨_, ⟨⟩, hlo, hhi⟩ := hrange
  exact (abs_le.mpr ⟨hlo, hhi⟩).trans_lt hb

/-- The parameters of an offered call can stand in a request. -/
theorem sent_params
    {c : DroneCall}
    (hoffered : c.Offered)
    (hwritable : c.Writable) :
    ∃ n, (∀ m ∈ c.params, m.Sent n) ∧ c.params.length * (n + 1) ≤ 3500 := by
  cases c with
  | setRthAltitude x | setCameraZoom x =>
      refine ⟨1129, fun m hm => ?_, by simp [DroneCall.params]⟩
      obtain rfl := List.mem_singleton.mp hm
      exact sent_writeFloat (by decide) (by decide) hwritable
  | setCameraMode mode | setObstacleAvoidance mode =>
      refine ⟨1129, fun m hm => ?_, by simp [DroneCall.params]⟩
      obtain rfl := List.mem_singleton.mp hm
      exact sent_writeInt (by decide) (by decide) _
  | setGimbalAngle a =>
      refine ⟨1129, fun m hm => ?_, by simp [DroneCall.params]⟩
      obtain ⟨hpitch, hroll, hyaw⟩ := hwritable
      simp only [DroneCall.params, List.mem_cons, List.not_mem_nil, or_false] at hm
      rcases hm with rfl | rfl | rfl
      · exact sent_writeFloat (by decide) (by decide) hpitch
      · exact sent_writeFloat (by decide) (by decide) hroll
      · exact sent_writeFloat (by decide) (by decide) hyaw
  | setHomeLocation loc =>
      refine ⟨1129, fun m hm => ?_, by simp [DroneCall.params]⟩
      obtain ⟨hlat, hlon, halt⟩ := hwritable
      simp only [DroneCall.params, List.mem_cons, List.not_mem_nil, or_false] at hm
      rcases hm with rfl | rfl | rfl
      · exact sent_writeAngle (by decide) (by decide) hlat hoffered.1 (by norm_num)
      · exact sent_writeAngle (by decide) (by decide) hlon hoffered.2 (by norm_num)
      · exact sent_writeFloat (by decide) (by decide) halt
  | uploadKmz path =>
      refine ⟨6 * 571 + 16, fun m hm => ?_, by simp [DroneCall.params]⟩
      obtain rfl := List.mem_singleton.mp hm
      refine sent_writeText (by decide) (by decide) ?_
      have hlen : path.length ≤ 600 := hwritable
      have hbase : kmzBaseDir.length = 28 := rfl
      rw [List.length_drop]
      omega
  | _ =>
      exact ⟨0, List.forall_mem_nil _, by decide⟩

/-! ## What the handlers make of it -/

/-- A value survives the conversion to its own type. -/
theorem convert_of_valueOf
    {f : BinFormat} {x : FNum}
    (hx : x.ValueOf f) :
    f.convert (.fin x.toRat) = x := by
  obtain ⟨q, rfl, hq⟩ := hx
  exact hq

theorem fin_toRat
    {f : BinFormat} {x : FNum}
    (hx : x.ValueOf f) :
    .fin x.toRat = x := by
  obtain ⟨q, rfl, _⟩ := hx
  rfl

theorem not_lt_of_atLeast
    {lo : ℚ} {x : FNum}
    (h : x.AtLeast lo) :
    x.lt (.fin lo) = false := by
  obtain ⟨q, rfl, hq⟩ := h
  simpa using hq

theorem ofInt_toInt_cameraMode
    {n : Int32} :
    (CameraMode.ofInt n).toInt = n := by
  unfold CameraMode.ofInt
  split_ifs with h₀ h₁
  · exact h₀.symm
  · exact h₁.symm
  · rfl

theorem ofInt_toInt_obstacleAvoidMode
    {n : Int32} :
    (ObstacleAvoidMode.ofInt n).toInt = n := by
  unfold ObstacleAvoidMode.ofInt
  split_ifs with h₀ h₁ h₂
  · exact h₀.symm
  · exact h₁.symm
  · exact h₂.symm
  · rfl

/-- A short path is not cut, so that the name can be read off it. -/
theorem drop_kmzPath
    {name : Bytes}
    (h : (kmzPath name).length ≤ 600) :
    (kmzPath name).drop (kmzBaseDir.length + 1) = name := by
  have hbase : kmzBaseDir.length = 28 := rfl
  have hmax : pathMax = 4096 := rfl
  rw [kmzPath_eq] at h ⊢
  have hshort : name.length ≤ pathMax - 30 := by
    simp only [List.length_append, List.length_cons, List.length_take] at h
    omega
  rw [List.take_of_length_le hshort, ← List.drop_drop, List.drop_left]
  rfl

/-- The handler of an offered call finds its parameters and calls it. -/
theorem command_params
    (P : Platform) {c : DroneCall}
    (hoffered : c.Offered)
    (hwritable : c.Writable) :
    (c.method.plan P (.obj (c.params.map (fun m => (m.key, m.val))))).command = some c := by
  cases c with
  | setRthAltitude altM =>
      have hparam : rpcParamDouble P (.obj ((DroneCall.setRthAltitude altM).params.map
          (fun m => (m.key, m.val)))) (ascii "altitude_m") (.fin (-1)) =
          .fin altM.toRat := rfl
      have hlt := not_lt_of_atLeast hoffered
      simp only [DroneCall.method, Method.plan, hparam, convert_of_valueOf hwritable, hlt]
      rfl
  | setCameraZoom zoomFactor =>
      have hparam : rpcParamDouble P (.obj ((DroneCall.setCameraZoom zoomFactor).params.map
          (fun m => (m.key, m.val)))) (ascii "zoom_factor") (.fin (-1)) =
          .fin zoomFactor.toRat := rfl
      have hlt := not_lt_of_atLeast hoffered
      simp only [DroneCall.method, Method.plan, hparam, convert_of_valueOf hwritable, hlt]
      rfl
  | setCameraMode mode =>
      obtain ⟨n, hn, rfl⟩ := hoffered
      have hparam : rpcParamInt P (.obj ((DroneCall.setCameraMode (.ofInt n)).params.map
          (fun m => (m.key, m.val)))) (ascii "mode") (-1) = n := by
        show Int32.ofIntClamp (CameraMode.ofInt n).toInt.toInt = n
        rw [ofInt_toInt_cameraMode, Int32.ofIntClamp_toInt]
      simp only [DroneCall.method, Method.plan, hparam, if_neg (Int32.not_lt.mpr hn)]
      rfl
  | setObstacleAvoidance mode =>
      obtain ⟨n, hn, rfl⟩ := hoffered
      have hparam : rpcParamInt P (.obj ((DroneCall.setObstacleAvoidance (.ofInt n)).params.map
          (fun m => (m.key, m.val)))) (ascii "mode") (-1) = n := by
        show Int32.ofIntClamp (ObstacleAvoidMode.ofInt n).toInt.toInt = n
        rw [ofInt_toInt_obstacleAvoidMode, Int32.ofIntClamp_toInt]
      simp only [DroneCall.method, Method.plan, hparam, if_neg (Int32.not_lt.mpr hn)]
      rfl
  | setGimbalAngle a =>
      obtain ⟨hpitch, hroll, hyaw⟩ := hwritable
      have hplan : (Method.setGimbalAngle.plan P (.obj ((DroneCall.setGimbalAngle a).params.map
          (fun m => (m.key, m.val))))).command = some (.setGimbalAngle {
            pitch := binary32.convert (.fin a.pitch.toRat)
            roll := binary32.convert (.fin a.roll.toRat)
            yaw := binary32.convert (.fin a.yaw.toRat) }) := rfl
      rw [DroneCall.method, hplan, convert_of_valueOf hpitch, convert_of_valueOf hroll,
        convert_of_valueOf hyaw]
  | setHomeLocation loc =>
      obtain ⟨hlat, hlon, halt⟩ := hwritable
      obtain ⟨⟨lat, hlatq, hlatLo, hlatHi⟩, ⟨lon, hlonq, hlonLo, hlonHi⟩⟩ := hoffered
      have hlatParam : rpcParamDouble P (.obj ((DroneCall.setHomeLocation loc).params.map
          (fun m => (m.key, m.val)))) (ascii "lat") (.fin 999) = .fin loc.lat.toRat := rfl
      have hlonParam : rpcParamDouble P (.obj ((DroneCall.setHomeLocation loc).params.map
          (fun m => (m.key, m.val)))) (ascii "lon") (.fin 999) = .fin loc.lon.toRat := rfl
      have haltParam : rpcParamDouble P (.obj ((DroneCall.setHomeLocation loc).params.map
          (fun m => (m.key, m.val)))) (ascii "alt_m") (.fin 0) = .fin loc.altM.toRat := rfl
      rw [fin_toRat hlat] at hlatParam
      rw [fin_toRat hlon] at hlonParam
      have hinside : (loc.lat.gt (.fin 90) || loc.lat.lt (.fin (-90)) ||
          loc.lon.gt (.fin 180) || loc.lon.lt (.fin (-180))) = false := by
        simp [hlatq, hlonq, hlatLo, hlatHi, hlonLo, hlonHi]
      simp only [DroneCall.method, Method.plan, hlatParam, hlonParam, haltParam,
        convert_of_valueOf halt, hinside]
      rfl
  | uploadKmz path =>
      obtain ⟨name, hname, rfl⟩ := hoffered
      have hparam : rpcParamStr P (.obj ((DroneCall.uploadKmz (kmzPath name)).params.map
          (fun m => (m.key, m.val)))) (ascii "file") = some name := by
        show some (cstr ((kmzPath name).drop (kmzBaseDir.length + 1))) = some name
        rw [drop_kmzPath hwritable, cstr_eq_self hname.no_nul]
      have hdots : strstr name (ascii "..") = false := decide_eq_false hname.no_dots
      have hslash : strchr name 47 = false := decide_eq_false hname.no_slash
      simp only [DroneCall.method, Method.plan, hparam, uploadPlan, if_neg hname.nonempty,
        hdots, hslash]
      rfl
  | _ =>
      rfl

/-! ## Datagrams -/

theorem membersText_length_le
    {n : Nat} {ms : List Member}
    (h : ∀ m ∈ ms, m.render.length ≤ n) :
    (membersText ms).length ≤ ms.length * (n + 1) + 1 := by
  induction ms with
  | nil =>
      simp [membersText]
  | cons m ms ih =>
      have hm := h m List.mem_cons_self
      have ih := ih fun m' hm' => h m' (List.mem_cons_of_mem m hm')
      cases ms with
      | nil =>
          simp only [membersText, List.length_append, List.length_cons, List.length_nil]
          omega
      | cons m' ms =>
          simp only [membersText, List.length_append, List.length_cons] at ih ⊢
          rw [Nat.add_mul]
          omega

theorem name_length_le
    (k : Method) :
    (ascii k.name).length ≤ 28 := by
  cases k <;> decide

/-- A request fits a datagram. -/
theorem request_length_lt
    {c : DroneCall}
    (hoffered : c.Offered)
    (hwritable : c.Writable)
    (id : Int32) :
    (c.request id).length < droneMaxMsgLen := by
  obtain ⟨n, hsent, hroom⟩ := sent_params hoffered hwritable
  have hparams := membersText_length_le fun m hm => (hsent m hm).short
  have hid := decInt_id_length_le id
  have hname := name_length_le c.method
  have hmax : droneMaxMsgLen = 4096 := rfl
  have hkeys : (ascii "id").length = 2 ∧ (ascii "method").length = 6 ∧
      (ascii "params").length = 6 := ⟨rfl, rfl, rfl⟩
  simp only [DroneCall.request, requestLine, requestMembers, objectText, membersText,
    Member.render, List.length_append, List.length_cons, List.length_nil, hkeys]
  omega

theorem exists_membersText
    (ms : List Member) :
    ∃ t, membersText ms = t ++ [125] := by
  induction ms with
  | nil =>
      exact ⟨[], rfl⟩
  | cons m ms ih =>
      cases ms with
      | nil =>
          exact ⟨m.render, rfl⟩
      | cons m' ms =>
          obtain ⟨t, ht⟩ := ih
          refine ⟨m.render ++ 44 :: t, ?_⟩
          show m.render ++ 44 :: membersText (m' :: ms) = _
          rw [ht, List.append_assoc, List.cons_append]

/-- The text of an object is received as it is. -/
theorem messageOf_objectText
    {ms : List Member}
    (h : (objectText ms).length < droneMaxMsgLen) :
    messageOf (objectText ms) = objectText ms := by
  have hwhole : (objectText ms).take (droneMaxMsgLen - 1) = objectText ms :=
    List.take_of_length_le (by omega)
  obtain ⟨t, ht⟩ := exists_membersText ms
  rw [messageOf, hwhole, objectText, ht, ← List.cons_append,
    List.rdropWhile_concat_neg _ _ _ (by decide)]

/-! ## Runs of polls -/

/-- The drone function that an event calls. -/
def Event.called : Event → Option DroneCall
  | .call c _ => some c
  | .send _ _ _ => none

section Runs

variable {σ : Type} (P : Platform) (D : DroneCtrl σ)

/-- The drone functions that a run of polls calls, in order. -/
def callsMade (s : UdpServer × World σ) (ps : List (Poll σ)) : List DroneCall :=
  ((ps.foldl (pollStep P D) s).2.events.drop s.2.events.length).filterMap Event.called

/-- The call that the datagram of a poll leads to. -/
def Poll.command (p : Poll σ) : Option DroneCall :=
  (p.request P).bind (fun r => (r.2.plan P).command)

theorem called_calls
    (E : Env σ) (w : World σ) (pl : Plan) :
    (pl.calls E w).filterMap Event.called = pl.command.toList := by
  cases pl with
  | ping | refuse | invoke =>
      rfl

/-- One poll makes the call that its datagram leads to. -/
theorem serve_called
    (w : World σ) (p : Poll σ) :
    ∃ evs, (serve P D w p).events = w.events ++ evs ∧
      evs.filterMap Event.called = (p.command P).toList := by
  cases hreq : p.request P with
  | none =>
      refine ⟨[], ?_, ?_⟩
      · rw [serve_of_none hreq, List.append_nil]
      · simp [Poll.command, hreq]
  | some r =>
      obtain ⟨peer, req⟩ := r
      refine ⟨_, by rw [serve_events hreq, List.append_assoc], ?_⟩
      rw [List.filterMap_append, called_calls]
      simp [Poll.command, hreq, sendEvent, Event.called]

theorem serves_called
    (ps : List (Poll σ)) (w : World σ) :
    ∃ evs, (ps.foldl (serve P D) w).events = w.events ++ evs ∧
      evs.filterMap Event.called = ps.filterMap (Poll.command P) := by
  induction ps generalizing w with
  | nil =>
      exact ⟨[], (List.append_nil _).symm, rfl⟩
  | cons p ps ih =>
      obtain ⟨evs, hfirst, hcall⟩ := serve_called P D w p
      obtain ⟨evs', hrest, hcalls⟩ := ih (serve P D w p)
      refine ⟨evs ++ evs', ?_, ?_⟩
      · rw [List.foldl_cons, hrest, hfirst, List.append_assoc]
      · rw [List.filterMap_append, hcall, hcalls]
        cases hp : p.command P <;> simp [hp]

/-- The calls of a run are those of its datagrams. -/
theorem callsMade_eq
    (s : UdpServer × World σ) (ps : List (Poll σ)) :
    callsMade P D s ps = ps.filterMap (Poll.command P) := by
  obtain ⟨evs, hevents, hcalls⟩ := serves_called P D ps s.2
  rw [callsMade, pollSteps_eq_serves, hevents, List.drop_left, hcalls]

/-- The poll brings a request for the call. -/
def Poll.Asks (p : Poll σ) (c : DroneCall) : Prop :=
  ∃ peer id, p.rx = some (peer, c.request id)

variable {P}

theorem command_of_asks
    (hP : ReadsJson P)
    {p : Poll σ} {c : DroneCall}
    (h : p.Asks c)
    (hoffered : c.Offered)
    (hwritable : c.Writable) :
    p.command P = some c := by
  obtain ⟨peer, id, hrx⟩ := h
  obtain ⟨n, hsent, _⟩ := sent_params hoffered hwritable
  have hparse := rpcParse_of_readsJson hP id c.method (fun m hm => (hsent m hm).ok)
    (fun m hm => (hsent m hm).no_nul) (fun m hm => (hsent m hm).held) (params_nodup c)
  have hmessage : messageOf (c.request id) = c.request id :=
    messageOf_objectText (request_length_lt hoffered hwritable id)
  have hne : c.request id ≠ [] := List.cons_ne_nil _ _
  have hrequest : p.request P = some (peer, {
      id := id
      method := ascii c.method.name
      params := .obj (c.params.map (fun m => (m.key, m.val)))
      root := requestObject id.toInt c.method c.params }) := by
    simp only [Poll.request, hrx, hmessage, if_neg hne]
    rw [DroneCall.request, hparse]
    rfl
  simp only [Poll.command, hrequest, Option.bind_some]
  rw [plan_of_name (k := c.method) rfl]
  exact command_params P hoffered hwritable

theorem offered_of_command
    {p : Poll σ} {c : DroneCall}
    (h : p.command P = some c)
    (hwritable : c.Writable) :
    c.Offered := by
  obtain ⟨⟨peer, req⟩, _, hplan⟩ := Option.bind_eq_some_iff.mp h
  unfold RpcRequest.plan at hplan
  cases hk : Method.ofText req.method with
  | none =>
      simp [hk, Plan.command] at hplan
  | some k =>
      simp only [hk] at hplan
      exact offered_of_plan hplan hwritable

/-- A poll with a request for the call. -/
def askingPoll (peer : SockaddrIn) (id : Int32) (c : DroneCall) : Poll σ where
  between := fun ctrl => ctrl
  rx := some (peer, c.request id)
  startClock := ⟨0, 0⟩
  nowClock := ⟨0, 0⟩

/-- **What clients can make the drone do.**  From any state of the daemon: a sequence of
drone calls, whose arguments can be written down, is made in some run of polls exactly if
all of them are offered; and then it is made in every run whose datagrams are the requests
for them, each of which fits a datagram. -/
theorem commands_accepted
    (hP : ReadsJson P)
    (D : DroneCtrl σ) (s : UdpServer × World σ) {cs : List DroneCall}
    (hwritable : ∀ c ∈ cs, c.Writable) :
    ((∃ ps, callsMade P D s ps = cs) ↔ ∀ c ∈ cs, c.Offered) ∧
      (∀ ps, List.Forall₂ Poll.Asks ps cs → (∀ c ∈ cs, c.Offered) →
        callsMade P D s ps = cs) ∧
      ∀ c ∈ cs, c.Offered → ∀ id, (c.request id).length < droneMaxMsgLen := by
  have hrun : ∀ ps, List.Forall₂ Poll.Asks ps cs → (∀ c ∈ cs, c.Offered) →
      callsMade P D s ps = cs := by
    intro ps hasks hoffered
    rw [callsMade_eq]
    induction hasks with
    | nil =>
        rfl
    | cons hpc _ ih =>
        have hcommand := command_of_asks hP hpc (hoffered _ List.mem_cons_self)
          (hwritable _ List.mem_cons_self)
        rw [List.filterMap_cons_some hcommand,
          ih (fun c hc => hwritable c (List.mem_cons_of_mem _ hc))
            (fun c hc => hoffered c (List.mem_cons_of_mem _ hc))]
  refine ⟨⟨?_, fun hoffered => ?_⟩, hrun,
    fun c hc hoffered id => request_length_lt hoffered (hwritable c hc) id⟩
  · rintro ⟨ps, rfl⟩ c hc
    have hmem := hc
    rw [callsMade_eq] at hmem
    obtain ⟨p, _, hp⟩ := List.mem_filterMap.mp hmem
    exact offered_of_command hp (hwritable c hc)
  · refine ⟨cs.map (askingPoll localPeer 0), hrun _ ?_ hoffered⟩
    rw [List.forall₂_map_left_iff, List.forall₂_same]
    exact fun c _ => ⟨localPeer, 0, rfl⟩

end Runs

/-- Two requests with numbers and one with a name that has to be escaped. -/
theorem commands_accepted_three :
    callsMade gnuPlatform stubEnv.droneCtrl (udpServerCreate, stubWorld)
      ([.setCameraZoom (.fin (5 / 2)),
        .setHomeLocation { lat := .fin (-90), lon := .fin (1 / 4), altM := .fin 0 },
        .uploadKmz (kmzPath (ascii "a\"b.kmz"))].map (askingPoll localPeer 7)) =
      [.setCameraZoom (.fin (5 / 2)),
        .setHomeLocation { lat := .fin (-90), lon := .fin (1 / 4), altM := .fin 0 },
        .uploadKmz (kmzPath (ascii "a\"b.kmz"))] := by
  refine (commands_accepted readsJson_gnuPlatform _ _ ?_).2.1 _ ?_ ?_
  · intro c hc
    simp only [List.mem_cons, List.not_mem_nil, or_false] at hc
    rcases hc with rfl | rfl | rfl
    · exact ⟨_, rfl, by decide +kernel⟩
    · exact ⟨⟨_, rfl, by decide +kernel⟩, ⟨_, rfl, by decide +kernel⟩,
        ⟨_, rfl, by decide +kernel⟩⟩
    · show (kmzPath (ascii "a\"b.kmz")).length ≤ 600
      decide +kernel
  · rw [List.forall₂_map_left_iff, List.forall₂_same]
    exact fun c _ => ⟨localPeer, 7, rfl⟩
  · intro c hc
    simp only [List.mem_cons, List.not_mem_nil, or_false] at hc
    rcases hc with rfl | rfl | rfl
    · exact ⟨5 / 2, rfl, by norm_num⟩
    · exact ⟨⟨-90, rfl, by norm_num⟩, ⟨1 / 4, rfl, by norm_num⟩⟩
    · exact ⟨_, ⟨by decide, by decide, by decide, by decide⟩, rfl⟩

end PsdkBridge
