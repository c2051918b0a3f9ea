import PsdkBridge.Dispatch
import PsdkBridge.Lib.Paths
import PsdkBridge.RealCalls

/-!
# Uploading a file

`drone.upload_kmz` names a file in a fixed directory.  The handler refuses names
with a slash or a double dot, puts the rest behind the directory, and
`drone_upload_kmz` reads the file and hands it to the SDK.

`upload_confined` is about the path: whatever the request says, it stays in the
directory, also where the buffer for the path is too small for the name.
`wholeUpload_iff` is about the contents.  The size of the file is a `long`, which is
used as it is for the read, and cut to 32 bits for the buffer and for the upload.
-/

namespace PsdkBridge

/-- `/`. -/
def slash : UInt8 := 47

/-- `.`. -/
def fullStop : UInt8 := 46

/-- The path leads to the directory of the files, or to an entry of it. -/
def Confined (path : Bytes) : Prop :=
  LiesIn slash fullStop kmzBaseDir path

/-- The directory has the four components of its name. -/
example : normalise slash fullStop kmzBaseDir =
    [ascii "home", ascii "orangepi", ascii "PSDK", ascii "kmz_data"] := by
  decide

section Names

variable {name : Bytes}

/-- The path, which may be cut short, ends with a piece of the name. -/
theorem kmzPath_eq
    (name : Bytes) :
    kmzPath name = kmzBaseDir ++ slash :: name.take (pathMax - 30) := by
  have hbase : kmzBaseDir.length = 28 := rfl
  rw [kmzPath, snprintf, List.append_assoc, List.take_append, List.take_of_length_le]
  · rw [hbase]
    rfl
  · rw [hbase]
    decide

/-- A name that passes the checks of the handler. -/
theorem confined_kmzPath
    (hslash : strchr name 47 = false)
    (hdots : strstr name (ascii "..") = false) :
    Confined (kmzPath name) := by
  have hslash' : slash ∉ name := of_decide_eq_false hslash
  have hdots' : ¬ [fullStop, fullStop] <:+: name := of_decide_eq_false hdots
  rw [kmzPath_eq]
  refine liesIn_append slash fullStop rfl (fun h => ?_) (fun h => ?_)
  · exact hslash' (List.mem_of_mem_take h)
  · exact hdots' (h.trans (List.take_prefix _ _).isInfix)

/-- The path has no NUL, if the name has none. -/
theorem zero_notMem_kmzPath
    (h : (0 : UInt8) ∉ name) :
    (0 : UInt8) ∉ kmzPath name := by
  rw [kmzPath_eq]
  intro hmem
  rcases List.mem_append.mp hmem with hmem | hmem
  · exact absurd hmem (by decide)
  · rcases List.mem_cons.mp hmem with hzero | hmem
    · exact absurd hzero (by decide)
    · exact h (List.mem_of_mem_take hmem)

end Names

/-! ## The path of a request -/

/-- The name that a request gives is a C string. -/
theorem zero_notMem_of_rpcParamStr
    {P : Platform} {params : Json} {key name : Bytes}
    (h : rpcParamStr P params key = some name) :
    (0 : UInt8) ∉ name := by
  have hcstr : ∀ s, (0 : UInt8) ∉ cstr s := by
    intro s hmem
    simpa using List.mem_takeWhile_imp hmem
  unfold rpcParamStr at h
  cases hv : jsonObjectObjectGetEx params key with
  | none =>
      simp [hv] at h
  | some v =>
      simp only [hv, Option.map_eq_some_iff] at h
      obtain ⟨s, _, rfl⟩ := h
      exact hcstr s

/-- The name behind an upload has passed the checks. -/
theorem path_of_plan
    {P : Platform} {params : Json} {path : Bytes} {failure : String}
    {body : Unit → Option Bytes}
    (h : Method.uploadKmz.plan P params = .invoke (.uploadKmz path) failure body) :
    Confined path ∧ (0 : UInt8) ∉ path := by
  rcases uploadPlan_cases P params with
    ⟨_, _, hrefuse⟩ | ⟨name, hname, _, hdots, hslash, hinvoke⟩
  · rw [hrefuse] at h
    cases h
  · rw [hinvoke] at h
    cases h
    exact ⟨confined_kmzPath hslash hdots,
      zero_notMem_kmzPath (zero_notMem_of_rpcParamStr hname)⟩

/-- Every file that is uploaded lies in the directory. -/
def UploadsConfined (evs : List Event) : Prop :=
  ∀ path err, .call (.uploadKmz path) err ∈ evs → Confined path

theorem uploadsConfined_newEvents
    {σ : Type} (E : Env σ) (peer : SockaddrIn) (line : Bytes) (w : World σ) :
    UploadsConfined (newEvents E peer line w) := by
  intro path err hmem
  rcases handleRpc_calls E peer line w with
    ⟨_, hnone⟩ | ⟨req, c, _, _, _, _, hplan, _, hcall⟩
  · exact absurd hmem (hnone _ err)
  · obtain ⟨rfl, _⟩ := (hcall _ err).mp hmem
    exact (path_of_plan hplan).1

namespace Real

/-- Every file that is opened lies in the directory. -/
def OpensConfined (evs : List (CallEvent SysCall.Out)) : Prop :=
  ∀ path fp, ⟨.fopen path, fp⟩ ∈ evs → Confined path

/-- A drone function opens at most the file it is asked to upload. -/
theorem fopen_of_mayCall
    {L : Libm} {c : DroneCall} {path : Bytes}
    (h : MayCall L c (.fopen path)) :
    ∃ path', c = .uploadKmz path' ∧ path = cstr path' := by
  cases c with
  | uploadKmz path' =>
      rcases h with h | h
      · exact h.elim
      · exact ⟨path', rfl, h⟩
  | _ =>
      simp [MayCall] at h

/-- **Uploads stay in their directory.**  Whatever a line says: the path of an upload
leads to the directory of the files or to an entry of it, and in the real build every
file that is opened meanwhile lies there. -/
theorem upload_confined
    (peer : SockaddrIn) (line : Bytes) :
    (∀ {σ : Type} (E : Env σ) (w : World σ),
      UploadsConfined (newEvents E peer line w)) ∧
    (∀ {τ : Type} (E : Env (RealState τ)) (L : Libm) (S : Outside SysCall.Out τ)
      (w : World (RealState τ)), ∃ evs,
        (handleRpc { E with droneCtrl := realCtrl L S } peer line w).ctrl.trace =
          w.ctrl.trace ++ evs ∧ OpensConfined evs) := by
  refine ⟨fun E w => uploadsConfined_newEvents E peer line w, ?_⟩
  intro τ E L S w
  rcases handleRpc_calls { E with droneCtrl := realCtrl L S } peer line w with
    ⟨hctrl, _⟩ | ⟨req, c, _, _, _, _, hplan, hctrl, _⟩
  · refine ⟨[], ?_, fun _ _ hmem => absurd hmem List.not_mem_nil⟩
    rw [hctrl, List.append_nil]
  · obtain ⟨evs, htrace, hevs⟩ := (issues_realCtrl L S c).trace w.ctrl
    rw [hctrl]
    refine ⟨evs, htrace, fun path fp hmem => ?_⟩
    obtain ⟨path', rfl, rfl⟩ := fopen_of_mayCall (hevs _ hmem)
    obtain ⟨hconfined, hzero⟩ := path_of_plan hplan
    rw [cstr_eq_self hzero]
    exact hconfined

/-! ## The contents of the file -/

/-- What the C library answers about a file with these contents.  The position at the
end of a regular file is its size; special files, directories among them, may claim
more than can be read. -/
def AnswersFor (content : Bytes) : CallEvent SysCall.Out → Prop
  | ⟨.ftell, size⟩ => size < 0 ∨ ((content.length : Int) ≤ size ∧ size < 2 ^ 63)
  | ⟨.fread n, data⟩ => data <+: content ∧ data.length ≤ n.toNat
  | _ => True

/-- Every read fits in the buffer, and what is uploaded is the whole file. -/
structure WholeUpload (content : Bytes) (evs : List (CallEvent SysCall.Out)) : Prop where
  fits : ∀ n data, ⟨.fread n, data⟩ ∈ evs →
    ∃ size, ⟨.osalMalloc size, true⟩ ∈ evs ∧ n.toNat ≤ size.toNat
  whole : ∀ buf len rc, ⟨.waypointV3UploadKmzFile buf len, rc⟩ ∈ evs →
    buf.take len.toNat = content ∧ len.toNat = content.length

/-- The file claims a size that takes more than 32 bits, and the allocation is
granted all the same. -/
def Oversized (evs : List (CallEvent SysCall.Out)) : Prop :=
  (∃ size : Int, 2 ^ 32 ≤ size ∧ ⟨.ftell, size⟩ ∈ evs) ∧
    ∃ size, ⟨.osalMalloc size, true⟩ ∈ evs

/-- The calls that the size of the file goes through. -/
def IsTransfer : SysCall → Bool
  | .ftell | .osalMalloc _ | .fread _ | .waypointV3UploadKmzFile _ _ => true
  | _ => false

/-- The view of these calls. -/
def transferOf (e : CallEvent SysCall.Out) : Option (CallEvent SysCall.Out) :=
  if IsTransfer e.call then some e else none

/-- What an upload does with the size of the file. -/
inductive Transfers : List (CallEvent SysCall.Out) → Prop
  | unopened : Transfers []
  | sized (size : Int) : Transfers [⟨.ftell, size⟩]
  | denied (size : Int) :
      Transfers [⟨.ftell, size⟩, ⟨.osalMalloc (UInt32.ofInt size), false⟩]
  | short {size : Int} (data : Bytes) :
      0 < size →
      Transfers [⟨.ftell, size⟩, ⟨.osalMalloc (UInt32.ofInt size), true⟩,
        ⟨.fread (UInt64.ofInt size), data⟩]
  | uploaded {size : Int} {data : Bytes} (rc : ReturnCode) :
      0 < size →
      data.length = (UInt64.ofInt size).toNat →
      Transfers [⟨.ftell, size⟩, ⟨.osalMalloc (UInt32.ofInt size), true⟩,
        ⟨.fread (UInt64.ofInt size), data⟩,
        ⟨.waypointV3UploadKmzFile data (UInt32.ofInt size), rc⟩]

section Contents

variable {τ : Type} (S : Outside SysCall.Out τ)

/-- A call that ends the upload, in a program with the events `l` behind it. -/
theorem views_last
    {c : SysCall} (err : DroneError) {Q : List (CallEvent SysCall.Out) → Prop}
    (hc : IsTransfer c = false)
    (h : Q []) :
    Views transferOf (callOut S c >>= fun _ => (pure err : RealM τ DroneError))
      (fun _ l => Q l) := by
  refine views_call S (fun a => views_pure ?_)
  simpa [transferOf, hc] using h

theorem views_uploadFile
    {size : Int}
    (hsize : 0 < size) :
    Views transferOf (uploadFile S size : RealM τ DroneError)
      (fun _ l => Transfers (⟨.ftell, size⟩ :: l)) := by
  unfold uploadFile
  refine views_call S (fun osal => ?_)
  refine views_ite (fun _ => views_last S _ rfl (.sized size)) (fun _ => ?_)
  refine views_call S (fun buf => ?_)
  cases buf with
  | false =>
      exact views_last S _ rfl (.denied size)
  | true =>
      refine views_call S (fun data => ?_)
      refine views_call S (fun _ => ?_)
      refine views_ite (fun _ => views_last S _ rfl (.short data hsize)) (fun hlen => ?_)
      refine views_call S (fun rc => ?_)
      exact views_last S _ rfl (.uploaded rc hsize (not_not.mp hlen))

theorem views_openAndUpload
    (path : Bytes) :
    Views transferOf (openAndUpload S path : RealM τ DroneError)
      (fun _ l => Transfers l) := by
  unfold openAndUpload
  refine views_call S (fun fp => ?_)
  refine views_ite (fun _ => views_pure .unopened) (fun _ => ?_)
  refine views_call S (fun atEnd => ?_)
  refine views_ite (fun _ => views_last S _ rfl .unopened) (fun _ => ?_)
  refine views_call S (fun size => ?_)
  refine views_ite (fun _ => views_last S _ rfl (.sized size)) (fun hsize => ?_)
  refine views_call S (fun atStart => ?_)
  refine views_ite (fun _ => views_last S _ rfl (.sized size)) (fun _ => ?_)
  exact views_uploadFile S (not_le.mp hsize)

theorem views_droneUploadKmz
    (path : Bytes) :
    Views transferOf (droneUploadKmz S path : RealM τ DroneError)
      (fun _ l => Transfers l) := by
  have hready : Silent transferOf (ensureWaypointV3Ready S : RealM τ DroneError) := by
    refine silent_of_issues (issues_ensureWaypointV3Ready S) (fun e he => ?_)
    obtain ⟨c, a⟩ := e
    cases c with
    | waypointV3Init | waypointV3RegMissionStateCallback
    | waypointV3RegActionStateCallback =>
        rfl
    | _ =>
        exact he.elim
  unfold droneUploadKmz
  refine views_ite (fun _ => views_pure .unopened) (fun _ => ?_)
  refine views_silent_bind hready (fun err => ?_)
  refine views_ite (fun _ => views_pure .unopened) (fun _ => ?_)
  exact views_openAndUpload S (cstr path)

end Contents

/-- The view shows every call of the kind. -/
theorem mem_transferOf
    {e : CallEvent SysCall.Out}
    (he : IsTransfer e.call = true)
    (evs : List (CallEvent SysCall.Out)) :
    e ∈ evs ↔ e ∈ evs.filterMap transferOf := by
  simp only [List.mem_filterMap, transferOf, Option.ite_none_right_eq_some,
    Option.some.injEq]
  constructor
  · intro h
    exact ⟨e, h, he, rfl⟩
  · rintro ⟨e', h, _, rfl⟩
    exact h

section View

variable {content : Bytes} {evs l : List (CallEvent SysCall.Out)}

/-- The properties only look at the calls of the kind. -/
theorem WholeUpload.congr
    (h : ∀ e : CallEvent SysCall.Out, IsTransfer e.call = true → (e ∈ evs ↔ e ∈ l))
    (hupload : WholeUpload content evs) :
    WholeUpload content l where
  fits n data hmem := by
    obtain ⟨size, hsize, hle⟩ := hupload.fits n data ((h _ rfl).mpr hmem)
    exact ⟨size, (h _ rfl).mp hsize, hle⟩
  whole buf len rc hmem :=
    hupload.whole buf len rc ((h _ rfl).mpr hmem)

theorem Oversized.congr
    (h : ∀ e : CallEvent SysCall.Out, IsTransfer e.call = true → (e ∈ evs ↔ e ∈ l))
    (hover : Oversized evs) :
    Oversized l := by
  obtain ⟨⟨size, hsize, hmem⟩, size', hmem'⟩ := hover
  exact ⟨⟨size, hsize, (h _ rfl).mp hmem⟩, size', (h _ rfl).mp hmem'⟩

/-- A size as the read and the allocation see it. -/
theorem toNat_ofInt_size
    {size : Int}
    (hpos : 0 < size)
    (hmax : size < 2 ^ 63) :
    (UInt64.ofInt size).toNat = size.toNat ∧
      (UInt32.ofInt size).toNat = size.toNat % 2 ^ 32 := by
  simp only [UInt64.ofInt, UInt32.ofInt, UInt64.toNat_ofNat', UInt32.toNat_ofNat']
  omega

theorem toNat_size
    {size : Int}
    (hpos : 0 < size)
    (h : AnswersFor content ⟨.ftell, size⟩) :
    (UInt64.ofInt size).toNat = size.toNat ∧
      (UInt32.ofInt size).toNat = size.toNat % 2 ^ 32 := by
  refine toNat_ofInt_size hpos ?_
  rcases h with h | h
  · exact absurd hpos (not_lt.mpr (le_of_lt h))
  · exact h.2

/-- The read fits in the buffer exactly if the size fits in 32 bits. -/
theorem read_le_alloc_iff
    {size : Int}
    (hpos : 0 < size)
    (h : AnswersFor content ⟨.ftell, size⟩) :
    (UInt64.ofInt size).toNat ≤ (UInt32.ofInt size).toNat ↔ ¬ 2 ^ 32 ≤ size := by
  obtain ⟨hread, halloc⟩ := toNat_size hpos h
  rw [hread, halloc]
  omega

/-- A file that was read as long as it claims to be has been read whole. -/
theorem whole_of_read
    {size : Int} {data : Bytes}
    (hpos : 0 < size)
    (hsmall : ¬ 2 ^ 32 ≤ size)
    (hlen : data.length = (UInt64.ofInt size).toNat)
    (h : AnswersFor content ⟨.ftell, size⟩)
    (hdata : data <+: content) :
    data.take (UInt32.ofInt size).toNat = content ∧
      (UInt32.ofInt size).toNat = content.length := by
  obtain ⟨hread, halloc⟩ := toNat_size hpos h
  have hle : (content.length : Int) ≤ size := by
    rcases h with h | h
    · exact absurd hpos (not_lt.mpr (le_of_lt h))
    · exact h.1
  have hmod : size.toNat % 2 ^ 32 = size.toNat := Nat.mod_eq_of_lt (by omega)
  have heq : data = content := hdata.eq_of_length_le (by omega)
  subst heq
  rw [halloc, hmod, hlen, hread]
  exact ⟨List.take_of_length_le (by omega), rfl⟩

/-- With a granted buffer, everything is a matter of the size. -/
theorem wholeUpload_iff_of_granted
    {size : Int} {data : Bytes} {rest : List (CallEvent SysCall.Out)}
    (hpos : 0 < size)
    (hsize : AnswersFor content ⟨.ftell, size⟩)
    (hrest : ∀ e ∈ rest, ∃ buf len, e.call = .waypointV3UploadKmzFile buf len)
    (hwhole : ¬ 2 ^ 32 ≤ size → ∀ buf len rc,
      ⟨.waypointV3UploadKmzFile buf len, rc⟩ ∈ rest →
      buf.take len.toNat = content ∧ len.toNat = content.length)
    (hl : l = ⟨.ftell, size⟩ :: ⟨.osalMalloc (UInt32.ofInt size), true⟩ ::
      ⟨.fread (UInt64.ofInt size), data⟩ :: rest) :
    WholeUpload content l ↔ ¬ Oversized l := by
  have hftell : ∀ a : Int, ⟨.ftell, a⟩ ∉ rest := by
    intro a ha
    obtain ⟨_, _, hcall⟩ := hrest _ ha
    cases hcall
  have hmalloc : ∀ n a, ⟨.osalMalloc n, a⟩ ∉ rest := by
    intro n a ha
    obtain ⟨_, _, hcall⟩ := hrest _ ha
    cases hcall
  have hfread : ∀ n a, ⟨.fread n, a⟩ ∉ rest := by
    intro n a ha
    obtain ⟨_, _, hcall⟩ := hrest _ ha
    cases hcall
  have hover : Oversized l ↔ 2 ^ 32 ≤ size := by
    simp [hl, Oversized, hftell, hmalloc]
  rw [hover]
  constructor
  · intro hupload
    rw [← read_le_alloc_iff hpos hsize]
    simpa [hl, hmalloc] using hupload.fits _ data (by simp [hl])
  · intro hsmall
    refine ⟨?_, ?_⟩
    · simpa [hl, hmalloc, hfread] using (read_le_alloc_iff hpos hsize).mpr hsmall
    · intro buf len rc hmem
      exact hwhole hsmall buf len rc (by simpa [hl] using hmem)

/-- What one upload makes of the size. -/
theorem wholeUpload_iff_of_transfers
    (h : Transfers l)
    (hfile : ∀ e ∈ l, AnswersFor content e) :
    WholeUpload content l ↔ ¬ Oversized l := by
  cases h with
  | unopened | sized | denied =>
      refine iff_of_true ⟨?_, ?_⟩ ?_
      · simp
      · simp
      · simp [Oversized]
  | @short size data hpos =>
      exact wholeUpload_iff_of_granted hpos (hfile _ List.mem_cons_self) (by simp)
        (by simp) rfl
  | @uploaded size data rc hpos hlen =>
      have hsize := hfile _ List.mem_cons_self
      have hdata : AnswersFor content ⟨.fread (UInt64.ofInt size), data⟩ :=
        hfile _ (by simp)
      refine wholeUpload_iff_of_granted hpos hsize (by simp) ?_ rfl
      intro hsmall buf len rc' hmem
      obtain ⟨⟨rfl, rfl⟩, _⟩ : (buf = data ∧ len = UInt32.ofInt size) ∧ rc' = rc := by
        simpa using hmem
      exact whole_of_read hpos hsmall hlen hsize hdata.1

end View

/-- **What is uploaded.**  Whatever the C library and the SDK answer about a file with
these contents: the buffer is long enough for the read and the whole file is uploaded,
exactly unless the file claims a size of `2 ^ 32` or more and the allocation is granted
all the same. -/
theorem wholeUpload_iff
    {τ : Type} (S : Outside SysCall.Out τ) (path content : Bytes) (m : RealState τ)
    {evs : List (CallEvent SysCall.Out)}
    (htrace : (droneUploadKmz S path m).2.trace = m.trace ++ evs)
    (hfile : ∀ e ∈ evs, AnswersFor content e) :
    WholeUpload content evs ↔ ¬ Oversized evs := by
  obtain ⟨l, hl, htransfers⟩ := views_droneUploadKmz S path m
  have hview : evs.filterMap transferOf = l := by
    rw [htrace, List.filterMap_append] at hl
    exact List.append_cancel_left hl
  have hmem : ∀ e : CallEvent SysCall.Out, IsTransfer e.call = true → (e ∈ evs ↔ e ∈ l) :=
    fun e he => hview ▸ mem_transferOf he evs
  have hmem' : ∀ e : CallEvent SysCall.Out, IsTransfer e.call = true → (e ∈ l ↔ e ∈ evs) :=
    fun e he => (hmem e he).symm
  have hfile' : ∀ e ∈ l, AnswersFor content e := by
    intro e he
    rw [← hview] at he
    obtain ⟨e', he', hsome⟩ := List.mem_filterMap.mp he
    simp only [transferOf, Option.ite_none_right_eq_some, Option.some.injEq] at hsome
    exact hsome.2 ▸ hfile e' he'
  have hiff := wholeUpload_iff_of_transfers htransfers hfile'
  constructor
  · intro hupload hover
    exact hiff.mp (hupload.congr hmem) (hover.congr hmem)
  · intro hover
    exact (hiff.mpr (fun h => hover (h.congr hmem'))).congr hmem'

/-- The calls of an upload of a file that claims `size` bytes and of which `data` is
read, up to the read. -/
def readEvents (path : Bytes) (size : Int) (data : Bytes) :
    List (CallEvent SysCall.Out) :=
  [⟨.waypointV3Init, success⟩, ⟨.waypointV3RegMissionStateCallback, success⟩,
    ⟨.waypointV3RegActionStateCallback, success⟩, ⟨.fopen path, true⟩, ⟨.fseekEnd, true⟩,
    ⟨.ftell, size⟩, ⟨.fseekSet, true⟩, ⟨.getOsalHandler, true⟩,
    ⟨.osalMalloc (UInt32.ofInt size), true⟩, ⟨.fread (UInt64.ofInt size), data⟩,
    ⟨.fclose, ()⟩]

/-- The path of the file `m.kmz`. -/
def missionPath : Bytes :=
  kmzPath (ascii "m.kmz")

theorem mission_trace :
    (droneUploadKmz (steadySdk success) missionPath (initialState ())).2.trace =
      readEvents missionPath 3 (ascii "kmz") ++
        [⟨.waypointV3UploadKmzFile (ascii "kmz") 3, success⟩, ⟨.osalFree, ()⟩] := by
  rfl

/-- A file of three bytes is uploaded whole. -/
theorem wholeUpload_mission :
    WholeUpload (ascii "kmz")
      (droneUploadKmz (steadySdk success) missionPath (initialState ())).2.trace := by
  have hlen : (ascii "kmz").length = 3 := rfl
  have hread : 3 ≤ (UInt64.ofInt 3).toNat := le_of_eq rfl
  refine (wholeUpload_iff (steadySdk success) missionPath (ascii "kmz") (initialState ())
    (List.nil_append _).symm ?_).mpr ?_
  · rw [mission_trace]
    simp [readEvents, AnswersFor, hlen, hread]
  · rw [mission_trace]
    simp [readEvents, Oversized]

/-- The answers for a directory that is opened as a file: its end is at `LONG_MAX`, and
nothing can be read. -/
def directorySdk : Outside SysCall.Out Unit
  | .ftell, _ => ((2 ^ 63 - 1 : Int), ())
  | .fread _, _ => (([] : Bytes), ())
  | c, o => steadySdk success c o

theorem directory_trace :
    (droneUploadKmz directorySdk (kmzPath (ascii ".")) (initialState ())).2.trace =
      readEvents (kmzPath (ascii ".")) (2 ^ 63 - 1) [] ++ [⟨.osalFree, ()⟩] := by
  rfl

/-- The directory of the files as a file: the read is longer than the buffer. -/
theorem directory_overflows :
    (∀ e ∈ (droneUploadKmz directorySdk (kmzPath (ascii ".")) (initialState ())).2.trace,
      AnswersFor [] e) ∧
    ¬ WholeUpload [] (droneUploadKmz directorySdk (kmzPath (ascii "."))
      (initialState ())).2.trace := by
  rw [directory_trace]
  refine ⟨?_, fun hupload => ?_⟩
  · simp [readEvents, AnswersFor]
  · obtain ⟨size, hmem, hle⟩ := hupload.fits (UInt64.ofInt (2 ^ 63 - 1)) []
      (by simp [readEvents])
    obtain rfl : size = UInt32.ofInt (2 ^ 63 - 1) := by
      simpa [readEvents] using hmem
    exact absurd hle (by decide)

end Real
end PsdkBridge
