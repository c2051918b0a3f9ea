import PsdkBridge.DaemonOrder

/-!
# What an upload holds

An upload opens a file, asks for its size, allocates a buffer, reads the file, closes it,
hands the buffer to the SDK and frees it.  `uploadOrder` says what each of these calls
needs: an open file, its size, a buffer, the contents that were read, and the waypoint
module with its callbacks.  `uploads_in_order` is about whole runs of the daemon: no
request leaves a file or a buffer behind, neither is used while it is not there, and what
is uploaded is what was read.

The three counts of an upload are casts of one size: the allocation and the upload take
32 bits of it, and the read takes 64.  `Holding.Exact` says that they are the size of the
file, and `exact_of_allowed` that this is so below `2 ^ 32`.
-/

namespace PsdkBridge
namespace Real

/-- What the uploads hold: a file with its size, a buffer with its allocated size and what
was read into it, and the waypoint module. -/
structure Holding where
  file : Bool
  size : Option Int
  buffer : Option (UInt32 × Option Bytes)
  waypoint : ModuleState

namespace Holding

/-- Nothing is held. -/
def initial : Holding where
  file := false
  size := none
  buffer := none
  waypoint := unusedModule

/-- Neither a file nor a buffer is held. -/
def Free (s : Holding) : Prop :=
  s.file = false ∧ s.buffer = none

/-- The file was opened, and it has `n` bytes, one at least. -/
def Sized (s : Holding) (n : Int) : Prop :=
  s.size = some n ∧ 0 < n

/-- What a call of the drone control layer changes. -/
def sysNext (s : Holding) : CallEvent SysCall.Out → Holding
  | ⟨.fopen _, (fp : Bool)⟩ => { s with file := fp, size := none }
  | ⟨.ftell, (size : Int)⟩ => { s with size := some size }
  | ⟨.fclose, _⟩ => { s with file := false }
  | ⟨.osalMalloc cap, (buf : Bool)⟩ =>
      { s with buffer := if buf then some (cap, none) else none }
  | ⟨.fread _, (data : Bytes)⟩ =>
      { s with buffer := s.buffer.map (fun b => (b.1, some data)) }
  | ⟨.osalFree, _⟩ => { s with buffer := none }
  | e => { s with waypoint := s.waypoint.next e }

/-- When a call of the drone control layer is in order. -/
def SysAllows (s : Holding) (e : CallEvent SysCall.Out) : Prop :=
  match e.call with
  | .fopen path => Confined path ∧ s.Free ∧ s.waypoint.Ready
  | .fseekEnd | .ftell | .fseekSet | .getOsalHandler => s.file = true
  | .osalMalloc cap =>
      (s.file = true ∧ s.buffer = none) ∧ ∃ n, s.Sized n ∧ cap = UInt32.ofInt n
  | .fread m =>
      s.file = true ∧ ∃ n, s.Sized n ∧ s.buffer = some (UInt32.ofInt n, none) ∧
        m = UInt64.ofInt n
  | .fclose => s.file = true
  | .waypointV3UploadKmzFile buf len =>
      (s.file = false ∧ s.waypoint.Ready) ∧
        ∃ n, s.Sized n ∧ s.buffer = some (len, some buf) ∧
          len = UInt32.ofInt n ∧ buf.length = (UInt64.ofInt n).toNat
  | .osalFree => s.file = false ∧ s.buffer.isSome = true
  | .waypointV3DeInit => s.Free ∧ s.waypoint.Ready
  | _ => s.Free

/-- What a call of the daemon changes. -/
def next (s : Holding) : CallEvent DaemonCall.Out → Holding
  | ⟨.sys c, a⟩ => s.sysNext ⟨c, a⟩
  | _ => s

/-- When a call of the daemon is in order. -/
def Allows (s : Holding) : CallEvent DaemonCall.Out → Prop
  | ⟨.sys c, a⟩ => s.SysAllows ⟨c, a⟩
  | _ => s.Free

/-- The counts of the call are the size of the file: the buffer has room for it, the read
stays in the buffer, and the file is uploaded whole. -/
def Exact (s : Holding) (e : CallEvent DaemonCall.Out) : Prop :=
  match e.call with
  | .sys (.osalMalloc cap) => s.size = some (cap.toNat : Int)
  | .sys (.fread m) =>
      s.size = some (m.toNat : Int) ∧ ∃ cap, s.buffer = some (cap, none) ∧ m.toNat = cap.toNat
  | .sys (.waypointV3UploadKmzFile buf len) =>
      s.size = some (buf.length : Int) ∧ len.toNat = buf.length
  | _ => True

end Holding

/-- What the calls of an upload need. -/
def uploadOrder : Protocol (CallEvent DaemonCall.Out) Holding where
  start := .initial
  next := .next
  Allowed := Holding.Allows

/-- A file below `2 ^ 32` bytes is allocated, read and uploaded whole. -/
theorem exact_of_allowed
    {s : Holding} {e : CallEvent DaemonCall.Out}
    (h : uploadOrder.Allowed s e)
    (hsmall : ∀ n ∈ s.size, n < 2 ^ 32) :
    s.Exact e := by
  have hcounts : ∀ n, s.Sized n →
      s.size = some ((UInt64.ofInt n).toNat : Int) ∧
        (UInt64.ofInt n).toNat = (UInt32.ofInt n).toNat := by
    rintro n ⟨hsize, hpos⟩
    have hlt : n < 2 ^ 32 := hsmall n hsize
    obtain ⟨hread, halloc⟩ := toNat_ofInt_size hpos (hlt.trans (by norm_num))
    rw [hsize, hread, halloc]
    constructor
    · rw [Int.toNat_of_nonneg hpos.le]
    · omega
  obtain ⟨c, a⟩ := e
  cases c with
  | sys c =>
      cases c with
      | osalMalloc cap =>
          obtain ⟨_, n, hn, rfl⟩ := h
          obtain ⟨hsize, hsame⟩ := hcounts n hn
          show s.size = some ((UInt32.ofInt n).toNat : Int)
          rw [← hsame]
          exact hsize
      | fread m =>
          obtain ⟨_, n, hn, hbuffer, rfl⟩ := h
          obtain ⟨hsize, hsame⟩ := hcounts n hn
          exact ⟨hsize, UInt32.ofInt n, hbuffer, hsame⟩
      | waypointV3UploadKmzFile buf len =>
          obtain ⟨_, n, hn, _, rfl, hlen⟩ := h
          obtain ⟨hsize, hsame⟩ := hcounts n hn
          refine ⟨?_, ?_⟩
          · rw [hlen]
            exact hsize
          · rw [hlen]
            exact hsame.symm
      | _ =>
          trivial
  | _ =>
      trivial

/-- Between two requests nothing is held, and the flag tells the truth. -/
def Settled (flag : Bool) (s : Holding) : Prop :=
  s.Free ∧ (flag = true → s.waypoint.Ready)

/-! ## An upload -/

section Upload

variable {τ : Type} (S : Outside SysCall.Out τ) {v : RealVars} {s : Holding}

/-- The order as the drone control layer sees it. -/
abbrev sysOrder : Protocol (CallEvent SysCall.Out) Holding :=
  uploadOrder.comap sysEvent

/-- The file is closed, and the upload ends. -/
theorem follows_close
    (err : DroneError)
    (hfile : s.file = true)
    (hbuffer : s.buffer = none)
    (hready : s.waypoint.Ready) :
    sysOrder.Follows (callOut S .fclose >>= fun _ => (pure err : RealM τ DroneError))
      (fun _ v' s' => Settled v'.waypointV3Inited s') v s :=
  Protocol.follows_call S
    (fun _ => ⟨hfile, Protocol.follows_pure ⟨⟨rfl, hbuffer⟩, fun _ => hready⟩⟩)

/-- The buffer is freed, and the upload ends. -/
theorem follows_free
    (err : DroneError)
    (hfile : s.file = false)
    (hbuffer : s.buffer.isSome = true)
    (hready : s.waypoint.Ready) :
    sysOrder.Follows (callOut S .osalFree >>= fun _ => (pure err : RealM τ DroneError))
      (fun _ v' s' => Settled v'.waypointV3Inited s') v s :=
  Protocol.follows_call S
    (fun _ => ⟨⟨hfile, hbuffer⟩, Protocol.follows_pure ⟨⟨hfile, rfl⟩, fun _ => hready⟩⟩)

/-- The part of an upload with an open file of a known size. -/
theorem follows_uploadFile
    {fileSize : Int}
    (hsize : s.Sized fileSize)
    (hfile : s.file = true)
    (hbuffer : s.buffer = none)
    (hready : s.waypoint.Ready) :
    sysOrder.Follows (uploadFile S fileSize)
      (fun _ v' s' => Settled v'.waypointV3Inited s') v s := by
  unfold uploadFile
  refine Protocol.follows_call S (fun osal => ⟨hfile, Protocol.follows_ite (fun _ => ?_) ?_⟩)
  · exact follows_close S _ hfile hbuffer hready
  intro _
  refine Protocol.follows_call S
    (fun buf => ⟨⟨⟨hfile, hbuffer⟩, fileSize, hsize, rfl⟩, ?_⟩)
  cases buf with
  | false =>
      exact follows_close S _ hfile rfl hready
  | true =>
      refine Protocol.follows_ite (fun h => absurd h (by decide)) (fun _ => ?_)
      refine Protocol.follows_call S (fun data => ⟨⟨hfile, fileSize, hsize, rfl, rfl⟩, ?_⟩)
      refine Protocol.follows_call S (fun _ => ⟨hfile, ?_⟩)
      refine Protocol.follows_ite (fun _ => follows_free S _ rfl rfl hready) (fun hlen => ?_)
      have hlen : data.length = (UInt64.ofInt fileSize).toNat := not_not.mp hlen
      refine Protocol.follows_call S
        (fun rc => ⟨⟨⟨rfl, hready⟩, fileSize, hsize, rfl, rfl, hlen⟩, ?_⟩)
      exact follows_free S _ rfl rfl hready

theorem follows_openAndUpload
    {path : Bytes}
    (hpath : Confined path)
    (hfree : s.Free)
    (hready : s.waypoint.Ready) :
    sysOrder.Follows (openAndUpload S path)
      (fun _ v' s' => Settled v'.waypointV3Inited s') v s := by
  unfold openAndUpload
  refine Protocol.follows_call S (fun fp => ⟨⟨hpath, hfree, hready⟩, ?_⟩)
  cases fp with
  | false =>
      exact Protocol.follows_pure ⟨⟨rfl, hfree.2⟩, fun _ => hready⟩
  | true =>
      refine Protocol.follows_ite (fun h => absurd h (by decide)) (fun _ => ?_)
      refine Protocol.follows_call S
        (fun atEnd => ⟨rfl, Protocol.follows_ite (fun _ => ?_) (fun _ => ?_)⟩)
      · exact follows_close S _ rfl hfree.2 hready
      refine Protocol.follows_call S
        (fun size => ⟨rfl, Protocol.follows_ite (fun _ => ?_) (fun hpos => ?_)⟩)
      · exact follows_close S _ rfl hfree.2 hready
      refine Protocol.follows_call S
        (fun atStart => ⟨rfl, Protocol.follows_ite (fun _ => ?_) (fun _ => ?_)⟩)
      · exact follows_close S _ rfl hfree.2 hready
      exact follows_uploadFile S ⟨rfl, not_le.mp hpos⟩ rfl hfree.2 hready

/-- The module is ready behind a success, and a failure leaves the flag down. -/
theorem follows_ensureWaypointV3Ready
    (h : Settled v.waypointV3Inited s) :
    sysOrder.Follows (ensureWaypointV3Ready S)
      (fun err v' s' => Settled v'.waypointV3Inited s' ∧ (err = .ok → s'.waypoint.Ready))
      v s := by
  obtain ⟨hfree, hflag⟩ := h
  unfold ensureWaypointV3Ready
  refine Protocol.follows_readVars (Protocol.follows_ite (fun hon => ?_) (fun hoff => ?_))
  · exact Protocol.follows_pure ⟨⟨hfree, hflag⟩, fun _ => hflag hon⟩
  have hdown : ∀ p : Prop, v.waypointV3Inited = true → p := fun p hon => absurd hon hoff
  refine Protocol.follows_call S
    (fun rc => ⟨hfree, Protocol.follows_ite (fun _ => ?_) (fun hrc => ?_)⟩)
  · exact Protocol.follows_pure ⟨⟨hfree, hdown _⟩, nofun⟩
  obtain rfl : rc = success := not_not.mp hrc
  refine Protocol.follows_call S
    (fun rc => ⟨hfree, Protocol.follows_ite (fun _ => ?_) (fun hrc => ?_)⟩)
  · exact Protocol.follows_pure ⟨⟨hfree, hdown _⟩, nofun⟩
  obtain rfl : rc = success := not_not.mp hrc
  refine Protocol.follows_call S
    (fun rc => ⟨hfree, Protocol.follows_ite (fun _ => ?_) (fun hrc => ?_)⟩)
  · exact Protocol.follows_pure ⟨⟨hfree, hdown _⟩, nofun⟩
  obtain rfl : rc = success := not_not.mp hrc
  refine Protocol.follows_modifyVars (Protocol.follows_pure ⟨⟨hfree, fun _ => ?_⟩, fun _ => ?_⟩)
  · exact ⟨rfl, rfl, rfl⟩
  · exact ⟨rfl, rfl, rfl⟩

/-- An upload gives back what it takes. -/
theorem follows_droneUploadKmz
    {path : Bytes}
    (hpath : Confined (cstr path))
    (h : Settled v.waypointV3Inited s) :
    sysOrder.Follows (droneUploadKmz S path)
      (fun _ v' s' => Settled v'.waypointV3Inited s') v s := by
  unfold droneUploadKmz
  refine Protocol.follows_ite (fun _ => Protocol.follows_pure h) (fun _ => ?_)
  refine Protocol.follows_bind
    (Protocol.follows_mono (follows_ensureWaypointV3Ready S h) (fun err v' s' hs => ?_))
  obtain ⟨hsettled, hready⟩ := hs
  refine Protocol.follows_ite (fun _ => Protocol.follows_pure hsettled) (fun herr => ?_)
  exact follows_openAndUpload S hpath hsettled.1 (hready (not_not.mp herr))

end Upload

/-! ## The other calls -/

/-- A call that neither takes nor gives back anything. -/
def SysCall.Plain : SysCall → Bool
  | .fopen _ | .fseekEnd | .ftell | .fseekSet | .getOsalHandler | .osalMalloc _ | .fread _
  | .fclose | .osalFree | .waypointV3UploadKmzFile _ _ | .waypointV3Init
  | .waypointV3RegMissionStateCallback | .waypointV3RegActionStateCallback
  | .waypointV3DeInit => false
  | _ => true

/-- A call of the daemon of this kind. -/
def DaemonCall.Plain : DaemonCall → Bool
  | .sys c => c.Plain
  | _ => true

/-- Such a call is in order while nothing is held, and changes nothing. -/
theorem plain_neutral
    {e : CallEvent DaemonCall.Out} {s : Holding}
    (h : e.call.Plain = true)
    (hfree : s.Free) :
    uploadOrder.next s e = s ∧ uploadOrder.Allowed s e := by
  obtain ⟨c, a⟩ := e
  cases c with
  | sys c =>
      cases c <;> first
        | exact ⟨rfl, hfree⟩
        | cases h
  | _ =>
      exact ⟨rfl, hfree⟩

/-- Only an upload makes other calls. -/
theorem plain_of_isDirect
    {x : SysCall}
    (h : x.IsDirect = true) :
    x.Plain = true := by
  cases x <;> first | rfl | cases h

/-! ## The whole run -/

section Runs

variable {τ : Type} (S : Outside DaemonCall.Out τ) {v : DaemonVars} {s : Holding}

/-- Nothing is held between two calls of `main`. -/
def Idle {α : Type} (_ : α) (v : DaemonVars) (s : Holding) : Prop :=
  Settled v.real.waypointV3Inited s

/-- A plain call in front of a program. -/
theorem follows_plain
    {c : DaemonCall} {α : Type} {g : c.Out → DaemonM τ α}
    {post : α → DaemonVars → Holding → Prop}
    (hc : c.Plain = true)
    (h : s.Free)
    (hg : ∀ a, uploadOrder.Follows (g a) post v s) :
    uploadOrder.Follows (callOut S c >>= g) post v s := by
  refine Protocol.follows_call S (fun a => ?_)
  obtain ⟨hnext, hallowed⟩ := plain_neutral (e := ⟨c, a⟩) hc h
  rw [hnext]
  exact ⟨hallowed, hg a⟩

theorem idle_psdkHalRegister
    (h : Idle () v s) :
    uploadOrder.Follows (psdkHalRegister S) Idle v s := by
  have hend : ∀ ok, uploadOrder.Follows (pure ok : DaemonM τ Bool) Idle v s :=
    fun _ => Protocol.follows_pure h
  unfold psdkHalRegister
  refine follows_plain S rfl h.1 (fun _ => Protocol.follows_ite (fun _ => hend _) (fun _ => ?_))
  refine follows_plain S rfl h.1 (fun _ => Protocol.follows_ite (fun _ => hend _) (fun _ => ?_))
  refine follows_plain S rfl h.1 (fun _ => ?_)
  refine follows_plain S rfl h.1 (fun _ => Protocol.follows_ite (fun _ => hend _) (fun _ => ?_))
  refine follows_plain S rfl h.1 (fun _ => Protocol.follows_ite (fun _ => hend _) (fun _ => ?_))
  exact follows_plain S rfl h.1
    (fun _ => Protocol.follows_ite (fun _ => hend _) (fun _ => hend _))

theorem idle_psdkInit
    (h : Idle () v s) :
    uploadOrder.Follows (psdkInit S) Idle v s := by
  unfold psdkInit
  refine Protocol.follows_bind
    (Protocol.follows_mono (idle_psdkHalRegister S h) (fun registered v s h => ?_))
  have hend : ∀ ok, uploadOrder.Follows (pure ok : DaemonM τ Bool) Idle v s :=
    fun _ => Protocol.follows_pure h
  refine Protocol.follows_ite (fun _ => hend _) (fun _ => ?_)
  refine follows_plain S rfl h.1 (fun _ => Protocol.follows_ite (fun _ => hend _) (fun _ => ?_))
  refine follows_plain S rfl h.1 (fun _ => ?_)
  refine follows_plain S rfl h.1 (fun _ => ?_)
  refine follows_plain S rfl h.1 (fun _ => ?_)
  exact follows_plain S rfl h.1
    (fun _ => Protocol.follows_ite (fun _ => hend _) (fun _ => hend _))

theorem idle_psdkDeinit
    (h : Idle () v s) :
    uploadOrder.Follows (psdkDeinit S) Idle v s :=
  follows_plain S rfl h.1 (fun _ => Protocol.follows_pure h)

theorem idle_udpServerOpen
    (bindIp : Bytes) (port : UInt16)
    (h : Idle () v s) :
    uploadOrder.Follows (udpServerOpen S bindIp port) Idle v s := by
  have habandon : ∀ fd, uploadOrder.Follows (abandonServer S fd) Idle v s := fun fd =>
    follows_plain S rfl h.1
      (fun _ => follows_plain S rfl h.1 (fun _ => Protocol.follows_pure h))
  have hbind : ∀ fd, uploadOrder.Follows (bindServer S fd bindIp port) Idle v s := fun fd =>
    follows_plain S rfl h.1 (fun _ => Protocol.follows_ite (fun _ => habandon fd)
      (fun _ => Protocol.follows_modifyVars (Protocol.follows_pure h)))
  unfold udpServerOpen
  refine follows_plain S rfl h.1
    (fun _ => Protocol.follows_ite (fun _ => Protocol.follows_pure h) (fun _ => ?_))
  refine follows_plain S rfl h.1
    (fun fd => Protocol.follows_ite (fun _ => ?_) (fun _ => ?_))
  · exact follows_plain S rfl h.1 (fun _ => Protocol.follows_pure h)
  refine follows_plain S rfl h.1
    (fun _ => Protocol.follows_ite (fun _ => hbind fd) (fun _ => ?_))
  exact follows_plain S rfl h.1
    (fun _ => Protocol.follows_ite (fun _ => habandon fd) (fun _ => hbind fd))

theorem idle_udpServerDestroy
    (fd : Int)
    (h : Idle () v s) :
    uploadOrder.Follows (udpServerDestroy S fd) Idle v s :=
  follows_plain S rfl h.1
    (fun _ => follows_plain S rfl h.1 (fun _ => Protocol.follows_pure h))

/-- A plain call of the drone control layer in front of a program. -/
theorem sysOrder_plain
    (S : Outside SysCall.Out τ) {c : SysCall} {α : Type} {g : c.Out → RealM τ α}
    {v : RealVars} {post : α → RealVars → Holding → Prop}
    (hc : c.Plain = true)
    (h : s.Free)
    (hg : ∀ a, sysOrder.Follows (g a) post v s) :
    sysOrder.Follows (callOut S c >>= g) post v s := by
  refine Protocol.follows_call S (fun a => ?_)
  obtain ⟨hnext, hallowed⟩ := plain_neutral (e := sysEvent ⟨c, a⟩) hc h
  have hsys : sysOrder.next s ⟨c, a⟩ = s := hnext
  rw [hsys]
  exact ⟨hallowed, hg a⟩

theorem idle_droneCtrlInit
    (h : Idle () v s) :
    uploadOrder.Follows (inCtrl (droneCtrlInit (sysOutside S))) Idle v s := by
  refine Protocol.follows_within ?_
  unfold droneCtrlInit
  refine sysOrder_plain (sysOutside S) rfl h.1
    (fun _ => Protocol.follows_ite (fun _ => Protocol.follows_pure h) (fun _ => ?_))
  refine Protocol.follows_bind (Protocol.follows_mono (Protocol.follows_forIn
    (fun (v : RealVars) s => Settled v.waypointV3Inited s) ?_ subscribedTopics _ h) ?_)
  · intro t _ v s h
    exact sysOrder_plain (sysOutside S) rfl h.1
      (fun _ => Protocol.follows_pure ⟨⟨_, rfl⟩, h⟩)
  · intro _ v s h
    refine sysOrder_plain (sysOutside S) rfl h.1 (fun _ => ?_)
    exact sysOrder_plain (sysOutside S) rfl h.1 (fun _ => Protocol.follows_pure h)

theorem idle_droneCtrlDeinit
    (h : Idle () v s) :
    uploadOrder.Follows (inCtrl (droneCtrlDeinit (sysOutside S))) Idle v s := by
  have hmanagers : ∀ {v : RealVars} {s}, Settled v.waypointV3Inited s → sysOrder.Follows
      (do
        let _ ← callOut (sysOutside S) .gimbalManagerDeinit
        let _ ← callOut (sysOutside S) .cameraManagerDeInit
        let _ ← callOut (sysOutside S) .fcSubscriptionDeInit : RealM τ Unit)
      (fun _ v' s' => Settled v'.waypointV3Inited s') v s := fun h =>
    sysOrder_plain (sysOutside S) rfl h.1 (fun _ =>
      sysOrder_plain (sysOutside S) rfl h.1 (fun _ =>
        sysOrder_plain (sysOutside S) rfl h.1 (fun _ => Protocol.follows_pure h)))
  refine Protocol.follows_within ?_
  unfold droneCtrlDeinit
  refine Protocol.follows_readVars (Protocol.follows_ite (fun hflag => ?_) (fun _ => ?_))
  · refine Protocol.follows_call (sysOutside S) (fun _ => ⟨⟨h.1, h.2 hflag⟩, ?_⟩)
    exact Protocol.follows_modifyVars (hmanagers ⟨h.1, nofun⟩)
  · exact hmanagers h

variable (P : Platform) (L : Libm) (sizeof : Sizes)

/-- What every drone function keeps. -/
theorem follows_realCtrl
    (S : Outside SysCall.Out τ) {c : DroneCall}
    (hc : Vetted c)
    {v : RealVars}
    (h : Settled v.waypointV3Inited s) :
    sysOrder.Follows (realCtrl L S c : RealM τ (DroneError × c.Out))
      (fun _ v' s' => Settled v'.waypointV3Inited s') v s := by
  by_cases hupload : ∃ path, c = .uploadKmz path
  · obtain ⟨path, rfl⟩ := hupload
    obtain ⟨hconfined, hzero⟩ := hc path rfl
    refine Protocol.follows_bind (Protocol.follows_mono (follows_droneUploadKmz S ?_ h) ?_)
    · rwa [cstr_eq_self hzero]
    · exact fun _ _ _ h => Protocol.follows_pure h
  · exact follows_direct L S Settled (fun path hpath => hupload ⟨path, hpath⟩)
      (fun e he => plain_neutral (e := sysEvent e) (plain_of_isDirect he) h.1) h

theorem idle_pollRound
    (r : Round)
    (h : Idle () v s) :
    uploadOrder.Follows (pollRound P L sizeof S r) Idle v s :=
  follows_pollRound P L sizeof S Settled
    (fun _ hc _ _ h => follows_realCtrl L (sysOutside S) hc h) r h

theorem idle_mainAfterOptions
    (bindIp : Bytes) (port : UInt16) (rounds : List Round)
    (h : Idle () v s) :
    uploadOrder.Follows (mainAfterOptions P L sizeof S bindIp port rounds) Idle v s := by
  unfold mainAfterOptions
  refine Protocol.follows_bind (Protocol.follows_mono (idle_psdkInit S h) ?_)
  intro started v s h
  refine Protocol.follows_ite (fun _ => Protocol.follows_pure h) (fun _ => ?_)
  refine Protocol.follows_bind (Protocol.follows_mono (idle_droneCtrlInit S h) ?_)
  intro ctrl v s h
  have hshutdown : ∀ {code : Nat} {v : DaemonVars} {s}, Idle () v s → uploadOrder.Follows
      (do
        inCtrl (droneCtrlDeinit (sysOutside S))
        psdkDeinit S
        return code) Idle v s := by
    intro code v s h
    refine Protocol.follows_bind (Protocol.follows_mono (idle_droneCtrlDeinit S h) ?_)
    intro _ v s h
    refine Protocol.follows_bind (Protocol.follows_mono (idle_psdkDeinit S h) ?_)
    exact fun _ _ _ h => Protocol.follows_pure h
  refine Protocol.follows_ite (fun _ => ?_) (fun _ => ?_)
  · refine Protocol.follows_bind (Protocol.follows_mono (idle_psdkDeinit S h) ?_)
    exact fun _ _ _ h => Protocol.follows_pure h
  refine Protocol.follows_bind
    (Protocol.follows_mono (idle_udpServerOpen S bindIp port h) ?_)
  intro srv v s h
  cases srv with
  | none =>
      exact hshutdown h
  | some fd =>
      refine Protocol.follows_bind (Protocol.follows_mono (Protocol.follows_forIn
        (fun (v : DaemonVars) s => Settled v.real.waypointV3Inited s) ?_ rounds _ h) ?_)
      · intro r _ v s h
        refine Protocol.follows_bind
          (Protocol.follows_mono (idle_pollRound S P L sizeof r h) ?_)
        exact fun _ _ _ h => Protocol.follows_pure ⟨⟨_, rfl⟩, h⟩
      · intro _ v s h
        refine Protocol.follows_bind
          (Protocol.follows_mono (idle_udpServerDestroy S fd h) ?_)
        exact fun _ _ _ h => hshutdown h

end Runs

/-! ## What is taken is given back -/

/-- A file is opened. -/
def opensFile : CallEvent DaemonCall.Out → Bool
  | ⟨.sys (.fopen _), (fp : Bool)⟩ => fp
  | _ => false

/-- A file is closed. -/
def closesFile (e : CallEvent DaemonCall.Out) : Bool :=
  match e.call with
  | .sys .fclose => true
  | _ => false

/-- A buffer is allocated. -/
def allocatesBuffer : CallEvent DaemonCall.Out → Bool
  | ⟨.sys (.osalMalloc _), (buf : Bool)⟩ => buf
  | _ => false

/-- A buffer is freed. -/
def freesBuffer (e : CallEvent DaemonCall.Out) : Bool :=
  match e.call with
  | .sys .osalFree => true
  | _ => false

section Balance

variable {s : Holding} {e : CallEvent DaemonCall.Out}

/-- An event opens the file, closes it or leaves it alone. -/
theorem file_next
    (h : uploadOrder.Allowed s e) :
    (if opensFile e then 1 else 0) + s.file.toNat =
      (if closesFile e then 1 else 0) + (uploadOrder.next s e).file.toNat := by
  obtain ⟨c, a⟩ := e
  cases c with
  | sys c =>
      cases c with
      | fopen path =>
          have hfile : s.file = false := h.2.1.1
          show (if a then 1 else 0) + s.file.toNat = 0 + a.toNat
          rw [hfile]
          cases a <;> rfl
      | fclose =>
          have hfile : s.file = true := h
          show 0 + s.file.toNat = 1 + 0
          rw [hfile]
          rfl
      | _ =>
          rfl
  | _ =>
      rfl

/-- An event allocates the buffer, frees it or leaves it where it is. -/
theorem buffer_next
    (h : uploadOrder.Allowed s e) :
    (if allocatesBuffer e then 1 else 0) + s.buffer.isSome.toNat =
      (if freesBuffer e then 1 else 0) + (uploadOrder.next s e).buffer.isSome.toNat := by
  obtain ⟨c, a⟩ := e
  cases c with
  | sys c =>
      cases c with
      | osalMalloc cap =>
          have hbuffer : s.buffer = none := h.1.2
          show (if a then 1 else 0) + s.buffer.isSome.toNat =
            0 + (if a then some (cap, none) else none : Option (UInt32 × Option Bytes)).isSome.toNat
          rw [hbuffer]
          cases a <;> rfl
      | fread m =>
          show 0 + s.buffer.isSome.toNat = 0 + (s.buffer.map _).isSome.toNat
          rw [Option.isSome_map]
      | osalFree =>
          have hbuffer : s.buffer.isSome = true := h.2
          show 0 + s.buffer.isSome.toNat = 1 + 0
          rw [hbuffer]
          rfl
      | _ =>
          rfl
  | _ =>
      rfl

end Balance

/-- **Uploads in order.**  Whatever the SDK and the C library answer and whatever the
rounds bring: files are opened in their directory only, a file is used while it is open
and closed exactly once, a buffer is allocated, filled and freed exactly once, and what
is uploaded is what was read, with the file closed and the module ready.  A file below
`2 ^ 32` bytes is read into a buffer of its size and uploaded whole. -/
theorem uploads_in_order
    {τ : Type} (P : Platform) (L : Libm) (sizeof : Sizes) (S : Outside DaemonCall.Out τ)
    (bindIp : Bytes) (port : UInt16) (rounds : List Round) (outside : τ) :
    let tr := daemonTrace P L sizeof S bindIp port rounds outside
    uploadOrder.Obeys .initial tr ∧ (uploadOrder.after .initial tr).Free ∧
      (tr.countP opensFile = tr.countP closesFile ∧
        tr.countP allocatesBuffer = tr.countP freesBuffer) ∧
      ∀ past e rest, tr = past ++ e :: rest →
        (∀ n ∈ (uploadOrder.after .initial past).size, n < 2 ^ 32) →
        (uploadOrder.after .initial past).Exact e := by
  intro tr
  have hstart : Idle () (atStart outside : Machine DaemonCall.Out τ DaemonVars).vars
      Holding.initial :=
    ⟨⟨rfl, rfl⟩, nofun⟩
  obtain ⟨evs, htrace, hobeys, hfree, _⟩ :=
    idle_mainAfterOptions S P L sizeof bindIp port rounds hstart (atStart outside) rfl
  obtain rfl : tr = evs := htrace.trans (List.nil_append evs)
  have hfile := Protocol.balance (fun s => s.file.toNat) (fun _ _ => file_next) hobeys
  have hbuffer := Protocol.balance (fun s => s.buffer.isSome.toNat)
    (fun _ _ => buffer_next) hobeys
  rw [hfree.1] at hfile
  rw [hfree.2] at hbuffer
  refine ⟨hobeys, hfree, ⟨hfile, hbuffer⟩, fun past e rest htr hsmall => ?_⟩
  rw [htr, uploadOrder.obeys_append] at hobeys
  exact exact_of_allowed hobeys.2.1 hsmall

end Real
end PsdkBridge
