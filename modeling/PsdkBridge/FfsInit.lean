import PsdkBridge.Lib.CText
import PsdkBridge.Lib.Typestate

/-!
# The control endpoint of the USB function

This module follows `tools/ffs_init.c`: the endpoint `ep0` of the function is opened, gets
the descriptors and the strings, and then reports events until the function is unbound.
The kernel is the outside and may answer anything; what is printed is left out.

`ep0Order` is the order that FunctionFS asks for, with the duty to answer a setup request
before the next event is read.  `ep0_in_order` says that every run keeps it.
-/

namespace PsdkBridge
namespace Ffs

/-! ## Descriptors -/

/-- `uint16_t` and `uint32_t` in memory. -/
def le16 (n : UInt16) : Bytes :=
  [n.toUInt8, (n >>> 8).toUInt8]

def le32 (n : UInt32) : Bytes :=
  [n.toUInt8, (n >>> 8).toUInt8, (n >>> 16).toUInt8, (n >>> 24).toUInt8]

/-- `struct usb_intf_desc`, without its first two members. -/
structure UsbIntfDesc where
  bInterfaceNumber : UInt8
  bAlternateSetting : UInt8
  bNumEndpoints : UInt8
  bInterfaceClass : UInt8
  bInterfaceSubClass : UInt8
  bInterfaceProtocol : UInt8
  iInterface : UInt8

/-- The bytes of an interface descriptor. -/
def UsbIntfDesc.bytes (d : UsbIntfDesc) : Bytes :=
  [9, 0x04, d.bInterfaceNumber, d.bAlternateSetting, d.bNumEndpoints, d.bInterfaceClass,
    d.bInterfaceSubClass, d.bInterfaceProtocol, d.iInterface]

/-- `struct usb_ep_desc`, without its first two members. -/
structure UsbEpDesc where
  bEndpointAddress : UInt8
  bmAttributes : UInt8
  wMaxPacketSize : UInt16
  bInterval : UInt8

/-- The bytes of an endpoint descriptor. -/
def UsbEpDesc.bytes (d : UsbEpDesc) : Bytes :=
  [7, 0x05, d.bEndpointAddress, d.bmAttributes] ++ le16 d.wMaxPacketSize ++ [d.bInterval]

/-- The interface, `intf_fs` and `intf_hs`. -/
def intf : UsbIntfDesc where
  bInterfaceNumber := 0
  bAlternateSetting := 0
  bNumEndpoints := 2
  bInterfaceClass := 0xFF
  bInterfaceSubClass := 0x00
  bInterfaceProtocol := 0x00
  iInterface := 0

/-- `ep_in_fs` and `ep_in_hs`. -/
def epIn (wMaxPacketSize : UInt16) : UsbEpDesc where
  bEndpointAddress := 0x83
  bmAttributes := 0x02
  wMaxPacketSize := wMaxPacketSize
  bInterval := 0

/-- `ep_out_fs` and `ep_out_hs`. -/
def epOut (wMaxPacketSize : UInt16) : UsbEpDesc where
  bEndpointAddress := 0x02
  bmAttributes := 0x02
  wMaxPacketSize := wMaxPacketSize
  bInterval := 0

/-- The descriptors of one speed. -/
def speed (wMaxPacketSize : UInt16) : List Bytes :=
  [intf.bytes, (epIn wMaxPacketSize).bytes, (epOut wMaxPacketSize).bytes]

/-- `descriptors`: magic number, length, the two counts, full speed and high speed. -/
def descriptors : Bytes :=
  le32 1 ++ le32 62 ++ le32 3 ++ le32 3 ++ (speed 64).flatten ++ (speed 512).flatten

/-- `strings`: magic number, length and the two counts. -/
def strings : Bytes :=
  le32 2 ++ le32 16 ++ le32 0 ++ le32 0

/-- The lengths and counts in the heads are those of what follows, and every descriptor
starts with its length. -/
theorem heads_true :
    (descriptors.length = 62 ∧ (speed 64).length = 3 ∧ (speed 512).length = 3) ∧
      (∀ d ∈ speed 64 ++ speed 512, d.head? = some (UInt8.ofNat d.length)) ∧
      strings.length = 16 := by
  decide

/-! ## The program -/

/-- What `read` did to the event: nothing and failed, with `EINTR` or another error, or
stored some bytes. -/
inductive ReadAnswer where
  | failed (eintr : Bool)
  | stored (data : Bytes)
deriving DecidableEq

/-- The calls of the kernel. -/
inductive FfsCall where
  | open_ (path : Bytes)
  | write (fd : Int) (buf : Bytes)
  | read (fd : Int) (size : Nat)
  | close (fd : Int)
deriving DecidableEq

/-- What a call answers. -/
@[reducible] def FfsCall.Out : FfsCall → Type
  | .open_ _ => Int
  | .write _ _ => Int
  | .read _ _ => ReadAnswer
  | .close _ => Unit

/-- A part of `ffs_init`. -/
abbrev FfsM (τ α : Type) := Program FfsCall.Out τ Unit α

/-- `struct usb_functionfs_event`: the request, and behind it the type and padding. -/
structure FfsEvent where
  bytes : Bytes
  bytes_length : bytes.length = 12

/-- `event.type`. -/
def FfsEvent.type (event : FfsEvent) : UInt8 :=
  event.bytes.get ⟨8, by rw [event.bytes_length]; norm_num⟩

/-- `read` writes over the front of the event. -/
def FfsEvent.store (event : FfsEvent) (data : Bytes) : FfsEvent where
  bytes := data.take 12 ++ event.bytes.drop (data.take 12).length
  bytes_length := by
    have hlen := event.bytes_length
    simp only [List.length_append, List.length_take, List.length_drop, hlen]
    omega

/-- `FUNCTIONFS_UNBIND`. -/
def functionfsUnbind : UInt8 := 1

/-- `FUNCTIONFS_SETUP`. -/
def functionfsSetup : UInt8 := 4

section Program

variable {τ : Type} (S : Outside FfsCall.Out τ)

/-- The loop of `main`, with a bound on the number of reads; `none` means that the bound
is reached. -/
def eventLoop (fd : Int) : Nat → FfsEvent → FfsM τ (Option Unit)
  | 0, _ => return none
  | reads + 1, event => do
      let n : ReadAnswer ← callOut S (.read fd 12)
      match n with
      | .failed eintr =>
          if eintr then eventLoop fd reads event
          else return some ()
      | .stored data =>
          let event := event.store data
          if event.type = functionfsSetup then
            -- the request is answered by an empty write, which stalls it
            let _ ← callOut S (.write fd [])
            eventLoop fd reads event
          else if event.type = functionfsUnbind then return some ()
          else eventLoop fd reads event

/-- The end of `main` behind a failed write. -/
def giveUp (fd : Int) : FfsM τ (Option Int) := do
  let _ ← callOut S (.close fd)
  return some 1

/-- `main` with the arguments behind its name, the contents of the event at the start and
a bound on the number of reads. -/
def ffsInit (args : List Bytes) (event : FfsEvent) (reads : Nat) : FfsM τ (Option Int) := do
  let ffsDir := args.head?.getD (ascii "/dev/usb-ffs/bulk1")
  let ep0Path := (snprintf 256 (ffsDir ++ ascii "/ep0")).stored
  let fd : Int ← callOut S (.open_ ep0Path)
  if fd < 0 then
    return some 1
  else
    let n : Int ← callOut S (.write fd descriptors)
    if n < 0 then
      giveUp S fd
    else
      let n : Int ← callOut S (.write fd strings)
      if n < 0 then
        giveUp S fd
      else
        let done ← eventLoop S fd reads event
        match done with
        | none => return none
        | some () =>
            let _ ← callOut S (.close fd)
            return some 0

end Program

/-! ## The order -/

/-- How far the endpoint is.  In the last two cases the flag says whether the function
was active. -/
inductive Ep0 where
  | fresh
  | opened (fd : Int)
  | described (fd : Int)
  | active (fd : Int) (event : FfsEvent) (reads : Nat)
  | asked (fd : Int) (event : FfsEvent) (reads : Nat)
  | ending (fd : Int) (wasActive : Bool)
  | closed (wasActive : Bool)

namespace Ep0

/-- Behind a read that stored the event. -/
def reported (fd : Int) (event : FfsEvent) (reads : Nat) : Ep0 :=
  if event.type = functionfsSetup then .asked fd event reads
  else if event.type = functionfsUnbind then .ending fd true
  else .active fd event reads

/-- What a call changes. -/
def next (event : FfsEvent) (s : Ep0) (e : CallEvent FfsCall.Out) : Ep0 :=
  match s, e with
  | .fresh, ⟨.open_ _, (fd : Int)⟩ => if fd < 0 then .closed false else .opened fd
  | .opened fd, ⟨.write _ _, (n : Int)⟩ => if n < 0 then .ending fd false else .described fd
  | .described fd, ⟨.write _ _, (n : Int)⟩ =>
      if n < 0 then .ending fd false else .active fd event 0
  | .active fd ev reads, ⟨.read _ _, (.failed eintr : ReadAnswer)⟩ =>
      if eintr then .active fd ev (reads + 1) else .ending fd true
  | .active fd ev reads, ⟨.read _ _, (.stored data : ReadAnswer)⟩ =>
      reported fd (ev.store data) (reads + 1)
  | .asked fd ev reads, ⟨.write _ _, _⟩ => .active fd ev reads
  | .ending _ wasActive, ⟨.close _, _⟩ => .closed wasActive
  | s, _ => s

/-- When a call is in order. -/
def Allows (path : Bytes) (s : Ep0) (e : CallEvent FfsCall.Out) : Prop :=
  match s with
  | .fresh => e.call = .open_ path
  | .opened fd => e.call = .write fd descriptors
  | .described fd => e.call = .write fd strings
  | .active fd _ _ => e.call = .read fd 12
  | .asked fd _ _ => e.call = .write fd []
  | .ending fd _ => e.call = .close fd
  | .closed _ => False

end Ep0

/-- The order in which the endpoint is used: opened at the path, described, named, and
then read, where each setup request is answered by one empty write before the next read;
and closed once behind the last call. -/
def ep0Order (path : Bytes) (event : FfsEvent) : Protocol (CallEvent FfsCall.Out) Ep0 where
  start := .fresh
  next := Ep0.next event
  Allowed := Ep0.Allows path

section Order

variable {τ : Type} (S : Outside FfsCall.Out τ) {path : Bytes} {event₀ : FfsEvent}

/-- The loop, by induction on the bound: it reads on unless the function is unbound or a
read fails for good. -/
theorem follows_eventLoop
    (fd : Int) (n : Nat) (event : FfsEvent) (reads : Nat) :
    (ep0Order path event₀).Follows (eventLoop S fd n event)
      (fun done _ s => match done with
        | none => ∃ event, s = .active fd event (reads + n)
        | some () => s = .ending fd true)
      () (.active fd event reads) := by
  induction n generalizing event reads with
  | zero =>
      exact Protocol.follows_pure ⟨event, rfl⟩
  | succ n ih =>
      have hcount : reads + 1 + n = reads + (n + 1) := by omega
      unfold eventLoop
      refine Protocol.follows_call S fun answer => ⟨rfl, ?_⟩
      cases answer with
      | failed eintr =>
          cases eintr with
          | true =>
              rw [← hcount]
              exact ih event (reads + 1)
          | false =>
              exact Protocol.follows_pure rfl
      | stored data =>
          rw [← hcount]
          show (ep0Order path event₀).Follows _ _ _ (Ep0.reported fd (event.store data) _)
          unfold Ep0.reported
          by_cases hsetup : (event.store data).type = functionfsSetup
          · simp only [if_pos hsetup]
            exact Protocol.follows_call S fun _ => ⟨rfl, ih (event.store data) (reads + 1)⟩
          · simp only [if_neg hsetup]
            by_cases hunbind : (event.store data).type = functionfsUnbind
            · simp only [if_pos hunbind]
              exact Protocol.follows_pure rfl
            · simp only [if_neg hunbind]
              exact ih (event.store data) (reads + 1)

/-- What is left to do, and what the exit code says. -/
def Finished (reads : Nat) (exit : Option Int) (s : Ep0) : Prop :=
  match exit with
  | none => ∃ fd event, s = .active fd event reads
  | some code => ∃ wasActive, s = .closed wasActive ∧ code = if wasActive then 0 else 1

theorem follows_giveUp
    (fd : Int) (reads : Nat) :
    (ep0Order path event₀).Follows (giveUp S fd) (fun exit _ s => Finished reads exit s) ()
      (.ending fd false) :=
  Protocol.follows_call S fun _ => ⟨rfl, Protocol.follows_pure ⟨false, rfl, rfl⟩⟩

/-- The path that the arguments name. -/
def ep0Path (args : List Bytes) : Bytes :=
  (snprintf 256 (args.head?.getD (ascii "/dev/usb-ffs/bulk1") ++ ascii "/ep0")).stored

theorem follows_ffsInit
    (args : List Bytes) (reads : Nat) :
    (ep0Order (ep0Path args) event₀).Follows (ffsInit S args event₀ reads)
      (fun exit _ s => Finished reads exit s) () .fresh := by
  unfold ffsInit
  refine Protocol.follows_call S fun (fd : Int) => ⟨rfl, ?_⟩
  show (ep0Order (ep0Path args) event₀).Follows _ _ _ (if fd < 0 then _ else _)
  by_cases hfd : fd < 0
  · rw [if_pos hfd, if_pos hfd]
    exact Protocol.follows_pure ⟨false, rfl, rfl⟩
  rw [if_neg hfd, if_neg hfd]
  refine Protocol.follows_call S fun (n : Int) => ⟨rfl, ?_⟩
  show (ep0Order (ep0Path args) event₀).Follows _ _ _ (if n < 0 then _ else _)
  by_cases hn : n < 0
  · rw [if_pos hn, if_pos hn]
    exact follows_giveUp S fd reads
  rw [if_neg hn, if_neg hn]
  refine Protocol.follows_call S fun (n : Int) => ⟨rfl, ?_⟩
  show (ep0Order (ep0Path args) event₀).Follows _ _ _ (if n < 0 then _ else _)
  by_cases hn : n < 0
  · rw [if_pos hn, if_pos hn]
    exact follows_giveUp S fd reads
  rw [if_neg hn, if_neg hn]
  refine Protocol.follows_bind
    (Protocol.follows_mono (follows_eventLoop S fd reads event₀ 0) ?_)
  intro done _ s hdone
  cases done with
  | none =>
      obtain ⟨event, rfl⟩ := hdone
      exact Protocol.follows_pure ⟨fd, event, by rw [Nat.zero_add]⟩
  | some =>
      obtain rfl : s = .ending fd true := hdone
      exact Protocol.follows_call S fun _ => ⟨rfl, Protocol.follows_pure ⟨true, rfl, rfl⟩⟩

end Order

/-! ## Open and closed -/

/-- The kernel answered a descriptor. -/
def opens : CallEvent FfsCall.Out → Bool
  | ⟨.open_ _, (fd : Int)⟩ => decide (0 ≤ fd)
  | _ => false

/-- A descriptor is given back. -/
def closes (e : CallEvent FfsCall.Out) : Bool :=
  match e.call with
  | .close _ => true
  | _ => false

/-- The descriptors that are open. -/
def Ep0.held : Ep0 → Nat
  | .fresh => 0
  | .closed _ => 0
  | _ => 1

theorem held_reported
    (fd : Int) (event : FfsEvent) (reads : Nat) :
    (Ep0.reported fd event reads).held = 1 := by
  unfold Ep0.reported
  split_ifs <;> rfl

/-- One call keeps the account. -/
theorem held_next
    {path : Bytes} {event : FfsEvent} (s : Ep0) (e : CallEvent FfsCall.Out)
    (h : s.Allows path e) :
    (if opens e then 1 else 0) + s.held =
      (if closes e then 1 else 0) + (s.next event e).held := by
  obtain ⟨c, a⟩ := e
  cases s with
  | fresh =>
      obtain rfl : c = .open_ path := h
      have hopens : opens ⟨.open_ path, a⟩ = decide (0 ≤ (show Int from a)) := rfl
      have hnext : (Ep0.fresh.next event ⟨.open_ path, a⟩) =
        if (show Int from a) < 0 then .closed false else .opened a := rfl
      rw [hopens, hnext]
      by_cases ha : (show Int from a) < 0
      · rw [if_pos ha, if_neg (by simpa using ha)]
        rfl
      · rw [if_neg ha, if_pos (by simpa using ha)]
        rfl
  | opened fd =>
      obtain rfl : c = .write fd descriptors := h
      show 0 + 1 = 0 + (if (show Int from a) < 0 then Ep0.ending fd false else _).held
      split_ifs <;> rfl
  | described fd =>
      obtain rfl : c = .write fd strings := h
      show 0 + 1 = 0 + (if (show Int from a) < 0 then Ep0.ending fd false else _).held
      split_ifs <;> rfl
  | active fd ev reads =>
      obtain rfl : c = .read fd 12 := h
      cases a with
      | failed eintr =>
          cases eintr <;> rfl
      | stored data =>
          show 0 + 1 = 0 + (Ep0.reported fd (ev.store data) (reads + 1)).held
          rw [held_reported]
  | asked fd ev reads =>
      obtain rfl : c = .write fd [] := h
      rfl
  | ending fd wasActive =>
      obtain rfl : c = .close fd := h
      rfl
  | closed wasActive =>
      exact h.elim

/-- **The endpoint is used in order.**  In every run, whatever the kernel answers and however
many events it reports: the calls are in order, so that each setup request is answered by
exactly one empty write before the next read; as long as the program runs it has made as
many reads as the bound allows; once it ends, every descriptor is closed exactly as often
as it was opened, and the exit code is 0 exactly if the function was active, and 1
otherwise. -/
theorem ep0_in_order
    {τ : Type} (S : Outside FfsCall.Out τ) (outside : τ)
    (args : List Bytes) (event : FfsEvent) (reads : Nat) :
    let m : Machine FfsCall.Out τ Unit := { outside := outside, vars := (), trace := [] }
    let order := ep0Order (ep0Path args) event
    let r := ffsInit S args event reads m
    order.Obeys .fresh r.2.trace ∧
      Finished reads r.1 (order.after .fresh r.2.trace) ∧
      (r.1 ≠ none → r.2.trace.countP opens = r.2.trace.countP closes) := by
  intro m order r
  have hfollows : order.Follows (ffsInit S args event reads)
      (fun exit _ s => Finished reads exit s) () .fresh :=
    follows_ffsInit S args reads
  obtain ⟨evs, htrace, hobeys, hfinished⟩ := hfollows m rfl
  have htrace : r.2.trace = evs := htrace
  rw [htrace]
  refine ⟨hobeys, hfinished, fun hends => ?_⟩
  have hbalance := Protocol.balance Ep0.held held_next hobeys
  obtain ⟨code, hcode⟩ := Option.ne_none_iff_exists'.mp hends
  have hclosed : ((ep0Order (ep0Path args) event).after .fresh evs).held = 0 := by
    rw [show (ffsInit S args event reads m).1 = some code from hcode] at hfinished
    obtain ⟨wasActive, hafter, _⟩ := hfinished
    rw [hafter]
    rfl
  rw [hclosed] at hbalance
  exact hbalance

end Ffs
end PsdkBridge
