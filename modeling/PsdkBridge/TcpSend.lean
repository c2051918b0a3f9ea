import PsdkBridge.TcpReceive

/-!
# What `tcp_server_send` puts on the wire

A message is two writes, and the kernel may take a part of the first one, or
refuse either of them.  `tcpServerSend_run` reads what a call does from these two
answers, and `sendRun_eq` does so for a sequence of calls on one descriptor.

`framed_sendRun_iff` says when the other side, which cuts the wire into lines as
`recv_client` does, finds exactly the messages of the calls that reported
success: no newline may follow a message that was taken in part, or the bytes of
a call that failed before its newline.
-/

namespace PsdkBridge
namespace Tcp

/-! ## The wire -/

/-- What a write put on the wire of the descriptor. -/
def writtenOf (fd : Int) : NetEvent → Option Bytes
  | ⟨.write fd' bs, .wrote n _ _⟩ => if fd' = fd then some (bs.take n) else none
  | _ => none

/-- What the events put on the wire of the descriptor. -/
def wire (fd : Int) (evs : List NetEvent) : Bytes :=
  (evs.filterMap (writtenOf fd)).flatten

/-- A call of `tcp_server_send`: its message, whether it returned 0, and what it
put on the wire. -/
structure SendRecord where
  msg : Bytes
  ok : Bool
  sent : Bytes
deriving DecidableEq

/-- The other side finds the messages of the calls that returned 0, and each of
these calls sent its message and the newline. -/
structure Framed (rs : List SendRecord) : Prop where
  messages : lines (rs.flatMap SendRecord.sent) =
    (rs.filter SendRecord.ok).map SendRecord.msg
  whole : ∀ r ∈ rs, r.ok = true → r.sent = r.msg ++ [newline]

section Calls

variable {τ : Type} (S : Outside NetCall.Out τ) (fd : Int)

/-- Calls of `tcp_server_send` on one descriptor. -/
def sendRun : List Bytes → TcpState τ → List SendRecord
  | [], _ => []
  | msg :: msgs, m =>
      { msg := cstr msg
        ok := (tcpServerSend S fd msg m).1
        sent := wire fd ((tcpServerSend S fd msg m).2.trace.drop m.trace.length) } ::
      sendRun msgs (tcpServerSend S fd msg m).2

/-! ## The answers of the kernel -/

/-- How the kernel takes a message: it refuses the bytes, it takes some of them
but not the newline, or it takes some of them and the newline. -/
inductive SendAnswer where
  | refused
  | unterminated (n : Nat)
  | terminated (n : Nat)
deriving DecidableEq

/-- The answer of the kernel to the two writes of a message. -/
def sendAnswer (msg : Bytes) (t : τ) : SendAnswer × τ :=
  match S (.write fd (cstr msg)) t with
  | (.failed, t) => (.refused, t)
  | (.wrote n _ _, t) =>
      match S (.write fd [10]) t with
      | (.failed, t) => (.unterminated n, t)
      | (.wrote _ _ _, t) => (.terminated n, t)

/-- The answers of the kernel to a sequence of messages. -/
def sendAnswers : List Bytes → τ → List (Bytes × SendAnswer)
  | [], _ => []
  | msg :: msgs, t =>
      (cstr msg, (sendAnswer S fd msg t).1) :: sendAnswers msgs (sendAnswer S fd msg t).2

/-- No newline follows a part of a message, or bytes that a newline should have
followed before; `pending` says whether there are such bytes. -/
def Orderly (pending : Bool) : List (Bytes × SendAnswer) → Prop
  | [] => True
  | (_, .refused) :: as => Orderly pending as
  | (_, .unterminated _) :: as => Orderly true as
  | (msg, .terminated n) :: as =>
      pending = false ∧ n = msg.length ∧ Orderly false as

/-! ## One call -/

/-- The record of a call that the kernel answered in this way. -/
def SendAnswer.record (msg : Bytes) : SendAnswer → SendRecord
  | .refused => { msg := msg, ok := false, sent := [] }
  | .unterminated n => { msg := msg, ok := false, sent := msg.take n }
  | .terminated n => { msg := msg, ok := true, sent := msg.take n ++ [newline] }

/-- The kernel takes at least one byte of a message and no more than it has. -/
def SendAnswer.Fits (msg : Bytes) : SendAnswer → Prop
  | .refused => True
  | .unterminated n => 0 < n ∧ n ≤ msg.length
  | .terminated n => 0 < n ∧ n ≤ msg.length

/-- A call as the kernel answers it. -/
theorem tcpServerSend_run
    {msg : Bytes}
    (hmsg : cstr msg ≠ [])
    (m : TcpState τ) :
    let r := tcpServerSend S fd msg m
    let a := sendAnswer S fd msg m.outside
    (r.1 = (a.1.record (cstr msg)).ok ∧
        wire fd (r.2.trace.drop m.trace.length) = (a.1.record (cstr msg)).sent) ∧
      r.2.outside = a.2 ∧ a.1.Fits (cstr msg) := by
  simp only [tcpServerSend, sendAnswer, run_bind, run_callOut]
  rcases S (.write fd (cstr msg)) m.outside with ⟨r, t⟩
  cases r with
  | failed =>
      simp [SendAnswer.record, SendAnswer.Fits, wire, writtenOf]
  | wrote n fits progress =>
      simp only [run_bind, run_callOut]
      rcases S (.write fd [10]) t with ⟨r', t'⟩
      cases r' with
      | failed =>
          refine ⟨⟨rfl, ?_⟩, rfl, progress hmsg, fits⟩
          simp [SendAnswer.record, wire, writtenOf]
      | wrote n' fits' progress' =>
          have hn' : n' = 1 := by
            have := progress' (by simp)
            simp only [List.length_singleton] at fits'
            omega
          refine ⟨⟨rfl, ?_⟩, rfl, progress hmsg, fits⟩
          subst hn'
          simp [SendAnswer.record, wire, writtenOf, newline]

/-- **A sequence of calls** is what the answers of the kernel say. -/
theorem sendRun_eq
    {msgs : List Bytes}
    (hmsgs : ∀ msg ∈ msgs, cstr msg ≠ [])
    (m : TcpState τ) :
    sendRun S fd msgs m =
      (sendAnswers S fd msgs m.outside).map (fun a => a.2.record a.1) := by
  induction msgs generalizing m with
  | nil =>
      rfl
  | cons msg msgs ih =>
      obtain ⟨⟨hok, hsent⟩, hout, _⟩ :=
        tcpServerSend_run S fd (hmsgs msg List.mem_cons_self) m
      rw [sendRun, sendAnswers, List.map_cons, hok, hsent,
        ih (fun x hx => hmsgs x (List.mem_cons_of_mem _ hx)), hout]
      cases (sendAnswer S fd msg m.outside).1 <;> rfl

end Calls

/-! ## Framing the wire -/

/-- A message that can be framed: it is not empty, has no newline and does not
end in `\r`. -/
structure Frameable (msg : Bytes) : Prop where
  ne_nil : msg ≠ []
  newline_notMem : newline ∉ msg
  last_ne : msg.getLast? ≠ some carriageReturn

namespace Frameable

variable {msg : Bytes} (h : Frameable msg)

include h

/-- A line that ends in the message is framed as it is. -/
theorem lines_append
    {p : Bytes}
    (hp : newline ∉ p)
    (t : Bytes) :
    lines (p ++ (msg ++ newline :: t)) = (p ++ msg) :: lines t := by
  have hmem : newline ∉ p ++ msg := by
    simp [hp, h.newline_notMem]
  have hlast : (p ++ msg).getLast? ≠ some carriageReturn := by
    rw [List.getLast?_append_of_ne_nil p h.ne_nil]
    exact h.last_ne
  have hstrip : stripMark carriageReturn (p ++ msg) = p ++ msg := if_neg hlast
  rw [← List.append_assoc, lines, frames_line _ hmem, frameOf, hstrip,
    if_neg (by simp [h.ne_nil])]
  rfl

end Frameable

/-- What is sent behind pending bytes `p` is framed as `Framed` says. -/
def FramedBehind (p : Bytes) (rs : List SendRecord) : Prop :=
  lines (p ++ rs.flatMap SendRecord.sent) =
      (rs.filter SendRecord.ok).map SendRecord.msg ∧
    ∀ r ∈ rs, r.ok = true → r.sent = r.msg ++ [newline]

section Steps

variable {p msg : Bytes} {rs : List SendRecord} {n : Nat}

theorem framedBehind_refused :
    FramedBehind p (SendAnswer.refused.record msg :: rs) ↔ FramedBehind p rs := by
  simp [FramedBehind, SendAnswer.record]

theorem framedBehind_unterminated :
    FramedBehind p ((SendAnswer.unterminated n).record msg :: rs) ↔
      FramedBehind (p ++ msg.take n) rs := by
  simp [FramedBehind, SendAnswer.record]

/-- Pending bytes would become a part of the line. -/
theorem framedBehind_terminated
    (hmsg : Frameable msg)
    (hn : n ≤ msg.length)
    (hp : newline ∉ p) :
    FramedBehind p ((SendAnswer.terminated n).record msg :: rs) ↔
      p = [] ∧ n = msg.length ∧ FramedBehind [] rs := by
  have hwhole : msg.take n ++ [newline] = msg ++ [newline] ↔ n = msg.length := by
    rw [List.append_left_inj, List.take_eq_self_iff]
    omega
  by_cases hfull : n = msg.length
  · have hline := hmsg.lines_append hp (rs.flatMap SendRecord.sent)
    simp only [FramedBehind, SendAnswer.record, hfull, List.take_length, List.flatMap_cons,
      List.append_assoc, List.singleton_append, List.filter_cons_of_pos, List.map_cons,
      List.forall_mem_cons, hline, List.cons.injEq, List.append_left_eq_self, true_and,
      List.nil_append, forall_const]
    tauto
  · refine iff_of_false ?_ (fun h => hfull h.2.1)
    rintro ⟨_, hwhole'⟩
    exact hfull (hwhole.mp (hwhole' _ List.mem_cons_self rfl))

end Steps

/-- The induction over the calls: what is pending decides. -/
theorem framedBehind_iff
    {as : List (Bytes × SendAnswer)}
    (has : ∀ a ∈ as, Frameable a.1 ∧ a.2.Fits a.1)
    {p : Bytes}
    (hp : newline ∉ p) :
    FramedBehind p (as.map (fun a => a.2.record a.1)) ↔ Orderly (decide (p ≠ [])) as := by
  induction as generalizing p with
  | nil =>
      have hlines : lines p = [] := frames_of_notMem _ hp
      simp [FramedBehind, Orderly, hlines]
  | cons a as ih =>
      obtain ⟨msg, a⟩ := a
      obtain ⟨⟨hmsg, hfits⟩, hrest⟩ := List.forall_mem_cons.mp has
      rw [List.map_cons]
      cases a with
      | refused =>
          rw [framedBehind_refused, ih hrest hp]
          rfl
      | unterminated n =>
          -- from now on there are pending bytes, since the kernel took at least one
          have hpart : newline ∉ p ++ msg.take n := by
            have := hmsg.newline_notMem
            simp only [List.mem_append, not_or]
            exact ⟨hp, fun h => this (List.mem_of_mem_take h)⟩
          have hne : p ++ msg.take n ≠ [] := by
            have hpos : 0 < n := hfits.1
            simp [hmsg.ne_nil, hpos.ne']
          rw [framedBehind_unterminated, ih hrest hpart, decide_eq_true hne]
          rfl
      | terminated n =>
          rw [framedBehind_terminated hmsg hfits.2 hp, ih hrest List.not_mem_nil]
          simp [Orderly]

section Theorem

variable {τ : Type} {S : Outside NetCall.Out τ} {fd : Int}

/-- The answers concern the messages, and take no more than they have. -/
theorem sendAnswers_fits
    {msgs : List Bytes}
    (hmsgs : ∀ msg ∈ msgs, Frameable (cstr msg))
    (m : TcpState τ) :
    ∀ a ∈ sendAnswers S fd msgs m.outside, Frameable a.1 ∧ a.2.Fits a.1 := by
  induction msgs generalizing m with
  | nil =>
      simp [sendAnswers]
  | cons msg msgs ih =>
      obtain ⟨hmsg, hmsgs⟩ := List.forall_mem_cons.mp hmsgs
      obtain ⟨_, hout, hfits⟩ := tcpServerSend_run S fd hmsg.ne_nil m
      refine List.forall_mem_cons.mpr ⟨⟨hmsg, hfits⟩, ?_⟩
      rw [← hout]
      exact ih hmsgs _

/-- **Framing of what was sent.**  The other side finds exactly the messages of
the calls that returned 0, and these were sent as a whole, if and only if every
newline on the wire directly follows a whole message that directly follows the
previous newline. -/
theorem framed_sendRun_iff
    {msgs : List Bytes}
    (hmsgs : ∀ msg ∈ msgs, Frameable (cstr msg))
    (m : TcpState τ) :
    Framed (sendRun S fd msgs m) ↔ Orderly false (sendAnswers S fd msgs m.outside) := by
  have hbehind : Framed (sendRun S fd msgs m) ↔ FramedBehind [] (sendRun S fd msgs m) :=
    ⟨fun h => ⟨h.messages, h.whole⟩, fun h => ⟨h.1, h.2⟩⟩
  rw [hbehind, sendRun_eq S fd (fun msg h => (hmsgs msg h).ne_nil) m,
    framedBehind_iff (sendAnswers_fits hmsgs m) (by simp)]
  rfl

end Theorem

/-- A server whose kernel takes the given numbers of bytes. -/
def writesStart (ns : List Nat) : TcpState NetScript where
  outside := { reports := [], accepts := [], reads := [], writes := ns }
  vars := { srv := TcpServer.created 3 4, wrapped := false }
  trace := []

theorem frameable_ab :
    Frameable (cstr (ascii "ab")) :=
  ⟨by decide, by decide, by decide⟩

/-- The first message is refused, the second one is sent. -/
theorem framed_sendRun_refused :
    sendRun scriptKernel 5 [ascii "ab", ascii "ab"] (writesStart [0, 2, 1]) =
        [{ msg := ascii "ab", ok := false, sent := [] },
          { msg := ascii "ab", ok := true, sent := ascii "ab\n" }] ∧
      Framed (sendRun scriptKernel 5 [ascii "ab", ascii "ab"] (writesStart [0, 2, 1])) := by
  refine ⟨by decide, (framed_sendRun_iff ?_ _).mpr ⟨rfl, by decide, trivial⟩⟩
  simp [frameable_ab]

/-- The kernel takes one byte of a message and then the newline: the call returns
0, and the other side finds another message. -/
theorem shortWrite_not_framed :
    Frameable (cstr (ascii "ab")) ∧
      sendRun scriptKernel 5 [ascii "ab"] (writesStart [1, 1]) =
        [{ msg := ascii "ab", ok := true, sent := ascii "a\n" }] ∧
      lines (ascii "a\n") = [ascii "a"] ∧
      ¬ Framed (sendRun scriptKernel 5 [ascii "ab"] (writesStart [1, 1])) := by
  have hrun : sendRun scriptKernel 5 [ascii "ab"] (writesStart [1, 1]) =
      [{ msg := ascii "ab", ok := true, sent := ascii "a\n" }] := by
    decide
  refine ⟨frameable_ab, hrun, by decide, ?_⟩
  rw [hrun]
  rintro ⟨hmessages, _⟩
  exact absurd hmessages (by decide)

end Tcp
end PsdkBridge
