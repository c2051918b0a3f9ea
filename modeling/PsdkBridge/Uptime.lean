import PsdkBridge.Daemon
import PsdkBridge.ReplyDecoding

/-!
# The uptime over a run

The first answer to `system.ping` stores the start instant, and every answer counts from
there.  A run is a sequence of polls of the daemon, each with what happened to the drone
control layer before it, the datagram that it found and the readings of the monotonic
clock; `matches_pollLoop` shows that the poll loop of the real build is one.

`pingAnswers_eq` says what the pings of a run report.  `uptimeKept_iff` compares that with
the time since the server was set and since `main` began.
-/

namespace PsdkBridge

/-! ## Readings of the clock -/

/-- A reading of the clock. -/
def Timespec.Valid (t : Timespec) : Prop :=
  0 ≤ t.tvNsec ∧ t.tvNsec < 1000000000

/-- A reading in nanoseconds. -/
def Timespec.ns (t : Timespec) : Int :=
  t.tvSec * 1000000000 + t.tvNsec

/-- The whole milliseconds between two readings. -/
def elapsedMs (start now : Timespec) : Int :=
  (now.ns - start.ns) / 1000000

/-- The seconds and nanoseconds between two readings, behind the borrow. -/
def borrow (start now : Timespec) : Int × Int :=
  let sec := now.tvSec - start.tvSec
  let nsec := now.tvNsec - start.tvNsec
  (if nsec < 0 then sec - 1 else sec, if nsec < 0 then nsec + 1000000000 else nsec)

/-- The number that is reported for two readings. -/
def uptimeBetween (start now : Timespec) : UInt64 :=
  UInt64.ofInt (borrow start now).1 * 1000 + UInt64.ofInt (borrow start now).2 / 1000000

/-- The borrow leaves no negative number, and less than a second of nanoseconds. -/
structure BorrowKept (start now : Timespec) : Prop where
  sec : 0 ≤ (borrow start now).1
  nsec : 0 ≤ (borrow start now).2
  nsec_lt : (borrow start now).2 < 1000000000

section Clock

variable {start now : Timespec}

theorem borrow_ns
    (start now : Timespec) :
    (borrow start now).1 * 1000000000 + (borrow start now).2 = now.ns - start.ns := by
  simp only [borrow, Timespec.ns]
  split_ifs <;> omega

theorem borrowKept_of_le
    (hstart : start.Valid)
    (hnow : now.Valid)
    (hle : start.ns ≤ now.ns) :
    BorrowKept start now := by
  obtain ⟨hs, hs'⟩ := hstart
  obtain ⟨hn, hn'⟩ := hnow
  have hns := borrow_ns start now
  have hnsec : 0 ≤ (borrow start now).2 ∧ (borrow start now).2 < 1000000000 := by
    simp only [borrow]
    split_ifs <;> omega
  exact ⟨by omega, hnsec.1, hnsec.2⟩

/-- The reported number is that of the whole milliseconds, up to the size of its type. -/
theorem uptimeBetween_toNat
    (h : BorrowKept start now) :
    ((uptimeBetween start now).toNat : Int) = elapsedMs start now % 2 ^ 64 := by
  obtain ⟨hsec, hnsec, hlt⟩ := h
  have hns := borrow_ns start now
  simp only [uptimeBetween, elapsedMs, ← hns]
  have hof : ∀ x : Int, ((UInt64.ofInt x).toNat : Int) = x % 2 ^ 64 := by
    intro x
    rw [UInt64.ofInt, UInt64.toNat_ofNat']
    omega
  have hthousand : (1000 : UInt64).toNat = 1000 := rfl
  have hmillion : (1000000 : UInt64).toNat = 1000000 := rfl
  rw [UInt64.toNat_add, UInt64.toNat_mul, UInt64.toNat_div, hthousand, hmillion]
  push_cast
  rw [hof, hof, Int.emod_eq_of_lt hnsec (by omega)]
  omega

end Clock

/-! ## Runs -/

/-- What a poll of the daemon finds: what happened to the drone control layer since the
last one, the datagram if there is one, and the readings of the clock. -/
structure Poll (σ : Type) where
  between : σ → σ
  rx : Option (SockaddrIn × Bytes)
  startClock : Timespec
  nowClock : Timespec

/-- The start instant of the uptime, if there is one. -/
def World.started {σ : Type} (w : World σ) : Option Timespec :=
  if w.gStarted then some w.gStart else none

/-- What a ping was answered: the start instant behind it, the reading of the clock, and
the uptime that a client reads in the reply. -/
structure PingAnswer where
  start : Timespec
  now : Timespec
  uptime : Option UInt64

/-- The answer that counts from an instant. -/
def PingAnswer.since (start now : Timespec) : PingAnswer where
  start := start
  now := now
  uptime := some (uptimeBetween start now)

/-- The uptime in the datagram that was sent, if there is exactly one. -/
def reportedUptime : List Event → Option UInt64
  | [.send _ datagram _] => (readPingReply datagram).map Prod.snd
  | _ => none

section Runs

variable {σ : Type} (P : Platform) (D : DroneCtrl σ)

/-- The datagram of the poll is a ping. -/
def Poll.pings (p : Poll σ) : Bool :=
  match p.rx with
  | none => false
  | some (_, datagram) =>
      if messageOf datagram = [] then false
      else
        match rpcParse P (messageOf datagram) with
        | none => false
        | some req => decide (req.method = ascii "system.ping")

/-- The environment of the handlers in a poll. -/
def Poll.env (p : Poll σ) : Env σ where
  platform := P
  droneCtrl := D
  startClock := p.startClock
  nowClock := p.nowClock

/-- `udp_server_poll` with `handle_rpc` as its callback. -/
def pollStep (s : UdpServer × World σ) (p : Poll σ) : UdpServer × World σ :=
  udpServerPoll (fun peer buf _ w => handleRpc (p.env P D) peer buf w) s.1 p.rx
    { s.2 with ctrl := p.between s.2.ctrl }

/-- The events of a poll. -/
def pollEvents (s : UdpServer × World σ) (p : Poll σ) : List Event :=
  (pollStep P D s p).2.events.drop s.2.events.length

/-- The answers to the pings of a run. -/
def pingAnswers : UdpServer × World σ → List (Poll σ) → List PingAnswer
  | _, [] => []
  | s, p :: ps =>
      let s' := pollStep P D s p
      if p.pings P then
        { start := s'.2.gStart
          now := p.nowClock
          uptime := reportedUptime (pollEvents P D s p) } :: pingAnswers s' ps
      else pingAnswers s' ps

/-! ## What a poll does to the start instant -/

section Steps

variable (E : Env σ) (peer : SockaddrIn) {line : Bytes} {req : RpcRequest} (w : World σ)

theorem uptimeMs_eq :
    uptimeMs E w =
      (uptimeBetween (w.started.getD E.startClock) E.nowClock,
        { w with gStart := w.started.getD E.startClock, gStarted := true }) := by
  rcases w with ⟨ctrl, gStart, gStarted, events⟩
  cases gStarted <;> rfl

theorem gStart_of_started
    {w : World σ} {t : Timespec}
    (h : w.started = some t) :
    w.gStart = t := by
  unfold World.started at h
  split_ifs at h
  exact Option.some.inj h

theorem sendPrinted_started
    (p : Printed) :
    (sendPrinted peer p w).started = w.started := by
  unfold sendPrinted
  split_ifs <;> rfl

/-- Only the ping touches the start instant. -/
theorem exec_started
    {pl : Plan}
    (h : pl ≠ .ping)
    (id : Int32) :
    (pl.exec E peer id w).started = w.started := by
  cases pl with
  | ping =>
      exact absurd rfl h
  | refuse msg =>
      exact sendPrinted_started peer w _
  | invoke c failure body =>
      simp only [Plan.exec, sendError, sendResult]
      split_ifs <;> exact sendPrinted_started peer _ _

/-- The ping stores it, if none is stored. -/
theorem exec_ping_started
    (id : Int32) :
    (Plan.ping.exec E peer id w).started = some (w.started.getD E.startClock) := by
  simp only [Plan.exec, hSystemPing, sendResult, sendPrinted_started, uptimeMs_eq]
  rfl

end Steps

section Poll

variable {P} {s : UdpServer × World σ} {p : Poll σ}

/-- A poll with a ping. -/
theorem exists_of_pings
    (h : p.pings P = true) :
    ∃ peer datagram req, p.rx = some (peer, datagram) ∧ messageOf datagram ≠ [] ∧
      rpcParse P (messageOf datagram) = some req ∧ req.method = ascii "system.ping" := by
  unfold Poll.pings at h
  cases hrx : p.rx with
  | none =>
      rw [hrx] at h
      cases h
  | some r =>
      obtain ⟨peer, datagram⟩ := r
      rw [hrx] at h
      by_cases hmsg : messageOf datagram = []
      · simp [hmsg] at h
      · cases hreq : rpcParse P (messageOf datagram) with
        | none =>
            simp [hmsg, hreq] at h
        | some req =>
            simp only [hmsg, hreq, if_false, decide_eq_true_eq] at h
            exact ⟨peer, datagram, req, rfl, hmsg, hreq, h⟩

/-- Without a ping the start instant stays. -/
theorem pollStep_started_of_not_pings
    (h : p.pings P = false) :
    (pollStep P D s p).2.started = s.2.started := by
  unfold pollStep
  cases hrx : p.rx with
  | none =>
      rfl
  | some r =>
      obtain ⟨peer, datagram⟩ := r
      obtain ⟨srv', z, _, hpoll⟩ := udpServerPoll_some s.1 peer datagram
      rw [hpoll]
      by_cases hmsg : messageOf datagram = []
      · rw [if_pos hmsg]
        rfl
      rw [if_neg hmsg, handleRpc, rpcParse_append_zero]
      cases hreq : rpcParse P (messageOf datagram) with
      | none =>
          simp only [Poll.env, hreq]
          rfl
      | some req =>
          have hping : req.plan P ≠ .ping := by
            intro hplan
            simp [Poll.pings, hrx, hmsg, hreq, (plan_eq_ping_iff P req).mp hplan] at h
          simp only [Poll.env, hreq, dispatch_eq_exec]
          exact exec_started (p.env P D) peer _ hping req.id

/-- A ping counts from the start instant, or else from the reading that it stores. -/
theorem pollStep_of_pings
    (h : p.pings P = true) :
    (pollStep P D s p).2.started = some (s.2.started.getD p.startClock) ∧
      reportedUptime (pollEvents P D s p) =
        some (uptimeBetween (s.2.started.getD p.startClock) p.nowClock) := by
  obtain ⟨peer, datagram, req, hrx, hmsg, hreq, hm⟩ := exists_of_pings h
  obtain ⟨srv', z, _, hpoll⟩ := udpServerPoll_some s.1 peer datagram
  have hline : rpcParse (p.env P D).platform (messageOf datagram ++ 0 :: z) = some req :=
    (rpcParse_append_zero P _ z).trans hreq
  have hstep : (pollStep P D s p).2 = handleRpc (p.env P D) peer (messageOf datagram ++ 0 :: z)
      { s.2 with ctrl := p.between s.2.ctrl } := by
    rw [pollStep, hrx, hpoll, if_neg hmsg]
  constructor
  · have hplan : req.plan P = .ping := (plan_eq_ping_iff P req).mpr hm
    rw [hstep, handleRpc, hline]
    simp only [dispatch_eq_exec, Poll.env, hplan]
    exact exec_ping_started (p.env P D) peer _ req.id
  · obtain ⟨reply, hcarries, hread⟩ := uptimeArrives_of_request (p.env P D) peer hline hm
      { s.2 with ctrl := p.between s.2.ctrl }
    have hevents : pollEvents P D s p = [.send peer reply reply.length] := by
      rw [pollEvents, hstep]
      exact hcarries.sent
    rw [hevents, reportedUptime, hread, uptimeMs_eq]
    rfl

end Poll

/-! ## What the pings report -/

/-- The start instant of a run: the reading of its first ping. -/
def firstStart (ps : List (Poll σ)) : Option Timespec :=
  (ps.find? (Poll.pings P)).map Poll.startClock

/-- The pings of a run count from its start instant, if there are any. -/
theorem pingAnswers_since
    {s : UdpServer × World σ} {ps : List (Poll σ)} {t : Timespec}
    (h : (s.2.started.or (firstStart P ps)).getD t = t) :
    pingAnswers P D s ps =
      (ps.filter (Poll.pings P)).map (fun p => .since t p.nowClock) := by
  induction ps generalizing s with
  | nil =>
      rfl
  | cons p ps ih =>
      cases hp : p.pings P with
      | false =>
          have hstart :
              ((pollStep P D s p).2.started.or (firstStart P ps)).getD t = t := by
            rw [pollStep_started_of_not_pings D hp]
            simpa [firstStart, hp] using h
          simp only [pingAnswers, hp, Bool.false_eq_true, if_false, ih hstart,
            List.filter_cons]
      | true =>
          obtain ⟨hstarted, hreported⟩ := pollStep_of_pings (s := s) D hp
          have ht : s.2.started.getD p.startClock = t := by
            simp only [firstStart, List.find?_cons, hp, Option.map_some] at h
            cases hs : s.2.started <;> simpa [hs] using h
          rw [ht] at hstarted hreported
          simp only [pingAnswers, hp, if_true, List.filter_cons, List.map_cons, hreported,
            gStart_of_started hstarted, ih (by rw [hstarted]; rfl)]
          rfl

end Runs

/-! ## The time since the start -/

/-- The readings of a run: that at the beginning of `main`, that when the server was set,
and those of the polls.  A reading that a poll does not take lies between the others. -/
def clockReadings {σ : Type} (tMain tSet : Timespec) (ps : List (Poll σ)) : List Timespec :=
  tMain :: tSet :: ps.flatMap (fun p => [p.startClock, p.nowClock])

/-- The clock does not run backwards. -/
structure ClockRun {σ : Type} (tMain tSet : Timespec) (ps : List (Poll σ)) : Prop where
  valid : ∀ t ∈ clockReadings tMain tSet ps, t.Valid
  monotone : (clockReadings tMain tSet ps).Pairwise (fun t t' => t.ns ≤ t'.ns)

/-- Every ping is answered with an uptime between the time since the server was set and
the time since `main` began, without an underflow, and no uptime is less than an earlier
one. -/
structure UptimeKept (tMain tSet : Timespec) (answers : List PingAnswer) : Prop where
  reported : ∀ a ∈ answers, ∃ n, a.uptime = some n ∧
    elapsedMs tSet a.now ≤ n.toNat ∧ n.toNat ≤ elapsedMs tMain a.now
  borrows : ∀ a ∈ answers, BorrowKept a.start a.now
  monotone : answers.Pairwise (fun a a' => ∀ n ∈ a.uptime, ∀ n' ∈ a'.uptime, n ≤ n')

/-- No whole millisecond goes missing between the setting of the server and the start
instant, and the time since then fits into 64 bits. -/
structure Prompt (tSet start now : Timespec) : Prop where
  soon : (now.ns - start.ns) % 1000000 + (start.ns - tSet.ns) < 1000000
  fits : elapsedMs start now < 2 ^ 64

section Bounds

variable {tMain tSet start now now' : Timespec}

/-- One answer. -/
theorem bounds_iff_prompt
    (hmain : tMain.ns ≤ tSet.ns)
    (hset : tSet.ns ≤ start.ns)
    (hnow : start.ns ≤ now.ns)
    (hborrow : BorrowKept start now) :
    (elapsedMs tSet now ≤ (uptimeBetween start now).toNat ∧
        ((uptimeBetween start now).toNat : Int) ≤ elapsedMs tMain now) ↔
      Prompt tSet start now := by
  rw [uptimeBetween_toNat hborrow]
  constructor
  · rintro ⟨hlow, _⟩
    simp only [elapsedMs] at hlow
    constructor
    · omega
    · simp only [elapsedMs]
      omega
  · rintro ⟨hsoon, hfits⟩
    simp only [elapsedMs] at hfits ⊢
    constructor <;> omega

/-- The uptimes of prompt answers do not decrease. -/
theorem uptimeBetween_mono
    (hnow : start.ns ≤ now.ns)
    (hle : now.ns ≤ now'.ns)
    (hborrow : BorrowKept start now)
    (hborrow' : BorrowKept start now')
    (hfits : elapsedMs start now' < 2 ^ 64) :
    uptimeBetween start now ≤ uptimeBetween start now' := by
  have h := uptimeBetween_toNat hborrow
  have h' := uptimeBetween_toNat hborrow'
  rw [UInt64.le_iff_toNat_le]
  simp only [elapsedMs] at h h' hfits
  omega

section Runs

variable {σ : Type} {P : Platform} {D : DroneCtrl σ} {s : UdpServer × World σ}
  {ps : List (Poll σ)}

/-- The readings around a ping of a run. -/
theorem ClockRun.of_pings
    (hclock : ClockRun tMain tSet ps)
    (hfirst : start ∈ firstStart P ps)
    {p : Poll σ}
    (hp : p ∈ ps)
    (hpings : p.pings P = true) :
    tMain.ns ≤ tSet.ns ∧ tSet.ns ≤ start.ns ∧ start.ns ≤ p.nowClock.ns ∧
      BorrowKept start p.nowClock := by
  obtain ⟨p₀, hfind, rfl⟩ := Option.map_eq_some_iff.mp hfirst
  have hmem₀ := List.mem_of_find?_eq_some hfind
  obtain ⟨_, pre, post, rfl, hpre⟩ := List.find?_eq_some_iff_append.mp hfind
  have hreadings : ∀ q ∈ pre ++ p₀ :: post, ∀ t ∈ [q.startClock, q.nowClock],
      t ∈ clockReadings tMain tSet (pre ++ p₀ :: post) := by
    intro q hq t ht
    exact List.mem_cons_of_mem _ (List.mem_cons_of_mem _ (List.mem_flatMap.mpr ⟨q, hq, ht⟩))
  obtain ⟨hmain, hrest⟩ := List.pairwise_cons.mp hclock.monotone
  obtain ⟨hset, hpolls⟩ := List.pairwise_cons.mp hrest
  obtain ⟨hown, hothers⟩ := List.pairwise_flatMap.mp hpolls
  have hle : p₀.startClock.ns ≤ p.nowClock.ns := by
    rcases List.mem_append.mp hp with hp | hp
    · exact absurd hpings (by simpa using hpre p hp)
    rcases List.mem_cons.mp hp with rfl | hp
    · simpa using hown p hmem₀
    · have hlater := (List.pairwise_cons.mp (List.pairwise_append.mp hothers).2.1).1 p hp
      exact hlater _ (by simp) _ (by simp)
  refine ⟨hmain tSet (by simp), hset _ (List.mem_flatMap.mpr ⟨p₀, hmem₀, by simp⟩), hle, ?_⟩
  exact borrowKept_of_le (hclock.valid _ (hreadings p₀ hmem₀ _ (by simp)))
    (hclock.valid _ (hreadings p hp _ (by simp))) hle

/-- Later polls read later times. -/
theorem ClockRun.pairwise_now
    (hclock : ClockRun tMain tSet ps) :
    ps.Pairwise (fun p p' => p.nowClock.ns ≤ p'.nowClock.ns) := by
  have hpolls := (List.pairwise_cons.mp (List.pairwise_cons.mp hclock.monotone).2).2
  exact (List.pairwise_flatMap.mp hpolls).2.imp (fun h => h _ (by simp) _ (by simp))

/-- A run without a stored start instant reports what the pings count from its first. -/
theorem pingAnswers_eq
    (hstart : s.2.gStarted = false)
    (t : Timespec) :
    pingAnswers P D s ps = (ps.filter (Poll.pings P)).map
      (fun p => .since ((firstStart P ps).getD t) p.nowClock) := by
  apply pingAnswers_since
  rw [World.started, hstart, if_neg Bool.false_ne_true, Option.none_or]
  cases firstStart P ps <;> rfl

/-- The pings of a run that keeps the uptime are prompt. -/
theorem prompt_of_uptimeKept
    (hclock : ClockRun tMain tSet ps)
    (hstart : s.2.gStarted = false)
    (hkept : UptimeKept tMain tSet (pingAnswers P D s ps))
    (hfirst : start ∈ firstStart P ps)
    {p : Poll σ}
    (hp : p ∈ ps)
    (hpings : p.pings P = true) :
    Prompt tSet start p.nowClock := by
  obtain ⟨hmain, hset, hnow, hborrow⟩ := hclock.of_pings hfirst hp hpings
  have hanswer : .since start p.nowClock ∈ pingAnswers P D s ps := by
    rw [pingAnswers_eq hstart tSet, Option.mem_def.mp hfirst]
    exact List.mem_map.mpr ⟨p, List.mem_filter.mpr ⟨hp, hpings⟩, rfl⟩
  obtain ⟨n, hn, hbounds⟩ := hkept.reported _ hanswer
  obtain rfl := Option.some.inj hn
  exact (bounds_iff_prompt hmain hset hnow hborrow).mp hbounds

/-- **The uptime is kept** by a run if and only if all its pings are prompt: the start
instant is only stored by the first of them, and what passed since the server was set
must not make a millisecond for any. -/
theorem uptimeKept_iff
    (hclock : ClockRun tMain tSet ps)
    (hstart : s.2.gStarted = false) :
    UptimeKept tMain tSet (pingAnswers P D s ps) ↔
      ∀ start ∈ firstStart P ps, ∀ p ∈ ps, p.pings P = true →
        Prompt tSet start p.nowClock := by
  constructor
  · intro hkept start hfirst p hp hpings
    exact prompt_of_uptimeKept hclock hstart hkept hfirst hp hpings
  · intro hprompt
    rw [pingAnswers_eq hstart tSet]
    -- a run with a ping has a first one
    have hfirst : ∀ p ∈ ps.filter (Poll.pings P),
        (firstStart P ps).getD tSet ∈ firstStart P ps := by
      intro p hp
      obtain ⟨q, hq⟩ := Option.isSome_iff_exists.mp
        (List.find?_isSome.mpr ⟨p, List.mem_filter.mp hp⟩)
      simp [firstStart, hq]
    generalize (firstStart P ps).getD tSet = start at *
    have hreadings : ∀ p ∈ ps.filter (Poll.pings P), tMain.ns ≤ tSet.ns ∧
        tSet.ns ≤ start.ns ∧ start.ns ≤ p.nowClock.ns ∧ BorrowKept start p.nowClock := by
      intro p hp
      obtain ⟨hmem, hpings⟩ := List.mem_filter.mp hp
      exact hclock.of_pings (hfirst p hp) hmem hpings
    have hsoon : ∀ p ∈ ps.filter (Poll.pings P), Prompt tSet start p.nowClock := by
      intro p hp
      obtain ⟨hmem, hpings⟩ := List.mem_filter.mp hp
      exact hprompt start (hfirst p hp) p hmem hpings
    refine ⟨?_, ?_, ?_⟩
    · intro a ha
      obtain ⟨p, hp, rfl⟩ := List.mem_map.mp ha
      obtain ⟨hmain, hset, hnow, hborrow⟩ := hreadings p hp
      exact ⟨_, rfl, (bounds_iff_prompt hmain hset hnow hborrow).mpr (hsoon p hp)⟩
    · intro a ha
      obtain ⟨p, hp, rfl⟩ := List.mem_map.mp ha
      exact (hreadings p hp).2.2.2
    · rw [List.pairwise_map]
      refine (hclock.pairwise_now.filter _).imp_of_mem (fun {p p'} hp hp' hle => ?_)
      obtain ⟨_, _, hnow, hborrow⟩ := hreadings p hp
      obtain ⟨_, _, _, hborrow'⟩ := hreadings p' hp'
      rintro n ⟨⟩ n' ⟨⟩
      exact uptimeBetween_mono hnow hle hborrow hborrow' (hsoon p' hp').fits

end Runs

end Bounds

/-! ## The real build -/

namespace Real

section Daemon

variable {τ : Type} (P : Platform) (L : Libm) (sizeof : Sizes)
  (S : Outside DaemonCall.Out τ)

/-- A round of the poll loop. -/
def pollOf (r : Round) : Poll (RealState τ) where
  between c :=
    { outside := c.outside
      vars := { c.vars with
        cache := r.samples.foldl (fun c d => callback sizeof d.1 d.2 c) c.vars.cache }
      trace := [] }
  rx := r.rx
  startClock := r.startClock
  nowClock := r.nowClock

/-- The state of the daemon is that of the server and of the handlers. -/
structure Matches (m : Machine DaemonCall.Out τ DaemonVars)
    (s : UdpServer × World (RealState τ)) : Prop where
  srv : m.vars.srv = s.1
  outside : m.outside = s.2.ctrl.outside
  real : m.vars.real = s.2.ctrl.vars
  gStart : m.vars.gStart = s.2.gStart
  gStarted : m.vars.gStarted = s.2.gStarted
  events : m.vars.events = s.2.events

variable {m : Machine DaemonCall.Out τ DaemonVars} {s : UdpServer × World (RealState τ)}

/-- A round is a poll. -/
theorem matches_pollRound
    (h : Matches m s)
    (r : Round) :
    Matches (pollRound P L sizeof S r m).2
      (pollStep P (realCtrl L (sysOutside S)) s (pollOf sizeof r)) := by
  -- the handlers start in the same world
  have hworld : ({
      ctrl := { outside := m.outside, vars := (receiveSamples sizeof r.samples m.vars).real,
                trace := [] }
      gStart := m.vars.gStart
      gStarted := m.vars.gStarted
      events := m.vars.events } : World (RealState τ)) =
      { s.2 with ctrl := (pollOf sizeof r).between s.2.ctrl } := by
    rw [h.outside, h.gStart, h.gStarted, h.events]
    simp only [receiveSamples, h.real]
    rfl
  have hpoll : (pollStep P (realCtrl L (sysOutside S)) s (pollOf sizeof r)) =
      udpServerPoll (fun peer buf _ w => handleRpc (roundEnv P L S r) peer buf w) m.vars.srv
        r.rx { s.2 with ctrl := (pollOf sizeof r).between s.2.ctrl } := by
    rw [h.srv]
    rfl
  rw [hpoll, ← hworld]
  exact ⟨rfl, rfl, rfl, rfl, rfl, rfl⟩

/-- The poll loop is a run. -/
theorem matches_pollLoop
    (h : Matches m s)
    (rounds : List Round) :
    Matches
      ((forIn rounds PUnit.unit (fun r _ => do
          pollRound P L sizeof S r
          pure (ForInStep.yield PUnit.unit)) : DaemonM τ PUnit) m).2
      ((rounds.map (pollOf sizeof)).foldl (pollStep P (realCtrl L (sysOutside S))) s) := by
  induction rounds generalizing m s with
  | nil =>
      exact h
  | cons r rounds ih =>
      rw [List.forIn_cons]
      exact ih (matches_pollRound P L sizeof S h r)

/-- The variables of the handlers. -/
def handlersOf (v : DaemonVars) : Timespec × Bool × List Event :=
  (v.gStart, v.gStarted, v.events)

theorem leaves_psdkHalRegister :
    Leaves handlersOf (psdkHalRegister S) := by
  unfold psdkHalRegister
  refine leaves_call S (fun _ => leaves_ite (leaves_pure _) ?_)
  refine leaves_call S (fun _ => leaves_ite (leaves_pure _) ?_)
  refine leaves_call S (fun _ => ?_)
  refine leaves_call S (fun _ => leaves_ite (leaves_pure _) ?_)
  refine leaves_call S (fun _ => leaves_ite (leaves_pure _) ?_)
  refine leaves_call S (fun _ => ?_)
  exact leaves_ite (leaves_pure _) (leaves_pure _)

theorem leaves_psdkInit :
    Leaves handlersOf (psdkInit S) := by
  unfold psdkInit
  refine leaves_bind (leaves_psdkHalRegister S) (fun _ => leaves_ite (leaves_pure _) ?_)
  refine leaves_call S (fun _ => leaves_ite (leaves_pure _) ?_)
  refine leaves_call S (fun _ => ?_)
  refine leaves_call S (fun _ => ?_)
  refine leaves_call S (fun _ => ?_)
  refine leaves_call S (fun _ => ?_)
  exact leaves_ite (leaves_pure _) (leaves_pure _)

theorem leaves_abandonServer
    (fd : Int) :
    Leaves handlersOf (abandonServer S fd) :=
  leaves_call S (fun _ => leaves_call S (fun _ => leaves_pure _))

theorem leaves_bindServer
    (fd : Int) (bindIp : Bytes) (port : UInt16) :
    Leaves handlersOf (bindServer S fd bindIp port) := by
  unfold bindServer
  refine leaves_call S (fun _ => leaves_ite (leaves_abandonServer S fd) ?_)
  exact leaves_bind (leaves_modifyVars (fun _ => rfl)) (fun _ => leaves_pure _)

theorem leaves_udpServerOpen
    (bindIp : Bytes) (port : UInt16) :
    Leaves handlersOf (udpServerOpen S bindIp port) := by
  unfold udpServerOpen
  refine leaves_call S (fun _ => leaves_ite (leaves_pure _) ?_)
  refine leaves_call S (fun fd => leaves_ite ?_ ?_)
  · exact leaves_call S (fun _ => leaves_pure _)
  refine leaves_call S (fun _ => leaves_ite ?_ ?_)
  · exact leaves_bindServer S fd bindIp port
  refine leaves_call S (fun _ => leaves_ite ?_ ?_)
  · exact leaves_abandonServer S fd
  · exact leaves_bindServer S fd bindIp port

/-- What the handlers of a complete run of the daemon did is what they do in the polls,
from the variables that the daemon had at its start. -/
theorem mainAfterOptions_polls
    (bindIp : Bytes) (port : UInt16) (rounds : List Round)
    (h : (mainAfterOptions P L sizeof S bindIp port rounds m).1 = 0) :
    ∃ s : UdpServer × World (RealState τ),
      s.2.gStarted = m.vars.gStarted ∧ s.2.events = m.vars.events ∧
        (mainAfterOptions P L sizeof S bindIp port rounds m).2.vars.events =
          ((rounds.map (pollOf sizeof)).foldl
            (pollStep P (realCtrl L (sysOutside S))) s).2.events := by
  unfold mainAfterOptions at h ⊢
  simp only [run_bind] at h ⊢
  have hinit := leaves_psdkInit S m
  generalize psdkInit S m = r₁ at h hinit ⊢
  rcases r₁ with ⟨_ | _, m₁⟩
  · cases h
  have hctrl : handlersOf (inCtrl (droneCtrlInit (sysOutside S)) m₁).2.vars =
      handlersOf m₁.vars := rfl
  simp only [Bool.not_true, Bool.false_eq_true, if_false, run_bind] at h ⊢
  generalize inCtrl (droneCtrlInit (sysOutside S)) m₁ = r₂ at h hctrl ⊢
  rcases r₂ with ⟨_ | _, m₂⟩
  · cases h
  have hopen := leaves_udpServerOpen S bindIp port m₂
  simp only [Bool.not_true, Bool.false_eq_true, if_false, run_bind] at h ⊢
  generalize udpServerOpen S bindIp port m₂ = r₃ at h hopen ⊢
  rcases r₃ with ⟨_ | fd, m₃⟩
  · cases h
  have hstart : handlersOf m₃.vars = handlersOf m.vars := hopen.trans (hctrl.trans hinit)
  simp only [handlersOf, Prod.mk.injEq] at hstart
  let s : UdpServer × World (RealState τ) := (m₃.vars.srv, {
    ctrl := { outside := m₃.outside, vars := m₃.vars.real, trace := [] }
    gStart := m₃.vars.gStart
    gStarted := m₃.vars.gStarted
    events := m₃.vars.events })
  have hmatches : Matches m₃ s := ⟨rfl, rfl, rfl, rfl, rfl, rfl⟩
  exact ⟨s, hstart.2.1, hstart.2.2, (matches_pollLoop P L sizeof S hmatches rounds).events⟩

end Daemon

end Real

/-! ## Two runs of the stub build -/

/-- A poll that finds a ping. -/
def pingPoll (startClock nowClock : Timespec) : Poll Stub.StubState where
  between := id
  rx := some (localPeer, requestLine 1 .systemPing [])
  startClock := startClock
  nowClock := nowClock

theorem pings_pingPoll
    (startClock nowClock : Timespec) :
    (pingPoll startClock nowClock).pings gnuPlatform = true := by
  have hmsg : messageOf (requestLine 1 .systemPing []) = requestLine 1 .systemPing [] := by
    decide +kernel
  have hne : requestLine 1 .systemPing [] ≠ [] := by
    decide +kernel
  have hreq := rpcParse_requestLine (i := 1) (by decide) .systemPing (List.forall_mem_nil Member.Ok)
    (List.forall_mem_nil _)
    (List.forall_mem_nil fun m : Member => (0 : UInt8) ∉ m.render)
  simp only [Poll.pings, pingPoll, hmsg, hne, if_false, hreq]
  decide

/-- The server is set a microsecond before the first of two pings. -/
theorem uptimeKept_prompt :
    UptimeKept ⟨10, 0⟩ ⟨10, 999999000⟩
      (pingAnswers gnuPlatform stubEnv.droneCtrl (udpServerCreate, stubWorld)
        [pingPoll ⟨11, 0⟩ ⟨11, 200⟩, pingPoll ⟨11, 300⟩ ⟨15, 1⟩]) := by
  refine (uptimeKept_iff ⟨?_, ?_⟩ rfl).mpr ?_
  · simp [clockReadings, pingPoll, Timespec.Valid]
  · simp [clockReadings, pingPoll, Timespec.ns]
  · simp only [firstStart, List.find?_cons, pings_pingPoll]
    rintro start ⟨⟩ p hp _
    rcases List.mem_cons.mp hp with rfl | hp
    · exact ⟨by decide, by decide⟩
    · obtain rfl := List.mem_singleton.mp hp
      exact ⟨by decide, by decide⟩

/-- The first ping, five seconds after the server was set, reports an uptime of zero. -/
theorem uptime_restarted :
    (pingAnswers gnuPlatform stubEnv.droneCtrl (udpServerCreate, stubWorld)
        [pingPoll ⟨5, 0⟩ ⟨5, 0⟩]).map PingAnswer.uptime = [some 0] ∧
      ¬ UptimeKept ⟨0, 0⟩ ⟨0, 0⟩
        (pingAnswers gnuPlatform stubEnv.droneCtrl (udpServerCreate, stubWorld)
          [pingPoll ⟨5, 0⟩ ⟨5, 0⟩]) := by
  have hfirst : firstStart gnuPlatform [pingPoll ⟨5, 0⟩ ⟨5, 0⟩] = some ⟨5, 0⟩ := by
    simp only [firstStart, List.find?_cons, pings_pingPoll]
    rfl
  constructor
  · rw [pingAnswers_eq rfl ⟨0, 0⟩, hfirst]
    simp only [List.filter_cons, pings_pingPoll]
    rfl
  · intro hkept
    have hclock : ClockRun ⟨0, 0⟩ ⟨0, 0⟩ [pingPoll ⟨5, 0⟩ ⟨5, 0⟩] :=
      ⟨by simp [clockReadings, pingPoll, Timespec.Valid],
        by simp [clockReadings, pingPoll, Timespec.ns]⟩
    have hprompt := prompt_of_uptimeKept hclock rfl hkept hfirst List.mem_cons_self
      (pings_pingPoll ⟨5, 0⟩ ⟨5, 0⟩)
    exact absurd hprompt.soon (by decide)

end PsdkBridge
