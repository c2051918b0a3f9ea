import PsdkBridge.TcpIsolation

/-!
# Lines that are lost

`recv_client` passes on lines only after a pause of the kernel.  If the buffer
fills up before, or if the peer hangs up, the client is freed and the lines that
are complete in the buffer are lost with it.

`Shaped` says what the reads of a connection bring over a whole run: calls that
all ended with a pause, and for a connection that was closed one more call that
did not.  `lossless_iff` and `hungUp_gotLines_iff` say exactly when no line is
lost.
-/

namespace PsdkBridge
namespace Tcp

/-- A callback that never asks to close the client. -/
def never : Bytes → Bool :=
  fun _ => false

/-- The bytes that arrived. -/
def stream (as : List (Arrival UInt8)) : Bytes :=
  (as.map Arrival.bytes).flatten

/-- All calls of `recv_client` so far ended with a pause. -/
def AtPause (as : List (Arrival UInt8)) : Prop :=
  as = [] ∨ ∃ pre, as = pre ++ [.pause]

/-- Every line is shorter than the buffer less one byte, its terminator
included; a piece at the end that has none yet counts as if it had one. -/
def ShortLines (s : Bytes) : Prop :=
  ∀ l ∈ s.splitOn newline, l.length + 1 < droneRecvBufLen - 1

/-- The callback got every line of the stream, once and in order. -/
def GotLines (c : Connection) : Prop :=
  c.messages = (lines (stream c.arrivals)).map (fun l => (l, l.length))

section Streams

variable (as : List (Arrival UInt8)) (ds : List Bytes)

theorem stream_append
    (bs : List (Arrival UInt8)) :
    stream (as ++ bs) = stream as ++ stream bs := by
  simp [stream]

@[simp] theorem stream_data :
    stream (ds.map Arrival.data) = ds.flatten := by
  simp [stream, Arrival.bytes, Function.comp_def]

theorem stream_data_concat
    {a : Arrival UInt8}
    (ha : a.bytes = []) :
    stream (ds.map Arrival.data ++ [a]) = ds.flatten := by
  rw [stream_append, stream_data]
  simp [stream, ha]

variable {as} {ds}

/-- The last call begins where the others ended. -/
theorem atPause_unique
    {as' : List (Arrival UInt8)} {ds' : List Bytes}
    (h : AtPause as)
    (h' : AtPause as')
    (heq : as ++ ds.map Arrival.data = as' ++ ds'.map Arrival.data) :
    as = as' ∧ ds = ds' := by
  -- data between two ends of calls contradicts that the second one is a pause
  have hnil : ∀ {as as' xs : List (Arrival UInt8)} {ds ds' : List Bytes}, AtPause as' →
      as' = as ++ xs → ds.map Arrival.data = xs ++ ds'.map Arrival.data → xs = [] := by
    intro as as' xs ds ds' hpause has hds
    rcases List.eq_nil_or_concat' xs with rfl | ⟨init, x, rfl⟩
    · rfl
    · exfalso
      obtain ⟨bs, _, hbs⟩ : ∃ bs ∈ ds, Arrival.data bs = x := by
        have hmem : x ∈ ds.map Arrival.data := by
          rw [hds]
          simp
        exact List.mem_map.mp hmem
      rcases hpause with rfl | ⟨pre, rfl⟩
      · simp at has
      · rw [← List.append_assoc] at has
        have hlast := (List.append_inj' has rfl).2
        rw [← hbs] at hlast
        simp at hlast
  have hds : ∀ {ds ds' : List Bytes}, ds.map Arrival.data = ds'.map Arrival.data → ds = ds' :=
    fun hmap => List.map_injective_iff.mpr (fun _ _ hbs => Arrival.data.inj hbs) hmap
  rcases List.append_eq_append_iff.mp heq with ⟨xs, has, hxs⟩ | ⟨xs, has, hxs⟩
  · obtain rfl := hnil h' has hxs
    exact ⟨by simpa using has.symm, hds (by simpa using hxs)⟩
  · obtain rfl := hnil h has hxs
    exact ⟨by simpa using has, (hds (by simpa using hxs)).symm⟩

end Streams

/-! ## The reads of a connection -/

/-- What calls of `recv_client` read that all ended with a pause. -/
inductive Drained : List (Arrival UInt8) → Prop
  | start : Drained []
  | call {as : List (Arrival UInt8)} (ds : List Bytes) :
      Drained as → Drained (as ++ (ds.map .data ++ [.pause]))

/-- What was read from a connection that was closed: the last call filled the
buffer, or the peer hung up. -/
inductive Over : List (Arrival UInt8) → Prop
  | full {as : List (Arrival UInt8)} {ds : List Bytes} :
      Drained as →
      (rest (stream as)).length + ds.flatten.length = droneRecvBufLen - 1 →
      Over (as ++ ds.map .data)
  | hungUp {as : List (Arrival UInt8)} (ds : List Bytes) :
      Drained as → Over (as ++ (ds.map .data ++ [.hangup]))

section Readers

variable {as : List (Arrival UInt8)}

theorem Drained.atPause
    (h : Drained as) :
    AtPause as := by
  cases h with
  | start =>
      exact Or.inl rfl
  | @call as ds _ =>
      exact Or.inr ⟨as ++ ds.map .data, (List.append_assoc _ _ _).symm⟩

theorem Drained.hangup_notMem
    (h : Drained as) :
    Arrival.hangup ∉ as := by
  induction h with
  | start =>
      exact List.not_mem_nil
  | call ds _ ih =>
      simp [ih]

theorem through_never
    (ls : List Bytes) :
    through never ls = ls :=
  through_of_forall (fun _ _ => rfl)

/-- Behind a pause the reader has passed on all lines. -/
theorem receiver_of_drained
    (h : Drained as) :
    receiver never as = { pending := rest (stream as), lines := lines (stream as) } := by
  induction h with
  | start =>
      rfl
  | @call as ds _ ih =>
      rw [receiver, Receiver.ofArrivals_append]
      change List.foldl (receive never) (receiver never as) _ = _
      rw [ih, foldl_receive_pause, through_never, stream_append,
        stream_data_concat ds rfl]
      exact congrArg₂ Receiver.mk (unfinished_append _ _).symm (frames_append _ _ _).symm

/-- The reader keeps what the last call read. -/
theorem receiver_append_data
    (h : Drained as)
    (ds : List Bytes) :
    receiver never (as ++ ds.map .data) =
      { pending := rest (stream as) ++ ds.flatten, lines := lines (stream as) } := by
  rw [receiver, Receiver.ofArrivals_append]
  change List.foldl (receive never) (receiver never as) _ = _
  rw [receiver_of_drained h, Receiver.foldl_data]

theorem receiver_append_hangup
    (h : Drained as)
    (ds : List Bytes) :
    receiver never (as ++ (ds.map .data ++ [.hangup])) =
      { pending := rest (stream as) ++ ds.flatten, lines := lines (stream as) } := by
  rw [← List.append_assoc, receiver, Receiver.ofArrivals_append]
  exact receiver_append_data h ds

end Readers

/-- The connections of a record, by what was read from them. -/
structure Shaped (evs : List NetEvent) : Prop where
  past : ∀ fd, ∀ c ∈ (watch fd evs).past, Over c.arrivals
  current : ∀ fd c, (watch fd evs).current = some c → Drained c.arrivals

theorem shaped_nil :
    Shaped [] where
  past := fun _ _ h => nomatch h
  current := fun _ _ h => nomatch h

section Steps

variable {τ : Type} {S : Outside NetCall.Out τ} {evs evs' : List NetEvent}

/-- A step that is about one descriptor. -/
theorem Shaped.focus
    (h : Shaped evs)
    (fd : Int)
    (hwatch : ∀ fd', fd' ≠ fd → watch fd' evs' = watch fd' evs)
    (hpast : ∀ c ∈ (watch fd evs').past, Over c.arrivals)
    (hcurrent : ∀ c, (watch fd evs').current = some c → Drained c.arrivals) :
    Shaped evs' := by
  refine ⟨fun fd' c hc => ?_, fun fd' c hc => ?_⟩
  · rcases eq_or_ne fd' fd with rfl | hne
    · exact hpast c hc
    · rw [hwatch fd' hne] at hc
      exact h.past fd' c hc
  · rcases eq_or_ne fd' fd with rfl | hne
    · exact hcurrent c hc
    · rw [hwatch fd' hne] at hc
      exact h.current fd' c hc

theorem Shaped.unchanged
    (h : Shaped evs)
    (hwatch : ∀ fd, watch fd evs' = watch fd evs) :
    Shaped evs' := by
  refine ⟨fun fd c hc => ?_, fun fd c hc => ?_⟩
  · rw [hwatch] at hc
    exact h.past fd c hc
  · rw [hwatch] at hc
    exact h.current fd c hc

/-- What one call reads: it ends with a pause, it fills the buffer, or the peer
hangs up. -/
theorem recvClient_drains
    (hS : Passive S)
    (hd : Decides S never)
    {i : Slot} {c : Client} {m : TcpState τ}
    (hc : m.vars.srv.clients i = c) :
    ∃ (ds : List Bytes) (evs : List NetEvent),
      (∀ e ∈ evs, IsRead c.fd e ∨ IsDelivery c.fd e) ∧
      ((evs.filterMap (arrivalOf c.fd) = ds.map .data ++ [.pause] ∧
          (recvClient S i m).2.trace = m.trace ++ evs) ∨
        (((evs.filterMap (arrivalOf c.fd) = ds.map .data ∧
              c.bufLen + ds.flatten.length = droneRecvBufLen - 1) ∨
            evs.filterMap (arrivalOf c.fd) = ds.map .data ++ [.hangup]) ∧
          ∃ del cls, (recvClient S i m).2.trace =
            m.trace ++ (evs ++ freeEvents c.fd del cls))) := by
  obtain ⟨ds, ms, evs, c', hfd, hevs, rfl, hans, hend⟩ := recvClient_cases hS i c m hc
  refine ⟨ds, evs, hevs, ?_⟩
  rcases hend with ⟨harr, ⟨hfin, _⟩ | hstop⟩ | ⟨_, hgave⟩
  · exact Or.inl ⟨harr, hfin.trace⟩
  · -- the callback does not ask to close
    exfalso
    obtain ⟨pre, last, hlast, _, hne⟩ := hstop.rets
    have htrue := decides_of_ret_ne_zero hd (hans last (by rw [hlast]; simp)) hne
    exact Bool.false_ne_true htrue
  · obtain ⟨del, cls, htrace⟩ := hgave.trace
    refine Or.inr ⟨hgave.arrivals.imp (fun h => ⟨h.1, ?_⟩) id, del, cls, ?_⟩
    · have hsize := congrArg List.length hgave.text
      have hfull := h.2
      rw [List.length_append, c'.text_length, c.text_length] at hsize
      simp only [Client.space] at hfull
      have := c'.bufLen_lt
      omega
    · rw [htrace, List.append_assoc]

theorem shaped_recvClient
    (hS : Passive S)
    (hd : Decides S never)
    (i : Slot) (m : TcpState τ) :
    ∃ evs', (recvClient S i m).2.trace = m.trace ++ evs' ∧
      ∀ evs, Isolated never m.vars evs → Shaped evs → Shaped (evs ++ evs') := by
  obtain ⟨ds, evs', hevs, ⟨harr, htrace⟩ | ⟨harr, del, cls, htrace⟩⟩ :=
    recvClient_drains hS hd (m := m) (i := i) rfl
  · refine ⟨evs', htrace, fun evs _ hshaped => ?_⟩
    refine hshaped.focus _ (fun fd' hne => watch_notes_of_ne hevs hne) ?_ ?_
    · rw [watch_notes hevs]
      exact hshaped.past _
    · intro x hx
      rw [watch_notes hevs] at hx
      obtain ⟨conn, hconn, rfl⟩ := Option.map_eq_some_iff.mp hx
      show Drained (conn.arrivals ++ _)
      rw [harr]
      exact (hshaped.current _ conn hconn).call ds
  · refine ⟨_, htrace, fun evs hinv hshaped => ?_⟩
    refine hshaped.focus _ (fun fd' hne => watch_freed_of_ne hevs hne) ?_ ?_
    · intro x hx
      rw [watch_freed hevs] at hx
      rcases List.mem_append.mp hx with hx | hx
      · exact hshaped.past _ x hx
      · obtain ⟨conn, hconn, rfl⟩ := Option.map_eq_some_iff.mp (Option.mem_toList.mp hx)
        have hdrained := hshaped.current _ conn hconn
        show Over (conn.arrivals ++ _)
        rcases harr with ⟨harr, hfull⟩ | harr
        · rw [harr]
          refine .full hdrained ?_
          -- the buffer holds the unterminated piece
          have hpending : rest (stream conn.arrivals) = (m.vars.srv.clients i).text 0 := by
            rw [← (hinv.holds rfl hconn).pending, receiver_of_drained hdrained]
          rw [hpending, Client.text_length]
          exact hfull
        · rw [harr]
          exact .hungUp ds hdrained
    · intro x hx
      rw [watch_freed hevs] at hx
      cases hx

theorem shaped_acceptClient
    (S : Outside NetCall.Out τ) (m : TcpState τ) :
    ∃ evs', (acceptClient S m).2.trace = m.trace ++ evs' ∧
      ∀ evs, Isolated never m.vars evs → Shaped evs →
        descriptors.Obeys (opened evs) evs' → Shaped (evs ++ evs') := by
  cases acceptClient_cases S m with
  | nothing cfd negative vars trace =>
      refine ⟨_, trace, fun evs _ hshaped _ => hshaped.unchanged (fun fd => ?_)⟩
      rw [watch_append]
      exact foldl_accept_setup (by simp) fd _
  | turnedAway cfd cls setup nonneg prepares vars trace =>
      refine ⟨_, trace, fun evs hinv hshaped hobeys => hshaped.unchanged ?_⟩
      exact watch_turnedAway prepares (hinv.current_eq_none (hobeys.1 cfd rfl nonneg))
  | unregistered cfd rc del cls setup i nonneg prepares slot failed vars trace =>
      refine ⟨_, trace, fun evs hinv hshaped hobeys => hshaped.unchanged ?_⟩
      exact watch_unregistered prepares (hinv.current_eq_none (hobeys.1 cfd rfl nonneg)) failed
  | admitted cfd rc setup i nonneg prepares slot added vars trace =>
      refine ⟨_, trace, fun evs hinv hshaped hobeys => ?_⟩
      have hnone := hinv.current_eq_none (hobeys.1 cfd rfl nonneg)
      refine hshaped.focus cfd (fun fd hne => watch_admitted_of_ne prepares hne) ?_ ?_
      · rw [watch_admitted prepares hnone added]
        exact hshaped.past cfd
      · intro c hc
        rw [watch_admitted prepares hnone added] at hc
        obtain rfl := Option.some.inj hc
        exact .start

/-- The server advances, and its connections keep their shape. -/
abbrev Shapes : TcpState τ → TcpState τ → Prop :=
  descriptors.Keeps (fun v evs => Isolated never v evs ∧ Shaped evs)

theorem shapes_polls
    (hS : Passive S)
    (hd : Decides S never)
    (m : TcpState τ) (n : Nat) :
    Shapes m (serverRun S m (List.replicate n .poll)) := by
  refine polls_rule Protocol.Keeps.refl Protocol.Keeps.trans ?_ ?_ ?_ m n
  · intro m
    refine Protocol.Keeps.and (advances_epollWait S never m)
      ⟨_, rfl, fun evs _ hshaped _ => ?_⟩
    refine hshaped.unchanged (fun fd => ?_)
    rw [watch_append]
    exact foldl_step_of_subject (by simp [subject]) _
  · intro m
    exact Protocol.Keeps.and (advances_acceptClient S never m) (shaped_acceptClient S m)
  · intro m i
    obtain ⟨evs', htrace, hstep⟩ := shaped_recvClient hS hd i m
    exact Protocol.Keeps.and (advances_recvClient hS hd i m)
      ⟨evs', htrace, fun evs hinv hshaped _ => hstep evs hinv hshaped⟩

/-- What was read from the connections of a run. -/
theorem PollRun.shaped
    (h : PollRun S never evs) :
    Shaped evs := by
  obtain ⟨v, hinv⟩ := h.keeps
    (fun listenFd epollFd => ⟨isolated_created never listenFd epollFd, shaped_nil⟩)
    (shapes_polls h.passive h.decides)
  exact hinv.2

/-- A connection is over, or all calls on it ended with a pause. -/
theorem PollRun.over_or_drained
    (h : PollRun S never evs)
    {fd : Int} {c : Connection}
    (hc : c ∈ connections fd evs) :
    (c ∈ (watch fd evs).past ∧ Over c.arrivals) ∨ Drained c.arrivals := by
  rcases List.mem_append.mp hc with hc | hc
  · exact Or.inl ⟨hc, h.shaped.past fd c hc⟩
  · exact Or.inr (h.shaped.current fd c (by simpa using hc))

end Steps

/-! ## When lines are lost -/

/-- The connection was closed although the last read brought data: the buffer was
full. -/
def FilledUp (fd : Int) (evs : List NetEvent) (c : Connection) : Prop :=
  c ∈ (watch fd evs).past ∧ ∃ as bs, c.arrivals = as ++ [.data bs]

/-- The last call on the connection read no newline before the buffer was
full. -/
def FillsWithoutNewline (as : List (Arrival UInt8)) : Prop :=
  ∀ (pre : List (Arrival UInt8)) (ds : List Bytes), as = pre ++ ds.map .data →
    AtPause pre → newline ∈ ds.flatten →
    (rest (stream pre)).length + ds.flatten.length < droneRecvBufLen - 1

/-- The call on the connection that met its end completed no line before. -/
def HangsUpBetweenLines (as : List (Arrival UInt8)) : Prop :=
  ∀ (pre : List (Arrival UInt8)) (ds : List Bytes), as = pre ++ (ds.map .data ++ [.hangup]) →
    AtPause pre → lines (rest (stream pre) ++ ds.flatten) = []

/-- What short lines promise: the buffer does not fill up and all lines are passed
on.  If it does fill up, then with one line that has no end. -/
structure Lossless (fd : Int) (evs : List NetEvent) (c : Connection) : Prop where
  short : ShortLines (stream c.arrivals) → ¬ FilledUp fd evs c ∧ GotLines c
  full : FilledUp fd evs c →
    ∃ (pre : List (Arrival UInt8)) (ds : List Bytes), c.arrivals = pre ++ ds.map .data ∧
      AtPause pre ∧ newline ∉ rest (stream pre) ++ ds.flatten ∧
      (rest (stream pre) ++ ds.flatten).length = droneRecvBufLen - 1

section Losses

variable {fd : Int} {evs : List NetEvent} {c : Connection}
  {as pre : List (Arrival UInt8)} {ds : List Bytes}

theorem ShortLines.rest_length
    {s : Bytes}
    (h : ShortLines s) :
    (rest s).length + 1 < droneRecvBufLen - 1 :=
  h _ (unfinished_mem_splitOn newline s)

/-- The lines that a connection got, if its reader passed on those of the earlier
calls. -/
theorem gotLines_iff
    (hserved : Served never c)
    (hlines : (receiver never c.arrivals).lines = lines (stream pre))
    (hstream : stream c.arrivals = stream pre ++ ds.flatten) :
    GotLines c ↔ lines (rest (stream pre) ++ ds.flatten) = [] := by
  have hinj : Function.Injective (fun l : Bytes => (l, l.length)) :=
    fun _ _ h => congrArg Prod.fst h
  have happend : lines (stream pre ++ ds.flatten) =
      lines (stream pre) ++ lines (rest (stream pre) ++ ds.flatten) :=
    frames_append _ _ _
  rw [GotLines, hserved, hlines, hstream, (List.map_injective_iff.mpr hinj).eq_iff, happend]
  exact List.self_eq_append_right

theorem AtPause.last_ne
    (h : AtPause as)
    {a : Arrival UInt8}
    (heq : as = pre ++ [a]) :
    a = .pause := by
  rcases h with rfl | ⟨pre', rfl⟩
  · simp at heq
  · have hlast := (List.append_inj' heq rfl).2
    simpa using hlast.symm

theorem hangsUpBetweenLines_of_notMem
    (h : Arrival.hangup ∉ as) :
    HangsUpBetweenLines as := by
  intro pre' ds' hc' _
  refine absurd ?_ h
  rw [hc']
  simp

theorem fillsWithoutNewline_of_atPause
    (h : AtPause as) :
    FillsWithoutNewline as := by
  intro pre ds heq hpre hmem
  rw [← List.append_nil as, ← List.map_nil (f := Arrival.data)] at heq
  obtain ⟨_, rfl⟩ := atPause_unique h hpre heq
  cases hmem

/-- All calls ended with a pause: nothing is lost. -/
theorem lossless_of_drained
    (hserved : Served never c)
    (h : Drained c.arrivals) :
    Lossless fd evs c ∧ FillsWithoutNewline c.arrivals ∧
      HangsUpBetweenLines c.arrivals := by
  have hfull : ¬ FilledUp fd evs c := by
    rintro ⟨_, as, bs, heq⟩
    exact nomatch h.atPause.last_ne heq
  refine ⟨⟨fun _ => ⟨hfull, ?_⟩, fun hf => absurd hf hfull⟩,
    fillsWithoutNewline_of_atPause h.atPause, hangsUpBetweenLines_of_notMem h.hangup_notMem⟩
  rw [GotLines, hserved, receiver_of_drained h]

/-- The buffer filled up: all depends on the newline. -/
theorem lossless_iff_of_full
    (hpast : c ∈ (watch fd evs).past)
    (hc : c.arrivals = pre ++ ds.map .data)
    (h : Drained pre)
    (hfull : (rest (stream pre)).length + ds.flatten.length = droneRecvBufLen - 1) :
    Lossless fd evs c ↔ FillsWithoutNewline c.arrivals := by
  have hrest : newline ∉ rest (stream pre) := notMem_unfinished _
  have hstream : stream c.arrivals = stream pre ++ ds.flatten := by
    rw [hc, stream_append, stream_data]
  by_cases hmem : newline ∈ ds.flatten
  · -- a complete line is lost
    refine iff_of_false (fun hloss => ?_) (fun hroom => ?_)
    · have hlast : FilledUp fd evs c := by
        rcases List.eq_nil_or_concat' ds with rfl | ⟨ds', d, rfl⟩
        · cases hmem
        · refine ⟨hpast, pre ++ ds'.map .data, d, ?_⟩
          rw [hc, List.map_append, List.append_assoc]
          rfl
      obtain ⟨pre', ds', hc', hpre', hnone, _⟩ := hloss.full hlast
      obtain ⟨rfl, rfl⟩ := atPause_unique h.atPause hpre' (hc.symm.trans hc')
      exact hnone (List.mem_append_right _ hmem)
    · have hlt := hroom pre ds hc h.atPause hmem
      omega
  · -- the buffer holds one long line
    have hnone : newline ∉ rest (stream pre) ++ ds.flatten := by
      simp only [List.mem_append, not_or]
      exact ⟨hrest, hmem⟩
    have hlong : rest (stream c.arrivals) = rest (stream pre) ++ ds.flatten := by
      rw [hstream]
      exact (unfinished_append _ _).trans (unfinished_of_notMem hnone)
    refine iff_of_true ⟨fun hshort => ?_, fun _ => ?_⟩ ?_
    · exfalso
      have hlen := hshort.rest_length
      rw [hlong, List.length_append] at hlen
      omega
    · exact ⟨pre, ds, hc, h.atPause, hnone, by rw [List.length_append]; exact hfull⟩
    · intro pre' ds' hc' hpre' hmem'
      obtain ⟨_, rfl⟩ := atPause_unique h.atPause hpre' (hc.symm.trans hc')
      exact absurd hmem' hmem

/-- The peer hung up: all depends on the lines that were complete then. -/
theorem gotLines_iff_of_hungUp
    (hserved : Served never c)
    (hc : c.arrivals = pre ++ (ds.map .data ++ [.hangup]))
    (h : Drained pre) :
    GotLines c ↔ HangsUpBetweenLines c.arrivals := by
  have hlines : (receiver never c.arrivals).lines = lines (stream pre) := by
    rw [hc, receiver_append_hangup h]
  have hstream : stream c.arrivals = stream pre ++ ds.flatten := by
    rw [hc, stream_append, stream_data_concat ds rfl]
  rw [gotLines_iff hserved hlines hstream]
  constructor
  · intro hnil pre' ds' hc' hpre'
    rw [hc, ← List.append_assoc, ← List.append_assoc] at hc'
    obtain ⟨rfl, rfl⟩ := atPause_unique h.atPause hpre' (List.append_cancel_right hc')
    exact hnil
  · intro hbetween
    exact hbetween pre ds hc h.atPause

theorem lossless_iff_of_hungUp
    (hserved : Served never c)
    (hc : c.arrivals = pre ++ (ds.map .data ++ [.hangup]))
    (h : Drained pre) :
    Lossless fd evs c ↔
      (ShortLines (stream c.arrivals) → HangsUpBetweenLines c.arrivals) := by
  have hfull : ¬ FilledUp fd evs c := by
    rintro ⟨_, as, bs, heq⟩
    rw [hc, ← List.append_assoc] at heq
    have hlast := (List.append_inj' heq rfl).2
    simp at hlast
  rw [← gotLines_iff_of_hungUp hserved hc h]
  constructor
  · exact fun hloss hshort => (hloss.short hshort).2
  · exact fun hgot => ⟨fun hshort => ⟨hfull, hgot hshort⟩, fun hf => absurd hf hfull⟩

theorem fillsWithoutNewline_of_hungUp
    (hc : as = pre ++ (ds.map .data ++ [.hangup])) :
    FillsWithoutNewline as := by
  intro pre' ds' hc' _ hmem
  rcases List.eq_nil_or_concat' ds' with rfl | ⟨init, d, rfl⟩
  · cases hmem
  · exfalso
    rw [hc, List.map_append, ← List.append_assoc, ← List.append_assoc] at hc'
    have hlast := (List.append_inj' hc' rfl).2
    simp at hlast

end Losses

section Runs

variable {τ : Type} {S : Outside NetCall.Out τ} {evs : List NetEvent} {fd : Int}
  {c : Connection}

/-- **When short lines are served.**  In every run of polls with a callback that
never closes a client, a connection keeps its promise to short lines if and only
if the call that filled its buffer had read no newline, and the call that met the
end of its stream had completed no line. -/
theorem lossless_iff
    (h : PollRun S never evs)
    (hc : c ∈ connections fd evs) :
    Lossless fd evs c ↔
      FillsWithoutNewline c.arrivals ∧
        (ShortLines (stream c.arrivals) → HangsUpBetweenLines c.arrivals) := by
  have hserved := h.served hc
  rcases h.over_or_drained hc with ⟨hpast, hover⟩ | hdrained
  · generalize harr : c.arrivals = as at hover
    cases hover with
    | full hpre hfull =>
        have hhangs : HangsUpBetweenLines c.arrivals := by
          apply hangsUpBetweenLines_of_notMem
          rw [harr]
          simp [hpre.hangup_notMem]
        rw [lossless_iff_of_full hpast harr hpre hfull, ← harr]
        exact (and_iff_left (fun _ => hhangs)).symm
    | hungUp ds hpre =>
        rw [lossless_iff_of_hungUp hserved harr hpre, ← harr]
        exact (and_iff_right (fillsWithoutNewline_of_hungUp harr)).symm
  · obtain ⟨hloss, hfills, hhangs⟩ := lossless_of_drained hserved hdrained
    exact iff_of_true hloss ⟨hfills, fun _ => hhangs⟩

/-- A line that arrives alone is passed on. -/
theorem lossless_lineVisit :
    connections 5 (scriptEvents lineVisit 2) =
        [{ arrivals := [.data (ascii "a\n"), .pause], messages := [(ascii "a", 1)] }] ∧
      ∀ c ∈ connections 5 (scriptEvents lineVisit 2),
        Lossless 5 (scriptEvents lineVisit 2) c := by
  have hconn : connections 5 (scriptEvents lineVisit 2) =
      [{ arrivals := [.data (ascii "a\n"), .pause], messages := [(ascii "a", 1)] }] := by
    decide +kernel
  refine ⟨hconn, fun c hc => ?_⟩
  have hrun := pollRun_scriptEvents (s := lineVisit) (n := 2) (by decide +kernel)
  refine (lossless_iff hrun hc).mpr ?_
  rw [hconn] at hc
  obtain rfl := List.mem_singleton.mp hc
  exact ⟨fillsWithoutNewline_of_atPause (Or.inr ⟨[_], rfl⟩),
    fun _ => hangsUpBetweenLines_of_notMem (by decide)⟩

/-- 4095 lines of one letter, and a letter. -/
def pipelinedLines : Bytes :=
  (List.replicate 4095 (ascii "a\n")).flatten ++ ascii "a"

/-- A client that sends them at once. -/
def pipelinedVisit : NetScript where
  reports := [[3], [5]]
  accepts := [5]
  reads := [.data pipelinedLines]
  writes := []

/-- The buffer fills up with short lines, and all of them are lost. -/
theorem pipelinedVisit_loses :
    PollRun scriptKernel never (scriptEvents pipelinedVisit 2) ∧
      ∃ c ∈ connections 5 (scriptEvents pipelinedVisit 2),
        ShortLines (stream c.arrivals) ∧ FilledUp 5 (scriptEvents pipelinedVisit 2) c ∧
          c.messages = [] ∧ ¬ Lossless 5 (scriptEvents pipelinedVisit 2) c := by
  have hpast : (watch 5 (scriptEvents pipelinedVisit 2)).past.map
      (fun c => (c.arrivals.map (fun a => a.bytes.length), c.messages)) = [([8191], [])] := by
    decide +kernel
  have hpieces : (watch 5 (scriptEvents pipelinedVisit 2)).past.all (fun c =>
      ((stream c.arrivals).splitOn newline).all
        (fun l => decide (l.length + 1 < droneRecvBufLen - 1))) = true := by
    decide +kernel
  obtain ⟨c, hconn, hc⟩ := List.map_eq_singleton_iff.mp hpast
  obtain ⟨harr, hmessages⟩ := Prod.mk.inj hc
  obtain ⟨a, ha, hlen⟩ := List.map_eq_singleton_iff.mp harr
  have hmem : c ∈ (watch 5 (scriptEvents pipelinedVisit 2)).past := by
    rw [hconn]
    exact List.mem_singleton_self _
  have hshort : ShortLines (stream c.arrivals) := by
    have hall := List.all_eq_true.mp hpieces c hmem
    exact fun l hl => of_decide_eq_true (List.all_eq_true.mp hall l hl)
  have hfull : FilledUp 5 (scriptEvents pipelinedVisit 2) c := by
    refine ⟨hmem, [], a.bytes, ?_⟩
    cases a with
    | data bs =>
        exact ha
    | pause =>
        cases hlen
    | hangup =>
        cases hlen
  refine ⟨pollRun_scriptEvents (by decide +kernel), c, List.mem_append_left _ hmem,
    hshort, hfull, hmessages, fun hloss => ?_⟩
  exact (hloss.short hshort).1 hfull

/-- **When the lines in front of the end are served.**  The callback gets every
line of a connection whose peer hangs up, if and only if the call of `recv_client`
that met the end had completed no line before. -/
theorem hungUp_gotLines_iff
    (h : PollRun S never evs)
    (hc : c ∈ connections fd evs)
    (hend : Arrival.hangup ∈ c.arrivals) :
    GotLines c ↔ HangsUpBetweenLines c.arrivals := by
  have hserved := h.served hc
  rcases h.over_or_drained hc with ⟨_, hover⟩ | hdrained
  · generalize harr : c.arrivals = as at hover
    cases hover with
    | full hpre _ =>
        rw [harr] at hend
        simp [hpre.hangup_notMem] at hend
    | hungUp ds hpre =>
        rw [gotLines_iff_of_hungUp hserved harr hpre, ← harr]
  · exact absurd hend hdrained.hangup_notMem

end Runs

/-- A client that sends a line, and hangs up later. -/
def politeVisit : NetScript where
  reports := [[3], [5], [5]]
  accepts := [5]
  reads := [.data (ascii "a\n"), .pause, .hangup]
  writes := []

/-- The line is passed on before the end. -/
theorem hungUp_gotLines_polite :
    connections 5 (scriptEvents politeVisit 3) =
        [{ arrivals := [.data (ascii "a\n"), .pause, .hangup]
           messages := [(ascii "a", 1)] }] ∧
      ∀ c ∈ connections 5 (scriptEvents politeVisit 3), GotLines c := by
  have hconn : connections 5 (scriptEvents politeVisit 3) =
      [{ arrivals := [.data (ascii "a\n"), .pause, .hangup]
         messages := [(ascii "a", 1)] }] := by
    decide +kernel
  refine ⟨hconn, fun c hc => ?_⟩
  have hrun := pollRun_scriptEvents (s := politeVisit) (n := 3) (by decide +kernel)
  have hend : Arrival.hangup ∈ c.arrivals := by
    rw [hconn] at hc
    obtain rfl := List.mem_singleton.mp hc
    decide
  refine (hungUp_gotLines_iff hrun hc hend).mpr ?_
  rw [hconn] at hc
  obtain rfl := List.mem_singleton.mp hc
  intro pre ds heq hpre
  have hends : [Arrival.data (ascii "a\n"), .pause] ++ ([] : List Bytes).map Arrival.data =
      pre ++ ds.map Arrival.data := by
    rw [← List.append_assoc] at heq
    exact List.append_cancel_right (show [_, _] ++ [_] = _ ++ [_] from heq)
  obtain ⟨rfl, rfl⟩ := atPause_unique (Or.inr ⟨[_], rfl⟩) hpre hends
  decide

/-- A client that sends a line and hangs up at once. -/
def hastyVisit : NetScript where
  reports := [[3], [5]]
  accepts := [5]
  reads := [.data (ascii "a\n"), .hangup]
  writes := []

/-- The line is complete, and lost. -/
theorem hastyVisit_loses :
    PollRun scriptKernel never (scriptEvents hastyVisit 2) ∧
      connections 5 (scriptEvents hastyVisit 2) =
        [{ arrivals := [.data (ascii "a\n"), .hangup], messages := [] }] ∧
      ∃ c ∈ connections 5 (scriptEvents hastyVisit 2),
        Arrival.hangup ∈ c.arrivals ∧ ¬ GotLines c := by
  have hconn : connections 5 (scriptEvents hastyVisit 2) =
      [{ arrivals := [.data (ascii "a\n"), .hangup], messages := [] }] := by
    decide +kernel
  refine ⟨pollRun_scriptEvents (by decide +kernel), hconn,
    { arrivals := [.data (ascii "a\n"), .hangup], messages := [] }, ?_, ?_, ?_⟩
  · rw [hconn]
    exact List.mem_singleton_self _
  · decide
  · unfold GotLines
    decide

end Tcp
end PsdkBridge
