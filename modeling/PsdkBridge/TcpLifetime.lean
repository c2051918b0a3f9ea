import PsdkBridge.TcpMoves

/-!
# From creation to destruction

The descriptors and the memory of a server belong to the kernel.  `KernelView` is what
the kernel keeps for the server: the open descriptors, those that its epoll instance
watches, and whether the memory of the server is allocated.  The kernel promises not to
answer a descriptor that is open (`kernel`); the server owes to use open descriptors and
allocated memory only (`server`).

`Accounted` compares the view with the table, and every move keeps it.
`accounted_of_reached` is about every state of a run, and `lifetime_settled` about a
whole life, from `tcp_server_create` to `tcp_server_destroy`.  A run in which the scan
for lines wrapped is a run of the model only.
-/

namespace PsdkBridge
namespace Tcp

/-! ## The kernel -/

/-- What the kernel keeps for a server. -/
structure KernelView where
  opened : Finset Int
  watched : Finset Int
  allocated : Bool
deriving DecidableEq

namespace KernelView

/-- Nothing is open, watched or allocated. -/
def initial : KernelView where
  opened := ∅
  watched := ∅
  allocated := false

/-- A call answered a descriptor, or an error. -/
def opens (k : KernelView) (fd : Int) : KernelView :=
  if 0 ≤ fd then { k with opened := insert fd k.opened } else k

/-- A descriptor that is closed is not watched any more. -/
def closes (k : KernelView) (fd : Int) : KernelView :=
  { k with opened := k.opened.erase fd, watched := k.watched.erase fd }

/-- What an event changes. -/
def next (k : KernelView) : NetEvent → KernelView
  | ⟨.calloc, (ok : Bool)⟩ => { k with allocated := ok }
  | ⟨.free, _⟩ => { k with allocated := false }
  | ⟨.socket, (fd : Int)⟩ => k.opens fd
  | ⟨.accept _, (fd : Int)⟩ => k.opens fd
  | ⟨.epollCreate, (fd : Int)⟩ => k.opens fd
  | ⟨.epollCtlAdd fd, (rc : Int)⟩ =>
      if 0 ≤ rc then { k with watched := insert fd k.watched } else k
  | ⟨.epollCtlDel fd, (rc : Int)⟩ =>
      if 0 ≤ rc then { k with watched := k.watched.erase fd } else k
  | ⟨.close fd, _⟩ => k.closes fd
  | _ => k

end KernelView

/-- The descriptor that a call answered. -/
def answeredFd : NetEvent → Option Int
  | ⟨.socket, (fd : Int)⟩ => some fd
  | ⟨.accept _, (fd : Int)⟩ => some fd
  | ⟨.epollCreate, (fd : Int)⟩ => some fd
  | _ => none

/-- The descriptor that a call is for.  The one of a write was named by the caller of
`tcp_server_send`. -/
def usedFd : NetEvent → Option Int
  | ⟨.setReuseAddr fd, _⟩ => some fd
  | ⟨.bind fd _ _, _⟩ => some fd
  | ⟨.listen fd _, _⟩ => some fd
  | ⟨.accept fd, _⟩ => some fd
  | ⟨.getFlags fd, _⟩ => some fd
  | ⟨.setNonblock fd _, _⟩ => some fd
  | ⟨.setNodelay fd, _⟩ => some fd
  | ⟨.epollCtlAdd fd, _⟩ => some fd
  | ⟨.epollCtlDel fd, _⟩ => some fd
  | ⟨.close fd, _⟩ => some fd
  | ⟨.read fd _, _⟩ => some fd
  | ⟨.onMessage fd _ _, _⟩ => some fd
  | _ => none

/-- The memory is allocated once, and nothing happens without it. -/
def memoryOwed (allocated : Bool) : NetEvent → Prop
  | ⟨.calloc, _⟩ => allocated = false
  | _ => allocated = true

/-- The kernel does not answer a descriptor that is open. -/
def kernel : Protocol NetEvent KernelView where
  start := .initial
  next := .next
  Allowed k e := ∀ fd ∈ answeredFd e, 0 ≤ fd → fd ∉ k.opened

/-- The server uses no descriptor that is not open.  A negative number is none. -/
def server : Protocol NetEvent KernelView where
  start := .initial
  next := .next
  Allowed k e :=
    (∀ fd ∈ usedFd e, 0 ≤ fd → fd ∈ k.opened) ∧ memoryOwed k.allocated e

instance
    (k : KernelView) (e : NetEvent) :
    Decidable (kernel.Allowed k e) :=
  inferInstanceAs (Decidable (∀ fd ∈ answeredFd e, 0 ≤ fd → fd ∉ k.opened))

/-! ## Holdings -/

/-- The server holds its two descriptors and the live ones, and epoll watches the live
ones, and the listening socket if it was registered. -/
structure Holdings (listenFd epollFd : Int) (listening : Prop) (live : Int → Prop)
    (k : KernelView) : Prop where
  opened : ∀ fd, fd ∈ k.opened ↔ fd = listenFd ∨ fd = epollFd ∨ live fd
  watched : ∀ fd, fd ∈ k.watched ↔ (fd = listenFd ∧ listening) ∨ live fd
  allocated : k.allocated = true

namespace Holdings

variable {listenFd epollFd fd : Int} {listening : Prop} {live live' : Int → Prop}
  {k : KernelView}

theorem congr
    (h : Holdings listenFd epollFd listening live k)
    (hlive : ∀ fd, live fd ↔ live' fd) :
    Holdings listenFd epollFd listening live' k := by
  obtain rfl : live = live' := funext fun fd => propext (hlive fd)
  exact h

/-- A call that opens and closes nothing, for an open descriptor or for none. -/
theorem owed
    {e : NetEvent}
    (h : Holdings listenFd epollFd listening live k)
    (hfd : ∀ fd ∈ usedFd e, 0 ≤ fd → fd = listenFd ∨ fd = epollFd ∨ live fd)
    (hcall : memoryOwed true e) :
    server.Allowed k e := by
  refine ⟨fun fd hmem hnonneg => (h.opened fd).mpr (hfd fd hmem hnonneg), ?_⟩
  rwa [h.allocated]

/-- A client is closed. -/
theorem closes
    (h : Holdings listenFd epollFd listening live k)
    (hlisten : fd ≠ listenFd)
    (hepoll : fd ≠ epollFd) :
    Holdings listenFd epollFd listening (fun fd' => live fd' ∧ fd' ≠ fd) (k.closes fd) where
  opened fd' := by
    simp only [KernelView.closes, Finset.mem_erase, h.opened]
    constructor
    · rintro ⟨hne, hfd | hfd | hfd⟩
      · exact Or.inl hfd
      · exact Or.inr (Or.inl hfd)
      · exact Or.inr (Or.inr ⟨hfd, hne⟩)
    · rintro (rfl | rfl | ⟨hfd, hne⟩)
      · exact ⟨hlisten.symm, Or.inl rfl⟩
      · exact ⟨hepoll.symm, Or.inr (Or.inl rfl)⟩
      · exact ⟨hne, Or.inr (Or.inr hfd)⟩
  watched fd' := by
    simp only [KernelView.closes, Finset.mem_erase, h.watched]
    constructor
    · rintro ⟨hne, hfd | hfd⟩
      · exact Or.inl hfd
      · exact Or.inr ⟨hfd, hne⟩
    · rintro (⟨rfl, hon⟩ | ⟨hfd, hne⟩)
      · exact ⟨hlisten.symm, Or.inl ⟨rfl, hon⟩⟩
      · exact ⟨hne, Or.inr hfd⟩
  allocated := h.allocated

end Holdings

/-! ## The table -/

/-- The descriptor of a client. -/
def TcpVars.Live (v : TcpVars) (fd : Int) : Prop :=
  0 ≤ fd ∧ ∃ i, v.fd i = fd

/-- The view of the kernel agrees with the table. -/
structure Accounted (listening : Prop) (v : TcpVars) (k : KernelView) : Prop where
  holds : Holdings v.srv.listenFd v.srv.epollFd listening v.Live k
  distinct : ∀ i j, 0 ≤ v.fd i → v.fd j = v.fd i → j = i
  apart : v.srv.listenFd ≠ v.srv.epollFd
  ownNonneg : 0 ≤ v.srv.listenFd ∧ 0 ≤ v.srv.epollFd
  others : ∀ i, v.fd i ≠ v.srv.listenFd ∧ v.fd i ≠ v.srv.epollFd

section Table

variable {v : TcpVars} {i : Slot} {fd cfd : Int}

theorem fd_release
    (v : TcpVars) (i j : Slot) :
    (v.release i).fd j = if j = i then -1 else v.fd j := by
  by_cases h : j = i
  · subst h
    simp [TcpVars.fd]
  · simp [TcpVars.fd, h]

theorem fd_occupy
    (v : TcpVars) (i j : Slot) (cfd : Int) :
    (v.occupy i cfd).fd j = if j = i then cfd else v.fd j := by
  by_cases h : j = i
  · subst h
    simp [TcpVars.fd]
  · simp [TcpVars.fd, h]

theorem live_release
    (hdistinct : ∀ i j, 0 ≤ v.fd i → v.fd j = v.fd i → j = i) :
    (v.release i).Live fd ↔ v.Live fd ∧ fd ≠ v.fd i := by
  simp only [TcpVars.Live, fd_release]
  constructor
  · rintro ⟨hpos, j, hj⟩
    by_cases hji : j = i
    · rw [if_pos hji] at hj
      omega
    · rw [if_neg hji] at hj
      exact ⟨⟨hpos, j, hj⟩, fun h => hji (hdistinct i j (h ▸ hpos) (hj.trans h))⟩
  · rintro ⟨⟨hpos, j, hj⟩, hne⟩
    have hji : j ≠ i := by
      rintro rfl
      exact hne hj.symm
    exact ⟨hpos, j, by rw [if_neg hji, hj]⟩

theorem live_occupy
    (hslot : v.fd i < 0)
    (hcfd : 0 ≤ cfd) :
    (v.occupy i cfd).Live fd ↔ v.Live fd ∨ fd = cfd := by
  simp only [TcpVars.Live, fd_occupy]
  constructor
  · rintro ⟨hpos, j, hj⟩
    by_cases hji : j = i
    · rw [if_pos hji] at hj
      exact Or.inr hj.symm
    · rw [if_neg hji] at hj
      exact Or.inl ⟨hpos, j, hj⟩
  · rintro (⟨hpos, j, hj⟩ | rfl)
    · have hji : j ≠ i := by
        rintro rfl
        omega
      exact ⟨hpos, j, by rw [if_neg hji, hj]⟩
    · exact ⟨hcfd, i, if_pos rfl⟩

/-- A client with its descriptor is put into a slot. -/
theorem fd_setClient
    {c : Client}
    (hfd : c.fd = v.fd i)
    (j : Slot) :
    (v.setClient i c).fd j = v.fd j := by
  by_cases h : j = i
  · subst h
    simpa [TcpVars.fd] using hfd
  · simp [TcpVars.fd, h]

end Table

/-! ## The moves -/

namespace Accounted

variable {listening : Prop} {v v' : TcpVars} {k : KernelView} {i : Slot}

/-- Only the descriptors in the table count. -/
theorem of_fd
    (h : Accounted listening v k)
    (hlisten : v'.srv.listenFd = v.srv.listenFd)
    (hepoll : v'.srv.epollFd = v.srv.epollFd)
    (hfd : ∀ j, v'.fd j = v.fd j) :
    Accounted listening v' k where
  holds := by
    rw [hlisten, hepoll]
    exact h.holds.congr (fun fd => by simp only [TcpVars.Live, hfd])
  distinct i j := by
    rw [hfd, hfd]
    exact h.distinct i j
  apart := by
    rw [hlisten, hepoll]
    exact h.apart
  ownNonneg := by
    rw [hlisten, hepoll]
    exact h.ownNonneg
  others j := by
    rw [hlisten, hepoll, hfd]
    exact h.others j

/-- A descriptor that the kernel may answer is not in use. -/
theorem fresh
    {cfd : Int}
    (h : Accounted listening v k)
    (hfresh : cfd ∉ k.opened) :
    cfd ≠ v.srv.listenFd ∧ cfd ≠ v.srv.epollFd ∧ ¬ v.Live cfd := by
  rw [h.holds.opened] at hfresh
  simpa [not_or] using hfresh

/-- The slot `i` loses its client. -/
theorem release
    (h : Accounted listening v k)
    {k' : KernelView}
    (hholds : Holdings v.srv.listenFd v.srv.epollFd listening
      (fun fd => v.Live fd ∧ fd ≠ v.fd i) k') :
    Accounted listening (v.release i) k' where
  holds := hholds.congr (fun fd => (live_release h.distinct).symm)
  distinct j j' := by
    simp only [fd_release]
    split_ifs with hj hj'
    · omega
    · omega
    · omega
    · exact h.distinct j j'
  apart := h.apart
  ownNonneg := h.ownNonneg
  others j := by
    have hown := h.ownNonneg
    rw [fd_release]
    split_ifs
    · exact ⟨by simp only [TcpVars.release]; omega, by simp only [TcpVars.release]; omega⟩
    · exact h.others j

/-- The slot `i` gets a client. -/
theorem occupy
    {cfd : Int} {k' : KernelView}
    (h : Accounted listening v k)
    (hslot : v.fd i < 0)
    (hcfd : 0 ≤ cfd)
    (hfresh : cfd ∉ k.opened)
    (hholds : Holdings v.srv.listenFd v.srv.epollFd listening
      (fun fd => v.Live fd ∨ fd = cfd) k') :
    Accounted listening (v.occupy i cfd) k' where
  holds := hholds.congr (fun fd => (live_occupy hslot hcfd).symm)
  distinct j j' := by
    have hnew : ∀ j, v.fd j ≠ cfd := fun j hj => (h.fresh hfresh).2.2 ⟨hcfd, j, hj⟩
    simp only [fd_occupy]
    split_ifs with hj hj' hj'
    · exact fun _ _ => hj'.trans hj.symm
    · exact fun _ heq => absurd heq (hnew j')
    · exact fun _ heq => absurd heq.symm (hnew j)
    · exact h.distinct j j'
  apart := h.apart
  ownNonneg := h.ownNonneg
  others j := by
    rw [fd_occupy]
    split_ifs
    · exact ⟨(h.fresh hfresh).1, (h.fresh hfresh).2.1⟩
    · exact h.others j

end Accounted

section Moves

variable {listening : Prop} {v v' : TcpVars} {k : KernelView} {evs evs' : List NetEvent}
  {cfd : Int} {i : Slot}

/-- The server does its duty, and the accounts agree in the end. -/
def Settles (listening : Prop) (k : KernelView) (evs : List NetEvent) (v : TcpVars) : Prop :=
  server.Obeys k evs ∧ Accounted listening v (kernel.after k evs)

/-- The duties of two records behind each other. -/
theorem server_append
    (h : server.Obeys k evs)
    (h' : server.Obeys (kernel.after k evs) evs') :
    server.Obeys k (evs ++ evs') :=
  (server.obeys_append k evs evs').mpr ⟨h, h'⟩

/-- Calls that change nothing. -/
theorem server_neutral
    (hnext : ∀ e ∈ evs, k.next e = k)
    (howed : ∀ e ∈ evs, server.Allowed k e) :
    server.Obeys k evs ∧ kernel.after k evs = k :=
  (server.obeys_of_neutral hnext howed).symm

/-- The events of `free_client`. -/
theorem server_free
    {fd : Int} (del cls : Int)
    (hfd : 0 ≤ fd → fd ∈ k.opened)
    (hallocated : k.allocated = true) :
    server.Obeys k (freeEvents fd del cls) ∧
      kernel.after k (freeEvents fd del cls) = k.closes fd := by
  by_cases hdel : 0 ≤ del <;>
    simpa [freeEvents, server, kernel, Protocol.Obeys, Protocol.after, KernelView.next,
      KernelView.closes, usedFd, memoryOwed, hdel, hallocated] using hfd

/-- The calls between `accept` and `alloc_client`. -/
theorem server_setup
    {setup : List NetEvent}
    (hsetup : ∀ e ∈ setup, IsSetup cfd e)
    (hfd : cfd ∈ k.opened)
    (hallocated : k.allocated = true) :
    server.Obeys k setup ∧ kernel.after k setup = k := by
  refine server_neutral (fun e he => ?_) (fun e he => ?_)
  · rcases hsetup e he with ⟨r, rfl⟩ | ⟨flags, r, rfl⟩ | ⟨r, rfl⟩ <;> rfl
  · rcases hsetup e he with ⟨r, rfl⟩ | ⟨flags, r, rfl⟩ | ⟨r, rfl⟩ <;>
      simp [server, usedFd, memoryOwed, hfd, hallocated]

/-- The events of `accept_client` up to `alloc_client`. -/
theorem server_accept
    {setup : List NetEvent}
    (h : Accounted listening v k)
    (hcfd : 0 ≤ cfd)
    (hsetup : ∀ e ∈ setup, IsSetup cfd e) :
    server.Obeys k (⟨.accept v.srv.listenFd, cfd⟩ :: setup) ∧
      kernel.after k (⟨.accept v.srv.listenFd, cfd⟩ :: setup) = k.opens cfd := by
  have hopen : cfd ∈ (k.opens cfd).opened := by
    simp [KernelView.opens, hcfd]
  have hallocated : (k.opens cfd).allocated = true := by
    rw [KernelView.opens, if_pos hcfd]
    exact h.holds.allocated
  obtain ⟨hobeys, hafter⟩ := server_setup hsetup hopen hallocated
  refine ⟨⟨h.holds.owed ?_ rfl, hobeys⟩, hafter⟩
  rintro fd hfd _
  exact Or.inl (Option.some.inj hfd).symm

/-- A new descriptor that is closed again. -/
theorem opens_closes
    (h : Accounted listening v k)
    (hcfd : 0 ≤ cfd)
    (hfresh : cfd ∉ k.opened) :
    (k.opens cfd).closes cfd = k := by
  have hwatched : cfd ∉ k.watched := by
    rw [h.holds.watched]
    rintro (⟨hlisten, _⟩ | hlive)
    · exact (h.fresh hfresh).1 hlisten
    · exact (h.fresh hfresh).2.2 hlive
  simp only [KernelView.opens, if_pos hcfd, KernelView.closes,
    Finset.erase_insert hfresh, Finset.erase_eq_of_notMem hwatched]

/-- A new client is watched. -/
theorem holdings_admitted
    (h : Accounted listening v k)
    (hcfd : 0 ≤ cfd) :
    Holdings v.srv.listenFd v.srv.epollFd listening (fun fd => v.Live fd ∨ fd = cfd)
      { k.opens cfd with watched := insert cfd (k.opens cfd).watched } where
  opened fd := by
    simp only [KernelView.opens, if_pos hcfd, Finset.mem_insert, h.holds.opened]
    tauto
  watched fd := by
    simp only [KernelView.opens, if_pos hcfd, Finset.mem_insert, h.holds.watched]
    tauto
  allocated := by
    rw [KernelView.opens, if_pos hcfd]
    exact h.holds.allocated

/-- A slot without a client is freed on paper only. -/
theorem Accounted.unregistered
    (h : Accounted listening v k)
    (hslot : v.fd i < 0)
    (cfd : Int) :
    Accounted listening ((v.occupy i cfd).release i) k := by
  have hrelease : Accounted listening (v.release i) k := by
    refine h.release (h.holds.congr (fun fd => ?_))
    refine ⟨fun hlive => ⟨hlive, ?_⟩, And.left⟩
    rintro rfl
    exact absurd hlive.1 (not_le.mpr hslot)
  refine hrelease.of_fd rfl rfl (fun j => ?_)
  simp only [fd_release, fd_occupy]
  split_ifs <;> rfl

/-- An event that names no descriptor of the table. -/
theorem server_quiet
    {e : NetEvent}
    (he : IsQuiet e)
    (hallocated : k.allocated = true) :
    server.Obeys k [e] ∧ kernel.after k [e] = k := by
  rcases he with ⟨fd, bs, r, rfl⟩ | ⟨n, fds, rfl⟩ <;>
    simp [server, kernel, Protocol.Obeys, Protocol.after, KernelView.next, usedFd, memoryOwed,
      hallocated]

/-- A call for a client. -/
theorem server_service
    {fd : Int} {e : NetEvent}
    (he : IsService fd e)
    (hfd : 0 ≤ fd → fd ∈ k.opened)
    (hallocated : k.allocated = true) :
    server.Obeys k [e] ∧ kernel.after k [e] = k := by
  rcases he with ⟨n, r, rfl⟩ | ⟨line, len, r, rfl⟩ <;>
    simpa [server, kernel, Protocol.Obeys, Protocol.after, KernelView.next, usedFd, memoryOwed,
      hallocated] using hfd

/-- **Every move keeps the accounts.** -/
theorem settles_move
    (hmove : Move v evs v')
    (h : Accounted listening v k)
    (hkernel : kernel.Obeys k evs) :
    Settles listening k evs v' := by
  have hallocated := h.holds.allocated
  have hclient : ∀ i, 0 ≤ v.fd i → v.fd i ∈ k.opened := fun i hi =>
    (h.holds.opened _).mpr (Or.inr (Or.inr ⟨hi, i, rfl⟩))
  have hnew : ∀ {cfd}, 0 ≤ cfd → cfd ∈ (k.opens cfd).opened := fun hcfd => by
    simp [KernelView.opens, hcfd]
  have hopens : ∀ cfd, (k.opens cfd).allocated = true := fun cfd => by
    rw [KernelView.opens]
    split_ifs <;> exact hallocated
  cases hmove with
  | quiet quiet =>
      obtain ⟨hobeys, hafter⟩ := server_quiet quiet hallocated
      exact ⟨hobeys, by rwa [hafter]⟩
  | service i service =>
      obtain ⟨hobeys, hafter⟩ := server_service service (hclient i) hallocated
      exact ⟨hobeys, by rwa [hafter]⟩
  | store i c fd =>
      exact ⟨trivial, h.of_fd rfl rfl (fd_setClient fd)⟩
  | wrap =>
      exact ⟨trivial, h.of_fd rfl rfl (fun _ => rfl)⟩
  | free i del cls =>
      obtain ⟨hobeys, hafter⟩ := server_free del cls (hclient i) hallocated
      refine ⟨hobeys, hafter ▸ h.release ?_⟩
      exact h.holds.closes (h.others i).1 (h.others i).2
  | nothing negative =>
      refine ⟨⟨h.holds.owed ?_ rfl, trivial⟩, ?_⟩
      · rintro fd hfd _
        exact Or.inl (Option.some.inj hfd).symm
      · show Accounted listening v (k.opens _)
        rwa [KernelView.opens, if_neg (not_le.mpr negative)]
  | @turnedAway cfd setup cls nonneg prepares =>
      have hfresh : cfd ∉ k.opened := hkernel.1 cfd rfl nonneg
      obtain ⟨hobeys, hafter⟩ := server_accept h nonneg prepares
      have hclose : server.Allowed (k.opens cfd) ⟨.close cfd, cls⟩ :=
        ⟨by simpa [usedFd] using fun _ => hnew nonneg, hopens cfd⟩
      refine ⟨server_append hobeys (hafter ▸ ⟨hclose, trivial⟩), ?_⟩
      rw [kernel.after_append, hafter]
      show Accounted listening v ((k.opens cfd).closes cfd)
      rwa [opens_closes h nonneg hfresh]
  | @unregistered cfd rc setup i del cls nonneg prepares slot failed =>
      have hfresh : cfd ∉ k.opened := hkernel.1 cfd rfl nonneg
      obtain ⟨hobeys, hafter⟩ := server_accept h nonneg prepares
      obtain ⟨hfree, hafter'⟩ := server_free (k := k.opens cfd) del cls hnew (hopens cfd)
      have hadd : server.Allowed (k.opens cfd) ⟨.epollCtlAdd cfd, rc⟩ :=
        ⟨by simpa [usedFd] using fun _ => hnew nonneg, hopens cfd⟩
      have hnext : kernel.next (k.opens cfd) ⟨.epollCtlAdd cfd, rc⟩ = k.opens cfd :=
        if_neg (not_le.mpr failed)
      have hrest : kernel.after (k.opens cfd)
          (⟨.epollCtlAdd cfd, rc⟩ :: freeEvents cfd del cls) = k := by
        show kernel.after (kernel.next _ _) _ = k
        rw [hnext, hafter', opens_closes h nonneg hfresh]
      refine ⟨server_append hobeys (hafter ▸ ⟨hadd, ?_⟩), ?_⟩
      · show server.Obeys (kernel.next (k.opens cfd) ⟨.epollCtlAdd cfd, rc⟩) _
        rwa [hnext]
      · rw [kernel.after_append, hafter, hrest]
        exact h.unregistered slot cfd
  | @admitted cfd rc setup i nonneg prepares slot added =>
      have hfresh : cfd ∉ k.opened := hkernel.1 cfd rfl nonneg
      obtain ⟨hobeys, hafter⟩ := server_accept h nonneg prepares
      have hadd : server.Allowed (k.opens cfd) ⟨.epollCtlAdd cfd, rc⟩ :=
        ⟨by simpa [usedFd] using fun _ => hnew nonneg, hopens cfd⟩
      refine ⟨server_append hobeys (hafter ▸ ⟨hadd, trivial⟩), ?_⟩
      rw [kernel.after_append, hafter]
      refine h.occupy slot nonneg hfresh ?_
      have hnext : kernel.after (k.opens cfd) [⟨.epollCtlAdd cfd, rc⟩] =
          { k.opens cfd with watched := insert cfd (k.opens cfd).watched } := if_pos added
      rw [hnext]
      exact holdings_admitted h nonneg

end Moves

/-! ## Creation -/

section Creation

variable {τ : Type} (S : Outside NetCall.Out τ)

/-- Started with the view `k`, the program does its duty and ends with `Q`, if `hyp`
holds and the kernel keeps its promises. -/
def Opening {ρ α : Type} (hyp : Prop) (k : KernelView) (x : Program NetCall.Out τ ρ α)
    (Q : α → KernelView → Prop) : Prop :=
  Views some x (fun a evs => hyp → kernel.Obeys k evs →
    server.Obeys k evs ∧ Q a (kernel.after k evs))

variable {ρ α : Type} {hyp : Prop} {k : KernelView} {Q : α → KernelView → Prop}

theorem opening_pure
    {a : α}
    (h : hyp → Q a k) :
    Opening hyp k (pure a : Program NetCall.Out τ ρ α) Q :=
  views_pure (fun hhyp _ => ⟨trivial, h hhyp⟩)

/-- A call in front of a program. -/
theorem opening_call
    {c : NetCall} {g : c.Out → Program NetCall.Out τ ρ α}
    (howed : hyp → ∀ a, server.Allowed k ⟨c, a⟩)
    (h : ∀ a, Opening (hyp ∧ kernel.Allowed k ⟨c, a⟩) (k.next ⟨c, a⟩) (g a) Q) :
    Opening hyp k (callOut S c >>= g) Q := by
  refine views_call S (fun a => views_mono (h a) (fun b evs hq hhyp hkernel => ?_))
  obtain ⟨hpromise, hkernel⟩ := hkernel
  obtain ⟨hobeys, hend⟩ := hq ⟨hhyp, hpromise⟩ hkernel
  exact ⟨⟨howed hhyp a, hobeys⟩, hend⟩

theorem opening_ite
    {c : Prop} [Decidable c] {x y : Program NetCall.Out τ ρ α}
    (hx : c → Opening hyp k x Q)
    (hy : ¬ c → Opening hyp k y Q) :
    Opening hyp k (if c then x else y) Q :=
  views_ite hx hy

/-- The view behind `socket`. -/
def socketView (fd : Int) : KernelView where
  opened := {fd}
  watched := ∅
  allocated := true

/-- A call on the listening socket. -/
theorem owed_socket
    {fd : Int} {e : NetEvent}
    (hfd : ∀ fd' ∈ usedFd e, fd' = fd)
    (hcall : memoryOwed true e) :
    server.Allowed (socketView fd) e :=
  ⟨fun fd' hmem _ => by simp [socketView, hfd fd' hmem], hcall⟩

/-- What `tcp_server_create` leaves. -/
def Created (r : Option TcpServer) (k : KernelView) : Prop :=
  (r = none ∧ k = .initial) ∨
    ∃ srv, r = some srv ∧
      Accounted (srv.listenFd ∈ k.watched) { srv := srv, wrapped := false } k

theorem opening_abandonServer
    (hyp : Prop) (fd : Int) :
    Opening hyp (socketView fd) (abandonServer S fd) Created := by
  unfold abandonServer
  refine opening_call S (fun _ _ => owed_socket (by simp [usedFd]) rfl) (fun _ => ?_)
  refine opening_call S (fun _ _ => ⟨by simp [usedFd], rfl⟩) (fun _ => ?_)
  refine opening_pure (fun _ => Or.inl ⟨rfl, ?_⟩)
  simp [KernelView.next, KernelView.closes, socketView, KernelView.initial]

/-- A new server holds its two descriptors. -/
theorem accounted_created
    {fd epollFd : Int} {k : KernelView}
    (hfd : 0 ≤ fd)
    (hepoll : 0 ≤ epollFd)
    (hne : epollFd ≠ fd)
    (hopened : k.opened = insert epollFd {fd})
    (hwatched : k.watched ⊆ {fd})
    (hallocated : k.allocated = true) :
    Accounted (fd ∈ k.watched)
      { srv := TcpServer.created fd epollFd, wrapped := false } k where
  holds := by
    have hempty : Holdings fd epollFd (fd ∈ k.watched) (fun _ => False) k := by
      refine ⟨fun fd' => ?_, fun fd' => ?_, hallocated⟩
      · rw [hopened, Finset.mem_insert, Finset.mem_singleton]
        tauto
      · rw [or_false]
        refine ⟨fun hmem => ?_, fun ⟨heq, hmem⟩ => heq ▸ hmem⟩
        obtain rfl := Finset.mem_singleton.mp (hwatched hmem)
        exact ⟨rfl, hmem⟩
    refine hempty.congr (fun fd' => iff_of_false id ?_)
    rintro ⟨hpos, i, hi⟩
    simp only [TcpVars.fd, TcpServer.created, Client.fresh] at hi
    omega
  distinct i j hi := by
    simp [TcpVars.fd, TcpServer.created, Client.fresh] at hi
  apart := hne.symm
  ownNonneg := ⟨hfd, hepoll⟩
  others i := by
    simp only [TcpVars.fd, TcpServer.created, Client.fresh]
    omega

theorem opening_listenAt
    (hyp : Prop) {fd : Int} (bindIp : Bytes) (port : UInt16)
    (hfd : 0 ≤ fd) :
    Opening hyp (socketView fd) (listenAt S fd bindIp port) Created := by
  unfold listenAt
  refine opening_call S (fun _ _ => owed_socket (by simp [usedFd]) rfl) (fun rc => ?_)
  refine opening_ite (fun _ => opening_abandonServer S _ fd) (fun _ => ?_)
  refine opening_call S (fun _ _ => owed_socket (by simp [usedFd]) rfl) (fun rc => ?_)
  refine opening_ite (fun _ => opening_abandonServer S _ fd) (fun _ => ?_)
  refine opening_call S (fun _ _ => owed_socket (by simp [usedFd]) rfl) (fun epollFd => ?_)
  refine opening_ite (fun hneg => ?_) (fun hepoll => ?_)
  · have hview : KernelView.next (socketView fd) ⟨.epollCreate, epollFd⟩ = socketView fd :=
      if_neg (not_le.mpr hneg)
    show Opening _ (KernelView.next (socketView fd) ⟨.epollCreate, epollFd⟩) _ _
    rw [hview]
    exact opening_abandonServer S _ fd
  · have hepoll := not_lt.mp hepoll
    have hview : KernelView.next (socketView fd) ⟨.epollCreate, epollFd⟩ =
        { socketView fd with opened := insert epollFd {fd} } := if_pos hepoll
    show Opening _ (KernelView.next (socketView fd) ⟨.epollCreate, epollFd⟩) _ _
    rw [hview]
    refine opening_call S (fun _ _ => ⟨by simp [usedFd], rfl⟩) (fun rc => ?_)
    refine opening_pure (fun hpromise => Or.inr ⟨_, rfl, ?_⟩)
    -- the kernel did not answer the listening socket again
    have hne : epollFd ≠ fd := by
      have hfresh := hpromise.1.2 epollFd rfl hepoll
      simpa [socketView, KernelView.next] using hfresh
    by_cases hrc : 0 ≤ rc
    · have hadd : KernelView.next { socketView fd with opened := insert epollFd {fd} }
          ⟨.epollCtlAdd fd, rc⟩ =
          { opened := insert epollFd {fd}, watched := {fd}, allocated := true } := if_pos hrc
      rw [hadd]
      exact accounted_created hfd hepoll hne rfl (Finset.Subset.refl _) rfl
    · have hadd : KernelView.next { socketView fd with opened := insert epollFd {fd} }
          ⟨.epollCtlAdd fd, rc⟩ =
          { opened := insert epollFd {fd}, watched := ∅, allocated := true } := if_neg hrc
      rw [hadd]
      exact accounted_created hfd hepoll hne rfl (Finset.empty_subset _) rfl

theorem opening_tcpServerCreate
    (bindIp : Bytes) (port : UInt16) :
    Opening True .initial (tcpServerCreate S bindIp port) Created := by
  unfold tcpServerCreate
  refine opening_call S (fun _ _ => ⟨by simp [usedFd], rfl⟩) (fun srv => ?_)
  cases srv with
  | false =>
      exact opening_pure (fun _ => Or.inl ⟨rfl, rfl⟩)
  | true =>
      refine opening_ite (fun h => absurd h (by decide)) (fun _ => ?_)
      refine opening_call S (fun _ _ => ⟨by simp [usedFd], rfl⟩) (fun fd => ?_)
      refine opening_ite (fun hneg => ?_) (fun hfd => ?_)
      · refine opening_call S (fun _ _ => ⟨by simp [usedFd], ?_⟩) (fun _ => ?_)
        · simp [KernelView.next, KernelView.opens, not_le.mpr hneg, memoryOwed]
        · refine opening_pure (fun _ => Or.inl ⟨rfl, ?_⟩)
          simp [KernelView.next, KernelView.opens, not_le.mpr hneg, KernelView.initial]
      · have hfd := not_lt.mp hfd
        have hview : KernelView.next (KernelView.next .initial ⟨.calloc, true⟩)
            ⟨.socket, fd⟩ = socketView fd := by
          simp [KernelView.next, KernelView.opens, hfd, KernelView.initial, socketView]
        show Opening _ (KernelView.next (KernelView.next .initial ⟨.calloc, true⟩)
          ⟨.socket, fd⟩) _ _
        rw [hview]
        refine opening_call S (fun _ _ => owed_socket (by simp [usedFd]) rfl) (fun _ => ?_)
        refine opening_ite (fun _ => opening_listenAt S _ bindIp port hfd) (fun _ => ?_)
        refine opening_call S (fun _ _ => owed_socket (by simp [usedFd]) rfl) (fun rc => ?_)
        exact opening_ite (fun _ => opening_abandonServer S _ fd)
          (fun _ => opening_listenAt S _ bindIp port hfd)

end Creation

/-! ## Destruction -/

section Destruction

variable {τ : Type} {listening : Prop} {v : TcpVars} {k : KernelView}

/-- A client in one of the slots. -/
def TcpVars.LiveIn (v : TcpVars) (is : List Slot) (fd : Int) : Prop :=
  0 ≤ fd ∧ ∃ i ∈ is, v.fd i = fd

/-- One slot of the loop. -/
theorem closeClients_cons
    (S : Outside NetCall.Out τ) (i : Slot) (is : List Slot) (m : TcpState τ) :
    closeClients S (i :: is) m =
      closeClients S is
        (if 0 ≤ (m.vars.srv.clients i).fd then
          (callOut S (.close (m.vars.srv.clients i).fd) m).2
        else m) := by
  rw [closeClients, run_readVars_bind]
  by_cases hi : 0 ≤ (m.vars.srv.clients i).fd
  · rw [if_pos hi, if_pos hi]
    rfl
  · rw [if_neg hi, if_neg hi]

/-- The loop of `tcp_server_destroy` closes the clients of the slots that are left. -/
theorem closeClients_closes
    (S : Outside NetCall.Out τ)
    (hdistinct : ∀ i j, 0 ≤ v.fd i → v.fd j = v.fd i → j = i)
    (hothers : ∀ i, v.fd i ≠ v.srv.listenFd ∧ v.fd i ≠ v.srv.epollFd)
    {is : List Slot}
    (hnodup : is.Nodup)
    (hholds : Holdings v.srv.listenFd v.srv.epollFd listening (v.LiveIn is) k)
    {m : TcpState τ}
    (hm : m.vars = v) :
    ∃ evs, (closeClients S is m).2.trace = m.trace ++ evs ∧
      (closeClients S is m).2.vars = v ∧ server.Obeys k evs ∧
      Holdings v.srv.listenFd v.srv.epollFd listening (fun _ => False)
        (kernel.after k evs) := by
  induction is generalizing k m with
  | nil =>
      refine ⟨[], (List.append_nil _).symm, hm, trivial, hholds.congr (fun fd => ?_)⟩
      simp [TcpVars.LiveIn]
  | cons i is ih =>
      obtain ⟨hnotMem, hnodup⟩ := List.nodup_cons.mp hnodup
      by_cases hi : 0 ≤ v.fd i
      · have hopen : v.fd i ∈ k.opened :=
          (hholds.opened _).mpr (Or.inr (Or.inr ⟨hi, i, List.mem_cons_self, rfl⟩))
        have hclosed : Holdings v.srv.listenFd v.srv.epollFd listening (v.LiveIn is)
            (k.closes (v.fd i)) := by
          refine (hholds.closes (hothers i).1 (hothers i).2).congr (fun fd => ?_)
          constructor
          · rintro ⟨⟨hpos, j, hj, rfl⟩, hne⟩
            rcases List.mem_cons.mp hj with rfl | hj
            · exact absurd rfl hne
            · exact ⟨hpos, j, hj, rfl⟩
          · rintro ⟨hpos, j, hj, rfl⟩
            refine ⟨⟨hpos, j, List.mem_cons_of_mem _ hj, rfl⟩, fun heq => hnotMem ?_⟩
            rwa [← hdistinct i j hi heq]
        obtain ⟨evs, htrace, hvars, hobeys, hend⟩ := ih hnodup hclosed
          (m := (callOut S (.close (v.fd i)) m).2) hm
        rw [closeClients_cons, hm, if_pos (show 0 ≤ (v.srv.clients i).fd from hi)]
        refine ⟨⟨.close (v.fd i), (S (.close (v.fd i)) m.outside).1⟩ :: evs, ?_, hvars,
          ⟨⟨?_, hholds.allocated⟩, hobeys⟩, hend⟩
        · exact htrace.trans (List.append_assoc _ _ _)
        · rintro fd hfd _
          rwa [← Option.some.inj hfd]
      · have hskip : Holdings v.srv.listenFd v.srv.epollFd listening (v.LiveIn is) k := by
          refine hholds.congr (fun fd => ⟨?_, ?_⟩)
          · rintro ⟨hpos, j, hj, rfl⟩
            rcases List.mem_cons.mp hj with rfl | hj
            · exact absurd hpos hi
            · exact ⟨hpos, j, hj, rfl⟩
          · rintro ⟨hpos, j, hj, rfl⟩
            exact ⟨hpos, j, List.mem_cons_of_mem _ hj, rfl⟩
        rw [closeClients_cons, hm, if_neg (show ¬ 0 ≤ (v.srv.clients i).fd from hi)]
        exact ih hnodup hskip hm

/-- The descriptors of the server itself are the last ones. -/
theorem Holdings.last
    {listenFd epollFd : Int}
    (h : Holdings listenFd epollFd listening (fun _ => False) k)
    (hapart : listenFd ≠ epollFd)
    (a b : Int) (c : Unit) :
    server.Obeys k [⟨.close epollFd, a⟩, ⟨.close listenFd, b⟩, ⟨.free, c⟩] ∧
      kernel.after k [⟨.close epollFd, a⟩, ⟨.close listenFd, b⟩, ⟨.free, c⟩] = .initial := by
  have hview : (k.closes epollFd).closes listenFd =
      { opened := ∅, watched := ∅, allocated := k.allocated } := by
    have hopened : (k.opened.erase epollFd).erase listenFd = ∅ := by
      ext fd
      simp only [Finset.mem_erase, h.opened, Finset.notMem_empty]
      tauto
    have hwatched : (k.watched.erase epollFd).erase listenFd = ∅ := by
      ext fd
      simp only [Finset.mem_erase, h.watched, Finset.notMem_empty]
      tauto
    simp only [KernelView.closes, hopened, hwatched]
  refine ⟨⟨h.owed ?_ rfl, ⟨?_, h.allocated⟩, ⟨by simp [usedFd], h.allocated⟩, trivial⟩, ?_⟩
  · rintro fd hfd _
    exact Or.inr (Or.inl (Option.some.inj hfd).symm)
  · rintro fd hfd _
    obtain rfl : listenFd = fd := Option.some.inj hfd
    exact Finset.mem_erase.mpr ⟨hapart, (h.opened _).mpr (Or.inl rfl)⟩
  · show KernelView.next ((k.closes epollFd).closes listenFd) ⟨.free, c⟩ = .initial
    rw [hview]
    rfl

/-- The record in front of `tcp_server_destroy` stays. -/
theorem issues_tcpServerDestroy
    (S : Outside NetCall.Out τ) :
    Issues (fun _ => True) (tcpServerDestroy S) := by
  have hloop : ∀ is, Issues (fun _ => True) (closeClients S is) := by
    intro is
    induction is with
    | nil =>
        exact issues_pure ()
    | cons i is ih =>
        refine issues_bind issues_readVars (fun vars => ?_)
        exact issues_ite (issues_call S (fun _ => trivial) (fun _ => ih)) ih
  refine issues_bind (hloop _) (fun _ => issues_bind issues_readVars (fun vars => ?_))
  refine issues_call S (fun _ => trivial) (fun _ => ?_)
  refine issues_call S (fun _ => trivial) (fun _ => ?_)
  exact issues_call S (fun _ => trivial) (fun _ => issues_pure ())

/-- `tcp_server_destroy` gives everything back. -/
theorem tcpServerDestroy_settles
    (S : Outside NetCall.Out τ)
    {m : TcpState τ}
    (h : Accounted listening m.vars k) :
    ∃ evs, (tcpServerDestroy S m).2.trace = m.trace ++ evs ∧ server.Obeys k evs ∧
      kernel.after k evs = .initial := by
  have hall : Holdings m.vars.srv.listenFd m.vars.srv.epollFd listening
      (m.vars.LiveIn (List.finRange droneMaxClients)) k :=
    h.holds.congr (fun fd => by simp [TcpVars.Live, TcpVars.LiveIn])
  obtain ⟨evs, htrace, hvars, hobeys, hend⟩ := closeClients_closes S h.distinct h.others
    (List.nodup_finRange _) hall rfl
  obtain ⟨hlast, hinitial⟩ := hend.last h.apart _ _ ()
  refine ⟨evs ++ _, ?_, server_append hobeys hlast, ?_⟩
  · rw [tcpServerDestroy, run_bind, run_readVars_bind, hvars]
    simp only [run_bind, run_callOut, htrace, List.append_assoc]
    rfl
  · rw [kernel.after_append, hinitial]

end Destruction

/-! ## A whole life -/

section Lifetime

variable {τ : Type} {S : Outside NetCall.Out τ} {bindIp : Bytes} {port : UInt16}
  {m₀ : Machine NetCall.Out τ Unit} {srv : TcpServer} {listening : Prop}

/-- The record of a whole life: creation, any run, destruction. -/
def lifetime (S : Outside NetCall.Out τ) (bindIp : Bytes) (port : UInt16)
    (ops : List ServerOp) (m₀ : Machine NetCall.Out τ Unit) : List NetEvent :=
  let r := tcpServerCreate S bindIp port m₀
  match r.1 with
  | none => r.2.trace
  | some srv => (tcpServerDestroy S (serverRun S (started srv r.2) ops)).2.trace

/-- The event gives the descriptor to the server. -/
def answers (fd : Int) (e : NetEvent) : Bool :=
  decide (answeredFd e = some fd)

/-- The event is a `close` of the descriptor. -/
def closesFd (fd : Int) : NetEvent → Bool
  | ⟨.close fd', _⟩ => decide (fd' = fd)
  | _ => false

@[simp] theorem mem_opens
    {k : KernelView} {fd fd' : Int} :
    fd ∈ (k.opens fd').opened ↔ (0 ≤ fd' ∧ fd = fd') ∨ fd ∈ k.opened := by
  rw [KernelView.opens]
  split_ifs with h <;> simp [h]

/-- An event opens the descriptor, closes it or leaves it alone. -/
theorem opened_next
    {fd : Int}
    (hfd : 0 ≤ fd)
    {k : KernelView} {e : NetEvent}
    (hkernel : kernel.Allowed k e)
    (hserver : server.Allowed k e) :
    (if answers fd e then 1 else 0) + (if fd ∈ k.opened then 1 else 0) =
      (if closesFd fd e then 1 else 0) + (if fd ∈ (kernel.next k e).opened then 1 else 0) := by
  have hanswer : ∀ fd' : Int, (0 ≤ fd' → fd' ∉ k.opened) →
      (if fd' = fd then 1 else 0) + (if fd ∈ k.opened then 1 else 0) =
        0 + (if fd ∈ (k.opens fd').opened then 1 else 0) := by
    intro fd' hfresh
    by_cases heq : fd' = fd
    · subst heq
      simp [hfd, hfresh hfd]
    · simp [heq, Ne.symm heq]
  obtain ⟨c, a⟩ := e
  cases c with
  | socket | accept | epollCreate =>
      simpa [answers, answeredFd, closesFd, kernel, KernelView.next] using
        hanswer a (hkernel a rfl)
  | close fd' =>
      have hopen := hserver.1 fd' rfl
      show 0 + _ = (if decide (fd' = fd) then 1 else 0) +
        (if fd ∈ k.opened.erase fd' then 1 else 0)
      by_cases heq : fd' = fd
      · subst heq
        simp [hopen hfd]
      · simp [heq, Ne.symm heq]
  | epollCtlAdd fd' =>
      simp only [answers, answeredFd, closesFd, kernel, KernelView.next]
      split_ifs <;> simp_all
  | epollCtlDel fd' =>
      simp only [answers, answeredFd, closesFd, kernel, KernelView.next]
      split_ifs <;> simp_all
  | calloc | free | setReuseAddr | inetPton | bind | listen | epollWait | getFlags
  | setNonblock | setNodelay | read | write | onMessage =>
      simp [answers, answeredFd, closesFd, kernel, KernelView.next]

/-- A descriptor is open as long as it was answered once more than it was closed. -/
theorem opened_balance
    {fd : Int}
    (hfd : 0 ≤ fd)
    {tr : List NetEvent} {k : KernelView}
    (hkernel : kernel.Obeys k tr)
    (hserver : server.Obeys k tr) :
    tr.countP (answers fd) + (if fd ∈ k.opened then 1 else 0) =
      tr.countP (closesFd fd) + (if fd ∈ (kernel.after k tr).opened then 1 else 0) :=
  Protocol.balance (P := kernel.both server) (fun k => if fd ∈ k.opened then 1 else 0)
    (fun _ _ hduty => opened_next hfd hduty.1 hduty.2)
    (Protocol.obeys_both (P := kernel) (Q := server) rfl hkernel hserver)

theorem lifetime_of_none
    {ops : List ServerOp}
    (hcreate : (tcpServerCreate S bindIp port m₀).1 = none) :
    lifetime S bindIp port ops m₀ = (tcpServerCreate S bindIp port m₀).2.trace := by
  simp only [lifetime, hcreate]

theorem lifetime_of_some
    {ops : List ServerOp}
    (hcreate : (tcpServerCreate S bindIp port m₀).1 = some srv) :
    lifetime S bindIp port ops m₀ =
      (tcpServerDestroy S
        (serverRun S (started srv (tcpServerCreate S bindIp port m₀).2) ops)).2.trace := by
  simp only [lifetime, hcreate]

/-- What holds of a new server holds after any moves. -/
theorem accounted_goes
    {m m' : TcpState τ}
    (h : Goes m m')
    (hstart : server.Obeys .initial m.trace ∧
      Accounted listening m.vars (kernel.after .initial m.trace))
    (hkernel : kernel.Obeys .initial m'.trace) :
    server.Obeys .initial m'.trace ∧
      Accounted listening m'.vars (kernel.after .initial m'.trace) := by
  obtain ⟨evs, htrace, hkeeps⟩ := h.keeps (P := kernel)
    (fun v past => server.Obeys .initial past ∧
      Accounted listening v (kernel.after .initial past))
    (fun v evs v' hmove past hinv hobeys => by
      obtain ⟨hserver, haccounted⟩ := settles_move hmove hinv.2 hobeys
      exact ⟨server_append hinv.1 hserver, by rwa [kernel.after_append]⟩)
  rw [htrace] at hkernel ⊢
  exact hkeeps _ hstart ((kernel.obeys_append _ _ _).mp hkernel).2

/-- The kernel kept its promises before, too. -/
theorem Goes.kernel_before
    {m m' : TcpState τ}
    (h : Goes m m')
    (hkernel : kernel.Obeys .initial m'.trace) :
    kernel.Obeys .initial m.trace := by
  obtain ⟨evs, htrace, _⟩ := h
  rw [htrace] at hkernel
  exact ((kernel.obeys_append _ _ _).mp hkernel).1

/-- The record of `tcp_server_create`. -/
theorem created_settles
    (hnew : m₀.trace = [])
    (hkernel : kernel.Obeys .initial (tcpServerCreate S bindIp port m₀).2.trace) :
    server.Obeys .initial (tcpServerCreate S bindIp port m₀).2.trace ∧
      Created (tcpServerCreate S bindIp port m₀).1
        (kernel.after .initial (tcpServerCreate S bindIp port m₀).2.trace) := by
  obtain ⟨evs, htrace, hsettles⟩ := opening_tcpServerCreate S bindIp port m₀
  rw [List.filterMap_some, hnew, List.filterMap_nil, List.nil_append] at htrace
  rw [htrace] at hkernel ⊢
  exact hsettles trivial hkernel

/-- The server is accounted for as soon as it is there. -/
theorem accounted_started
    (hcreate : (tcpServerCreate S bindIp port m₀).1 = some srv)
    (hnew : m₀.trace = [])
    (hkernel : kernel.Obeys .initial (tcpServerCreate S bindIp port m₀).2.trace) :
    server.Obeys .initial (tcpServerCreate S bindIp port m₀).2.trace ∧
      Accounted (srv.listenFd ∈
          (kernel.after .initial (tcpServerCreate S bindIp port m₀).2.trace).watched)
        (started srv (tcpServerCreate S bindIp port m₀).2).vars
        (kernel.after .initial (tcpServerCreate S bindIp port m₀).2.trace) := by
  obtain ⟨hserver, hcreated⟩ := created_settles hnew hkernel
  refine ⟨hserver, ?_⟩
  rw [hcreate] at hcreated
  obtain ⟨hnone, _⟩ | ⟨srv', hsome, haccounted⟩ := hcreated
  · cases hnone
  · obtain rfl := Option.some.inj hsome
    exact haccounted

/-- **The accounts of every state.**  In every state that a new server reaches, between
two calls of its owner or between two events of a poll, the open descriptors are its two
own and those of its clients, no two of them are equal, and epoll watches all of the
clients, nothing that was closed, and the listening socket if it was registered. -/
theorem accounted_of_reached
    (hcreate : (tcpServerCreate S bindIp port m₀).1 = some srv)
    (hnew : m₀.trace = [])
    {m : TcpState τ}
    (hreached : Reached S (started srv (tcpServerCreate S bindIp port m₀).2) m)
    (hkernel : kernel.Obeys .initial m.trace) :
    Accounted (srv.listenFd ∈
        (kernel.after .initial (tcpServerCreate S bindIp port m₀).2.trace).watched)
      m.vars (kernel.after .initial m.trace) := by
  have hgoes := goes_reached hreached
  have hstart := accounted_started hcreate hnew (hgoes.kernel_before hkernel)
  exact (accounted_goes hgoes hstart hkernel).2

theorem lifetime_settles
    (ops : List ServerOp)
    (hnew : m₀.trace = [])
    (hkernel : kernel.Obeys .initial (lifetime S bindIp port ops m₀)) :
    server.Obeys .initial (lifetime S bindIp port ops m₀) ∧
      kernel.after .initial (lifetime S bindIp port ops m₀) = .initial := by
  cases hcreate : (tcpServerCreate S bindIp port m₀).1 with
  | none =>
      rw [lifetime_of_none hcreate] at hkernel ⊢
      obtain ⟨hserver, hcreated⟩ := created_settles hnew hkernel
      rw [hcreate] at hcreated
      obtain ⟨_, hview⟩ | ⟨srv, hsome, _⟩ := hcreated
      · exact ⟨hserver, hview⟩
      · cases hsome
  | some srv =>
      rw [lifetime_of_some hcreate] at hkernel ⊢
      have hgoes := goes_serverRun S ops (started srv (tcpServerCreate S bindIp port m₀).2)
      generalize serverRun S (started srv (tcpServerCreate S bindIp port m₀).2) ops = m
        at hgoes hkernel ⊢
      -- the record before the destruction is kept by it
      obtain ⟨closing, hclosing, _⟩ := (issues_tcpServerDestroy S).trace m
      rw [hclosing] at hkernel
      have hrun := ((kernel.obeys_append _ _ _).mp hkernel).1
      obtain ⟨hserver, haccounted⟩ := accounted_goes hgoes
        (accounted_started hcreate hnew (hgoes.kernel_before hrun)) hrun
      obtain ⟨evs, htrace, hobeys, hend⟩ := tcpServerDestroy_settles S haccounted
      rw [htrace]
      refine ⟨server_append hserver hobeys, ?_⟩
      rw [kernel.after_append, hend]

/-- **From creation to destruction.**  Whatever the kernel answers and the callback does,
the server uses no descriptor that is not open and no memory that is not allocated; in
the end the memory is freed, nothing is open or watched, and every descriptor was closed
exactly as often as it was answered.  A creation that fails is no exception. -/
theorem lifetime_settled
    (ops : List ServerOp)
    (hnew : m₀.trace = [])
    (hkernel : kernel.Obeys .initial (lifetime S bindIp port ops m₀)) :
    server.Obeys .initial (lifetime S bindIp port ops m₀) ∧
      kernel.after .initial (lifetime S bindIp port ops m₀) = .initial ∧
      ∀ fd, 0 ≤ fd →
        (lifetime S bindIp port ops m₀).countP (answers fd) =
          (lifetime S bindIp port ops m₀).countP (closesFd fd) := by
  have hsettled := lifetime_settles ops hnew hkernel
  refine ⟨hsettled.1, hsettled.2, fun fd hfd => ?_⟩
  have hbalance := opened_balance hfd hkernel hsettled.1
  rw [hsettled.2] at hbalance
  simpa [KernelView.initial] using hbalance

end Lifetime

/-- Two visits, and the first visitor is asked to leave. -/
theorem lifetime_twoVisits :
    let tr := lifetime scriptKernel [] 7000 [.poll, .poll, .closeClient 5]
      (beforeCreate twoVisits)
    tr.countP (answers 5) = 1 ∧ server.Obeys .initial tr ∧
      kernel.after .initial tr = .initial ∧
      ∀ fd, 0 ≤ fd → tr.countP (answers fd) = tr.countP (closesFd fd) := by
  refine ⟨by decide +kernel, lifetime_settled _ rfl (by decide +kernel)⟩

/-- Behind the first visit, the listening socket and the client are watched. -/
theorem accounted_firstVisit :
    let m := serverRun scriptKernel visitedServer [.poll]
    (kernel.after .initial m.trace).watched = {3, 5} ∧
      Accounted (3 ∈ (kernel.after .initial
          (tcpServerCreate scriptKernel [] 7000 (beforeCreate twoVisits)).2.trace).watched)
        m.vars (kernel.after .initial m.trace) := by
  refine ⟨by decide +kernel, ?_⟩
  exact accounted_of_reached visitedServer_created rfl (Reached.call [.poll])
    (by decide +kernel)

end Tcp
end PsdkBridge
