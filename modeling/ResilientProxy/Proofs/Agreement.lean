import ResilientProxy.Proofs.History

/-!
# Proxies that agree

Two proxies agree if they differ only in what is not looked at: the hold flag and the known state of
the connection, or some tasks and some events. Every operation takes proxies that agree to proxies
that agree. An operation on the connection asks the channel for its state before it looks at it, and
the hold flag decides about a warning and nothing else.
-/

namespace ResilientProxy

/-- What of two proxies is compared: some of their tasks, some of their events, and the rest, with
or without the hold flag, the state in the slot and the published one. -/
structure Sight where
  task : TaskId → Bool
  event : Event → Bool
  /-- Whether the hold flag and the state in the slot are looked at. -/
  exact : Bool
  /-- Only who looks at the hold flag may look at the warnings that it decides on. -/
  warnings : exact = false → ∀ time t address operation retries error,
    event ⟨time, t, .noted (.callWillRetry address operation retries error)⟩ = false

namespace Proxy

/-- The two proxies are the same as far as `v` goes. -/
structure Agree (v : Sight) (p q : Proxy) : Prop where
  config : p.config = q.config
  address : p.address = q.address
  handle : p.slot.handle = q.slot.handle
  state : v.exact = true → p.slot.state = q.slot.state
  published : v.exact = true → p.published = q.published
  hold : v.exact = true → p.hold = q.hold
  lock : p.lock = q.lock
  draws : p.draws = q.draws
  owned : p.owned = q.owned
  dropped : p.dropped = q.dropped
  running : p.running = q.running
  connections : p.connections = q.connections
  length : p.tasks.length = q.tasks.length
  tasks : ∀ u, v.task u = true → p.tasks[u]? = q.tasks[u]?
  clock : p.clock = q.clock
  now : p.now = q.now
  uptime : p.uptime = q.uptime
  history : p.history.filter v.event = q.history.filter v.event

theorem unreferenced_cutOff (p : Proxy) : p.cutOff.unreferenced = !p.owned := by
  have hnone : p.cutOff.tasks.any Stage.keepsProxy = false := by
    rw [List.any_eq_false]
    intro s hs
    obtain ⟨t, ht⟩ := List.mem_iff_getElem?.mp hs
    have hf : s.isFinished = true := @isFinished_of_cutOff p t s ht
    cases s <;> simp_all [Stage.isFinished, Stage.keepsProxy]
  rw [unreferenced, hnone]
  simp [Proxy.cutOff]

/-- Tasks that were cut off have let go of their connections. -/
theorem inHand_cutOff (s : Stage) :
    (if s.isFinished then s else .finished .vanished).inHand = none := by
  cases s <;> rfl

namespace Agree

variable {v : Sight} {p q : Proxy}

theorem refl (v : Sight) (p : Proxy) : p.Agree v p :=
  ⟨rfl, rfl, rfl, fun _ => rfl, fun _ => rfl, fun _ => rfl, rfl, rfl, rfl, rfl, rfl, rfl, rfl,
    fun _ _ => rfl, rfl, rfl, rfl, rfl⟩

section

variable (h : p.Agree v q)
include h

theorem symm : q.Agree v p :=
  ⟨h.config.symm, h.address.symm, h.handle.symm, fun he => (h.state he).symm,
    fun he => (h.published he).symm, fun he => (h.hold he).symm, h.lock.symm, h.draws.symm,
    h.owned.symm, h.dropped.symm, h.running.symm, h.connections.symm, h.length.symm,
    fun u hu => (h.tasks u hu).symm, h.clock.symm, h.now.symm, h.uptime.symm, h.history.symm⟩

theorem trans {r : Proxy} (h' : q.Agree v r) : p.Agree v r :=
  ⟨h.config.trans h'.config, h.address.trans h'.address, h.handle.trans h'.handle,
    fun he => (h.state he).trans (h'.state he), fun he => (h.published he).trans (h'.published he),
    fun he => (h.hold he).trans (h'.hold he), h.lock.trans h'.lock, h.draws.trans h'.draws,
    h.owned.trans h'.owned, h.dropped.trans h'.dropped, h.running.trans h'.running,
    h.connections.trans h'.connections, h.length.trans h'.length,
    fun u hu => (h.tasks u hu).trans (h'.tasks u hu), h.clock.trans h'.clock, h.now.trans h'.now,
    h.uptime.trans h'.uptime, h.history.trans h'.history⟩

theorem record (task : Option TaskId) (what : Happening) :
    (p.record task what).Agree v (q.record task what) :=
  { h with history := by simp [Proxy.record, List.filter_cons, h.now, h.history] }

theorem note (t : TaskId) (n : Notice) : (p.note t n).Agree v (q.note t n) := h.record _ _

/-- A report that names the address of the proxy. -/
theorem noteAt (t : TaskId) (n : Address → Notice) :
    (p.note t (n p.address)).Agree v (q.note t (n q.address)) := by
  rw [h.address]
  exact h.note t _

theorem setStage (t : TaskId) (s : Stage) : (p.setStage t s).Agree v (q.setStage t s) :=
  { h with
    length := by simpa [Proxy.setStage] using h.length
    tasks := fun u hu => by simp [Proxy.setStage, List.getElem?_set, h.length, h.tasks u hu] }

theorem finish (t : TaskId) (o : Outcome) : (p.finish t o).Agree v (q.finish t o) :=
  (h.setStage t _).record _ _

theorem setHandle (handle : Option ConnId) : (p.setHandle handle).Agree v (q.setHandle handle) :=
  { h with handle := rfl }

theorem publish (s : ConnState) : (p.publish s).Agree v (q.publish s) :=
  { h with state := fun _ => rfl, published := fun _ => rfl }

theorem query (c : ConnId) : p.query c = q.query c := by
  rw [Proxy.query, h.connections, Proxy.query]

theorem currentState : p.currentState = q.currentState := by
  simp only [Proxy.currentState, h.handle]
  cases q.slot.handle with
  | none => rfl
  | some c => exact h.query c

/-- Proxies that have just asked the channel agree about the state in the slot, too. -/
theorem refresh (task : Option TaskId) :
    (p.refresh task).Agree v (q.refresh task) ∧
      (p.refresh task).slot.state = (q.refresh task).slot.state := by
  have hand := h.handle
  cases hc : q.slot.handle with
  | none =>
    rw [hc] at hand
    simp only [Proxy.refresh, hand, hc]
    rw [h.currentState]
    exact ⟨h.publish _, rfl⟩
  | some c =>
    rw [hc] at hand
    simp only [Proxy.refresh, hand, hc]
    rw [h.query c]
    have h' := h.record task (.queried c (q.query c))
    rw [h'.currentState]
    exact ⟨h'.publish _, rfl⟩

theorem lineUp (t : TaskId) (goal : Goal) : (p.lineUp t goal).Agree v (q.lineUp t goal) :=
  Agree.setStage (p := { p with lock := p.lock.join t }) (q := { q with lock := q.lock.join t })
    { h with lock := congrArg (·.join t) h.lock } t _

theorem release (t : TaskId) : (p.release t).Agree v (q.release t) :=
  Agree.record (p := { p with lock := p.lock.pass }) (q := { q with lock := q.lock.pass })
    { h with lock := congrArg Lock.pass h.lock } _ _

theorem acquire (t : TaskId) (goal : Goal) {next : Proxy → Proxy}
    (hnext : ∀ {p q : Proxy}, p.Agree v q → (next p).Agree v (next q)) :
    (p.acquire t goal next).Agree v (q.acquire t goal next) := by
  simp only [Proxy.acquire, h.lock]
  cases q.lock.owner with
  | none => exact hnext ((h.lineUp t goal).record _ _)
  | some _ => exact h.lineUp t goal

theorem startCall (t : TaskId) (call : ChannelCall) (s : Stage) :
    (p.startCall t call s).Agree v (q.startCall t call s) :=
  (h.record _ _).setStage t s

theorem deadline (limit : Option Duration) : p.deadline limit = q.deadline limit := by
  rw [Proxy.deadline, h.clock, h.now, Proxy.deadline]

theorem draw (t : TaskId) (attempt : UInt32) :
    (p.draw t attempt).1 = (q.draw t attempt).1 ∧
      (p.draw t attempt).2.Agree v (q.draw t attempt).2 := by
  simp only [Proxy.draw, h.draws]
  refine ⟨by rw [h.config], ?_⟩
  exact Agree.record (p := { p with draws := q.draws.next.2 })
    (q := { q with draws := q.draws.next.2 }) { h with draws := rfl } _ _

theorem pause (t : TaskId) (delay : Duration) (stage : Nat → Stage) {next : Proxy → Proxy}
    (hnext : ∀ {p q : Proxy}, p.Agree v q → (next p).Agree v (next q)) :
    (p.pause t delay stage next).Agree v (q.pause t delay stage next) := by
  have h' := (h.record (some t) (.waiting delay)).setStage t (stage (q.clock.after q.now delay))
  simp only [Proxy.pause, Proxy.record, h.clock, h.now] at h' ⊢
  split
  · exact hnext h'
  · exact h'

theorem letGo (task : Option TaskId) : (p.letGo task).Agree v (q.letGo task) := by
  simp only [Proxy.letGo, h.handle]
  cases q.slot.handle with
  | none => exact h
  | some c => exact (h.setHandle none).record _ _

theorem giveUp (t : TaskId) (c : Call) (e : ChannelError) :
    (p.giveUp t c e).Agree v (q.giveUp t c e) := by
  simp only [Proxy.giveUp, h.uptime]
  exact h.finish t _

theorem attemptLocked (t : TaskId) (c : Call) :
    (p.attemptLocked t c).Agree v (q.attemptLocked t c) := by
  have h' (handle : Option ConnId) := (h.record (some t) (.lookedUp handle)).release t
  simp only [Proxy.attemptLocked, h.handle]
  cases q.slot.handle with
  | none => exact ((h' none).record _ _).giveUp t c .notOpen
  | some conn =>
    dsimp only
    split
    · exact (h' (some conn)).finish t _
    · rw [(h' (some conn)).deadline, (h' (some conn)).config]
      exact (h' (some conn)).startCall t _ _

theorem beginAttempt (t : TaskId) (c : Call) :
    (p.beginAttempt t c).Agree v (q.beginAttempt t c) :=
  h.acquire t _ fun h => h.attemptLocked t c

theorem attemptAfter (t : TaskId) (c : Call) (delay : Duration) :
    (p.attemptAfter t c delay).Agree v (q.attemptAfter t c delay) :=
  h.pause t delay _ fun h => h.beginAttempt t c.advance

theorem startClose (t : TaskId) (conn : ConnId) (stage : Option Nat → Stage) :
    (p.startClose t conn stage).Agree v (q.startClose t conn stage) := by
  simp only [Proxy.startClose, h.deadline, h.config]
  exact h.startCall t _ _

theorem closeResult (t : TaskId) (faulted : Bool) (result : Except ChannelError Unit) :
    (p.closeResult t faulted result).1 = (q.closeResult t faulted result).1 ∧
      (p.closeResult t faulted result).2.Agree v (q.closeResult t faulted result).2 := by
  cases result with
  | ok _ => exact ⟨rfl, h⟩
  | error e =>
    cases e <;> cases faulted <;> simp only [Proxy.closeResult, h.address, true_and] <;>
      first | exact h.note t _ | exact h

theorem leaveConnect (t : TaskId) (opener : Opener) (result : Except ConnectionError OpenOutcome) :
    (p.leaveConnect t opener result).Agree v (q.leaveConnect t opener result) := by
  have h' := (h.record (some t) (.openingEnded result)).release t
  cases opener with
  | owner => exact h'.finish t _
  | call c =>
    rcases result with e | _ | _
    · exact h'.finish t _
    · exact (h'.noteAt t (.reconnected · c.operation)).beginAttempt t _
    · simp only [Proxy.leaveConnect, h'.config]
      exact h'.attemptAfter t c _

theorem startConnect (t : TaskId) (opener : Opener) (r : RetryLoop) :
    (p.startConnect t opener r).Agree v (q.startConnect t opener r) :=
  h.startCall t _ _

theorem install (t : TaskId) (opener : Opener) (r : RetryLoop) (fresh : ConnId) :
    (p.install t opener r fresh).Agree v (q.install t opener r fresh) := by
  have h' := (h.setHandle (some fresh)).publish .opened
  simp only [Proxy.install, h'.uptime]
  split
  · exact (h'.noteAt t (.openedAfterRetrying · r.attempts _)).leaveConnect t _ _
  · exact h'.leaveConnect t _ _

theorem connected (t : TaskId) (opener : Opener) (r : RetryLoop) (s : ConnState) :
    (p.connected t opener r s).Agree v (q.connected t opener r s) := by
  have h' : Proxy.Agree v { p with connections := q.connections ++ [s] }
      { q with connections := q.connections ++ [s] } := { h with connections := rfl }
  simp only [Proxy.connected, h.connections, h.handle]
  cases q.slot.handle with
  | none => exact h'.install t opener r _
  | some stale => exact (h'.setHandle none).startClose t stale _

theorem replaced (t : TaskId) (opener : Opener) (r : RetryLoop) (fresh : ConnId)
    (result : Except ChannelError Unit) :
    (p.replaced t opener r fresh result).Agree v (q.replaced t opener r fresh result) := by
  obtain ⟨he, h'⟩ := h.closeResult t true result
  simp only [Proxy.replaced]
  generalize p.closeResult t true result = a at he h' ⊢
  generalize q.closeResult t true result = b at he h' ⊢
  obtain ⟨_ | _, p'⟩ := a <;> obtain ⟨_ | _, q'⟩ := b <;> cases he
  · exact (h'.noteAt t (.staleNotReleased · _)).install t opener r fresh
  · exact h'.install t opener r fresh

theorem connectDelay (t : TaskId) (r : RetryLoop) (e : ChannelError) :
    (p.connectDelay t r e).1 = (q.connectDelay t r e).1 ∧
      (p.connectDelay t r e).2.Agree v (q.connectDelay t r e).2 := by
  simp only [Proxy.connectDelay]
  split
  · exact ⟨congrArg Config.reconnectWait h.config, h⟩
  · exact h.draw t r.attempt

theorem connectFailed (t : TaskId) (opener : Opener) (r : RetryLoop) (e : ChannelError) :
    (p.connectFailed t opener r e).Agree v (q.connectFailed t opener r e) := by
  have hnote : Proxy.Agree v
      (if r.attempt = 0 then p.note t (.openWillRetry q.address r.maxRetries e) else p)
      (if r.attempt = 0 then q.note t (.openWillRetry q.address r.maxRetries e) else q) := by
    split
    · exact h.note t _
    · exact h
  simp only [Proxy.connectFailed, h.address]
  split
  · exact h.leaveConnect t opener _
  · obtain ⟨hd, h'⟩ := hnote.connectDelay t r e
    rw [hd, h'.address]
    exact (h'.note t _).pause t _ _ fun h => h.startConnect t opener _

theorem connectLocked (t : TaskId) (opener : Opener) :
    (p.connectLocked t opener).Agree v (q.connectLocked t opener) := by
  obtain ⟨h', hs⟩ := h.refresh (some t)
  simp only [Proxy.connectLocked, hs, h'.config, h'.uptime]
  cases (q.refresh (some t)).slot.state with
  | opened => exact h'.leaveConnect t opener _
  | faulted => exact h'.startConnect t opener _
  | closed => exact (h'.letGo (some t)).startConnect t opener _

theorem beginConnect (t : TaskId) (opener : Opener) :
    (p.beginConnect t opener).Agree v (q.beginConnect t opener) :=
  h.acquire t _ fun h => h.connectLocked t opener

/-- The warning that a call will be retried depends on the hold flag, and nothing else does. -/
theorem engageHold (t : TaskId) (c : Call) (e : ChannelError) :
    (p.engageHold t c e).Agree v (q.engageHold t c e) := by
  have setHold (a b : HoldFlag) (hab : v.exact = true → a = b) :
      Proxy.Agree v { p with hold := a } { q with hold := b } := { h with hold := hab }
  cases hv : v.exact with
  | true =>
    simp only [Proxy.engageHold, h.hold hv]
    split
    · exact (setHold _ _ fun _ => rfl).noteAt t
        (.callWillRetry · c.operation c.retry.maxRetries e)
    · exact setHold _ _ fun _ => rfl
  | false =>
    have unseen (r : Proxy) : (r.note t
        (.callWillRetry r.address c.operation c.retry.maxRetries e)).Agree v r := {
      refl v r with
      history := List.filter_cons_of_neg (by
        simp [v.warnings hv r.now (some t) r.address c.operation c.retry.maxRetries e]) }
    have engaged (r : Proxy) : (r.engageHold t c e).Agree v { r with hold := r.hold.engage.2 } := by
      simp only [Proxy.engageHold]
      split
      · exact unseen _
      · exact refl v _
    exact ((engaged p).trans (setHold _ _ (by simp [hv]))).trans (engaged q).symm

theorem retryCall (t : TaskId) (c : Call) (e : ChannelError) :
    (p.retryCall t c e).Agree v (q.retryCall t c e) := by
  have h' := h.engageHold t c e
  simp only [Proxy.retryCall]
  split
  · exact h'.beginConnect t _
  · obtain ⟨hd, h''⟩ := h'.draw t c.retry.attempt
    rw [hd]
    exact (h''.note t _).attemptAfter t c _

theorem attemptFailed (t : TaskId) (c : Call) (e : ChannelError) :
    (p.attemptFailed t c e).Agree v (q.attemptFailed t c e) := by
  have h' := h.record (some t) (.attempted c.retry (.error e))
  simp only [Proxy.attemptFailed]
  split
  · exact h'.giveUp t c e
  · exact h'.retryCall t c e

theorem attemptSucceeded (t : TaskId) (c : Call) (response : String) :
    (p.attemptSucceeded t c response).Agree v (q.attemptSucceeded t c response) := by
  have h' := h.record (some t) (.attempted c.retry (.ok response))
  have h'' : Proxy.Agree v
      { p.record (some t) (.attempted c.retry (.ok response)) with hold := p.hold.release }
      { q.record (some t) (.attempted c.retry (.ok response)) with hold := q.hold.release } :=
    { h' with hold := fun hv => congrArg HoldFlag.release (h.hold hv) }
  exact h''.finish t _

theorem stopped (t : TaskId) (stop : Stop) (result : Except ConnectionError Bool) :
    (p.stopped t stop result).Agree v (q.stopped t stop result) := by
  have h' := h.publish .closed
  have hn : (p.publish .closed).stopNotice stop = (q.publish .closed).stopNotice stop := by
    cases stop <;> simp only [stopNotice, h'.address]
  simp only [Proxy.stopped, hn]
  split
  · exact ((h'.note t _).release t).finish t _
  · exact (h'.release t).finish t _

theorem drain (t : TaskId) (stop : Stop) (s : ConnState) (faulted : Bool) :
    (p.drain t stop s faulted).Agree v (q.drain t stop s faulted) := by
  simp only [Proxy.drain, h.handle]
  cases q.slot.handle with
  | none => exact h.stopped t stop _
  | some conn =>
    dsimp only
    split
    · exact (h.setHandle none).startClose t conn _
    · exact (h.letGo (some t)).stopped t stop _

theorem drained (t : TaskId) (stop : Stop) (faulted : Bool) (result : Except ChannelError Unit) :
    (p.drained t stop faulted result).Agree v (q.drained t stop faulted result) := by
  obtain ⟨he, h'⟩ := h.closeResult t faulted result
  simp only [Proxy.drained]
  generalize p.closeResult t faulted result = a at he h' ⊢
  generalize q.closeResult t faulted result = b at he h' ⊢
  obtain ⟨_ | _, _⟩ := a <;> obtain ⟨_ | _, _⟩ := b <;> cases he <;> exact h'.stopped t stop _

theorem closeLocked (t : TaskId) : (p.closeLocked t).Agree v (q.closeLocked t) := by
  obtain ⟨h', hs⟩ := h.refresh (some t)
  simp only [Proxy.closeLocked, hs]
  exact h'.drain t .close _ _

theorem abortLocked (t : TaskId) : (p.abortLocked t).Agree v (q.abortLocked t) := by
  obtain ⟨h', hs⟩ := h.refresh (some t)
  simp only [Proxy.abortLocked, hs, h'.handle]
  split
  · exact h'.startCall t _ _
  · exact h'.drain t .abort _ _

theorem abortRefused (t : TaskId) (e : ChannelError) :
    (p.abortRefused t e).Agree v (q.abortRefused t e) := by
  simp only [Proxy.abortRefused, h.address]
  exact (h.release t).finish t _

theorem beginClose (t : TaskId) : (p.beginClose t).Agree v (q.beginClose t) :=
  h.acquire t _ fun h => h.closeLocked t

theorem beginAbort (t : TaskId) : (p.beginAbort t).Agree v (q.beginAbort t) :=
  h.acquire t _ fun h => h.abortLocked t

theorem teardownBegin (t : TaskId) (conn : ConnId) (s : ConnState) :
    (p.teardownBegin t conn s).Agree v (q.teardownBegin t conn s) := by
  simp only [Proxy.teardownBegin]
  split <;> exact h.startCall t _ _

theorem teardownAborted (t : TaskId) (conn : ConnId) (result : Except ChannelError Unit) :
    (p.teardownAborted t conn result).Agree v (q.teardownAborted t conn result) := by
  cases result with
  | ok _ => exact h.startCall t _ _
  | error e => exact (h.noteAt t (.teardownAbortFailed · e)).startCall t _ _

theorem teardownClosed (t : TaskId) (result : Except ChannelError Unit) :
    (p.teardownClosed t result).Agree v (q.teardownClosed t result) := by
  simp only [Proxy.teardownClosed, h.address]
  exact (h.note t _).finish t _

theorem proceed (t : TaskId) (goal : Goal) : (p.proceed t goal).Agree v (q.proceed t goal) := by
  cases goal with
  | connect opener => exact h.connectLocked t opener
  | close => exact h.closeLocked t
  | abort => exact h.abortLocked t
  | attempt c => exact h.attemptLocked t c

theorem begin (t : TaskId) (job : Job) : (p.begin t job).Agree v (q.begin t job) := by
  cases job with
  | connect => exact h.beginConnect t .owner
  | close => exact h.beginClose t
  | abort => exact h.beginAbort t
  | invoke operation arenaSize request =>
    simp only [Proxy.begin, h.config, h.uptime]
    exact h.beginAttempt t _

theorem expire (t : TaskId) (s : Stage) : (p.expire t s).Agree v (q.expire t s) := by
  simp only [Proxy.expire, h.config]
  split
  · exact h.replaced t _ _ _ _
  · exact h.drained t _ _ _
  · exact h.attemptFailed t _ _
  · exact h

/-- A reply is taken in both, or in neither. -/
theorem answer (t : TaskId) (s : Stage) (r : Reply) {p₀ q₀ : Proxy} (h₀ : p₀.Agree v q₀) :
    ((p.answer t s r).getD p₀).Agree v ((q.answer t s r).getD q₀) := by
  simp only [Proxy.answer]
  split <;> simp only [Option.getD_some, Option.getD_none]
  · exact h.connected t _ _ _
  · exact h.connectFailed t _ _ _
  · exact h.replaced t _ _ _ _
  · exact h.replaced t _ _ _ _
  · exact h.drained t _ _ _
  · exact h.drained t _ _ _
  · exact h.drain t _ _ _
  · exact h.abortRefused t _
  · exact h.attemptSucceeded t _ _
  · exact h.attemptFailed t _ _
  · exact h.finish t _
  · exact h.teardownAborted t _ _
  · exact h.teardownAborted t _ _
  · exact h.teardownClosed t _
  · exact h.teardownClosed t _
  · exact h₀

theorem resumeAt (t : TaskId) (s : Stage) (signal : Signal) :
    (p.resumeAt t s signal).Agree v (q.resumeAt t s signal) := by
  cases signal with
  | turn =>
    simp only [Proxy.resumeAt, h.lock]
    split
    · exact h.begin t _
    · split
      · exact (h.record _ _).proceed t _
      · exact h
    · exact h.teardownBegin t _ _
    · exact h
  | elapsed =>
    simp only [Proxy.resumeAt, h.now]
    split
    · split
      · exact h.startConnect t _ _
      · exact h
    · split
      · exact h.beginAttempt t _
      · exact h
    · exact h
  | reply r => exact (h.record (some t) (.callEnded r)).answer t s r h
  | expired =>
    simp only [Proxy.resumeAt, h.now]
    split
    · split
      · exact (h.record _ _).expire t s
      · exact h
    · exact h

/-- What a task does that is looked at. -/
theorem resume (ht : v.task t = true) (signal : Signal) :
    (p.resume t signal).Agree v (q.resume t signal) := by
  simp only [Proxy.resume, h.tasks t ht]
  split
  · exact h.resumeAt t _ signal
  · exact h

theorem submit (job : Job) : (p.submit job).Agree v (q.submit job) := by
  have h' : Proxy.Agree v { p with tasks := p.tasks ++ [.queued job] }
      { q with tasks := q.tasks ++ [.queued job] } := {
    h with
    length := by simp [h.length]
    tasks := fun u hu => by simp [List.getElem?_append, h.length, h.tasks u hu] }
  have hcond : (p.owned && p.running) = (q.owned && q.running) := by rw [h.owned, h.running]
  simp only [Proxy.submit]
  split
  · rw [if_pos (hcond ▸ ‹_›), h.length]
    exact h'.record _ _
  · rw [if_neg (hcond ▸ ‹_›)]
    exact h

theorem allocate (ht : v.task t = true) (length : Nat) :
    (p.allocate t length).Agree v (q.allocate t length) := by
  simp only [Proxy.allocate, h.tasks t ht]
  split
  · split
    · exact h.setStage t _
    · exact h.note t _
  · exact h

theorem observe (hv : v.exact = true) : p.observe.2.Agree v q.observe.2 := by
  simp only [Proxy.observe, h.lock]
  split
  · have h' := (h.refresh none).1
    simp only [publishedState, h'.published hv]
    exact h'.record _ _
  · simp only [publishedState, h.published hv]
    exact h.record _ _

theorem drop : p.drop.Agree v q.drop := by
  unfold Proxy.drop
  extract_lets p₁ q₁
  have h₁ : p₁.Agree v q₁ := { h with dropped := rfl }
  rw [h₁.handle]
  cases q₁.slot.handle with
  | none => exact h₁
  | some conn =>
    dsimp only
    rw [h₁.query conn]
    have h₂ := h₁.record none (.queried conn (q₁.query conn))
    have h₃ := h₂.setHandle none
    split
    · exact h₂.letGo none
    · generalize Proxy.setHandle _ none = p₃ at h₃ ⊢
      generalize Proxy.setHandle _ none = q₃ at h₃ ⊢
      split
      · rw [if_pos (h₃.running ▸ ‹_›)]
        exact { h₃ with
          length := by simp [h₃.length]
          tasks := fun u hu => by simp [List.getElem?_append, h₃.length, h₃.tasks u hu] }
      · rw [if_neg (h₃.running ▸ ‹_›), h₃.address]
        exact (h₃.record _ _).record _ _

/-- Both are dropped, or neither. -/
theorem reap (hu : p.unreferenced = q.unreferenced) : p.reap.Agree v q.reap := by
  simp only [Proxy.reap, hu]
  rw [h.dropped]
  split
  · exact h.drop
  · exact h

theorem cutOff (hands : p.tasks.filterMap Stage.inHand = q.tasks.filterMap Stage.inHand) :
    p.cutOff.Agree v q.cutOff := {
  h with
  lock := rfl
  length := by simp [Proxy.cutOff, h.length]
  tasks := fun u hu => by simp [Proxy.cutOff, h.tasks u hu]
  history := by simp [Proxy.cutOff, hands, h.now, h.history] }

/-- What the tasks are at is the same if it is so for those that are not looked at. -/
theorem map_tasks {α : Type} {f : Stage → α}
    (hidden : ∀ u, v.task u = false → ∃ s r, p.At u s ∧ q.At u r ∧ f s = f r) :
    p.tasks.map f = q.tasks.map f := by
  refine List.ext_getElem? fun u => ?_
  rw [List.getElem?_map, List.getElem?_map]
  cases hu : v.task u with
  | true => rw [h.tasks u hu]
  | false =>
    obtain ⟨s, r, hs, hr, he⟩ := hidden u hu
    simp only [At] at hs hr
    rw [hs, hr, Option.map_some, Option.map_some, he]

theorem inHand
    (hidden : ∀ u, v.task u = false → ∃ s r, p.At u s ∧ q.At u r ∧ s.inHand = r.inHand) :
    p.tasks.filterMap Stage.inHand = q.tasks.filterMap Stage.inHand := by
  simpa [List.filterMap_map] using congrArg (List.filterMap id) (h.map_tasks hidden)

theorem unreferenced
    (hidden : ∀ u, v.task u = false →
      ∃ s r, p.At u s ∧ q.At u r ∧ s.keepsProxy = r.keepsProxy) :
    p.unreferenced = q.unreferenced := by
  have hany : p.tasks.any Stage.keepsProxy = q.tasks.any Stage.keepsProxy := by
    simpa [List.any_map] using congrArg (List.any · id) (h.map_tasks hidden)
  rw [Proxy.unreferenced, h.owned, hany, Proxy.unreferenced]

theorem shutDown (hidden : ∀ u, v.task u = false →
      ∃ s r, p.At u s ∧ q.At u r ∧ s.inHand = r.inHand) :
    p.shutDown.Agree v q.shutDown := by
  have hcut := h.cutOff (h.inHand hidden)
  have hreap := hcut.reap (by rw [unreferenced_cutOff, unreferenced_cutOff, h.owned])
  have hcut' := hreap.cutOff (hreap.inHand fun u hu => by
    obtain ⟨s, r, hs, hr, -⟩ := hidden u hu
    refine ⟨_, _, reap_reaping.at hs.cutOff, reap_reaping.at hr.cutOff, ?_⟩
    rw [inHand_cutOff, inHand_cutOff])
  exact { hcut' with running := rfl }

/-- A move that no hidden task is concerned with. -/
theorem apply {m : Move} (visible : ∀ u, m.task? = some u → v.task u = true)
    (asks : m = .observe → v.exact = true)
    (hidden : m = .shutDown → ∀ u, v.task u = false →
      ∃ s r, p.At u s ∧ q.At u r ∧ s.inHand = r.inHand) :
    (p.apply m).Agree v (q.apply m) := by
  cases m with
  | submit job => exact h.submit job
  | resume t signal => exact h.resume (visible t rfl) signal
  | allocate t length => exact h.allocate (visible t rfl) length
  | drift conn s => exact { h with connections := congrArg (List.set · conn s) h.connections }
  | observe =>
    simp only [Proxy.apply]
    split
    · rw [if_pos (h.owned ▸ ‹_›)]
      exact h.observe (asks rfl)
    · rw [if_neg (h.owned ▸ ‹_›)]
      exact h
  | tick ms nanos =>
    exact { h with
      now := congrArg (· + ms) h.now
      uptime := congrArg (· + nanos) h.uptime }
  | disown => exact { h with owned := rfl }
  | shutDown => exact h.shutDown (hidden rfl)

/-- A move, if all tasks are looked at. -/
theorem step (all : ∀ u, v.task u = true) {m : Move} (asks : m = .observe → v.exact = true) :
    (p.step m).Agree v (q.step m) := by
  have h' : (p.apply m).Agree v (q.apply m) :=
    h.apply (fun u _ => all u) asks fun _ u hu => by simp [all u] at hu
  exact h'.reap (h'.unreferenced fun u hu => by simp [all u] at hu)

end

end Agree

end Proxy

end ResilientProxy
