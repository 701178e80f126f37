import Mathlib.Logic.Function.Basic
import Mathlib.Logic.Relation
import ResilientProxy.Proxy.Run

/-!
# Stretches of a run

What a task does between two points at which it could be held up is one stretch: waiting in line
for the lock and waiting for the end of a pause are such points even where the lock turns out to be
free and the pause to be empty. Every move is a chain of stretches, so whatever all stretches
preserve, all runs preserve. The constructors of `Stretch` say once what a task can do; no other
proof looks into the operations of a proxy.
-/

namespace ResilientProxy

/-- What the lock is wanted for in order to take the connection down. -/
def Stop.goal : Stop → Goal
  | .close => .close
  | .abort => .abort

/-- The outcome of a call whose last attempt failed when the machine's clock read `uptime`. -/
def Call.failure (c : Call) (uptime : Nat) (e : ChannelError) : Outcome :=
  .called (.error (.call ⟨c.operation, c.retry.attempts, c.retry.elapsed uptime, e⟩))

/-- What a task that begins when the machine's clock reads `uptime` wants the lock for first. -/
def Job.goal (config : Config) (uptime : Nat) : Job → Goal
  | .connect => .connect .owner
  | .close => .close
  | .abort => .abort
  | .invoke operation arenaSize request =>
    .attempt ⟨operation, arenaSize, request, .start config.maxCallRetries uptime⟩

/-- Whether an attempt is handed to the channel. -/
def Happening.isInvoke : Happening → Bool
  | .callStarted (.invoke ..) => true
  | _ => false

/-- The call of the channel that is started, if one is. -/
def Happening.started : Happening → Option ChannelCall
  | .callStarted call => some call
  | _ => none

/-- The call of the channel whose end a task at this stage waits for. -/
def Stage.pending : Stage → Option ChannelCall
  | .connecting .. => some .connect
  | .replacing _ _ _ conn _ | .draining _ conn .. | .teardownClosing conn => some (.close conn)
  | .aborting conn | .teardownAborting conn => some (.abort conn)
  | .attempting _ conn arena _ => some (.invoke conn arena.capacity arena.used)
  | _ => none

/-- Whether the channel is working on an attempt. -/
def Stage.isAttempting : Stage → Bool
  | .attempting .. => true
  | _ => false

/-- Whether the channel can end in this way what a task at this stage waits for. -/
def Stage.takes : Stage → Reply → Bool
  | .connecting .., .connected _ | .connecting .., .failed _ => true
  | .replacing .., .done | .replacing .., .failed _ |
    .draining .., .done | .draining .., .failed _ |
    .aborting _, .done | .aborting _, .failed _ => true
  | .attempting .., .answered _ | .attempting .., .failed _ | .attempting .., .panicked => true
  | .teardownAborting _, .done | .teardownAborting _, .failed _ | .teardownClosing _, .done |
    .teardownClosing _, .failed _ => true
  | _, _ => false

/-- Whether this may happen outside of all tasks. -/
def Happening.isAside : Happening → Bool
  | .queried .. | .letGo _ | .abandoned _ | .lost _ | .noted (.droppedOutsideRuntime ..)
  | .observed _ => true
  | _ => false

/-- What stands in a list that was put together stands in one of its parts. -/
theorem cases_of_append {α : Type} {new old later earlier : List α} {e : α}
    (h : new ++ old = later ++ e :: earlier) :
    (∃ mid, later = new ++ mid ∧ old = mid ++ e :: earlier) ∨
      ∃ mid, new = later ++ e :: mid ∧ earlier = mid ++ old := by
  obtain ⟨mid, hl, ho⟩ | ⟨mid, hn, ho⟩ := List.append_eq_append_iff.mp h
  · exact .inl ⟨mid, hl, ho⟩
  · cases mid with
    | nil => exact .inl ⟨[], by simpa using hn.symm, ho.symm⟩
    | cons a mid =>
      obtain ⟨rfl, rfl⟩ := List.cons.inj ho
      exact .inr ⟨mid, hn, rfl⟩

namespace Proxy

/-- Task `t` stands at stage `s`. -/
def At (p : Proxy) (t : TaskId) (s : Stage) : Prop := p.tasks[t]? = some s

instance (p : Proxy) (t : TaskId) (s : Stage) : Decidable (p.At t s) :=
  inferInstanceAs (Decidable (p.tasks[t]? = some s))

/-- Task `t` goes on to stage `s`, and `es` happen in it, the latest first. -/
def goOn (p : Proxy) (t : TaskId) (s : Stage) (es : List Happening) : Proxy :=
  { p with tasks := p.tasks.set t s, history := es.map (⟨p.now, some t, ·⟩) ++ p.history }

section

variable (p : Proxy) (t : TaskId) (s : Stage) (es : List Happening)

@[simp] theorem goOn_tasks : (p.goOn t s es).tasks = p.tasks.set t s := rfl

@[simp] theorem goOn_history :
    (p.goOn t s es).history = es.map (⟨p.now, some t, ·⟩) ++ p.history := rfl

@[simp] theorem goOn_lock : (p.goOn t s es).lock = p.lock := rfl

@[simp] theorem goOn_slot : (p.goOn t s es).slot = p.slot := rfl

@[simp] theorem goOn_connections : (p.goOn t s es).connections = p.connections := rfl

@[simp] theorem goOn_owned : (p.goOn t s es).owned = p.owned := rfl

@[simp] theorem goOn_dropped : (p.goOn t s es).dropped = p.dropped := rfl

@[simp] theorem goOn_running : (p.goOn t s es).running = p.running := rfl

@[simp] theorem goOn_now : (p.goOn t s es).now = p.now := rfl

end

theorem At.lt {p : Proxy} {t : TaskId} {s : Stage} (h : p.At t s) : t < p.tasks.length := by
  obtain ⟨hlt, -⟩ := List.getElem?_eq_some_iff.mp h
  exact hlt

theorem At.unique {p : Proxy} {t : TaskId} {s s' : Stage} (h : p.At t s) (h' : p.At t s') :
    s = s' :=
  Option.some.inj (h.symm.trans h')

theorem At.mem {p : Proxy} {t : TaskId} {s : Stage} (h : p.At t s) : s ∈ p.tasks :=
  List.mem_of_getElem? h

/-- After a turn of `t`, that task is where the turn led, and every other one where it was. -/
theorem at_goOn {p q : Proxy} {t u : TaskId} {s s' r : Stage} {es : List Happening}
    (h : p.At t s) (hq : q.tasks = p.tasks) :
    (q.goOn t s' es).At u r ↔ (u = t ∧ r = s') ∨ (u ≠ t ∧ p.At u r) := by
  have hlt : t < p.tasks.length := h.lt
  by_cases hu : u = t
  · subst hu
    simp [At, hq, hlt, eq_comm]
  · have hne : t ≠ u := fun he => hu he.symm
    simp [At, hq, hu, List.getElem?_set_ne hne]

theorem At.goOn {p q : Proxy} {t : TaskId} {s s' : Stage} {es : List Happening} (h : p.At t s)
    (hq : q.tasks = p.tasks) : (q.goOn t s' es).At t s' :=
  (at_goOn h hq).mpr (.inl ⟨rfl, rfl⟩)

theorem at_append {p q : Proxy} {s r : Stage} {u : TaskId} (hq : q.tasks = p.tasks ++ [s])
    (h : q.At u r) : p.At u r ∨ (u = p.tasks.length ∧ r = s) := by
  simp only [At, hq, List.getElem?_append] at h ⊢
  split at h
  · exact .inl h
  · have hm : r ∈ [s] := List.mem_of_getElem? h
    obtain ⟨hi, -⟩ := List.getElem?_eq_some_iff.mp h
    simp only [List.length_singleton] at hi
    exact .inr ⟨Nat.le_antisymm (by omega) (by omega), List.mem_singleton.mp hm⟩

theorem At.append {p q : Proxy} {t : TaskId} {s s' : Stage} (h : p.At t s)
    (hq : q.tasks = p.tasks ++ [s']) : q.At t s := by
  rw [At, hq, List.getElem?_append_left h.lt]
  exact h

theorem At.cutOff {p : Proxy} {t : TaskId} {s : Stage} (h : p.At t s) :
    p.cutOff.At t (if s.isFinished then s else .finished .vanished) := by
  simp only [At] at h
  simp [At, Proxy.cutOff, h]

/-- What `f` tells about the stage of a task; `a` stands for a task that does not exist. -/
def view {α : Type} (p : Proxy) (f : Stage → α) (a : α) (t : TaskId) : α :=
  (p.tasks[t]?).elim a f

section

variable {p q : Proxy} {t : TaskId} {s s' : Stage} {es : List Happening} {α : Type}
  {f : Stage → α} {a : α}

theorem At.view (h : p.At t s) : p.view f a t = f s := by
  simp only [At] at h
  simp [Proxy.view, h]

theorem exists_of_view (h : p.view f a t ≠ a) : ∃ r, p.At t r ∧ f r ≠ a := by
  simp only [Proxy.view] at h
  cases ht : p.tasks[t]? with
  | none => simp [ht] at h
  | some r =>
    rw [ht] at h
    exact ⟨r, ht, h⟩

theorem view_goOn (h : p.At t s) (hq : q.tasks = p.tasks) :
    (q.goOn t s' es).view f a = Function.update (p.view f a) t (f s') := by
  funext u
  by_cases hu : u = t
  · subst hu
    have hlt : u < p.tasks.length := h.lt
    simp [Proxy.view, hq, hlt]
  · have hne : t ≠ u := fun he => hu he.symm
    simp [Proxy.view, hq, Function.update_of_ne hu, List.getElem?_set_ne hne]

theorem view_append (h : f s = a) (hq : q.tasks = p.tasks ++ [s]) : q.view f a = p.view f a := by
  funext u
  simp only [Proxy.view, hq, List.getElem?_append]
  split
  · rfl
  · rename_i hlt
    have hnone : p.tasks[u]? = none := List.getElem?_eq_none (by omega)
    rw [hnone]
    cases hu : [s][u - p.tasks.length]? with
    | none => rfl
    | some r =>
      have hm : r ∈ [s] := List.mem_of_getElem? hu
      rw [List.mem_singleton] at hm
      simp [hm, h]

end

theorem isFinished_of_cutOff {p : Proxy} {t : TaskId} {s : Stage} (h : p.cutOff.At t s) :
    s.isFinished = true := by
  obtain ⟨s', -, rfl⟩ := List.mem_map.mp h.mem
  split
  · assumption
  · rfl

/-- What happened so far, the latest first, whenever and in whatever task. -/
def happenings (p : Proxy) : List Happening := p.history.map (·.what)

@[simp] theorem happenings_goOn (p : Proxy) (t : TaskId) (s : Stage) (es : List Happening) :
    (p.goOn t s es).happenings = es ++ p.happenings := by
  simp [happenings, Function.comp_def]

/-- How a call to close a connection ends by its deadline, and what it comes to. -/
inductive CloseEnds (p : Proxy) (d : Option Nat) :
    Happening → Except ChannelError Unit → Prop where
  | done : CloseEnds p d (.callEnded .done) (.ok ())
  | failed {e : ChannelError} : CloseEnds p d (.callEnded (.failed e)) (.error e)
  | givenUp {m : Nat} (hd : d = some m) (hm : m ≤ p.now) :
    CloseEnds p d .callGivenUp (.error (timedOut p.config.closeTimeout))

/-- What the end of a close counts as, and what is noted about it. -/
inductive CloseCounts (p : Proxy) (faulted : Bool) :
    Except ChannelError Unit → Except ConnectionError Unit → List Happening → Prop where
  | ok : CloseCounts p faulted (.ok ()) (.ok ()) []
  | excused {detail : String} (h : faulted = true) :
    CloseCounts p faulted (.error (.invalidOperation detail)) (.ok ())
      [.noted (.closedWithError p.address detail)]
  | error {e : ChannelError} (h : faulted = false ∨ ∀ detail, e ≠ .invalidOperation detail) :
    CloseCounts p faulted (.error e) (.error (.closing p.address e)) []

/-- How an attempt in the hands of the channel fails by its deadline. -/
inductive AttemptFails (p : Proxy) (d : Option Nat) : Happening → ChannelError → Prop where
  | failed {e : ChannelError} : AttemptFails p d (.callEnded (.failed e)) e
  | givenUp {m : Nat} (hd : d = some m) (hm : m ≤ p.now) :
    AttemptFails p d .callGivenUp (timedOut p.config.callTimeout)

/-- How task `t` leaves an opening that came to `result`: its next stage, what happens after the
lock is given back, and who has the lock then. -/
inductive Leaves (p : Proxy) (t : TaskId) :
    Opener → Except ConnectionError OpenOutcome → Stage → List Happening → Lock → Prop where
  | owner {result : Except ConnectionError OpenOutcome} :
    Leaves p t .owner result (.finished (.connected result)) [.returned (.connected result)]
      p.lock.pass
  | failed {c : Call} {e : ConnectionError} :
    Leaves p t (.call c) (.error e) (.finished (.called (.error (.connection e))))
      [.returned (.called (.error (.connection e)))] p.lock.pass
  | reopened {c : Call} :
    Leaves p t (.call c) (.ok .opened) (.awaitingLock (.attempt c.advance))
      [.noted (.reconnected p.address c.operation)] (p.lock.pass.join t)
  | alreadyOpen {c : Call} :
    Leaves p t (.call c) (.ok .alreadyOpen)
      (.callPause c (p.clock.after p.now p.config.reconnectWait))
      [.waiting p.config.reconnectWait]
      p.lock.pass

/-- What is noted when a connection is installed. -/
def installNotes (p : Proxy) (r : RetryLoop) : List Happening :=
  if 0 < r.attempt then
    [.noted (.openedAfterRetrying p.address r.attempts (r.elapsed p.uptime))]
  else []

/-- What is noted when the connection that was replaced has been closed. -/
def staleNotes (p : Proxy) : Except ConnectionError Unit → List Happening
  | .ok () => []
  | .error e => [.noted (.staleNotReleased p.address e)]

/-- What is noted when the connection has been taken down. -/
def stopNotes (p : Proxy) (stop : Stop) : Except ConnectionError Unit → List Happening
  | .ok () => [.noted (p.stopNotice stop)]
  | .error _ => []

/-- What is noted when an attempt to open failed and another one will follow. -/
def willReopenNotes (p : Proxy) (r : RetryLoop) (e : ChannelError) : List Happening :=
  if r.attempt = 0 then [.noted (.openWillRetry p.address r.maxRetries e)] else []

/-- What is noted when an attempt of a call failed and another one will follow. -/
def willRetryNotes (p : Proxy) (c : Call) (e : ChannelError) : List Happening :=
  if p.hold.engaged then []
  else [.noted (.callWillRetry p.address c.operation c.retry.maxRetries e)]

/-- What is noted when a teardown has tried to abort the connection. -/
def teardownAbortNotes (p : Proxy) : Except ChannelError Unit → List Happening
  | .ok () => []
  | .error e => [.noted (.teardownAbortFailed p.address e)]

/-- What is noted when a teardown has tried to close the connection. -/
def teardownCloseNotice (p : Proxy) : Except ChannelError Unit → Notice
  | .ok () | .error (.invalidOperation _) => .tornDown p.address
  | .error e => .teardownCloseFailed p.address e

/-- Nothing but reports to the log. -/
def Noted (es : List Happening) : Prop := ∀ x ∈ es, ∃ n, x = .noted n

theorem Noted.not_mem {x : Happening} {es : List Happening} (h : Noted es)
    (hx : ∀ n, x ≠ .noted n) : x ∉ es :=
  fun hm => by
    obtain ⟨n, hn⟩ := h x hm
    exact hx n hn

theorem Noted.filterMap {α : Type} {f : Happening → Option α} {es : List Happening}
    (h : Noted es) (hf : ∀ n, f (.noted n) = none) : es.filterMap f = [] := by
  rw [List.filterMap_eq_nil_iff]
  intro x hx
  obtain ⟨n, rfl⟩ := h x hx
  exact hf n

theorem Noted.filter {f : Happening → Bool} {es : List Happening} (h : Noted es)
    (hf : ∀ n, f (.noted n) = false) : es.filter f = [] := by
  rw [List.filter_eq_nil_iff]
  intro x hx
  obtain ⟨n, rfl⟩ := h x hx
  simp [hf]

/-! What holds of every notice that an operation can give holds of all that it notes. -/

section

variable (p : Proxy) (r : RetryLoop) (e : ChannelError) {P : Happening → Prop}

theorem forall_installNotes (h : ∀ a n d, P (.noted (.openedAfterRetrying a n d))) :
    ∀ x ∈ p.installNotes r, P x := by
  simp only [installNotes]
  split <;> simp [h]

theorem forall_staleNotes {result : Except ConnectionError Unit}
    (h : ∀ e, P (.noted (.staleNotReleased p.address e))) : ∀ x ∈ p.staleNotes result, P x := by
  cases result <;> simp [staleNotes, h]

theorem forall_stopNotes {stop : Stop} {result : Except ConnectionError Unit}
    (h : P (.noted (p.stopNotice stop))) : ∀ x ∈ p.stopNotes stop result, P x := by
  cases result <;> simp [stopNotes, h]

theorem forall_willReopenNotes (h : ∀ a n e, P (.noted (.openWillRetry a n e))) :
    ∀ x ∈ p.willReopenNotes r e, P x := by
  simp only [willReopenNotes]
  split <;> simp [h]

theorem forall_willRetryNotes {c : Call} (h : ∀ a o n e, P (.noted (.callWillRetry a o n e))) :
    ∀ x ∈ p.willRetryNotes c e, P x := by
  simp only [willRetryNotes]
  split <;> simp [h]

theorem forall_teardownAbortNotes {result : Except ChannelError Unit}
    (h : ∀ a e, P (.noted (.teardownAbortFailed a e))) :
    ∀ x ∈ p.teardownAbortNotes result, P x := by
  cases result <;> simp [teardownAbortNotes, h]

theorem noted_installNotes : Noted (p.installNotes r) :=
  p.forall_installNotes r fun _ _ _ => ⟨_, rfl⟩

theorem noted_staleNotes (result : Except ConnectionError Unit) : Noted (p.staleNotes result) :=
  p.forall_staleNotes fun _ => ⟨_, rfl⟩

theorem noted_stopNotes (stop : Stop) (result : Except ConnectionError Unit) :
    Noted (p.stopNotes stop result) :=
  p.forall_stopNotes ⟨_, rfl⟩

theorem noted_willReopenNotes : Noted (p.willReopenNotes r e) :=
  p.forall_willReopenNotes r e fun _ _ _ => ⟨_, rfl⟩

theorem noted_willRetryNotes (c : Call) : Noted (p.willRetryNotes c e) :=
  p.forall_willRetryNotes e fun _ _ _ _ => ⟨_, rfl⟩

theorem noted_teardownAbortNotes (result : Except ChannelError Unit) :
    Noted (p.teardownAbortNotes result) :=
  p.forall_teardownAbortNotes fun _ _ => ⟨_, rfl⟩

theorem teardownCloseNotice_of (P : Happening → Prop) {result : Except ChannelError Unit}
    (htorn : ∀ a, P (.noted (.tornDown a)))
    (hfailed : ∀ a e, P (.noted (.teardownCloseFailed a e))) :
    P (.noted (p.teardownCloseNotice result)) := by
  simp only [teardownCloseNotice]
  split <;> simp [htorn, hfailed]

end

section

variable {p : Proxy} {faulted : Bool} {closed : Except ChannelError Unit}
  {result : Except ConnectionError Unit} {ns : List Happening}

theorem CloseCounts.forall {P : Happening → Prop} (h : p.CloseCounts faulted closed result ns)
    (hn : ∀ a detail, P (.noted (.closedWithError a detail))) : ∀ x ∈ ns, P x := by
  cases h <;> simp [hn]

theorem CloseCounts.noted (h : p.CloseCounts faulted closed result ns) : Noted ns :=
  h.forall fun _ _ => ⟨_, rfl⟩

end

/-- The wait between two attempts to open after failure `e`, for the draw `u`. -/
def backoffDelay (p : Proxy) (attempt : UInt32) (u : Binary64) : Duration :=
  (Backoff.mk p.config.retryTimeSlot).delay attempt u

/-- One turn of task `t`: the stages it goes from and to, what happens in it, the latest first, and
the proxy with all but its tasks and its history brought up to date. -/
inductive Turn (p : Proxy) (t : TaskId) : Stage → Stage → List Happening → Proxy → Prop where
  | began {job : Job} :
    Turn p t (.queued job) (.awaitingLock (job.goal p.config p.uptime)) []
      { p with lock := p.lock.join t }
  -- opening
  | foundOpen {o : Opener} {conn : ConnId} {s : Stage} {es : List Happening} {l : Lock}
      (hl : p.lock.owner = some t) (hc : p.slot.handle = some conn) (hq : p.query conn = .opened)
      (hx : p.Leaves t o (.ok .alreadyOpen) s es l) :
    Turn p t (.awaitingLock (.connect o)) s
      (es ++ [.lockReleased, .openingEnded (.ok .alreadyOpen), .queried conn .opened,
        .lockTaken (.connect o)])
      { p with slot := ⟨some conn, .opened⟩, published := ConnState.opened.toByte, lock := l }
  | foundFaulted {o : Opener} {conn : ConnId} (hl : p.lock.owner = some t)
      (hc : p.slot.handle = some conn) (hq : p.query conn = .faulted) :
    Turn p t (.awaitingLock (.connect o)) (.connecting o (.start p.config.maxOpenRetries p.uptime))
      [.callStarted .connect, .queried conn .faulted, .lockTaken (.connect o)]
      { p with slot := ⟨some conn, .faulted⟩, published := ConnState.faulted.toByte }
  | foundClosed {o : Opener} {conn : ConnId} (hl : p.lock.owner = some t)
      (hc : p.slot.handle = some conn) (hq : p.query conn = .closed) :
    Turn p t (.awaitingLock (.connect o)) (.connecting o (.start p.config.maxOpenRetries p.uptime))
      [.callStarted .connect, .letGo conn, .queried conn .closed, .lockTaken (.connect o)]
      { p with slot := ⟨none, .closed⟩, published := ConnState.closed.toByte }
  | foundEmpty {o : Opener} (hl : p.lock.owner = some t) (hc : p.slot.handle = none) :
    Turn p t (.awaitingLock (.connect o)) (.connecting o (.start p.config.maxOpenRetries p.uptime))
      [.callStarted .connect, .lockTaken (.connect o)]
      { p with slot := ⟨none, .closed⟩, published := ConnState.closed.toByte }
  | connected {o : Opener} {r : RetryLoop} {cs : ConnState} {s : Stage} {es : List Happening}
      {l : Lock} (hc : p.slot.handle = none) (hx : p.Leaves t o (.ok .opened) s es l) :
    Turn p t (.connecting o r) s
      (es ++ .lockReleased :: .openingEnded (.ok .opened) ::
        (p.installNotes r ++ [.callEnded (.connected cs)]))
      { p with
        connections := p.connections ++ [cs]
        slot := ⟨some p.connections.length, .opened⟩
        published := ConnState.opened.toByte
        lock := l }
  | connectedOver {o : Opener} {r : RetryLoop} {cs : ConnState} {stale : ConnId}
      (hc : p.slot.handle = some stale) :
    Turn p t (.connecting o r)
      (.replacing o r p.connections.length stale (p.deadline p.config.closeTimeout))
      [.callStarted (.close stale), .callEnded (.connected cs)]
      { p with connections := p.connections ++ [cs], slot := ⟨none, p.slot.state⟩ }
  | replaced {o : Opener} {r : RetryLoop} {fresh stale : ConnId} {d : Option Nat}
      {ending : Happening} {closed : Except ChannelError Unit}
      {result : Except ConnectionError Unit} {ns : List Happening} {s : Stage}
      {es : List Happening} {l : Lock} (he : p.CloseEnds d ending closed)
      (hn : p.CloseCounts true closed result ns) (hx : p.Leaves t o (.ok .opened) s es l) :
    Turn p t (.replacing o r fresh stale d) s
      (es ++ .lockReleased :: .openingEnded (.ok .opened) ::
        (p.installNotes r ++ (p.staleNotes result ++ (ns ++ [ending]))))
      { p with slot := ⟨some fresh, .opened⟩, published := ConnState.opened.toByte, lock := l }
  | connectFailed {o : Opener} {r : RetryLoop} {e : ChannelError} {s : Stage}
      {es : List Happening} {l : Lock} (hf : e.recovery = .giveUp ∨ r.exhausted = true)
      (hx : p.Leaves t o (.error (.opening p.address r.attempts e)) s es l) :
    Turn p t (.connecting o r) s
      (es ++ [.lockReleased, .openingEnded (.error (.opening p.address r.attempts e)),
        .callEnded (.failed e)])
      { p with lock := l }
  | connectPaused {o : Opener} {r : RetryLoop} {e : ChannelError} (he : e.recovery = .reconnect)
      (hr : r.exhausted = false) :
    Turn p t (.connecting o r) (.connectPause o r (p.clock.after p.now p.config.reconnectWait))
      (.waiting p.config.reconnectWait ::
        .noted (.waitingToOpen p.address r.attempt (UInt64.ofNat p.config.reconnectWait.millis)) ::
        (p.willReopenNotes r e ++ [.callEnded (.failed e)]))
      p
  | connectBackedOff {o : Opener} {r : RetryLoop} {e : ChannelError} {u : Binary64} {us : Draws}
      (he : e.recovery = .backOff) (hr : r.exhausted = false) (hu : p.draws.next = (u, us)) :
    Turn p t (.connecting o r)
      (.connectPause o r (p.clock.after p.now (p.backoffDelay r.attempt u)))
      (.waiting (p.backoffDelay r.attempt u) ::
        .noted (.waitingToOpen p.address r.attempt
          (UInt64.ofNat (p.backoffDelay r.attempt u).millis)) ::
        .drawn u :: (p.willReopenNotes r e ++ [.callEnded (.failed e)]))
      { p with draws := us }
  | connectAgain {o : Opener} {r : RetryLoop} {d : Nat} (hd : d ≤ p.now) :
    Turn p t (.connectPause o r d) (.connecting o r.advance) [.callStarted .connect] p
  -- taking down
  | closeStarted {stop : Stop} {conn : ConnId} (hl : p.lock.owner = some t)
      (hc : p.slot.handle = some conn) (hr : (p.query conn).isRunning = true)
      (hs : stop = .abort → p.query conn = .faulted) :
    Turn p t (.awaitingLock stop.goal)
      (.draining stop conn (p.query conn == .faulted) (p.deadline p.config.closeTimeout))
      [.callStarted (.close conn), .queried conn (p.query conn), .lockTaken stop.goal]
      { p with slot := ⟨none, p.query conn⟩, published := (p.query conn).toByte }
  | stoppedClosed {stop : Stop} {conn : ConnId} (hl : p.lock.owner = some t)
      (hc : p.slot.handle = some conn) (hq : p.query conn = .closed) :
    Turn p t (.awaitingLock stop.goal) (.finished (.stopped (.ok false)))
      [.returned (.stopped (.ok false)), .lockReleased, .letGo conn, .queried conn .closed,
        .lockTaken stop.goal]
      { p with slot := ⟨none, .closed⟩, published := ConnState.closed.toByte, lock := p.lock.pass }
  | stoppedEmpty {stop : Stop} (hl : p.lock.owner = some t) (hc : p.slot.handle = none) :
    Turn p t (.awaitingLock stop.goal) (.finished (.stopped (.ok false)))
      [.returned (.stopped (.ok false)), .lockReleased, .lockTaken stop.goal]
      { p with slot := ⟨none, .closed⟩, published := ConnState.closed.toByte, lock := p.lock.pass }
  | abortStarted {conn : ConnId} (hl : p.lock.owner = some t) (hc : p.slot.handle = some conn)
      (hq : p.query conn = .opened) :
    Turn p t (.awaitingLock .abort) (.aborting conn)
      [.callStarted (.abort conn), .queried conn .opened, .lockTaken .abort]
      { p with slot := ⟨some conn, .opened⟩, published := ConnState.opened.toByte }
  | aborted {conn held : ConnId} (hc : p.slot.handle = some held) :
    Turn p t (.aborting conn) (.draining .abort held true (p.deadline p.config.closeTimeout))
      [.callStarted (.close held), .callEnded .done]
      { p with slot := ⟨none, p.slot.state⟩ }
  | abortedEmpty {conn : ConnId} (hc : p.slot.handle = none) :
    Turn p t (.aborting conn) (.finished (.stopped (.ok false)))
      [.returned (.stopped (.ok false)), .lockReleased, .callEnded .done]
      { p with slot := ⟨none, .closed⟩, published := ConnState.closed.toByte, lock := p.lock.pass }
  | abortRefused {conn : ConnId} {e : ChannelError} :
    Turn p t (.aborting conn) (.finished (.stopped (.error (.aborting p.address e))))
      [.returned (.stopped (.error (.aborting p.address e))), .lockReleased, .callEnded (.failed e)]
      { p with lock := p.lock.pass }
  | drained {stop : Stop} {conn : ConnId} {faulted : Bool} {d : Option Nat} {ending : Happening}
      {closed : Except ChannelError Unit} {result : Except ConnectionError Unit}
      {ns : List Happening} (he : p.CloseEnds d ending closed)
      (hn : p.CloseCounts faulted closed result ns) :
    Turn p t (.draining stop conn faulted d) (.finished (.stopped (result.map fun _ => true)))
      (.returned (.stopped (result.map fun _ => true)) :: .lockReleased ::
        (p.stopNotes stop result ++ (ns ++ [ending])))
      { p with
        slot := ⟨p.slot.handle, .closed⟩
        published := ConnState.closed.toByte
        lock := p.lock.pass }
  -- calls
  | attemptedEmpty {c : Call} (hl : p.lock.owner = some t) (hc : p.slot.handle = none) :
    Turn p t (.awaitingLock (.attempt c)) (.finished (c.failure p.uptime .notOpen))
      [.returned (c.failure p.uptime .notOpen), .attempted c.retry (.error .notOpen), .lockReleased,
        .lookedUp none, .lockTaken (.attempt c)]
      { p with lock := p.lock.pass }
  | arenaRefused {c : Call} {conn : ConnId} (hl : p.lock.owner = some t)
      (hc : p.slot.handle = some conn) (ha : Arena.largest < c.arenaSize) :
    Turn p t (.awaitingLock (.attempt c)) (.finished .panicked)
      [.returned .panicked, .lockReleased, .lookedUp (some conn), .lockTaken (.attempt c)]
      { p with lock := p.lock.pass }
  | attemptSent {c : Call} {conn : ConnId} (hl : p.lock.owner = some t)
      (hc : p.slot.handle = some conn) (ha : c.arenaSize ≤ Arena.largest) :
    Turn p t (.awaitingLock (.attempt c))
      (.attempting c conn (.acquire c.arenaSize) (p.deadline p.config.callTimeout))
      [.callStarted (.invoke conn c.arenaSize 0), .lockReleased, .lookedUp (some conn),
        .lockTaken (.attempt c)]
      { p with lock := p.lock.pass }
  | allocated {c : Call} {conn : ConnId} {a a' : Arena} {b : Block} {n : Nat} {d : Option Nat}
      (ha : a.alloc n = .ok (b, a')) :
    Turn p t (.attempting c conn a d) (.attempting c conn a' d) [] p
  | arenaShort {c : Call} {conn : ConnId} {a : Arena} {n : Nat} {d : Option Nat}
      (ha : a.alloc n = .error .outOfMemory) :
    Turn p t (.attempting c conn a d) (.attempting c conn a d)
      [.noted (.arenaExhausted n a.remaining)] p
  | answered {c : Call} {conn : ConnId} {a : Arena} {d : Option Nat} {response : String} :
    Turn p t (.attempting c conn a d) (.finished (.called (.ok response)))
      [.returned (.called (.ok response)), .attempted c.retry (.ok response),
        .callEnded (.answered response)]
      { p with hold := p.hold.release }
  | failedForGood {c : Call} {conn : ConnId} {a : Arena} {d : Option Nat} {ending : Happening}
      {e : ChannelError} (he : p.AttemptFails d ending e)
      (hf : e.recovery = .giveUp ∨ c.retry.exhausted = true) :
    Turn p t (.attempting c conn a d) (.finished (c.failure p.uptime e))
      [.returned (c.failure p.uptime e), .attempted c.retry (.error e), ending] p
  | lostConnection {c : Call} {conn : ConnId} {a : Arena} {d : Option Nat} {ending : Happening}
      {e : ChannelError} (he : p.AttemptFails d ending e) (hr : e.recovery = .reconnect)
      (hx : c.retry.exhausted = false) :
    Turn p t (.attempting c conn a d) (.awaitingLock (.connect (.call c)))
      (p.willRetryNotes c e ++ [.attempted c.retry (.error e), ending])
      { p with hold := p.hold.engage.2, lock := p.lock.join t }
  | backedOff {c : Call} {conn : ConnId} {a : Arena} {d : Option Nat} {ending : Happening}
      {e : ChannelError} {u : Binary64} {us : Draws} (he : p.AttemptFails d ending e)
      (hr : e.recovery = .backOff) (hx : c.retry.exhausted = false)
      (hu : p.draws.next = (u, us)) :
    Turn p t (.attempting c conn a d)
      (.callPause c (p.clock.after p.now (p.backoffDelay c.retry.attempt u)))
      (.waiting (p.backoffDelay c.retry.attempt u) ::
        .noted (.backingOff c.operation c.retry.attempt
          (UInt64.ofNat (p.backoffDelay c.retry.attempt u).millis)) ::
        .drawn u :: (p.willRetryNotes c e ++ [.attempted c.retry (.error e), ending]))
      { p with hold := p.hold.engage.2, draws := us }
  | brokeDown {c : Call} {conn : ConnId} {a : Arena} {d : Option Nat} :
    Turn p t (.attempting c conn a d) (.finished .panicked)
      [.returned .panicked, .callEnded .panicked] p
  | paused {c : Call} {d : Nat} (hd : d ≤ p.now) :
    Turn p t (.callPause c d) (.awaitingLock (.attempt c.advance)) []
      { p with lock := p.lock.join t }
  -- teardown
  | teardownAborts {conn : ConnId} :
    Turn p t (.teardownQueued conn .opened) (.teardownAborting conn) [.callStarted (.abort conn)] p
  | teardownCloses {conn : ConnId} {s : ConnState} (hs : s ≠ .opened) :
    Turn p t (.teardownQueued conn s) (.teardownClosing conn) [.callStarted (.close conn)] p
  | teardownAborted {conn : ConnId} {ending : Happening} {result : Except ChannelError Unit}
      (he : p.CloseEnds none ending result) :
    Turn p t (.teardownAborting conn) (.teardownClosing conn)
      (.callStarted (.close conn) :: (p.teardownAbortNotes result ++ [ending])) p
  | teardownClosed {conn : ConnId} {ending : Happening} {result : Except ChannelError Unit}
      (he : p.CloseEnds none ending result) :
    Turn p t (.teardownClosing conn) (.finished .tornDown)
      [.returned .tornDown, .noted (p.teardownCloseNotice result), ending] p

/-- What a turn leaves to others. -/
structure Frame (p q : Proxy) : Prop where
  config : q.config = p.config
  address : q.address = p.address
  owned : q.owned = p.owned
  dropped : q.dropped = p.dropped
  running : q.running = p.running
  tasks : q.tasks = p.tasks
  clock : q.clock = p.clock
  now : q.now = p.now
  uptime : q.uptime = p.uptime
  history : q.history = p.history

theorem Turn.frame {p q : Proxy} {t : TaskId} {s s' : Stage} {es : List Happening}
    (h : p.Turn t s s' es q) : p.Frame q := by
  cases h <;> exact ⟨rfl, rfl, rfl, rfl, rfl, rfl, rfl, rfl, rfl, rfl⟩

theorem Turn.happenings {p q : Proxy} {t : TaskId} {s s' : Stage} {es : List Happening}
    (h : p.Turn t s s' es q) : (q.goOn t s' es).happenings = es ++ p.happenings := by
  rw [happenings_goOn, Proxy.happenings, h.frame.history]
  rfl

/-- The last reference to the proxy goes away. -/
inductive Dropping (p : Proxy) : Proxy → Prop where
  | empty (hc : p.slot.handle = none) : Dropping p { p with dropped := true }
  | closed {conn : ConnId} (hc : p.slot.handle = some conn) (hs : p.query conn = .closed) :
    Dropping p { p with
      dropped := true
      slot := ⟨none, p.slot.state⟩
      history := ⟨p.now, none, .letGo conn⟩ :: ⟨p.now, none, .queried conn .closed⟩ :: p.history }
  | running {conn : ConnId} (hc : p.slot.handle = some conn)
      (hs : (p.query conn).isRunning = true) (hr : p.running = true) :
    Dropping p { p with
      dropped := true
      slot := ⟨none, p.slot.state⟩
      tasks := p.tasks ++ [.teardownQueued conn (p.query conn)]
      history := ⟨p.now, none, .queried conn (p.query conn)⟩ :: p.history }
  | outside {conn : ConnId} (hc : p.slot.handle = some conn)
      (hs : (p.query conn).isRunning = true) (hr : p.running = false) :
    Dropping p { p with
      dropped := true
      slot := ⟨none, p.slot.state⟩
      history := ⟨p.now, none, .noted (.droppedOutsideRuntime p.address (p.query conn))⟩ ::
        ⟨p.now, none, .abandoned conn⟩ :: ⟨p.now, none, .queried conn (p.query conn)⟩ ::
        p.history }

theorem Dropping.dropped {p q : Proxy} (h : p.Dropping q) : q.dropped = true := by
  cases h <;> rfl

/-- The proxy is dropped if its last reference is gone. -/
inductive Reaping (p : Proxy) : Proxy → Prop where
  | kept (h : p.unreferenced = false ∨ p.dropped = true) : Reaping p p
  | dropped {q : Proxy} (hu : p.unreferenced = true) (hd : p.dropped = false)
      (h : p.Dropping q) : Reaping p q

/-- One stretch of a run. -/
inductive Stretch (p : Proxy) : Proxy → Prop where
  | submitted {job : Job} (ho : p.owned = true) (hr : p.running = true) :
    Stretch p { p with
      tasks := p.tasks ++ [.queued job]
      history := ⟨p.now, some p.tasks.length, .submitted job⟩ :: p.history }
  | turned {q : Proxy} {t : TaskId} {s s' : Stage} {es : List Happening} (ht : p.At t s)
      (h : p.Turn t s s' es q) : Stretch p (q.goOn t s' es)
  | drifted {conn : ConnId} {s : ConnState} :
    Stretch p { p with connections := p.connections.set conn s }
  | observed {conn : ConnId} (ho : p.owned = true) (hl : p.lock.owner = none)
      (hc : p.slot.handle = some conn) :
    Stretch p { p with
      slot := ⟨some conn, p.query conn⟩
      published := (p.query conn).toByte
      history := ⟨p.now, none, .observed (p.query conn)⟩ ::
        ⟨p.now, none, .queried conn (p.query conn)⟩ :: p.history }
  | observedEmpty (ho : p.owned = true) (hl : p.lock.owner = none) (hc : p.slot.handle = none) :
    Stretch p { p with
      slot := ⟨none, .closed⟩
      published := ConnState.closed.toByte
      history := ⟨p.now, none, .observed .closed⟩ :: p.history }
  | observedBusy {o : TaskId} (ho : p.owned = true) (hl : p.lock.owner = some o) :
    Stretch p { p with history := ⟨p.now, none, .observed p.publishedState⟩ :: p.history }
  | ticked {ms nanos : Nat} :
    Stretch p { p with now := p.now + ms, uptime := p.uptime + nanos }
  | disowned : Stretch p { p with owned := false }
  | dropped {q : Proxy} (hu : p.unreferenced = true) (hd : p.dropped = false)
      (h : p.Dropping q) : Stretch p q
  | halted {q : Proxy} (h : p.cutOff.Reaping q) : Stretch p { q.cutOff with running := false }

section

variable {p q : Proxy}

/-- What changes outside of all tasks, in no time. -/
structure Aside (p q : Proxy) : Prop where
  config : q.config = p.config
  draws : q.draws = p.draws
  clock : q.clock = p.clock
  now : q.now = p.now
  uptime : q.uptime = p.uptime
  length_le : p.tasks.length ≤ q.tasks.length
  history : ∃ new, q.history = new ++ p.history ∧
    ∀ e ∈ new, e.time = p.now ∧ e.task = none ∧ e.what.isAside = true

theorem Aside.trans {r : Proxy} (h : p.Aside q) (h' : q.Aside r) : p.Aside r where
  config := h'.config.trans h.config
  draws := h'.draws.trans h.draws
  clock := h'.clock.trans h.clock
  now := h'.now.trans h.now
  uptime := h'.uptime.trans h.uptime
  length_le := Nat.le_trans h.length_le h'.length_le
  history := by
    obtain ⟨new, hh, hnew⟩ := h.history
    obtain ⟨new', hh', hnew'⟩ := h'.history
    refine ⟨new' ++ new, by rw [hh', hh, List.append_assoc], fun e he => ?_⟩
    cases List.mem_append.mp he with
    | inl he => exact h.now ▸ hnew' e he
    | inr he => exact hnew e he

theorem Aside.of_events {slot : Slot} {published : UInt8} (new : List Event)
    (h : ∀ e ∈ new, e.time = p.now ∧ e.task = none ∧ e.what.isAside = true) :
    p.Aside { p with slot, published, history := new ++ p.history } :=
  ⟨rfl, rfl, rfl, rfl, rfl, Nat.le_refl _, new, rfl, h⟩

theorem Dropping.aside (h : p.Dropping q) : p.Aside q := by
  cases h with
  | empty => exact ⟨rfl, rfl, rfl, rfl, rfl, Nat.le_refl _, [], rfl, by simp⟩
  | closed =>
    exact ⟨rfl, rfl, rfl, rfl, rfl, Nat.le_refl _, [_, _], rfl, by simp [Happening.isAside]⟩
  | running => exact ⟨rfl, rfl, rfl, rfl, rfl, by simp, [_], rfl, by simp [Happening.isAside]⟩
  | outside =>
    exact ⟨rfl, rfl, rfl, rfl, rfl, Nat.le_refl _, [_, _, _], rfl, by simp [Happening.isAside]⟩

theorem cutOff_aside : p.Aside p.cutOff := by
  refine ⟨rfl, rfl, rfl, rfl, rfl, by simp [cutOff], _, rfl, fun e he => ?_⟩
  obtain ⟨c, -, rfl⟩ := List.mem_map.mp he
  exact ⟨rfl, rfl, rfl⟩

theorem Reaping.aside (h : p.Reaping q) : p.Aside q := by
  cases h with
  | kept => exact ⟨rfl, rfl, rfl, rfl, rfl, Nat.le_refl _, [], rfl, by simp⟩
  | dropped _ _ hdrop => exact hdrop.aside

/-- The end of the runtime, in all its steps. -/
theorem halted_aside (h : p.cutOff.Reaping q) : p.Aside { q.cutOff with running := false } :=
  have hstop : q.cutOff.Aside { q.cutOff with running := false } :=
    ⟨rfl, rfl, rfl, rfl, rfl, Nat.le_refl _, [], rfl, by simp⟩
  cutOff_aside.trans (h.aside.trans (cutOff_aside.trans hstop))

end

end Proxy

end ResilientProxy
