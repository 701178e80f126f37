import ResilientProxy.Proofs.Stretch

/-!
# Runs are chains of stretches

Every operation of a proxy, every move and so every run is a chain of stretches. What each stretch
preserves therefore holds in every state that a run comes to. Only the last stretch of a move can
hand an attempt to the channel, so the state in which an attempt starts is one that the run stops
at.
-/

namespace ResilientProxy.Proxy

/-- A chain of stretches. -/
abbrev Stretches : Proxy → Proxy → Prop := Relation.ReflTransGen Stretch

/-- A chain of stretches in which no attempt is handed to the channel. -/
structure Leads (p q : Proxy) : Prop where
  stretches : p.Stretches q
  silent : ∃ new, q.history = new ++ p.history ∧ ∀ e ∈ new, e.what.isInvoke = false

/-- Task `t` has the lock for an attempt of call `c`, and connection `conn` is in the slot. -/
structure CanSend (p : Proxy) (t : TaskId) (c : Call) (conn : ConnId) : Prop where
  waits : p.At t (.awaitingLock (.attempt c))
  owner : p.lock.owner = some t
  handle : p.slot.handle = some conn
  fits : c.arenaSize ≤ Arena.largest

/-- Task `t` hands an attempt of call `c` to the channel, on connection `conn`. -/
def handOver (p : Proxy) (t : TaskId) (c : Call) (conn : ConnId) : Proxy :=
  { p with lock := p.lock.pass }.goOn t
    (.attempting c conn (.acquire c.arenaSize) (p.deadline p.config.callTimeout))
    [.callStarted (.invoke conn c.arenaSize 0), .lockReleased, .lookedUp (some conn),
      .lockTaken (.attempt c)]

/-- A chain of stretches of which only the last may hand an attempt to the channel. -/
inductive Course (p : Proxy) : Proxy → Prop where
  | leads {q : Proxy} (h : p.Leads q) : Course p q
  | sends {q : Proxy} {t : TaskId} {c : Call} {conn : ConnId} (h : p.Leads q)
      (hs : q.CanSend t c conn) : Course p (q.handOver t c conn)

variable {p q : Proxy} {t : TaskId} {s : Stage}

theorem CloseEnds.started {d : Option Nat} {ending : Happening} {r : Except ChannelError Unit}
    (h : p.CloseEnds d ending r) : ending.started = none := by
  cases h <;> rfl

theorem AttemptFails.started {d : Option Nat} {ending : Happening} {e : ChannelError}
    (h : p.AttemptFails d ending e) : ending.started = none := by
  cases h <;> rfl

theorem Leaves.started {o : Opener} {result : Except ConnectionError OpenOutcome}
    {es : List Happening} {l : Lock} (h : p.Leaves t o result s es l) :
    es.filterMap Happening.started = [] := by
  cases h <;> rfl

/-- The call of the channel that a turn to stage `s` starts, if it starts one, is the last that
happens in it, and the task then waits for its end. -/
inductive Calls (s : Stage) : List Happening → Prop where
  | nothing {es : List Happening} (h : es.filterMap Happening.started = []) : Calls s es
  | starts {call : ChannelCall} {es : List Happening} (h : es.filterMap Happening.started = [])
      (hs : s.pending = some call) : Calls s (.callStarted call :: es)

theorem Turn.calls {s' : Stage} {es : List Happening} (h : p.Turn t s s' es q) : Calls s' es := by
  have hn : ∀ n, Happening.started (.noted n) = none := fun _ => rfl
  cases h with
  | foundFaulted | foundClosed | foundEmpty | connectedOver | connectAgain | abortStarted
  | closeStarted | aborted | attemptSent | teardownAborts | teardownCloses => exact .starts rfl rfl
  | foundOpen _ _ _ hx | connectFailed _ hx =>
    refine .nothing ?_
    rw [List.filterMap_append, hx.started]
    rfl
  | connected _ hx =>
    refine .nothing ?_
    simp only [List.filterMap_append, List.filterMap_cons, hx.started,
      (p.noted_installNotes _).filterMap hn]
    rfl
  | replaced he hcc hx =>
    refine .nothing ?_
    simp only [List.filterMap_append, List.filterMap_cons, hx.started, he.started,
      (p.noted_installNotes _).filterMap hn, (p.noted_staleNotes _).filterMap hn,
      hcc.noted.filterMap hn]
    rfl
  | connectPaused | connectBackedOff =>
    refine .nothing ?_
    simp only [List.filterMap_append, List.filterMap_cons,
      (p.noted_willReopenNotes _ _).filterMap hn]
    rfl
  | drained he hcc =>
    refine .nothing ?_
    simp only [List.filterMap_append, List.filterMap_cons, (p.noted_stopNotes _ _).filterMap hn,
      hcc.noted.filterMap hn, he.started]
    rfl
  | lostConnection he | backedOff he =>
    refine .nothing ?_
    simp only [List.filterMap_append, List.filterMap_cons,
      (p.noted_willRetryNotes _ _).filterMap hn, he.started]
    rfl
  | teardownAborted he =>
    refine .starts ?_ rfl
    simp only [List.filterMap_append, List.filterMap_cons,
      (p.noted_teardownAbortNotes _).filterMap hn, he.started]
    rfl
  | failedForGood he | teardownClosed he =>
    refine .nothing ?_
    simp only [List.filterMap_cons, he.started]
    rfl
  | _ => exact .nothing rfl

/-- A call that is started in a turn is what the turn ends with. -/
theorem Turn.of_started {s' : Stage} {es₁ es₂ : List Happening} {call : ChannelCall}
    (h : p.Turn t s s' (es₁ ++ .callStarted call :: es₂) q) :
    es₁ = [] ∧ s'.pending = some call := by
  have hcalls := h.calls
  generalize hes : es₁ ++ .callStarted call :: es₂ = es at hcalls
  have hm : call ∈ es.filterMap Happening.started := by
    rw [← hes, List.filterMap_append]
    exact List.mem_append_right _ (.head _)
  cases hcalls with
  | nothing hno => simp [hno] at hm
  | @starts call' es' hno hs =>
    cases es₁ with
    | nil =>
      obtain ⟨hcall, -⟩ := List.cons.inj hes
      cases hcall
      exact ⟨rfl, hs⟩
    | cons y es₁ =>
      obtain ⟨-, rfl⟩ := List.cons.inj hes
      simp [Happening.started] at hno

/-- Only a task that has the lock for an attempt hands one to the channel. -/
theorem Turn.isInvoke {s' : Stage} {es : List Happening} (h : p.Turn t s s' es q)
    (hs : ∀ c, s ≠ .awaitingLock (.attempt c)) : ∀ x ∈ es, x.isInvoke = false := by
  intro x hx
  by_contra hinv
  obtain ⟨conn, capacity, used, rfl⟩ : ∃ conn capacity used,
      x = .callStarted (.invoke conn capacity used) := by
    simp only [Bool.not_eq_false, Happening.isInvoke] at hinv
    split at hinv
    · exact ⟨_, _, _, rfl⟩
    · exact nomatch hinv
  obtain ⟨es₁, es₂, hes⟩ := List.append_of_mem hx
  obtain ⟨-, hpending⟩ := (hes ▸ h).of_started
  cases s' with
  | attempting c' conn' a d =>
    cases h with
    | attemptSent => exact hs _ rfl
    | allocated | arenaShort => simp at hx
    | foundOpen _ _ _ hx' | connected _ hx' | replaced _ _ hx' | connectFailed _ hx' => nomatch hx'
  | _ => simp [Stage.pending] at hpending

theorem Leads.refl (p : Proxy) : p.Leads p := ⟨.refl, [], rfl, by simp⟩

theorem Leads.trans {r : Proxy} (h : p.Leads q) (h' : q.Leads r) : p.Leads r := by
  obtain ⟨hs, new, hh, hnew⟩ := h
  obtain ⟨hs', new', hh', hnew'⟩ := h'
  refine ⟨hs.trans hs', new' ++ new, by rw [hh', hh, List.append_assoc], ?_⟩
  rw [List.forall_mem_append]
  exact ⟨hnew', hnew⟩

theorem Leads.course {r : Proxy} (h : p.Leads q) (h' : q.Course r) : p.Course r := by
  cases h' with
  | leads h' => exact .leads (h.trans h')
  | sends h' hs => exact .sends (h.trans h') hs

theorem Leads.of_turn {s' : Stage} {es : List Happening} (ht : p.At t s) (h : p.Turn t s s' es q)
    (hes : ∀ x ∈ es, x.isInvoke = false) : p.Leads (q.goOn t s' es) := by
  refine ⟨.single (.turned ht h), es.map (⟨q.now, some t, ·⟩), ?_, fun e he => ?_⟩
  · rw [goOn_history, h.frame.history]
  · obtain ⟨x, hx, rfl⟩ := List.mem_map.mp he
    exact hes x hx

theorem Turn.leads {s' : Stage} {es : List Happening} (h : p.Turn t s s' es q) (ht : p.At t s)
    (hs : ∀ c, s ≠ .awaitingLock (.attempt c)) : p.Leads (q.goOn t s' es) :=
  .of_turn ht h (h.isInvoke hs)

/-- What happens outside of all tasks hands nothing to the channel. -/
theorem Leads.of_aside (h : p.Stretch q) (ha : p.Aside q) : p.Leads q := by
  obtain ⟨new, hh, hnew⟩ := ha.history
  refine ⟨.single h, new, hh, fun e he => ?_⟩
  have haside := (hnew e he).2.2
  cases hw : e.what with
  | callStarted => simp [hw, Happening.isAside] at haside
  | _ => rfl

theorem CanSend.stretch {c : Call} {conn : ConnId} (h : p.CanSend t c conn) :
    p.Stretch (p.handOver t c conn) :=
  .turned h.waits (.attemptSent h.owner h.handle h.fits)

theorem CanSend.attempting {c : Call} {conn : ConnId} (h : p.CanSend t c conn) :
    (p.handOver t c conn).At t
      (.attempting c conn (.acquire c.arenaSize) (p.deadline p.config.callTimeout)) :=
  h.waits.goOn rfl

theorem Course.stretches (h : p.Course q) : p.Stretches q := by
  cases h with
  | leads h => exact h.stretches
  | sends h hs => exact h.stretches.tail hs.stretch

/-- Task `t` takes a turn, other than for scratch memory, and so goes on to another stage. -/
inductive Advances (t : TaskId) (p : Proxy) : Proxy → Prop where
  | turn {q : Proxy} {s s' : Stage} {es : List Happening} (ht : p.At t s)
      (h : p.Turn t s s' es q) (hs : (s.isAttempting && s'.isAttempting) = false) :
    Advances t p (q.goOn t s' es)

/-- One or more turns of task `t` in which no attempt is handed to the channel. -/
structure LeadsIn (t : TaskId) (p q : Proxy) : Prop where
  turns : Relation.TransGen (Advances t) p q
  silent : ∃ new, q.history = new ++ p.history ∧ ∀ e ∈ new, e.what.isInvoke = false

/-- One or more turns of task `t` of which only the last may hand an attempt to the channel. -/
inductive CourseIn (t : TaskId) (p : Proxy) : Proxy → Prop where
  | leads {q : Proxy} (h : p.LeadsIn t q) : CourseIn t p q
  | sent {c : Call} {conn : ConnId} (hs : p.CanSend t c conn) : CourseIn t p (p.handOver t c conn)
  | sends {q : Proxy} {c : Call} {conn : ConnId} (h : p.LeadsIn t q) (hs : q.CanSend t c conn) :
    CourseIn t p (q.handOver t c conn)

theorem Advances.stretch (h : p.Advances t q) : p.Stretch q := by
  obtain ⟨ht, h, -⟩ := h
  exact .turned ht h

theorem stretches_of_advances (h : Relation.ReflTransGen (Advances t) p q) : p.Stretches q := by
  induction h with
  | refl => exact .refl
  | tail _ h ih => exact ih.tail h.stretch

theorem LeadsIn.leads (h : p.LeadsIn t q) : p.Leads q :=
  ⟨stretches_of_advances h.turns.to_reflTransGen, h.silent⟩

theorem LeadsIn.trans {r : Proxy} (h : p.LeadsIn t q) (h' : q.LeadsIn t r) : p.LeadsIn t r :=
  ⟨h.turns.trans h'.turns, (h.leads.trans h'.leads).silent⟩

theorem LeadsIn.course {r : Proxy} (h : p.LeadsIn t q) (h' : q.CourseIn t r) : p.CourseIn t r := by
  cases h' with
  | leads h' => exact .leads (h.trans h')
  | sent hs => exact .sends h hs
  | sends h' hs => exact .sends (h.trans h') hs

theorem LeadsIn.of_turn {s' : Stage} {es : List Happening} (ht : p.At t s)
    (h : p.Turn t s s' es q) (hes : ∀ x ∈ es, x.isInvoke = false)
    (hs : (s.isAttempting && s'.isAttempting) = false) : p.LeadsIn t (q.goOn t s' es) :=
  ⟨.single ⟨ht, h, hs⟩, (Leads.of_turn ht h hes).silent⟩

theorem Turn.leadsIn {s' : Stage} {es : List Happening} (h : p.Turn t s s' es q) (ht : p.At t s)
    (hs : ∀ c, s ≠ .awaitingLock (.attempt c)) (hs' : (s.isAttempting && s'.isAttempting) = false) :
    p.LeadsIn t (q.goOn t s' es) :=
  .of_turn ht h (h.isInvoke hs) hs'

theorem CanSend.advances {c : Call} {conn : ConnId} (h : p.CanSend t c conn) :
    p.Advances t (p.handOver t c conn) :=
  .turn h.waits (.attemptSent h.owner h.handle h.fits) rfl

theorem CourseIn.turns (h : p.CourseIn t q) : Relation.TransGen (Advances t) p q := by
  cases h with
  | leads h => exact h.turns
  | sent hs => exact .single hs.advances
  | sends h hs => exact h.turns.tail hs.advances

theorem CourseIn.course (h : p.CourseIn t q) : p.Course q := by
  cases h with
  | leads h => exact .leads h.leads
  | sent hs => exact .sends (.refl p) hs
  | sends h hs => exact .sends h.leads hs

/-- Whether what a task at stage `s` waits for has come with a signal. -/
def heeds (p : Proxy) (t : TaskId) (s : Stage) : Signal → Bool
  | .turn =>
    match s with
    | .queued _ | .teardownQueued .. => true
    | .awaitingLock _ => p.lock.owner == some t
    | _ => false
  | .elapsed =>
    match s with
    | .connectPause _ _ d | .callPause _ d => d ≤ p.now
    | _ => false
  | .reply r => s.takes r
  | .expired => s.limit.any (· ≤ p.now)

/-- Several things happen in task `t`, the latest first. -/
def recordAll (p : Proxy) (t : TaskId) (es : List Happening) : Proxy :=
  { p with history := es.map (⟨p.now, some t, ·⟩) ++ p.history }

theorem at_setStage (h : t < p.tasks.length) (s : Stage) : (p.setStage t s).At t s := by
  simp [At, setStage, h]

theorem attemptLocked_course {c : Call} (ht : p.At t (.awaitingLock (.attempt c)))
    (hl : p.lock.owner = some t) :
    CourseIn t p ((p.record (some t) (.lockTaken (.attempt c))).attemptLocked t c) := by
  cases hc : p.slot.handle with
  | none =>
    simp only [attemptLocked, record, hc]
    exact .leads (.of_turn ht (.attemptedEmpty hl hc) (by simp [Happening.isInvoke]) rfl)
  | some conn =>
    by_cases ha : Arena.largest < c.arenaSize
    · simp only [attemptLocked, record, hc, if_pos ha]
      exact .leads (.of_turn ht (.arenaRefused hl hc ha) (by simp [Happening.isInvoke]) rfl)
    · simp only [attemptLocked, record, hc, if_neg ha]
      exact .sent ⟨ht, hl, hc, by omega⟩

/-- Getting the lock is a point of its own: the task is in line before it goes on. -/
theorem acquire_course {g : Goal} {next : Proxy → Proxy} (hp : t < p.tasks.length)
    (hq : LeadsIn t q (p.lineUp t g))
    (hnext : ∀ p' : Proxy, p'.At t (.awaitingLock g) → p'.lock.owner = some t →
      CourseIn t p' (next (p'.record (some t) (.lockTaken g)))) :
    CourseIn t q (p.acquire t g next) := by
  simp only [acquire]
  cases hl : p.lock.owner with
  | none =>
    have ho : (p.lineUp t g).lock.owner = some t := by simp [lineUp, setStage, Lock.join, hl]
    exact hq.course (hnext _ (at_setStage hp _) ho)
  | some o => exact .leads hq

theorem beginAttempt_course {c : Call} (hp : t < p.tasks.length)
    (hq : LeadsIn t q (p.lineUp t (.attempt c))) : CourseIn t q (p.beginAttempt t c) :=
  acquire_course hp hq fun _ ht hl => attemptLocked_course ht hl

theorem pause_course {d : Duration} {stage : Nat → Stage} {next : Proxy → Proxy}
    (hq : LeadsIn t q ((p.record (some t) (.waiting d)).setStage t (stage (p.clock.after p.now d))))
    (hnext : d.isZero = true → CourseIn t q (next
      ((p.record (some t) (.waiting d)).setStage t (stage (p.clock.after p.now d))))) :
    CourseIn t q (p.pause t d stage next) := by
  simp only [pause]
  split
  · exact hnext ‹_›
  · exact .leads hq

/-- An empty pause is a point of its own, too. -/
theorem attemptAfter_course {c : Call} {d : Duration} (hp : t < p.tasks.length)
    (hq : LeadsIn t q ((p.record (some t) (.waiting d)).setStage t
      (.callPause c (p.clock.after p.now d)))) :
    CourseIn t q (p.attemptAfter t c d) := by
  refine pause_course hq fun hz => ?_
  have hd : p.clock.after p.now d ≤ p.now := Nat.le_of_eq (Clock.after_of_isZero hz)
  have hlen : t < (p.record (some t) (.waiting d)).tasks.length := hp
  have ht := at_setStage hlen (.callPause c (p.clock.after p.now d))
  have h := LeadsIn.of_turn ht (.paused hd) (by simp) rfl
  exact beginAttempt_course (by simpa [setStage] using hlen) (hq.trans h)

theorem leaveConnect_course {o : Opener} {result : Except ConnectionError OpenOutcome}
    (hp : t < p.tasks.length)
    (hq : ∀ s es l, p.Leaves t o result s es l → LeadsIn t q { p.goOn t s
      (es ++ [.lockReleased, .openingEnded result]) with lock := l }) :
    CourseIn t q (p.leaveConnect t o result) := by
  cases o with
  | owner => exact .leads (hq _ _ _ .owner)
  | call c =>
    cases result with
    | error e => exact .leads (hq _ _ _ .failed)
    | ok outcome =>
      cases outcome with
      | opened => exact beginAttempt_course hp (hq _ _ _ .reopened)
      | alreadyOpen => exact attemptAfter_course hp (hq _ _ _ .alreadyOpen)

theorem Leaves.congr {o : Opener} {result : Except ConnectionError OpenOutcome}
    {es : List Happening} {l : Lock} (h : p.Leaves t o result s es l) (hl : q.lock = p.lock)
    (ha : q.address = p.address) (hk : q.clock = p.clock) (hn : q.now = p.now)
    (hc : q.config = p.config) :
    q.Leaves t o result s es l := by
  cases h with
  | owner => exact hl ▸ .owner
  | failed => exact hl ▸ .failed
  | reopened => exact hl ▸ ha ▸ .reopened
  | alreadyOpen => exact hl ▸ hc ▸ hk ▸ hn ▸ .alreadyOpen

theorem connectLocked_course {o : Opener} (ht : p.At t (.awaitingLock (.connect o)))
    (hl : p.lock.owner = some t) :
    CourseIn t p ((p.record (some t) (.lockTaken (.connect o))).connectLocked t o) := by
  cases hc : p.slot.handle with
  | none =>
    simp only [connectLocked, refresh, currentState, publish, letGo, record, hc]
    exact .leads ((Turn.foundEmpty hl hc).leadsIn ht nofun rfl)
  | some conn =>
    cases hq : p.query conn with
    | opened =>
      have hq' : p.connections.getD conn .closed = .opened := hq
      simp only [connectLocked, refresh, currentState, publish, record, query, hc, hq']
      refine leaveConnect_course ht.lt fun s es l hx => ?_
      have hx' : p.Leaves t o (.ok .alreadyOpen) s es l := hx.congr rfl rfl rfl rfl rfl
      cases hx <;> exact (Turn.foundOpen hl hc hq hx').leadsIn ht nofun rfl
    | faulted =>
      have hq' : p.connections.getD conn .closed = .faulted := hq
      simp only [connectLocked, refresh, currentState, publish, record, query, hc, hq']
      exact .leads ((Turn.foundFaulted hl hc hq).leadsIn ht nofun rfl)
    | closed =>
      have hq' : p.connections.getD conn .closed = .closed := hq
      simp only [connectLocked, refresh, currentState, publish, letGo, record, query, hc, hq']
      exact .leads ((Turn.foundClosed hl hc hq).leadsIn ht nofun rfl)

theorem beginConnect_course {o : Opener} (hp : t < p.tasks.length)
    (hq : LeadsIn t q (p.lineUp t (.connect o))) : CourseIn t q (p.beginConnect t o) :=
  acquire_course hp hq fun _ ht hl => connectLocked_course ht hl

theorem closeLocked_leads (ht : p.At t (.awaitingLock .close)) (hl : p.lock.owner = some t) :
    LeadsIn t p ((p.record (some t) (.lockTaken .close)).closeLocked t) := by
  cases hc : p.slot.handle with
  | none =>
    simp only [closeLocked, refresh, currentState, publish, drain, record, hc]
    exact (@Turn.stoppedEmpty p t .close hl hc).leadsIn ht nofun rfl
  | some conn =>
    cases hq : p.query conn with
    | closed =>
      have hq' : p.connections.getD conn .closed = .closed := hq
      simp only [closeLocked, refresh, currentState, publish, drain, letGo, record, query, hc, hq']
      exact (@Turn.stoppedClosed p t .close conn hl hc hq).leadsIn ht nofun rfl
    | opened =>
      have hq' : p.connections.getD conn .closed = .opened := hq
      simp only [closeLocked, refresh, currentState, publish, drain, record, query, hc, hq']
      have h :=
        (@Turn.closeStarted p t .close conn hl hc (by rw [hq]; rfl) nofun).leadsIn ht nofun rfl
      rw [hq] at h
      exact h
    | faulted =>
      have hq' : p.connections.getD conn .closed = .faulted := hq
      simp only [closeLocked, refresh, currentState, publish, drain, record, query, hc, hq']
      have h :=
        (@Turn.closeStarted p t .close conn hl hc (by rw [hq]; rfl) nofun).leadsIn ht nofun rfl
      rw [hq] at h
      exact h

theorem abortLocked_leads (ht : p.At t (.awaitingLock .abort)) (hl : p.lock.owner = some t) :
    LeadsIn t p ((p.record (some t) (.lockTaken .abort)).abortLocked t) := by
  cases hc : p.slot.handle with
  | none =>
    simp only [abortLocked, refresh, currentState, publish, drain, record, hc]
    exact (@Turn.stoppedEmpty p t .abort hl hc).leadsIn ht nofun rfl
  | some conn =>
    cases hq : p.query conn with
    | closed =>
      have hq' : p.connections.getD conn .closed = .closed := hq
      simp only [abortLocked, refresh, currentState, publish, drain, letGo, record, query, hc, hq']
      exact (@Turn.stoppedClosed p t .abort conn hl hc hq).leadsIn ht nofun rfl
    | opened =>
      have hq' : p.connections.getD conn .closed = .opened := hq
      simp only [abortLocked, refresh, currentState, publish, record, query, hc, hq']
      exact (Turn.abortStarted hl hc hq).leadsIn ht nofun rfl
    | faulted =>
      have hq' : p.connections.getD conn .closed = .faulted := hq
      simp only [abortLocked, refresh, currentState, publish, drain, record, query, hc, hq']
      have h :=
        (@Turn.closeStarted p t .abort conn hl hc (by rw [hq]; rfl) fun _ => hq).leadsIn ht nofun
          rfl
      rw [hq] at h
      exact h

theorem install_eq {o : Opener} {r : RetryLoop} {fresh : ConnId} :
    p.install t o r fresh =
      ({ p with slot := ⟨some fresh, .opened⟩, published := ConnState.opened.toByte }.recordAll t
        (p.installNotes r)).leaveConnect t o (.ok .opened) := by
  simp only [install, installNotes]
  split <;> rfl

/-- A new connection in the slot ends the opening. -/
theorem install_course {o : Opener} {r : RetryLoop} {fresh : ConnId} (hp : t < p.tasks.length)
    (hq : ∀ s es l, p.Leaves t o (.ok .opened) s es l → LeadsIn t q { p.goOn t s
      (es ++ .lockReleased :: .openingEnded (.ok .opened) :: p.installNotes r) with
        slot := ⟨some fresh, .opened⟩
        published := ConnState.opened.toByte
        lock := l }) :
    CourseIn t q (p.install t o r fresh) := by
  rw [install_eq]
  refine leaveConnect_course hp fun s es l hx => ?_
  have hx' : p.Leaves t o (.ok .opened) s es l := hx.congr rfl rfl rfl rfl rfl
  simpa [goOn, recordAll] using hq _ _ _ hx'

theorem closeResult_counts (ha : q.address = p.address) (faulted : Bool)
    (closed : Except ChannelError Unit) :
    ∃ result ns, p.CloseCounts faulted closed result ns ∧
      q.closeResult t faulted closed =
        (result, { q with history := ns.map (⟨q.now, some t, ·⟩) ++ q.history }) := by
  cases closed with
  | ok _ => exact ⟨_, _, .ok, rfl⟩
  | error e =>
    cases faulted with
    | false => cases e <;> exact ⟨_, _, .error (.inl rfl), ha ▸ rfl⟩
    | true =>
      cases e with
      | invalidOperation detail => exact ⟨_, _, .excused rfl, ha ▸ rfl⟩
      | _ => exact ⟨_, _, .error (.inr nofun), ha ▸ rfl⟩

theorem connected_course {o : Opener} {r : RetryLoop} {cs : ConnState}
    (ht : p.At t (.connecting o r)) :
    CourseIn t p ((p.record (some t) (.callEnded (.connected cs))).connected t o r cs) := by
  cases hc : p.slot.handle with
  | none =>
    simp only [connected, record, hc]
    refine install_course ht.lt fun s es l hx => ?_
    have hx' : p.Leaves t o (.ok .opened) s es l := hx.congr rfl rfl rfl rfl rfl
    have h := (@Turn.connected p t o r cs _ _ _ hc hx').leadsIn ht nofun rfl
    simpa [goOn, installNotes] using h
  | some stale =>
    simp only [connected, record, hc]
    exact .leads ((Turn.connectedOver hc).leadsIn ht nofun rfl)

theorem replaced_course {o : Opener} {r : RetryLoop} {fresh stale : ConnId} {d : Option Nat}
    {ending : Happening} {closed : Except ChannelError Unit}
    (ht : p.At t (.replacing o r fresh stale d)) (he : p.CloseEnds d ending closed) :
    CourseIn t p ((p.record (some t) ending).replaced t o r fresh closed) := by
  have hstage : ∀ c, Stage.replacing o r fresh stale d ≠ .awaitingLock (.attempt c) := nofun
  have ha : (p.record (some t) ending).address = p.address := rfl
  obtain ⟨result, ns, hn, heq⟩ := closeResult_counts ha (t := t) true closed
  have hreplaced : (p.record (some t) ending).replaced t o r fresh closed =
      (p.recordAll t (p.staleNotes result ++ (ns ++ [ending]))).install t o r fresh := by
    simp only [replaced, heq]
    cases result <;> simp [recordAll, staleNotes, record, note]
  rw [hreplaced]
  refine install_course ht.lt fun s es l hx => ?_
  have hx' : p.Leaves t o (.ok .opened) s es l := hx.congr rfl rfl rfl rfl rfl
  have h := (Turn.replaced he hn hx').leadsIn ht hstage rfl
  simpa [goOn, recordAll, installNotes] using h

theorem drained_leads {stop : Stop} {conn : ConnId} {faulted : Bool} {d : Option Nat}
    {ending : Happening} {closed : Except ChannelError Unit}
    (ht : p.At t (.draining stop conn faulted d)) (he : p.CloseEnds d ending closed) :
    LeadsIn t p ((p.record (some t) ending).drained t stop faulted closed) := by
  have ha : (p.record (some t) ending).address = p.address := rfl
  obtain ⟨result, ns, hn, heq⟩ := closeResult_counts ha (t := t) faulted closed
  simp only [drained, heq]
  have h := (Turn.drained he hn).leadsIn ht nofun rfl
  cases result with
  | ok u => cases stop <;>
      simpa [goOn, stopNotes, stopNotice, Except.map, stopped, publish, note, record, release,
        finish, setStage] using h
  | error e =>
    simpa [goOn, stopNotes, Except.map, stopped, publish, note, record, release, finish, setStage]
      using h

theorem startConnect_course {o : Opener} {r : RetryLoop} {d : Duration}
    (hp : t < p.tasks.length)
    (hq : LeadsIn t q ((p.record (some t) (.waiting d)).setStage t
      (.connectPause o r (p.clock.after p.now d)))) :
    CourseIn t q (p.pause t d (.connectPause o r) fun p => p.startConnect t o r.advance) := by
  refine pause_course hq fun hz => ?_
  have hd : p.clock.after p.now d ≤ p.now := Nat.le_of_eq (Clock.after_of_isZero hz)
  have hlen : t < (p.record (some t) (.waiting d)).tasks.length := hp
  have ht := at_setStage hlen (.connectPause o r (p.clock.after p.now d))
  have h := LeadsIn.of_turn ht (.connectAgain hd) (by simp [Happening.isInvoke]) rfl
  exact .leads (hq.trans h)

/-- What a failed attempt to open that is not the last does. -/
theorem connectFailed_again {o : Opener} {r : RetryLoop} {e : ChannelError}
    (hf : ¬ (e.recovery = .giveUp ∨ r.exhausted = true)) :
    p.connectFailed t o r e =
      let (delay, p) := (p.recordAll t (p.willReopenNotes r e)).connectDelay t r e
      let p := p.note t (.waitingToOpen p.address r.attempt (UInt64.ofNat delay.millis))
      p.pause t delay (.connectPause o r) fun p => p.startConnect t o r.advance := by
  simp only [connectFailed, if_neg hf, willReopenNotes]
  split <;> rfl

theorem connectFailed_course {o : Opener} {r : RetryLoop} {e : ChannelError}
    (ht : p.At t (.connecting o r)) :
    CourseIn t p ((p.record (some t) (.callEnded (.failed e))).connectFailed t o r e) := by
  by_cases hf : e.recovery = .giveUp ∨ r.exhausted = true
  · simp only [connectFailed, if_pos hf]
    refine leaveConnect_course ht.lt fun s es l hx => ?_
    have hx' : p.Leaves t o (.error (.opening p.address r.attempts e)) s es l :=
      hx.congr rfl rfl rfl rfl rfl
    have h := (Turn.connectFailed hf hx').leadsIn ht nofun rfl
    simpa [goOn, record] using h
  · rw [connectFailed_again hf]
    obtain ⟨hg, hx⟩ := not_or.mp hf
    have hr : r.exhausted = false := Bool.not_eq_true _ ▸ hx
    cases he : e.recovery with
    | giveUp => exact absurd he hg
    | reconnect =>
      have h := (Turn.connectPaused he hr).leadsIn ht nofun rfl
      simp only [connectDelay, he]
      refine startConnect_course ht.lt ?_
      simpa [goOn, recordAll, record, note, setStage, willReopenNotes] using h
    | backOff =>
      obtain ⟨⟨u, us⟩, hu⟩ : ∃ d, p.draws.next = d := ⟨_, rfl⟩
      have h := (Turn.connectBackedOff he hr hu).leadsIn ht nofun rfl
      simp only [connectDelay, he, draw, recordAll, record, hu]
      refine startConnect_course ht.lt ?_
      simpa [goOn, record, note, setStage, willReopenNotes, backoffDelay] using h

theorem set_of_at (h : p.At t s) : p.tasks.set t s = p.tasks := by
  obtain ⟨hlt, hs⟩ := List.getElem?_eq_some_iff.mp h
  rw [← hs, List.set_getElem_self]

theorem aborted_leads {conn : ConnId} (ht : p.At t (.aborting conn)) :
    LeadsIn t p ((p.record (some t) (.callEnded .done)).aborted t) := by
  cases hc : p.slot.handle with
  | none =>
    have h := (Turn.abortedEmpty hc).leadsIn ht nofun rfl
    simpa [aborted, drain, stopped, publish, note, record, release, finish, setStage, goOn, hc]
      using h
  | some held =>
    simp only [aborted, drain, record, hc]
    exact (Turn.aborted hc).leadsIn ht nofun rfl

theorem engageHold_eq {c : Call} {e : ChannelError} :
    p.engageHold t c e =
      { p with hold := p.hold.engage.2 }.recordAll t (p.willRetryNotes c e) := by
  cases he : p.hold.engaged <;>
    simp [engageHold, HoldFlag.engage, willRetryNotes, recordAll, note, record, he]

theorem attemptFailed_course {c : Call} {conn : ConnId} {a : Arena} {d : Option Nat}
    {ending : Happening} {e : ChannelError} (ht : p.At t (.attempting c conn a d))
    (he : p.AttemptFails d ending e) :
    CourseIn t p ((p.record (some t) ending).attemptFailed t c e) := by
  simp only [attemptFailed]
  by_cases hf : e.recovery = .giveUp ∨ c.retry.exhausted = true
  · rw [if_pos hf]
    exact .leads ((Turn.failedForGood he hf).leadsIn ht nofun rfl)
  · rw [if_neg hf]
    obtain ⟨hg, hx⟩ := not_or.mp hf
    have hr : c.retry.exhausted = false := Bool.not_eq_true _ ▸ hx
    have hnotes : ((p.record (some t) ending).record (some t)
        (.attempted c.retry (.error e))).willRetryNotes c e = p.willRetryNotes c e := rfl
    simp only [retryCall, engageHold_eq, hnotes]
    cases hrec : e.recovery with
    | giveUp => exact absurd hrec hg
    | reconnect =>
      have h := (Turn.lostConnection he hrec hr).leadsIn ht nofun rfl
      refine beginConnect_course ht.lt ?_
      simpa [goOn, recordAll, record, lineUp, setStage] using h
    | backOff =>
      obtain ⟨⟨u, us⟩, hu⟩ : ∃ d, p.draws.next = d := ⟨_, rfl⟩
      have h := (Turn.backedOff he hrec hr hu).leadsIn ht nofun rfl
      simp only [draw, recordAll, record, hu]
      refine attemptAfter_course ht.lt ?_
      simpa [goOn, record, note, setStage, backoffDelay] using h

theorem teardownBegin_leads {conn : ConnId} {s : ConnState}
    (ht : p.At t (.teardownQueued conn s)) : LeadsIn t p (p.teardownBegin t conn s) := by
  by_cases hs : s = .opened
  · subst hs
    exact Turn.teardownAborts.leadsIn ht nofun rfl
  · simp only [teardownBegin, if_neg hs]
    exact (Turn.teardownCloses hs).leadsIn ht nofun rfl

theorem teardownAborted_leads {conn : ConnId} {ending : Happening}
    {result : Except ChannelError Unit} (ht : p.At t (.teardownAborting conn))
    (he : p.CloseEnds none ending result) :
    LeadsIn t p ((p.record (some t) ending).teardownAborted t conn result) := by
  have h := (Turn.teardownAborted he).leadsIn ht nofun rfl
  cases result with
  | ok u => exact h
  | error e => exact h

theorem teardownClosed_leads {conn : ConnId} {ending : Happening}
    {result : Except ChannelError Unit} (ht : p.At t (.teardownClosing conn))
    (he : p.CloseEnds none ending result) :
    LeadsIn t p ((p.record (some t) ending).teardownClosed t result) := by
  have h := (Turn.teardownClosed he).leadsIn ht nofun rfl
  cases result with
  | ok u => exact h
  | error e => cases e <;> exact h

theorem begin_course {job : Job} (ht : p.At t (.queued job)) :
    CourseIn t p (p.begin t job) := by
  have h := Turn.began.leadsIn ht nofun rfl
  cases job with
  | connect => exact beginConnect_course ht.lt h
  | close =>
    simp only [begin, beginClose]
    exact acquire_course ht.lt h fun _ ht hl => .leads (closeLocked_leads ht hl)
  | abort =>
    simp only [begin, beginAbort]
    exact acquire_course ht.lt h fun _ ht hl => .leads (abortLocked_leads ht hl)
  | invoke operation arenaSize request => exact beginAttempt_course ht.lt h

theorem proceed_course {goal : Goal} (ht : p.At t (.awaitingLock goal))
    (hl : p.lock.owner = some t) :
    CourseIn t p ((p.record (some t) (.lockTaken goal)).proceed t goal) := by
  cases goal with
  | connect opener => exact connectLocked_course ht hl
  | close => exact .leads (closeLocked_leads ht hl)
  | abort => exact .leads (abortLocked_leads ht hl)
  | attempt c => exact attemptLocked_course ht hl

theorem expire_course {d : Nat} (ht : p.At t s) (hs : s.limit = some d) (hd : d ≤ p.now) :
    CourseIn t p ((p.record (some t) .callGivenUp).expire t s) := by
  cases s with
  | replacing o r fresh stale d' =>
    simp only [expire]
    exact replaced_course ht (.givenUp hs hd)
  | draining stop conn faulted d' =>
    simp only [expire]
    exact .leads (drained_leads ht (.givenUp hs hd))
  | attempting c conn a d' =>
    simp only [expire]
    exact attemptFailed_course ht (.givenUp hs hd)
  | _ => simp [Stage.limit] at hs

theorem answer_course {r : Reply} (ht : p.At t s) (hr : s.takes r = true) :
    CourseIn t p (((p.record (some t) (.callEnded r)).answer t s r).getD p) := by
  cases s with
  | connecting o rl =>
    cases r with simp only [answer, Option.getD_some]
    | connected cs => exact connected_course ht
    | failed e => exact connectFailed_course ht
    | _ => exact nomatch hr
  | replacing o rl fresh stale d =>
    cases r with simp only [answer, Option.getD_some]
    | done => exact replaced_course ht .done
    | failed e => exact replaced_course ht .failed
    | _ => exact nomatch hr
  | draining stop conn faulted d =>
    cases r with simp only [answer, Option.getD_some]
    | done => exact .leads (drained_leads ht .done)
    | failed e => exact .leads (drained_leads ht .failed)
    | _ => exact nomatch hr
  | aborting conn =>
    cases r with simp only [answer, Option.getD_some]
    | done => exact .leads (aborted_leads ht)
    | failed e => exact .leads (Turn.abortRefused.leadsIn ht nofun rfl)
    | _ => exact nomatch hr
  | attempting c conn a d =>
    cases r with simp only [answer, Option.getD_some]
    | answered response => exact .leads (Turn.answered.leadsIn ht nofun rfl)
    | failed e => exact attemptFailed_course ht .failed
    | panicked => exact .leads (Turn.brokeDown.leadsIn ht nofun rfl)
    | _ => exact nomatch hr
  | teardownAborting conn =>
    cases r with simp only [answer, Option.getD_some]
    | done => exact .leads (teardownAborted_leads ht .done)
    | failed e => exact .leads (teardownAborted_leads ht .failed)
    | _ => exact nomatch hr
  | teardownClosing conn =>
    cases r with simp only [answer, Option.getD_some]
    | done => exact .leads (teardownClosed_leads ht .done)
    | failed e => exact .leads (teardownClosed_leads ht .failed)
    | _ => exact nomatch hr
  | _ => exact nomatch hr

/-- A task that is told what it waits for goes on. -/
theorem resumeAt_course {signal : Signal} (ht : p.At t s) (h : p.heeds t s signal = true) :
    CourseIn t p (p.resumeAt t s signal) := by
  cases signal with
  | turn =>
    cases s with
    | queued job => exact begin_course ht
    | awaitingLock goal =>
      have hl : p.lock.owner = some t := by simpa [heeds] using h
      simp only [resumeAt, if_pos hl]
      exact proceed_course ht hl
    | teardownQueued conn cs => exact .leads (teardownBegin_leads ht)
    | _ => cases h
  | elapsed =>
    cases s with
    | connectPause o r d =>
      have hd : d ≤ p.now := by simpa [heeds] using h
      simp only [resumeAt, if_pos hd]
      exact .leads ((Turn.connectAgain hd).leadsIn ht (by simp) rfl)
    | callPause c d =>
      have hd : d ≤ p.now := by simpa [heeds] using h
      simp only [resumeAt, if_pos hd]
      exact beginAttempt_course ht.lt ((Turn.paused hd).leadsIn ht (by simp) rfl)
    | _ => cases h
  | reply r => exact answer_course ht h
  | expired =>
    obtain ⟨d, hs, hd⟩ : ∃ d, s.limit = some d ∧ d ≤ p.now := by
      simpa [heeds, Option.any_eq_true] using h
    simp only [resumeAt, hs, if_pos hd]
    exact expire_course ht hs hd

/-- A task that is told anything else stays where it is. -/
theorem resumeAt_eq {signal : Signal} (h : p.heeds t s signal = false) :
    p.resumeAt t s signal = p := by
  cases signal with
  | turn =>
    cases s with
    | awaitingLock goal =>
      have hl : p.lock.owner ≠ some t := by simpa [heeds] using h
      simp only [resumeAt, if_neg hl]
    | queued | teardownQueued => cases h
    | _ => rfl
  | elapsed =>
    cases s with
    | connectPause o r d =>
      have hd : ¬ d ≤ p.now := by simpa [heeds] using h
      simp only [resumeAt, if_neg hd]
    | callPause c d =>
      have hd : ¬ d ≤ p.now := by simpa [heeds] using h
      simp only [resumeAt, if_neg hd]
    | _ => rfl
  | reply r =>
    have hnone : (p.record (some t) (.callEnded r)).answer t s r = none := by
      have hr : s.takes r = false := h
      simp only [answer]
      split <;> first | rfl | cases hr
    simp only [resumeAt, hnone, Option.getD_none]
  | expired =>
    simp only [resumeAt]
    split
    · rename_i d hs
      have hd : ¬ d ≤ p.now := by simpa [heeds, hs] using h
      rw [if_neg hd]
    · rfl

theorem resume_course {signal : Signal} :
    p.CourseIn t (p.resume t signal) ∨ p.resume t signal = p := by
  cases ht : p.tasks[t]? with
  | some s =>
    simp only [resume, ht]
    cases h : p.heeds t s signal with
    | true => exact .inl (resumeAt_course ht h)
    | false => exact .inr (resumeAt_eq h)
  | none => exact .inr (by simp only [resume, ht])

theorem allocate_course {n : Nat} : Course p (p.allocate t n) := by
  simp only [allocate]
  split
  · rename_i c conn a d ht
    split
    · exact .leads ((Turn.allocated ‹_›).leads ht nofun)
    · rename_i e ha
      have hae : a.alloc n = .error .outOfMemory := by
        simp only [Arena.alloc] at ha ⊢
        split at ha <;> simp_all
      have h := (Turn.arenaShort hae).leads ht nofun
      exact .leads (by simpa [goOn, note, record, set_of_at ht] using h)
  · exact .leads (.refl p)

theorem observe_leads (ho : p.owned = true) : Leads p p.observe.2 := by
  cases hl : p.lock.owner with
  | some o =>
    simp only [observe, hl]
    exact .of_aside (.observedBusy ho hl) (.of_events [_] (by simp [Happening.isAside]))
  | none =>
    cases hc : p.slot.handle with
    | none =>
      have h := Leads.of_aside (.observedEmpty ho hl hc)
        (.of_events [_] (by simp [Happening.isAside]))
      simpa [observe, hl, refresh, currentState, publish, record, publishedState, hc] using h
    | some conn =>
      have h := Leads.of_aside (.observed ho hl hc)
        (.of_events [_, _] (by simp [Happening.isAside]))
      simpa [observe, hl, refresh, currentState, publish, record, publishedState, query, hc] using h

theorem drop_dropping : p.Dropping p.drop := by
  cases hc : p.slot.handle with
  | none =>
    simp only [drop, hc]
    exact .empty hc
  | some conn =>
    by_cases hs : (p.query conn).isRunning = true
    · cases hr : p.running with
      | true =>
        have h := Dropping.running hc hs hr
        simp only [drop, hc]
        rw [if_neg (by simpa [query] using hs), if_pos (by simpa [record, setHandle] using hr)]
        exact h
      | false =>
        have h := Dropping.outside hc hs hr
        simp only [drop, hc]
        rw [if_neg (by simpa [query] using hs), if_neg (by simp [record, setHandle, hr])]
        exact h
    · have hq : p.query conn = .closed := by
        cases h : p.query conn <;> simp_all [ConnState.isRunning]
      have h := Dropping.closed hc hq
      have hq' : p.connections.getD conn .closed = .closed := hq
      simp only [drop, hc, query, hq', ConnState.isRunning, Bool.not_false, if_true]
      simpa [record, setHandle, letGo, hc] using h

theorem reap_reaping : p.Reaping p.reap := by
  simp only [reap]
  split
  · rename_i h
    obtain ⟨hu, hd⟩ : p.unreferenced = true ∧ p.dropped = false := by simpa using h
    exact .dropped hu hd drop_dropping
  · rename_i h
    refine .kept ?_
    by_cases hu : p.unreferenced = true
    · simp_all
    · exact .inl (Bool.not_eq_true _ ▸ hu)

theorem reap_leads : Leads p p.reap := by
  have h := reap_reaping (p := p)
  generalize p.reap = q at h ⊢
  cases h with
  | kept _ => exact .refl p
  | dropped hu hd h => exact .of_aside (.dropped hu hd h) h.aside

theorem apply_course (m : Move) : Course p (p.apply m) := by
  cases m with
  | submit job =>
    simp only [apply, submit]
    split
    · rename_i h
      obtain ⟨ho, hr⟩ : p.owned = true ∧ p.running = true := by simpa using h
      exact .leads ⟨.single (.submitted ho hr), [_], rfl, by simp [Happening.isInvoke]⟩
    · exact .leads (.refl p)
  | resume t signal =>
    obtain h | h := @resume_course p t signal
    · exact h.course
    · exact .leads (by simpa only [apply, h] using Leads.refl p)
  | allocate t n => exact allocate_course
  | drift conn s => exact .leads ⟨.single .drifted, [], rfl, by simp⟩
  | observe =>
    simp only [apply]
    split
    · exact .leads (observe_leads ‹_›)
    · exact .leads (.refl p)
  | tick ms nanos => exact .leads ⟨.single .ticked, [], rfl, by simp⟩
  | disown => exact .leads ⟨.single .disowned, [], rfl, by simp⟩
  | shutDown => exact .leads (.of_aside (.halted reap_reaping) (halted_aside reap_reaping))

theorem unreferenced_iff : p.unreferenced = true ↔
    p.owned = false ∧ p.tasks.any Stage.keepsProxy = false := by
  simp [unreferenced]

theorem owned_of_unreferenced (h : p.unreferenced = true) : p.owned = false :=
  (unreferenced_iff.mp h).1

theorem keepsProxy_of_unreferenced (h : p.unreferenced = true) (ht : p.At t s) :
    s.keepsProxy = false := by
  have ha : p.tasks.any Stage.keepsProxy = false := (unreferenced_iff.mp h).2
  rw [List.any_eq_false] at ha
  simpa using ha s ht.mem

theorem reap_of_keepsProxy (ht : p.At t s) (hs : s.keepsProxy = true) : p.reap = p := by
  have hu : p.unreferenced = false := by
    by_contra hu
    have hk := keepsProxy_of_unreferenced (by simpa using hu) ht
    simp [hs] at hk
  simp [reap, hu]

theorem step_resume {signal : Signal} (ht : p.At t s) :
    p.step (.resume t signal) = (p.resumeAt t s signal).reap := by
  simp only [At] at ht
  simp [step, apply, resume, ht]

/-- A proxy without references has been dropped. -/
def Reaped (p : Proxy) : Prop := p.unreferenced = true → p.dropped = true

theorem Reaped.reap (h : p.Reaped) : p.reap = p := by
  have hcond : (p.unreferenced && !p.dropped) = false := by
    cases hu : p.unreferenced with
    | false => rfl
    | true => simp [h hu]
  rw [Proxy.reap, hcond]
  rfl

theorem reaped_reap (p : Proxy) : p.reap.Reaped := by
  intro hu
  generalize hq : p.reap = q at hu ⊢
  have h : p.Reaping q := hq ▸ reap_reaping
  cases h with
  | kept h => simpa [hu] using h
  | dropped _ _ hd => exact hd.dropped

theorem reaped_step (p : Proxy) (m : Move) : (p.step m).Reaped := reaped_reap _

theorem Reaped.run (h : p.Reaped) (ms : List Move) : (p.run ms).Reaped := by
  induction ms generalizing p with
  | nil => exact h
  | cons m ms ih => exact ih (reaped_step p m)

/-- A move is a chain of stretches, and if it hands an attempt to the channel, it ends with that. -/
theorem step_course (m : Move) : Course p (p.step m) := by
  have h := apply_course (p := p) m
  rw [step]
  generalize p.apply m = q at h
  cases h with
  | leads h => exact .leads (h.trans reap_leads)
  | sends h hs =>
    rw [reap_of_keepsProxy hs.attempting rfl]
    exact .sends h hs

/-- A run is a chain of stretches. -/
theorem run_stretches (ms : List Move) : Stretches p (p.run ms) := by
  induction ms generalizing p with
  | nil => exact .refl
  | cons m ms ih => exact (step_course m).stretches.trans ih

/-- A proxy that nothing has happened to yet. -/
structure Fresh (p : Proxy) : Prop where
  valid : p.config.check = .ok ()
  slot : p.slot = ⟨none, .closed⟩
  published : p.published = ConnState.closed.toByte
  hold : p.hold = .released
  lock : p.lock = .free
  owned : p.owned = true
  dropped : p.dropped = false
  running : p.running = true
  connections : p.connections = []
  tasks : p.tasks = []
  history : p.history = []

section

variable {a : Address} {config : Config} {us : Draws} {clock : Clock}

theorem fresh_of_create (h : create a config us clock = .ok p) : p.Fresh := by
  simp only [create] at h
  split at h
  · exact nomatch h
  · rename_i hv
    cases h
    exact ⟨hv, rfl, rfl, rfl, rfl, rfl, rfl, rfl, rfl, rfl, rfl⟩

theorem config_of_create (h : create a config us clock = .ok p) : p.config = config := by
  simp only [create] at h
  split at h
  · exact nomatch h
  · cases h
    rfl

theorem clock_of_create (h : create a config us clock = .ok p) : p.clock = clock := by
  simp only [create] at h
  split at h
  · exact nomatch h
  · cases h
    rfl

theorem address_of_create (h : create a config us clock = .ok p) : p.address = a := by
  simp only [create] at h
  split at h
  · exact nomatch h
  · cases h
    rfl

end

theorem Fresh.reaped (h : p.Fresh) : p.Reaped := by
  intro hu
  simp [unreferenced, h.owned] at hu

/-- Stretches lead from a fresh proxy to this state. A move can come through several such states,
of which only the last is one that a run stops at. -/
def Attainable (p : Proxy) : Prop := ∃ start : Proxy, start.Fresh ∧ start.Stretches p

/-- What holds of a fresh proxy and is preserved by every stretch holds in every state that
stretches lead to; a stretch starts from such a state, too. -/
theorem Attainable.induct {I : Proxy → Prop} (h : p.Attainable) (fresh : ∀ q, q.Fresh → I q)
    (stretch : ∀ q q', q.Attainable → I q → q.Stretch q' → I q') : I p := by
  obtain ⟨start, hf, hs⟩ := h
  induction hs with
  | refl => exact fresh _ hf
  | tail hq hs ih => exact stretch _ _ ⟨start, hf, hq⟩ ih hs

theorem Attainable.stretch (h : p.Attainable) (hs : p.Stretch q) : q.Attainable := by
  obtain ⟨start, hf, h⟩ := h
  exact ⟨start, hf, h.tail hs⟩

theorem Attainable.stretches (h : p.Attainable) (hs : p.Stretches q) : q.Attainable := by
  obtain ⟨start, hf, hrun⟩ := h
  exact ⟨start, hf, hrun.trans hs⟩

/-- Some run of some validated proxy comes to this state. -/
def Reachable (p : Proxy) : Prop :=
  ∃ a config us clock start ms, create a config us clock = .ok start ∧ start.run ms = p

theorem Reachable.attainable (h : p.Reachable) : p.Attainable := by
  obtain ⟨a, config, us, clock, start, ms, hc, rfl⟩ := h
  exact ⟨start, fresh_of_create hc, run_stretches ms⟩

/-- What holds of a fresh proxy and is preserved by every stretch holds in every reachable state. -/
theorem Reachable.induct {I : Proxy → Prop} (h : p.Reachable) (fresh : ∀ q, q.Fresh → I q)
    (stretch : ∀ q q', I q → q.Stretch q' → I q') : I p :=
  h.attainable.induct fresh fun q q' _ => stretch q q'

theorem Reachable.run (h : p.Reachable) (ms : List Move) : (p.run ms).Reachable := by
  obtain ⟨a, config, us, clock, start, ms', hc, rfl⟩ := h
  exact ⟨a, config, us, clock, start, ms' ++ ms, hc, run_append ..⟩

/-- A proxy that works with the defaults, by a clock that can tell every moment. -/
def ofDefaults (a : Address) (us : Draws) : Proxy where
  config := .default
  address := a
  slot := ⟨none, .closed⟩
  published := ConnState.closed.toByte
  hold := .released
  lock := .free
  draws := us
  owned := true
  dropped := false
  running := true
  connections := []
  tasks := []
  clock := .unbounded
  now := 0
  uptime := 0
  history := []

theorem reachable_ofDefaults (a : Address) (us : Draws) (ms : List Move) :
    ((ofDefaults a us).run ms).Reachable :=
  ⟨a, .default, us, .unbounded, _, ms, rfl, rfl⟩

end ResilientProxy.Proxy
