import Mathlib.Data.List.Chain
import ResilientProxy.Proofs.Elapsed

/-!
# The retry loop of a call

A call is its reference loop: in whatever order tasks take turns and whatever the channel does, the
events in the task of a call are those of rounds that failed, each of them made up of an attempt
and of what its failure calls for, and of a last attempt that decides the outcome.
-/

namespace ResilientProxy

/-- The call before its attempt with index `j`. -/
def Call.nth (c : Call) (j : Nat) : Call :=
  { c with retry := { c.retry with attempt := .ofNat j } }

/-- Whether the retry loop of a call is told by a happening; what is left out are reports to the
log, and the lock on its way through an attempt. -/
def Happening.ofLoop : Happening → Bool
  | .noted _ | .lockTaken (.attempt _) | .lockReleased => false
  | _ => true

/-- Whether this may happen while a connection is opened. -/
def Happening.ofOpening : Happening → Bool
  | .queried .. | .letGo _ | .callStarted .connect | .callStarted (.close _) | .callEnded _
  | .callGivenUp | .drawn _ | .waiting _ => true
  | _ => false

section

variable (config : Config) (clock : Clock) (t : TaskId) (c : Call)

/-- An attempt is with the channel since `time`, on the connection found in the slot, with an arena
of its own that is as large as the call asks for and has nothing in it. -/
def sent (conn : ConnId) (time : Nat) : List Event :=
  [⟨time, some t, .callStarted (.invoke conn c.arenaSize 0)⟩,
    ⟨time, some t, .lookedUp (some conn)⟩]

/-- The events of an attempt, the latest first, and what it came to. -/
inductive Attempts : List Event → Except ChannelError String → Prop where
  /-- The slot was empty, so the channel was not called. -/
  | unconnected {time : Nat} : Attempts [⟨time, some t, .lookedUp none⟩] (.error .notOpen)
  | answered {time time' : Nat} {conn : ConnId} {response : String} :
    Attempts (⟨time', some t, .callEnded (.answered response)⟩ :: sent t c conn time)
      (.ok response)
  | failed {time time' : Nat} {conn : ConnId} {e : ChannelError} :
    Attempts (⟨time', some t, .callEnded (.failed e)⟩ :: sent t c conn time) (.error e)
  | givenUp {time time' : Nat} {conn : ConnId} {ms : UInt64} (hl : config.callTimeoutMs = some ms)
      (ht : clock.after time (.ofMillis ms) ≤ time') :
    Attempts (⟨time', some t, .callGivenUp⟩ :: sent t c conn time) (.error (.operationTimedOut ms))

/-- The call with attempt index `j` is opening the connection. -/
def Opens (j : Nat) (es : List Event) : Prop :=
  ∃ time mid, es = mid ++ [⟨time, some t, .lockTaken (.connect (.call (c.nth j)))⟩] ∧
    ∀ e ∈ mid, e.what.ofOpening = true

/-- What lies between an attempt with index `j` that failed with `e` and the next attempt. -/
inductive Between (j : Nat) (e : ChannelError) : List Event → Prop where
  | backedOff {time : Nat} {u : Binary64} (he : e.recovery = .backOff) :
    Between j e [⟨time, some t,
        .waiting ((Backoff.mk config.retryTimeSlot).delay (.ofNat j) u)⟩,
      ⟨time, some t, .drawn u⟩]
  | reopened {time : Nat} {os : List Event} (he : e.recovery = .reconnect)
      (ho : Opens t c j os) :
    Between j e (⟨time, some t, .openingEnded (.ok .opened)⟩ :: os)
  | alreadyOpen {time : Nat} {os : List Event} (he : e.recovery = .reconnect)
      (ho : Opens t c j os) :
    Between j e (⟨time, some t, .waiting config.reconnectWait⟩ ::
      ⟨time, some t, .openingEnded (.ok .alreadyOpen)⟩ :: os)

/-- The events of a call up to the end of `j` rounds. -/
inductive Rounds : Nat → List Event → Prop where
  | none {time : Nat} :
    Rounds 0 [⟨time, some t, .submitted (.invoke c.operation c.arenaSize c.request)⟩]
  | again {j time : Nat} {e : ChannelError} {es as bs : List Event} (h : Rounds j es)
      (ha : Attempts config clock t c as (.error e)) (hj : j < c.retry.maxRetries.toNat)
      (hb : Between config t c j e bs) :
    Rounds (j + 1) (bs ++ ⟨time, some t, .attempted (c.nth j).retry (.error e)⟩ :: (as ++ es))

/-- After `j` rounds there was an attempt that found the connection lost, and not the last one. -/
inductive Lost (j : Nat) : List Event → Prop where
  | mk {time : Nat} {e : ChannelError} {es as : List Event} (h : Rounds config clock t c j es)
      (ha : Attempts config clock t c as (.error e)) (hj : j < c.retry.maxRetries.toNat)
      (he : e.recovery = .reconnect) :
    Lost j (⟨time, some t, .attempted (c.nth j).retry (.error e)⟩ :: (as ++ es))

/-- The events of a call that has come to its outcome. -/
inductive Ends : Outcome → List Event → Prop where
  | succeeded {j time : Nat} {response : String} {es as : List Event}
      (h : Rounds config clock t c j es) (ha : Attempts config clock t c as (.ok response)) :
    Ends (.called (.ok response)) (⟨time, some t, .returned (.called (.ok response))⟩ ::
      ⟨time, some t, .attempted (c.nth j).retry (.ok response)⟩ :: (as ++ es))
  /-- The error tells what the machine's clock has counted since the start of the loop. -/
  | gaveUp {j time uptime : Nat} {e : ChannelError} {o : Outcome} {es as : List Event}
      (h : Rounds config clock t c j es) (ha : Attempts config clock t c as (.error e))
      (he : e.recovery = .giveUp ∨ j = c.retry.maxRetries.toNat)
      (ho : o = .called (.error (.call
        ⟨c.operation, .ofNat (j + 1), .between c.retry.started uptime, e⟩))) :
    Ends o (⟨time, some t, .returned o⟩ ::
      ⟨time, some t, .attempted (c.nth j).retry (.error e)⟩ :: (as ++ es))
  | notReopened {j time : Nat} {e : ConnectionError} {es os : List Event}
      (h : Lost config clock t c j es) (ho : Opens t c j os) :
    Ends (.called (.error (.connection e)))
      (⟨time, some t, .returned (.called (.error (.connection e)))⟩ ::
        ⟨time, some t, .openingEnded (.error e)⟩ :: (os ++ es))
  /-- The channel brought the task down. -/
  | brokeDown {j time time' : Nat} {conn : ConnId} {es : List Event}
      (h : Rounds config clock t c j es) :
    Ends .panicked (⟨time', some t, .returned .panicked⟩ ::
      ⟨time', some t, .callEnded .panicked⟩ :: (sent t c conn time ++ es))
  /-- The scratch memory of an attempt could not be reserved. -/
  | refused {j time : Nat} {conn : ConnId} {es : List Event} (h : Rounds config clock t c j es)
      (ha : Arena.largest < c.arenaSize) :
    Ends .panicked (⟨time, some t, .returned .panicked⟩ ::
      ⟨time, some t, .lookedUp (some conn)⟩ :: es)

/-- The reference loop: a call that has these events, the latest first, stands at this stage. -/
inductive Follows : Stage → List Event → Prop where
  | queued {es : List Event} (h : Rounds config clock t c 0 es) :
    Follows (.queued (.invoke c.operation c.arenaSize c.request)) es
  | ready {j : Nat} {es : List Event} (h : Rounds config clock t c j es) :
    Follows (.awaitingLock (.attempt (c.nth j))) es
  /-- The pause is over when the wait is that was told last. -/
  | pausing {j time : Nat} {d : Duration} {es : List Event}
      (h : Rounds config clock t c (j + 1) (⟨time, some t, .waiting d⟩ :: es)) :
    Follows (.callPause (c.nth j) (clock.after time d)) (⟨time, some t, .waiting d⟩ :: es)
  | attempting {j time : Nat} {conn : ConnId} {a : Arena} {es : List Event}
      (h : Rounds config clock t c j es) :
    Follows (.attempting (c.nth j) conn a (config.callTimeout.map (clock.after time)))
      (sent t c conn time ++ es)
  | reopening {j : Nat} {es : List Event} (h : Lost config clock t c j es) :
    Follows (.awaitingLock (.connect (.call (c.nth j)))) es
  | connecting {j : Nat} {r : RetryLoop} {es os : List Event} (h : Lost config clock t c j es)
      (ho : Opens t c j os) : Follows (.connecting (.call (c.nth j)) r) (os ++ es)
  | connectPause {j time : Nat} {d : Duration} {r : RetryLoop} {es os : List Event}
      (h : Lost config clock t c j es) (ho : Opens t c j (⟨time, some t, .waiting d⟩ :: os)) :
    Follows (.connectPause (.call (c.nth j)) r (clock.after time d))
      (⟨time, some t, .waiting d⟩ :: os ++ es)
  | replacing {j : Nat} {r : RetryLoop} {fresh stale : ConnId} {d : Option Nat}
      {es os : List Event} (h : Lost config clock t c j es) (ho : Opens t c j os) :
    Follows (.replacing (.call (c.nth j)) r fresh stale d) (os ++ es)
  | finished {o : Outcome} {es : List Event} (h : Ends config clock t c o es) :
    Follows (.finished o) es
  /-- The runtime ended before the call did. -/
  | vanished {s : Stage} {es : List Event} (h : Follows s es) (hs : s.isFinished = false) :
    Follows (.finished .vanished) es

end

namespace Call

variable {c : Call} {j : Nat}

theorem nth_zero {n : UInt32} {m : Nat} (h : c.retry = .start n m) : c.nth 0 = c := by
  simp only [nth, h]
  cases c
  simp_all [RetryLoop.start]

@[simp] theorem nth_advance : (c.nth j).advance = c.nth (j + 1) := by
  simp only [nth, advance, RetryLoop.advance_mk]

theorem attempts_nth : (c.nth j).retry.attempts = .ofNat (j + 1) := RetryLoop.attempts_mk

theorem failure_nth {uptime : Nat} {e : ChannelError} :
    (c.nth j).failure uptime e = .called (.error (.call
      ⟨c.operation, .ofNat (j + 1), .between c.retry.started uptime, e⟩)) := by
  rw [failure, attempts_nth]
  rfl

theorem exhausted_nth (h : j ≤ c.retry.maxRetries.toNat) :
    (c.nth j).retry.exhausted = true ↔ j = c.retry.maxRetries.toNat :=
  RetryLoop.exhausted_mk h

end Call

section

variable {config : Config} {clock : Clock} {t : TaskId} {c : Call} {j : Nat}
  {es os : List Event} {e : ChannelError}

theorem Rounds.le (h : Rounds config clock t c j es) : j ≤ c.retry.maxRetries.toNat := by
  cases h with
  | none => exact Nat.zero_le _
  | again _ _ hj => exact hj

theorem Rounds.lt (h : Rounds config clock t c j es) (hx : (c.nth j).retry.exhausted = false) :
    j < c.retry.maxRetries.toNat :=
  RetryLoop.lt_of_exhausted_mk h.le hx

/-- A lost connection that was opened again, or had been already, ends a round. -/
theorem Lost.round (h : Lost config clock t c j es) {bs : List Event}
    (hb : ∀ e : ChannelError, e.recovery = .reconnect → Between config t c j e bs) :
    Rounds config clock t c (j + 1) (bs ++ es) := by
  cases h with
  | mk h ha hj he => exact h.again ha hj (hb _ he)

end

/-- What task `t` tells of its loop when `es` happen in it at `time`. -/
def told (time : Nat) (t : TaskId) (es : List Happening) : List Event :=
  (es.filter Happening.ofLoop).map (⟨time, some t, ·⟩)

@[simp] theorem told_append (time : Nat) (t : TaskId) (es es' : List Happening) :
    told time t (es ++ es') = told time t es ++ told time t es' := by
  simp [told]

theorem told_of_noted {time : Nat} {t : TaskId} {es : List Happening} (h : Proxy.Noted es) :
    told time t es = [] := by
  rw [told, h.filter fun _ => rfl, List.map_nil]

/-- What is told when an opening has ended. -/
theorem told_leaving {time : Nat} {t : TaskId} {es rest : List Happening}
    {result : Except ConnectionError OpenOutcome} :
    told time t (es ++ .lockReleased :: .openingEnded result :: rest) =
      told time t es ++ ⟨time, some t, .openingEnded result⟩ :: told time t rest := by
  rw [told_append]
  rfl

section

variable {t : TaskId} {c : Call} {j time : Nat} {es : List Happening} {os : List Event}

theorem Opens.goOn (h : Opens t c j os)
    (hes : ∀ x ∈ es, x.ofOpening = true ∨ ∃ n, x = .noted n) :
    Opens t c j (told time t es ++ os) := by
  obtain ⟨time', mid, rfl, hmid⟩ := h
  refine ⟨time', told time t es ++ mid, (List.append_assoc ..).symm, fun e he => ?_⟩
  refine (List.mem_append.mp he).elim (fun he => ?_) (hmid e)
  obtain ⟨x, hx, rfl⟩ := List.mem_map.mp he
  obtain ⟨hx, hloop⟩ := List.mem_filter.mp hx
  obtain hopening | ⟨n, rfl⟩ := hes x hx
  · exact hopening
  · exact nomatch hloop

/-- An opening that a call waits for goes on to a pause. -/
theorem Lost.pauses {config : Config} {clock : Clock} {d : Duration} {r : RetryLoop}
    {old : List Event} (h : Lost config clock t c j old) (ho : Opens t c j os)
    (hes : ∀ x ∈ es, x.ofOpening = true ∨ ∃ n, x = .noted n) :
    Follows config clock t c (.connectPause (.call (c.nth j)) r (clock.after time d))
      (told time t (.waiting d :: es) ++ (os ++ old)) := by
  have hos : Opens t c j (told time t (.waiting d :: es) ++ os) :=
    ho.goOn (by simpa [Happening.ofOpening] using hes)
  rw [← List.append_assoc]
  exact .connectPause h hos

/-- An opening begins with the lock. -/
theorem opens_told (es : List Happening) (hes : ∀ x ∈ es, x.ofOpening = true) :
    Opens t c j (told time t (es ++ [.lockTaken (.connect (.call (c.nth j)))])) := by
  have hbegun : Opens t c j (told time t [.lockTaken (.connect (.call (c.nth j)))]) :=
    ⟨time, [], rfl, by simp⟩
  rw [told_append]
  exact hbegun.goOn fun x hx => .inl (hes x hx)

end

namespace Proxy

variable {p q : Proxy} {t : TaskId} {s s' : Stage} {es : List Happening} {old : List Event}
  {c : Call} {j : Nat}

theorem AttemptFails.attempts {time : Nat} {ending : Happening} {e : ChannelError}
    (h : p.AttemptFails (p.config.callTimeout.map (p.clock.after time)) ending e)
    (conn : ConnId) :
    Attempts p.config p.clock t c (told p.now t [ending] ++ sent t c conn time) (.error e) := by
  cases h with
  | failed => exact .failed
  | @givenUp m hd hm =>
    cases hl : p.config.callTimeoutMs with
    | none => simp [Config.callTimeout, hl] at hd
    | some ms =>
      have hlimit : p.config.callTimeout = some (.ofMillis ms) := by simp [Config.callTimeout, hl]
      have herror : timedOut p.config.callTimeout = .operationTimedOut ms := by
        simp [timedOut, hlimit]
      rw [herror]
      refine .givenUp hl ?_
      rw [hlimit] at hd
      obtain rfl : p.clock.after time (.ofMillis ms) = m := Option.some.inj hd
      exact hm

theorem CloseEnds.ofOpening {d : Option Nat} {ending : Happening} {r : Except ChannelError Unit}
    (h : p.CloseEnds d ending r) : ending.ofOpening = true := by
  cases h <;> rfl

/-- What comes of a call that leaves an opening. -/
theorem Leaves.follows {result : Except ConnectionError OpenOutcome} {l : Lock} {os : List Event}
    (h : p.Leaves t (.call (c.nth j)) result s es l) (hl : Lost p.config p.clock t c j old)
    (ho : Opens t c j os) :
    Follows p.config p.clock t c s
      (told p.now t es ++ ⟨p.now, some t, .openingEnded result⟩ :: (os ++ old)) := by
  cases h with
  | failed => exact .finished (.notReopened hl ho)
  | reopened =>
    have hround : Rounds p.config p.clock t c (j + 1)
        (⟨p.now, some t, .openingEnded (.ok .opened)⟩ :: os ++ old) :=
      hl.round fun e he => .reopened he ho
    rw [Call.nth_advance]
    exact .ready hround
  | alreadyOpen =>
    have hround : Rounds p.config p.clock t c (j + 1)
        (⟨p.now, some t, .waiting p.config.reconnectWait⟩ ::
          ⟨p.now, some t, .openingEnded (.ok .alreadyOpen)⟩ :: os ++ old) :=
      hl.round fun e he => .alreadyOpen he ho
    exact .pausing hround

/-- Each turn of a call is one its reference loop takes. -/
theorem Turn.follows (hturn : p.Turn t s s' es q) (h : Follows p.config p.clock t c s old)
    {m : Nat} (hc : c.retry = .start p.config.maxCallRetries m)
    (hm : ∀ job, s = .queued job → m = p.uptime) :
    Follows p.config p.clock t c s' (told p.now t es ++ old) := by
  cases hturn with
  | began =>
    cases h with
    | queued h =>
      have hstart : (⟨c.operation, c.arenaSize, c.request,
          .start p.config.maxCallRetries p.uptime⟩ : Call) = c.nth 0 := by
        rw [Call.nth_zero hc, ← hm _ rfl, ← hc]
      simp only [Job.goal, hstart]
      exact .ready h
  | @foundOpen _ conn _ es _ hl hconn hq hx =>
    cases h with
    | reopening h =>
      rw [told_leaving, List.append_assoc]
      exact hx.follows h
        (opens_told [.queried conn .opened] (by simp [Happening.ofOpening]))
  | @foundFaulted _ conn =>
    cases h with
    | reopening h =>
      exact .connecting h (opens_told [.callStarted .connect, .queried conn .faulted]
        (by simp [Happening.ofOpening]))
  | @foundClosed _ conn =>
    cases h with
    | reopening h =>
      exact .connecting h
        (opens_told [.callStarted .connect, .letGo conn, .queried conn .closed]
          (by simp [Happening.ofOpening]))
  | foundEmpty =>
    cases h with
    | reopening h =>
      exact .connecting h
        (opens_told [.callStarted .connect] (by simp [Happening.ofOpening]))
  | connected _ hx =>
    cases h with
    | connecting h ho =>
      rw [told_leaving, told_append, told_of_noted (p.noted_installNotes _), List.nil_append,
        List.append_assoc, List.cons_append, ← List.append_assoc (told _ _ [_])]
      exact hx.follows h (ho.goOn (by simp [Happening.ofOpening]))
  | connectedOver =>
    cases h with
    | connecting h ho =>
      rw [← List.append_assoc]
      exact .replacing h (ho.goOn (by simp [Happening.ofOpening]))
  | replaced he hn hx =>
    cases h with
    | replacing h ho =>
      rw [told_leaving, told_append, told_of_noted (p.noted_installNotes _), List.nil_append,
        told_append, told_of_noted (p.noted_staleNotes _), List.nil_append, told_append,
        told_of_noted hn.noted, List.nil_append, List.append_assoc, List.cons_append,
        ← List.append_assoc (told _ _ [_])]
      exact hx.follows h (ho.goOn (by simp [he.ofOpening]))
  | connectFailed hf hx =>
    cases h with
    | connecting h ho =>
      rw [told_leaving, List.append_assoc, List.cons_append, ← List.append_assoc (told _ _ [_])]
      exact hx.follows h (ho.goOn (by simp [Happening.ofOpening]))
  | @connectPaused _ r e | @connectBackedOff _ r e =>
    cases h with
    | connecting h ho =>
      have hn := p.noted_willReopenNotes r e
      refine h.pauses ho ?_
      simpa [Happening.ofOpening, or_imp, forall_and] using fun x hx => .inr (hn x hx)
  | connectAgain =>
    cases h with
    | connectPause h ho =>
      rw [← List.append_assoc]
      exact .connecting h (ho.goOn (by simp [Happening.ofOpening]))
  | attemptedEmpty =>
    cases h with
    | ready h => exact .finished (.gaveUp h .unconnected (.inl rfl) Call.failure_nth)
  | arenaRefused hl hconn ha =>
    cases h with
    | ready h => exact .finished (.refused h ha)
  | attemptSent =>
    cases h with
    | ready h => exact .attempting h
  | allocated | arenaShort =>
    cases h with
    | attempting h => exact .attempting h
  | @answered _ conn _ _ response =>
    cases h with
    | @attempting _ time _ _ _ h =>
      have ha : Attempts p.config p.clock t c
          (⟨p.now, some t, .callEnded (.answered response)⟩ :: sent t c conn time)
          (.ok response) := .answered
      have hends := @Ends.succeeded _ _ _ _ _ p.now _ _ _ h ha
      exact .finished hends
  | @failedForGood _ conn _ _ _ _ he hf =>
    cases h with
    | attempting h =>
      have hlast := hf.imp_right (Call.exhausted_nth h.le).mp
      have hends := @Ends.gaveUp _ _ _ _ _ p.now p.uptime _ _ _ _ h (he.attempts conn) hlast
        Call.failure_nth
      rw [List.append_assoc] at hends
      exact .finished hends
  | @lostConnection _ conn _ _ _ _ he hr hx =>
    cases h with
    | attempting h =>
      have hlost := @Lost.mk _ _ _ _ _ p.now _ _ _ h (he.attempts conn) (h.lt hx) hr
      rw [told_append, told_of_noted (p.noted_willRetryNotes _ _), List.nil_append]
      rw [List.append_assoc] at hlost
      exact .reopening hlost
  | @backedOff _ conn _ _ ending e u us he hr hx hu =>
    cases h with
    | @attempting j _ _ _ _ h =>
      have hround := @Rounds.again _ _ _ _ _ p.now _ _ _ _ h (he.attempts conn) (h.lt hx)
        (@Between.backedOff _ _ _ _ _ p.now u hr)
      have htold : told p.now t (.waiting (p.backoffDelay (c.nth j).retry.attempt u) ::
          .noted (.backingOff (c.nth j).operation (c.nth j).retry.attempt
            (UInt64.ofNat (p.backoffDelay (c.nth j).retry.attempt u).millis)) ::
          .drawn u :: (p.willRetryNotes (c.nth j) e ++
            [.attempted (c.nth j).retry (.error e), ending])) =
          ⟨p.now, some t, .waiting (p.backoffDelay (c.nth j).retry.attempt u)⟩ ::
            ⟨p.now, some t, .drawn u⟩ :: told p.now t (p.willRetryNotes (c.nth j) e ++
              [.attempted (c.nth j).retry (.error e), ending]) := rfl
      rw [htold, told_append, told_of_noted (p.noted_willRetryNotes _ _), List.nil_append]
      rw [List.append_assoc] at hround
      exact .pausing hround
  | brokeDown =>
    cases h with
    | attempting h => exact .finished (.brokeDown h)
  | paused =>
    cases h with
    | pausing h =>
      rw [Call.nth_advance]
      exact .ready h
  | @closeStarted stop | @stoppedClosed stop | @stoppedEmpty stop => cases stop <;> cases h
  | _ => cases h

/-- What task `t` has told of its loop so far, the latest first. -/
def loopEvents (p : Proxy) (t : TaskId) : List Event :=
  p.history.filter fun e => e.task == some t && e.what.ofLoop

theorem loopEvents_eq : p.loopEvents t = (p.eventsOf t).filter (·.what.ofLoop) := by
  rw [loopEvents, eventsOf, List.filter_filter]
  simp only [Bool.and_comm]

/-- What holds of every task, of where it stands and of what it has told is preserved by all
stretches: it holds at the start of every task, is preserved by its turns, and by the passing of
time, and survives the end of the runtime. -/
structure Preserved (I : Config → Clock → Nat → TaskId → Stage → List Event → Prop) : Prop where
  queued : ∀ config clock now t job,
    I config clock now t (.queued job) [⟨now, some t, .submitted job⟩]
  teardown : ∀ config clock now t conn s, I config clock now t (.teardownQueued conn s) []
  turn : ∀ (p q : Proxy) t s s' es old, I p.config p.clock p.now t s old → p.Turn t s s' es q →
    I p.config p.clock p.now t s' (told p.now t es ++ old)
  later : ∀ config clock now now' t s old, now ≤ now' → I config clock now t s old →
    I config clock now' t s old
  vanished : ∀ config clock now t s old, s.isFinished = false → I config clock now t s old →
    I config clock now t (.finished .vanished) old

section

variable {I : Config → Clock → Nat → TaskId → Stage → List Event → Prop}

/-- What is left out of what a task tells makes no difference to what is preserved. -/
theorem Preserved.kept (h : Preserved I) :
    Kept fun config clock now t s es => I config clock now t s (es.filter (·.what.ofLoop)) where
  queued := h.queued
  teardown := h.teardown
  turn p q t s s' es old hI hturn := by
    rw [List.filter_append, List.filter_map]
    exact h.turn _ _ _ _ _ _ _ hI hturn
  later _ _ _ _ _ _ _ := h.later _ _ _ _ _ _ _
  vanished _ _ _ _ _ _ := h.vanished _ _ _ _ _ _

/-- What is preserved holds of all tasks in every state that stretches lead to. -/
theorem Attainable.tasks_of_preserved (h : p.Attainable) (hI : Preserved I) (t : TaskId) (s : Stage)
    (ht : p.At t s) : I p.config p.clock p.now t s (p.loopEvents t) :=
  loopEvents_eq ▸ h.tasks_of_kept hI.kept t s ht

theorem Reachable.tasks_of_preserved (h : p.Reachable) (hI : Preserved I) (t : TaskId) (s : Stage)
    (ht : p.At t s) : I p.config p.clock p.now t s (p.loopEvents t) :=
  h.attainable.tasks_of_preserved hI t s ht

end

theorem Leaves.not_submitted {o : Opener} {result : Except ConnectionError OpenOutcome} {l : Lock}
    (h : p.Leaves t o result s es l) (job : Job) : .submitted job ∉ es := by
  cases h <;> simp

/-- Nothing is submitted in a turn. -/
theorem Turn.not_submitted (h : p.Turn t s s' es q) (job : Job) : .submitted job ∉ es := by
  have hnote : ∀ {ns : List Happening}, Noted ns → .submitted job ∉ ns := fun hn =>
    hn.not_mem nofun
  cases h with
  | foundOpen _ _ _ hx | connectFailed _ hx => simp [hx.not_submitted]
  | connected _ hx => simp [hx.not_submitted, hnote (p.noted_installNotes _)]
  | replaced he hn hx =>
    cases he <;> simp [hx.not_submitted, hnote (p.noted_installNotes _),
      hnote (p.noted_staleNotes _), hnote hn.noted]
  | connectPaused | connectBackedOff => simp [hnote (p.noted_willReopenNotes _ _)]
  | drained he hn => cases he <;> simp [hnote (p.noted_stopNotes _ _), hnote hn.noted]
  | failedForGood he => cases he <;> simp
  | lostConnection he | backedOff he => cases he <;> simp [hnote (p.noted_willRetryNotes _ _)]
  | teardownAborted he => cases he <;> simp [hnote (p.noted_teardownAbortNotes _)]
  | teardownClosed he => cases he <;> simp
  | _ => simp

/-- What a task was submitted for is told before all its turns. -/
theorem Turn.submitted_mem (h : p.Turn t s s' es q) {now time : Nat} {old : List Event} {job : Job}
    (hm : ⟨time, some t, .submitted job⟩ ∈ told now t es ++ old) :
    ⟨time, some t, .submitted job⟩ ∈ old := by
  refine (List.mem_append.mp hm).resolve_left fun hm => ?_
  obtain ⟨x, hx, heq⟩ := List.mem_map.mp hm
  obtain rfl : x = .submitted job := congrArg Event.what heq
  exact h.not_submitted _ (List.mem_filter.mp hx).1

/-- A task that was submitted as a call follows the reference loop. -/
def FollowsIfCall (config : Config) (clock : Clock) (_ : Nat) (t : TaskId) (s : Stage)
    (es : List Event) : Prop :=
  ∀ time operation arenaSize request,
    ⟨time, some t, .submitted (.invoke operation arenaSize request)⟩ ∈ es → ∃ started,
      Follows config clock t
        ⟨operation, arenaSize, request, .start config.maxCallRetries started⟩ s es

/-- The loop of a call that has not begun may start at any moment. -/
theorem restart_follows {config : Config} {clock : Clock} {operation request : String}
    {arenaSize : Nat} {n : UInt32} {m m' : Nat} {job : Job} {es : List Event}
    (h : Follows config clock t ⟨operation, arenaSize, request, .start n m⟩ (.queued job) es) :
    Follows config clock t ⟨operation, arenaSize, request, .start n m'⟩ (.queued job) es := by
  cases h with
  | queued h => cases h with
    | none => exact .queued .none

theorem preserved_followsIfCall : Preserved FollowsIfCall where
  queued config clock now t job time operation arenaSize request hm := by
    obtain ⟨rfl, rfl⟩ : time = now ∧ .invoke operation arenaSize request = job := by
      simpa using hm
    exact ⟨0, .queued .none⟩
  teardown _ _ _ _ _ _ _ _ _ _ hm := nomatch hm
  turn p q t s s' es old h hturn time operation arenaSize request hm := by
    obtain ⟨m, hfollows⟩ := h time operation arenaSize request (hturn.submitted_mem hm)
    by_cases hs : ∃ job, s = .queued job
    · obtain ⟨job, rfl⟩ := hs
      exact ⟨p.uptime, hturn.follows (restart_follows hfollows) rfl fun _ _ => rfl⟩
    · exact ⟨m, hturn.follows hfollows rfl fun job heq => absurd ⟨job, heq⟩ hs⟩
  later _ _ _ _ _ _ _ _ h := h
  vanished _ _ _ _ _ _ hs h time operation arenaSize request hm :=
    (h time operation arenaSize request hm).imp fun _ hfollows => .vanished hfollows hs

/-- Every wait lasts: what comes next, the latest first, comes no sooner than its end. -/
def WaitsOut (clock : Clock) (es : List Event) : Prop :=
  es.IsChain fun x w => ∀ d, w.what = .waiting d → clock.after w.time d ≤ x.time

/-- The moment at which a pause is over. -/
def pauseEnd : Stage → Option Nat
  | .connectPause _ _ m | .callPause _ m => some m
  | _ => none

/-- A task at this stage has waited out all its waits but the last, which it is at the end of, or
in, or which the runtime cut off. A pause is over exactly when the wait is that was told last. -/
structure OnTime (_ : Config) (clock : Clock) (now : Nat) (t : TaskId) (s : Stage)
    (es : List Event) : Prop where
  waits : WaitsOut clock es
  last : ∀ w ∈ es.head?, ∀ d, w.what = .waiting d →
    pauseEnd s = some (clock.after w.time d) ∨
      pauseEnd s = none ∧ (clock.after w.time d ≤ now ∨ s.isFinished = true)
  pause : ∀ m, pauseEnd s = some m →
    ∃ time d, es.head? = some ⟨time, some t, .waiting d⟩ ∧ m = clock.after time d

/-- A turn has a wait at its end, if it leads to a pause. -/
inductive WaitsLast (p : Proxy) (s : Stage) : List Happening → Prop where
  | never {es : List Happening} (h : ∀ d, .waiting d ∉ es) (hs : pauseEnd s = none) :
    WaitsLast p s es
  | last {d : Duration} {es : List Happening} (h : ∀ d, .waiting d ∉ es)
      (hs : pauseEnd s = some (p.clock.after p.now d)) : WaitsLast p s (.waiting d :: es)

theorem Leaves.waitsLast {o : Opener} {result : Except ConnectionError OpenOutcome} {l : Lock}
    {rest : List Happening} (h : p.Leaves t o result s es l) (hrest : ∀ d, .waiting d ∉ rest) :
    p.WaitsLast s (es ++ rest) := by
  cases h with
  | owner | failed | reopened => exact .never (by simp [hrest]) rfl
  | alreadyOpen => exact .last (by simpa using hrest) rfl

theorem Turn.waitsLast (h : p.Turn t s s' es q) : p.WaitsLast s' es := by
  have hnote : ∀ {ns : List Happening}, Noted ns → ∀ d, .waiting d ∉ ns := fun hn d =>
    hn.not_mem nofun
  cases h with
  | foundOpen _ _ _ hx | connectFailed _ hx => exact hx.waitsLast (by simp)
  | connected _ hx => exact hx.waitsLast (by simp [hnote (p.noted_installNotes _)])
  | replaced he hn hx =>
    refine hx.waitsLast ?_
    cases he <;> simp [hnote (p.noted_installNotes _), hnote (p.noted_staleNotes _),
      hnote hn.noted]
  | connectPaused | connectBackedOff =>
    exact .last (by simp [hnote (p.noted_willReopenNotes _ _)]) rfl
  | drained he hn =>
    refine .never ?_ rfl
    cases he <;> simp [hnote (p.noted_stopNotes _ _), hnote hn.noted]
  | failedForGood he =>
    refine .never ?_ rfl
    cases he <;> simp
  | lostConnection he =>
    refine .never ?_ rfl
    cases he <;> simp [hnote (p.noted_willRetryNotes _ _)]
  | backedOff he =>
    refine .last ?_ rfl
    cases he <;> simp [hnote (p.noted_willRetryNotes _ _)]
  | teardownAborted he =>
    refine .never ?_ rfl
    cases he <;> simp [hnote (p.noted_teardownAbortNotes _)]
  | teardownClosed he =>
    refine .never ?_ rfl
    cases he <;> simp
  | _ => exact .never (by simp) rfl

/-- A task goes on only when its pause is over. -/
theorem Turn.pauseEnd_le (h : p.Turn t s s' es q) {m : Nat} (hs : pauseEnd s = some m) :
    m ≤ p.now := by
  cases h with
  | connectAgain hd | paused hd =>
    obtain rfl := Option.some.inj hs
    exact hd
  | _ => exact nomatch hs

theorem WaitsOut.append {clock : Clock} {new : List Event} (h : WaitsOut clock old)
    (hnew : ∀ e ∈ new.tail, ∀ d, e.what ≠ .waiting d)
    (hlink : ∀ x ∈ new, ∀ w ∈ old.head?, ∀ d, w.what = .waiting d →
      clock.after w.time d ≤ x.time) : WaitsOut clock (new ++ old) := by
  induction new with
  | nil => exact h
  | cons x new ih =>
    have hrest : WaitsOut clock (new ++ old) :=
      ih (fun e he => hnew e (List.mem_of_mem_tail he))
        fun y hy => hlink y (List.mem_cons_of_mem _ hy)
    refine List.isChain_cons.mpr ⟨fun w hw d hd => ?_, hrest⟩
    cases new with
    | nil => exact hlink x (List.mem_cons_self ..) w hw d hd
    | cons y new =>
      obtain rfl : y = w := by simpa using hw
      exact absurd hd (hnew y (List.mem_cons_self ..) d)

theorem not_waiting_of_told (time : Nat) (h : ∀ d, .waiting d ∉ es) :
    ∀ e ∈ told time t es, ∀ d, e.what ≠ .waiting d := by
  intro e he d hd
  obtain ⟨x, hx, rfl⟩ := List.mem_map.mp he
  have hxd : x = .waiting d := hd
  exact h d (hxd ▸ (List.mem_filter.mp hx).1)

theorem OnTime.turn (h : OnTime p.config p.clock p.now t s old) (hturn : p.Turn t s s' es q) :
    OnTime p.config p.clock p.now t s' (told p.now t es ++ old) := by
  have hpast : ∀ w ∈ old.head?, ∀ d, w.what = .waiting d → p.clock.after w.time d ≤ p.now := by
    intro w hw d hd
    obtain hend | ⟨-, hle | hfin⟩ := h.last w hw d hd
    · exact hturn.pauseEnd_le hend
    · exact hle
    · simp [hturn.unfinished] at hfin
  have hlink : ∀ x ∈ told p.now t es, ∀ w ∈ old.head?, ∀ d, w.what = .waiting d →
      p.clock.after w.time d ≤ x.time := by
    intro x hx
    obtain ⟨y, -, rfl⟩ := List.mem_map.mp hx
    exact hpast
  cases hturn.waitsLast with
  | never hno hs =>
    have hnone := not_waiting_of_told (t := t) p.now hno
    refine ⟨h.waits.append (fun e he => hnone e (List.mem_of_mem_tail he)) hlink,
      fun w hw d hd => .inr ⟨hs, .inl ?_⟩, fun m hm => by simp [hs] at hm⟩
    cases htold : told p.now t es with
    | nil =>
      rw [htold] at hw
      exact hpast w hw d hd
    | cons x new =>
      rw [htold] at hw
      obtain rfl : x = w := by simpa using hw
      exact absurd hd (hnone x (by simp [htold]) d)
  | @last d' es hno hs =>
    have hnone := not_waiting_of_told (t := t) p.now hno
    refine ⟨h.waits.append hnone hlink, fun w hw d hd => .inl ?_,
      fun m hm => ⟨p.now, d', rfl, Option.some.inj (hm.symm.trans hs)⟩⟩
    obtain rfl : ⟨p.now, some t, .waiting d'⟩ = w := Option.some.inj hw
    obtain rfl : d' = d := by simpa using hd
    exact hs

theorem preserved_onTime : Preserved OnTime where
  queued _ _ _ _ _ := ⟨.singleton _, by simp, by simp [pauseEnd]⟩
  teardown _ _ _ _ _ _ := ⟨.nil, by simp, by simp [pauseEnd]⟩
  turn _ _ _ _ _ _ _ h hturn := h.turn hturn
  later _ _ _ _ _ _ _ hn h := ⟨h.waits, fun w hw d hd =>
    (h.last w hw d hd).imp_right fun hlast => hlast.imp_right (·.imp_left (Nat.le_trans · hn)),
    h.pause⟩
  vanished _ _ _ _ _ _ _ h := ⟨h.waits, fun _ _ _ _ => .inr ⟨rfl, .inr rfl⟩, by simp [pauseEnd]⟩

/-- The jitter draw with index `n` of a supply. -/
def nthDraw (us : Draws) (n : Nat) : Binary64 := us.getD n (.finite (1 / 2))

theorem next_drop (us : Draws) (n : Nat) :
    Draws.next (us.drop n) = (nthDraw us n, us.drop (n + 1)) := by
  cases h : us.drop n with
  | nil =>
    have hlen : us.length ≤ n := List.drop_eq_nil_iff.mp h
    have hnil : us.drop (n + 1) = [] := List.drop_eq_nil_iff.mpr (by omega)
    simp [Draws.next, nthDraw, hnil, hlen]
  | cons u rest =>
    have hu : us[n]? = some u := by rw [← List.head?_drop, h, List.head?_cons]
    have hrest : us.drop (n + 1) = rest := by rw [← List.tail_drop, h, List.tail_cons]
    simp [Draws.next, nthDraw, hu, hrest]

def drawnUnit : Happening → Option Binary64
  | .drawn u => some u
  | _ => none

/-- The jitter draws taken so far, the latest first. -/
def drawn (p : Proxy) : List Binary64 := p.happenings.filterMap drawnUnit

/-- The draws taken so far are those the supply began with, in their order. -/
structure Supplied (us : Draws) (p : Proxy) : Prop where
  drawn : p.drawn.reverse = (List.range p.drawn.length).map (nthDraw us)
  rest : p.draws = us.drop p.drawn.length

theorem Leaves.drawn {o : Opener} {result : Except ConnectionError OpenOutcome} {l : Lock}
    (h : p.Leaves t o result s es l) : es.filterMap drawnUnit = [] := by
  cases h <;> rfl

/-- A turn takes one draw, or none. -/
theorem Turn.drawn (h : p.Turn t s s' es q) :
    (es.filterMap drawnUnit = [] ∧ q.draws = p.draws) ∨
      ∃ u, es.filterMap drawnUnit = [u] ∧ p.draws.next = (u, q.draws) := by
  have hnote : ∀ {ns : List Happening}, Noted ns → ns.filterMap drawnUnit = [] := fun hn =>
    hn.filterMap fun _ => rfl
  cases h with
  | foundOpen _ _ _ hx | connectFailed _ hx =>
    exact .inl ⟨by rw [List.filterMap_append, hx.drawn]; rfl, rfl⟩
  | connected _ hx =>
    refine .inl ⟨?_, rfl⟩
    simp [List.filterMap_cons, drawnUnit, hx.drawn, hnote (p.noted_installNotes _)]
  | replaced he hn hx =>
    refine .inl ⟨?_, rfl⟩
    cases he <;> simp [List.filterMap_cons, drawnUnit, hx.drawn, hnote (p.noted_installNotes _),
      hnote (p.noted_staleNotes _), hnote hn.noted]
  | connectPaused =>
    exact .inl ⟨by simp [List.filterMap_cons, drawnUnit, hnote (p.noted_willReopenNotes _ _)], rfl⟩
  | connectBackedOff _ _ hu =>
    refine .inr ⟨_, ?_, hu⟩
    simp [List.filterMap_cons, drawnUnit, hnote (p.noted_willReopenNotes _ _)]
  | drained he hn =>
    refine .inl ⟨?_, rfl⟩
    cases he <;> simp [List.filterMap_cons, drawnUnit, hnote (p.noted_stopNotes _ _),
      hnote hn.noted]
  | failedForGood he | teardownClosed he => exact .inl ⟨by cases he <;> rfl, rfl⟩
  | lostConnection he =>
    refine .inl ⟨?_, rfl⟩
    cases he <;> simp [drawnUnit, hnote (p.noted_willRetryNotes _ _)]
  | backedOff he _ _ hu =>
    refine .inr ⟨_, ?_, hu⟩
    cases he <;> simp [List.filterMap_cons, drawnUnit, hnote (p.noted_willRetryNotes _ _)]
  | teardownAborted he =>
    refine .inl ⟨?_, rfl⟩
    cases he <;> simp [List.filterMap_cons, drawnUnit, hnote (p.noted_teardownAbortNotes _)]
  | _ => exact .inl ⟨rfl, rfl⟩

theorem Supplied.of_append {us : Draws} (h : p.Supplied us) (new : List Event)
    (hh : q.history = new ++ p.history) (hnew : ∀ e ∈ new, drawnUnit e.what = none)
    (hd : q.draws = p.draws) : q.Supplied us := by
  have hnone : (new.map (·.what)).filterMap drawnUnit = [] := by
    rw [List.filterMap_map]
    exact List.filterMap_eq_nil_iff.mpr hnew
  have hdrawn : q.drawn = p.drawn := by
    rw [Proxy.drawn, happenings, hh, List.map_append, List.filterMap_append, hnone, List.nil_append]
    rfl
  exact ⟨by rw [hdrawn, h.drawn], by rw [hd, hdrawn, h.rest]⟩

theorem Supplied.turn {us : Draws} (h : p.Supplied us) (hturn : p.Turn t s s' es q) :
    (q.goOn t s' es).Supplied us := by
  have hdrawn : (q.goOn t s' es).drawn = es.filterMap drawnUnit ++ p.drawn := by
    rw [Proxy.drawn, hturn.happenings, List.filterMap_append, Proxy.drawn]
  obtain ⟨hnone, hrest⟩ | ⟨u, hu, hnext⟩ := hturn.drawn
  · rw [hnone, List.nil_append] at hdrawn
    exact ⟨by rw [hdrawn, h.drawn], by rw [hdrawn]; exact hrest.trans h.rest⟩
  · rw [h.rest, next_drop] at hnext
    obtain ⟨rfl, hrest⟩ := Prod.mk.inj hnext
    rw [hu] at hdrawn
    refine ⟨?_, ?_⟩
    · rw [hdrawn]
      simp [h.drawn, List.range_succ]
    · rw [hdrawn]
      exact hrest.symm

theorem drawnUnit_of_isAside {x : Happening} (h : x.isAside = true) : drawnUnit x = none := by
  cases x with
  | drawn => simp [Happening.isAside] at h
  | _ => rfl

theorem Stretch.supplied {us : Draws} (hs : p.Stretch q) (h : p.Supplied us) : q.Supplied us := by
  cases hs.effect with
  | submitted => exact h.of_append [_] rfl (by simp [drawnUnit]) rfl
  | turned _ hturn => exact h.turn hturn
  | ticked => exact h.of_append [] rfl (by simp) rfl
  | aside ha =>
    obtain ⟨new, hh, hnew⟩ := ha.history
    exact h.of_append new hh (fun e he => drawnUnit_of_isAside (hnew e he).2.2) ha.draws

theorem Stretches.supplied {us : Draws} (hs : p.Stretches q) (h : p.Supplied us) :
    q.Supplied us := by
  induction hs with
  | refl => exact h
  | tail _ hs ih => exact hs.supplied ih

theorem supplied_of_create {a : Address} {config : Config} {us : Draws} {clock : Clock}
    (h : create a config us clock = .ok p) : p.Supplied us := by
  simp only [create] at h
  split at h
  · cases h
  · cases h
    exact ⟨rfl, rfl⟩

/-- A call is its reference loop: at each moment its events are those of the rounds that failed and
of what it is at, it waits out every wait, a pause is over when its wait is and neither sooner nor
later, every draw is the next of the supply, and when it gives up it tells for how long it has
tried. -/
theorem call_follows_reference_loop {a : Address} {config : Config} {us : Draws} {clock : Clock}
    {start : Proxy} (hcreate : create a config us clock = .ok start) (ms : List Move)
    {time : Nat} {t : TaskId} {operation request : String} {arenaSize : Nat}
    (hcall : ⟨time, some t, .submitted (.invoke operation arenaSize request)⟩ ∈
      (start.run ms).history) :
    (∃ s started, (start.run ms).At t s ∧
      Follows config clock t
        ⟨operation, arenaSize, request, .start config.maxCallRetries started⟩ s
        ((start.run ms).loopEvents t) ∧
      OnTime config clock (start.run ms).now t s ((start.run ms).loopEvents t) ∧
      start.Clocked (start.run ms) t s) ∧
    (start.run ms).drawn.reverse = (List.range (start.run ms).drawn.length).map (nthDraw us) := by
  have hreach : (start.run ms).Reachable := ⟨a, config, us, clock, start, ms, hcreate, rfl⟩
  have hstretches : start.Stretches (start.run ms) := run_stretches ms
  have hconfig : (start.run ms).config = config :=
    hstretches.config.trans (config_of_create hcreate)
  have hclock : (start.run ms).clock = clock :=
    hstretches.clock.trans (clock_of_create hcreate)
  obtain ⟨s, hs⟩ : ∃ s, (start.run ms).At t s := by
    have hlt := hreach.tasksExist _ hcall t rfl
    exact ⟨_, List.getElem?_eq_getElem hlt⟩
  obtain ⟨started, hfollows⟩ := hreach.tasks_of_preserved preserved_followsIfCall t s hs time
    operation arenaSize request (List.mem_filter.mpr ⟨hcall, by simp [Happening.ofLoop]⟩)
  have honTime := hreach.tasks_of_preserved preserved_onTime t s hs
  rw [hconfig, hclock] at hfollows honTime
  have hclocked := hstretches.clocked (fresh_of_create hcreate).tasks hs
  exact ⟨⟨s, started, hs, hfollows, honTime, hclocked⟩,
    (hstretches.supplied (supplied_of_create hcreate)).drawn⟩

/-- A call that backs off twice, first for no time at all, opens the connection again and then
succeeds: three rounds and an answer. The second pause is over after exactly its wait. Had the call
given up right after that pause, it would have told that it took as long. -/
theorem call_follows_reference_loop_through_reopening :
    let start := ofDefaults ⟨"svc", by decide⟩ []
    let q := start.run [.submit .connect, .resume 0 .turn,
      .resume 0 (.reply (.connected .opened)), .submit (.invoke "op" 8 "x"), .resume 1 .turn,
      .resume 1 (.reply (.failed .endpointTooBusy)),
      .resume 1 (.reply (.failed .endpointTooBusy))]
    let p := q.run [.tick 50 50000000, .resume 1 .elapsed, .drift 0 .faulted,
      .resume 1 (.reply (.failed .endpointDisconnected)),
      .resume 1 (.reply (.connected .opened)), .resume 1 (.reply .done),
      .resume 1 (.reply (.answered "y"))]
    let r := q.run [.tick 50 50000000, .resume 1 .elapsed,
      .resume 1 (.reply (.failed (.fault "z")))]
    (∃ s d, q.At 1 s ∧ (q.loopEvents 1).head? = some ⟨0, some 1, .waiting d⟩ ∧
      pauseEnd s = some (0 + d.ceilMillis) ∧ d.ceilMillis = 50) ∧
    (p.At 1 (.finished (.called (.ok "y"))) ∧
      (∃ started, Follows .default .unbounded 1 ⟨"op", 8, "x", .start 5 started⟩
        (.finished (.called (.ok "y"))) (p.loopEvents 1)) ∧
      WaitsOut .unbounded (p.loopEvents 1) ∧
      p.drawn = [.finite (1 / 2), .finite (1 / 2)]) ∧
    r.At 1 (.finished (.called (.error (.call ⟨"op", 3, .ofMillis 50, .fault "z"⟩)))) ∧
      ∃ m m', start.Stretches m ∧ m.Began m' 1 ∧ m'.Ended r 1 ∧
        .ofMillis 50 = Duration.between m.uptime m'.uptime := by
  intro start q p r
  have hcreate : create ⟨"svc", by decide⟩ .default [] .unbounded = .ok start := rfl
  have hpauses : q.At 1 (.callPause ⟨"op", 8, "x", ⟨1, 5, 0⟩⟩ 50) := by decide +kernel
  have hat : p.At 1 (.finished (.called (.ok "y"))) := by decide +kernel
  have hgaveUp : r.At 1 (.finished (.called (.error (.call
      ⟨"op", 3, .ofMillis 50, .fault "z"⟩)))) := by decide +kernel
  have hp : p = start.run (_ ++ _) := (run_append ..).symm
  have hr : r = start.run (_ ++ _) := (run_append ..).symm
  have hqcall : ⟨0, some 1, .submitted (.invoke "op" 8 "x")⟩ ∈ q.history := by decide +kernel
  have hpcall : ⟨0, some 1, .submitted (.invoke "op" 8 "x")⟩ ∈ p.history := by decide +kernel
  have hrcall : ⟨0, some 1, .submitted (.invoke "op" 8 "x")⟩ ∈ r.history := by decide +kernel
  refine ⟨?_, ⟨hat, ?_⟩, hgaveUp, ?_⟩
  · obtain ⟨⟨s, -, hs, -, htime, -⟩, -⟩ := call_follows_reference_loop hcreate _ hqcall
    obtain rfl := hs.unique hpauses
    obtain ⟨time, d, hhead, hend⟩ := htime.pause 50 rfl
    have hzero : (q.loopEvents 1).head?.map (·.time) = some 0 := by decide +kernel
    rw [hhead] at hzero
    obtain rfl : time = 0 := Option.some.inj hzero
    rw [Clock.after_unbounded] at hend
    exact ⟨_, d, hs, hhead, congrArg some hend, by omega⟩
  · rw [hp] at hpcall
    obtain ⟨⟨s, started, hs, hfollows, htime, -⟩, -⟩ :=
      call_follows_reference_loop hcreate _ hpcall
    rw [← hp] at hs hfollows htime
    obtain rfl := hs.unique hat
    exact ⟨⟨started, hfollows⟩, htime.waits, by decide +kernel⟩
  · rw [hr] at hrcall
    obtain ⟨⟨s, -, hs, -, -, hclocked⟩, -⟩ := call_follows_reference_loop hcreate _ hrcall
    rw [← hr] at hs hclocked
    obtain rfl := hs.unique hgaveUp
    exact hclocked.ended _ rfl

end Proxy

end ResilientProxy
