import ResilientProxy.Proofs.CallLoop
import ResilientProxy.Proofs.Jitter
import ResilientProxy.Proofs.TimeOuts

/-!
# Long waits

Waits are reported in milliseconds that have to fit a word of 64 bits. A length of time goes up to
`2 ^ 64` seconds, a thousand times as far, and no check of a configuration keeps its waits shorter.
So a wait is told in full exactly if its milliseconds are a word. Time limits are configured in
milliseconds, and a time-out always tells them in full.
-/

namespace ResilientProxy

/-- The milliseconds of all waits that the retry loops report are words. -/
structure Config.WaitsFit (c : Config) : Prop where
  reconnect : 0 < c.maxOpenRetries → c.reconnectWait.millis < UInt64.size
  backOff : ∀ n, n < c.maxOpenRetries ∨ n < c.maxCallRetries →
    ((Backoff.mk c.retryTimeSlot).ceiling n).millis < UInt64.size

theorem Config.WaitsFit.of_ceiling {c : Config} {m : UInt32}
    (hreconnect : c.reconnectWait.millis < UInt64.size)
    (hopen : c.maxOpenRetries ≤ m) (hcall : c.maxCallRetries ≤ m)
    (hceiling : ((Backoff.mk c.retryTimeSlot).ceiling m).millis < UInt64.size) : c.WaitsFit where
  reconnect _ := hreconnect
  backOff n hn := by
    have hle : n ≤ m := by
      obtain hn | hn := hn
      · exact UInt32.le_trans (UInt32.le_of_lt hn) hopen
      · exact UInt32.le_trans (UInt32.le_of_lt hn) hcall
    exact Nat.lt_of_le_of_lt (Duration.millis_mono (Backoff.ceiling_mono hle)) hceiling

namespace Proxy

variable {p q : Proxy} {t : TaskId} {s : Stage} {r : RetryLoop} {d : Duration} {n : Notice}
  {u : Binary64} {us : Draws}

theorem Attainable.millis_lt (h : p.Attainable) (ht : p.At t s) (hd : p.Pauses s d)
    (hfit : p.config.WaitsFit) : d.millis < UInt64.size := by
  have hs := h.inBudget ht
  cases hd with
  | unreachable hr =>
    exact hfit.reconnect (UInt32.lt_of_le_of_lt UInt32.zero_le (hs.2.hasNext hr).attempt_lt)
  | opening hr =>
    exact Nat.lt_of_le_of_lt (Duration.millis_mono (Backoff.delay_le_ceiling ..))
      (hfit.backOff _ (.inl (hs.2.hasNext hr).attempt_lt))
  | calling hr =>
    exact Nat.lt_of_le_of_lt (Duration.millis_mono (Backoff.delay_le_ceiling ..))
      (hfit.backOff _ (.inr (RetryLoop.Within.hasNext hs hr).attempt_lt))

/-! ## Runs that come to a given wait -/

/-- A wait of length `d` has just been reported, and begins. -/
def BeginsWait (p : Proxy) (d : Duration) : Prop :=
  ∃ time t n rest, p.history = ⟨time, t, .waiting d⟩ :: ⟨time, t, .noted n⟩ :: rest ∧
    n.delayMs? = some (.ofNat d.millis)

theorem BeginsWait.millis_lt (h : p.BeginsWait d) (htells : p.TellsWaits Duration.millis) :
    d.millis < UInt64.size := by
  obtain ⟨time, t, n, rest, hh, hn⟩ := h
  obtain ⟨pre, d', hlater, hms⟩ :=
    htells.told [⟨time, t, .waiting d⟩] ⟨time, t, .noted n⟩ rest _ hh hn
  obtain ⟨-, rfl⟩ : pre = [] ∧ d' = d := by
    simpa using List.append_inj' (hlater.symm.trans (List.nil_append _).symm) rfl
  rw [← hms]
  exact (UInt64.ofNat d'.millis).toNat_lt_size

/-- Task `t` is at attempt `r` of an opening, or of a call that finds the lock free and a connection
in the slot when it makes the next one. -/
inductive Tries (p : Proxy) (t : TaskId) : RetryLoop → Prop where
  | opening {o : Opener} {r : RetryLoop} (ht : p.At t (.connecting o r)) : Tries p t r
  | calling {c : Call} {conn held : ConnId} {a : Arena} {m : Option Nat}
      (ht : p.At t (.attempting c conn a m)) (hl : p.lock = .free)
      (hc : p.slot.handle = some held) (ha : c.arenaSize ≤ Arena.largest) : Tries p t c.retry

theorem Tries.reap (h : p.Tries t r) : p.reap = p := by
  cases h with
  | opening ht | calling ht => exact reap_of_keepsProxy ht rfl

theorem beginsWait_pause {stage : Nat → Stage} {next : Proxy → Proxy} (ht : t < p.tasks.length)
    (hs : ∀ m, (stage m).keepsProxy = true) (hn : n.delayMs? = some (.ofNat d.millis))
    (hz : d.isZero = false) : ((p.note t n).pause t d stage next).reap.BeginsWait d := by
  have hat := at_setStage (p := (p.note t n).record (some t) (.waiting d)) ht
    (stage (p.clock.after p.now d))
  have hpause : (p.note t n).pause t d stage next =
      ((p.note t n).record (some t) (.waiting d)).setStage t (stage (p.clock.after p.now d)) := by
    simp only [pause, hz]
    rfl
  rw [hpause, reap_of_keepsProxy hat (hs _)]
  exact ⟨p.now, some t, n, p.history, rfl, hn⟩

theorem draw_eq (hu : p.draws.next = (u, us)) (n : UInt32) :
    p.draw t n = (p.backoffDelay n u, { p with draws := us }.record (some t) (.drawn u)) := by
  simp only [draw, hu, backoffDelay]

/-- An opening that failed for lack of resources reports the wait before its next attempt. -/
theorem resumeAt_connecting {o : Opener} {e : ChannelError} (he : e.recovery = .backOff)
    (hx : r.exhausted = false) (hu : p.draws.next = (u, us)) :
    ∃ n es, n.delayMs? = some (.ofNat (p.backoffDelay r.attempt u).millis) ∧
      p.resumeAt t (.connecting o r) (.reply (.failed e)) =
        (({ p with draws := us }.recordAll t es).note t n).pause t (p.backoffDelay r.attempt u)
          (.connectPause o r) fun p => p.startConnect t o r.advance := by
  have hf : ¬ (e.recovery = .giveUp ∨ r.exhausted = true) := by simp [hx, he]
  have hnotes : (p.record (some t) (.callEnded (.failed e))).willReopenNotes r e =
      p.willReopenNotes r e := rfl
  refine ⟨.waitingToOpen p.address r.attempt (.ofNat (p.backoffDelay r.attempt u).millis),
    .drawn u :: (p.willReopenNotes r e ++ [Happening.callEnded (.failed e)]), rfl, ?_⟩
  simp only [resumeAt, answer, Option.getD_some]
  rw [connectFailed_again hf]
  simp only [connectDelay, he, hnotes]
  rw [draw_eq (by exact hu)]
  simp [note, recordAll, record, backoffDelay]

/-- A call that failed for lack of resources reports the wait before its next attempt. -/
theorem resumeAt_attempting {c : Call} {conn : ConnId} {a : Arena} {m : Option Nat}
    {e : ChannelError} (he : e.recovery = .backOff) (hx : c.retry.exhausted = false)
    (hu : p.draws.next = (u, us)) :
    ∃ n es, n.delayMs? = some (.ofNat (p.backoffDelay c.retry.attempt u).millis) ∧
      p.resumeAt t (.attempting c conn a m) (.reply (.failed e)) =
        (({ p with hold := p.hold.engage.2, draws := us }.recordAll t es).note t n).attemptAfter t c
          (p.backoffDelay c.retry.attempt u) := by
  have hf : ¬ (e.recovery = .giveUp ∨ c.retry.exhausted = true) := by simp [hx, he]
  have hnotes : ((p.record (some t) (.callEnded (.failed e))).record (some t)
      (.attempted c.retry (.error e))).willRetryNotes c e = p.willRetryNotes c e := rfl
  refine ⟨.backingOff c.operation c.retry.attempt
    (.ofNat (p.backoffDelay c.retry.attempt u).millis),
    .drawn u :: (p.willRetryNotes c e ++
      [Happening.attempted c.retry (.error e), .callEnded (.failed e)]), rfl, ?_⟩
  simp only [resumeAt, answer, Option.getD_some, attemptFailed]
  rw [if_neg hf]
  simp only [retryCall, engageHold_eq, he, hnotes]
  rw [draw_eq (by exact hu)]
  simp [note, recordAll, record, backoffDelay]

theorem pause_of_isZero {stage : Nat → Stage} {next : Proxy → Proxy} (hz : d.isZero = true) :
    p.pause t d stage next =
      next ((p.record (some t) (.waiting d)).setStage t (stage (p.clock.after p.now d))) := by
  simp only [pause, hz, if_true]

/-- With nothing to wait, the channel is asked for a connection again at once. -/
theorem tries_pause {o : Opener} (ht : t < p.tasks.length) (hz : d.isZero = true) :
    (p.pause t d (.connectPause o r) fun p => p.startConnect t o r.advance).Tries t r.advance ∧
      (p.pause t d (.connectPause o r) fun p => p.startConnect t o r.advance).draws = p.draws := by
  rw [pause_of_isZero hz]
  have hat : (((p.record (some t) (.waiting d)).setStage t
      (.connectPause o r (p.clock.after p.now d))).startConnect t o r.advance).At t
        (.connecting o r.advance) := by
    refine at_setStage ?_ _
    simpa [record, setStage] using ht
  exact ⟨.opening hat, rfl⟩

/-- With the lock free and a connection in the slot, an attempt is handed over at once. -/
theorem tries_beginAttempt {c : Call} {held : ConnId} (ht : t < p.tasks.length)
    (hl : p.lock = .free) (hc : p.slot.handle = some held) (ha : c.arenaSize ≤ Arena.largest) :
    (p.beginAttempt t c).Tries t c.retry ∧ (p.beginAttempt t c).draws = p.draws := by
  have hhandle : ((p.lineUp t (.attempt c)).record (some t)
      (.lockTaken (.attempt c))).slot.handle = some held := hc
  have hsent : p.beginAttempt t c = (p.lineUp t (.attempt c)).handOver t c held := by
    simp only [beginAttempt, acquire, hl, Lock.free, attemptLocked, hhandle,
      if_neg (Nat.not_lt.mpr ha)]
    rfl
  have hat : (p.lineUp t (.attempt c)).At t (.awaitingLock (.attempt c)) := at_setStage ht _
  have hlock : ((p.lineUp t (.attempt c)).handOver t c held).lock = .free := by
    simp [handOver, lineUp, setStage, hl, Lock.free, Lock.join, Lock.pass]
  rw [hsent]
  exact ⟨.calling (hat.goOn rfl) hlock hc ha, rfl⟩

/-- So is the first attempt of a call, in the first turn of its task. -/
theorem tries_invoke {operation request : String} {arenaSize : Nat} {held : ConnId}
    (ht : p.At t (.queued (.invoke operation arenaSize request))) (hl : p.lock = .free)
    (hc : p.slot.handle = some held) (ha : arenaSize ≤ Arena.largest) :
    (p.step (.resume t .turn)).Tries t (.start p.config.maxCallRetries p.uptime) ∧
      (p.step (.resume t .turn)).draws = p.draws := by
  have hbegin := tries_beginAttempt
    (c := ⟨operation, arenaSize, request, .start p.config.maxCallRetries p.uptime⟩) ht.lt hl hc ha
  rw [step_resume ht]
  simp only [resumeAt, begin]
  rw [hbegin.1.reap]
  exact hbegin

/-- If there is nothing to wait, the attempt that failed is followed by the next one. -/
theorem Tries.again {e : ChannelError} (h : p.Tries t r) (he : e.recovery = .backOff)
    (hx : r.exhausted = false) (hu : p.draws.next = (u, us))
    (hz : (p.backoffDelay r.attempt u).isZero = true) :
    (p.step (.resume t (.reply (.failed e)))).Tries t r.advance ∧
      (p.step (.resume t (.reply (.failed e)))).draws = us := by
  obtain ⟨s, ht, hnext⟩ : ∃ s, p.At t s ∧ (p.resumeAt t s (.reply (.failed e))).Tries t r.advance ∧
      (p.resumeAt t s (.reply (.failed e))).draws = us := by
    cases h with
    | opening ht =>
      obtain ⟨n, es, -, hres⟩ := resumeAt_connecting he hx hu
      exact ⟨_, ht, hres ▸ tries_pause ht.lt hz⟩
    | calling ht hl hc ha =>
      obtain ⟨n, es, -, hres⟩ := resumeAt_attempting he hx hu
      refine ⟨_, ht, ?_⟩
      rw [hres, attemptAfter, pause_of_isZero hz]
      exact tries_beginAttempt (by simpa [setStage, record, note, recordAll] using ht.lt) hl hc ha
  rw [step_resume ht, hnext.1.reap]
  exact hnext

/-- If there is something to wait, the attempt that failed is followed by the wait. -/
theorem Tries.beginsWait {e : ChannelError} (h : p.Tries t r) (he : e.recovery = .backOff)
    (hx : r.exhausted = false) (hu : p.draws.next = (u, us))
    (hz : (p.backoffDelay r.attempt u).isZero = false) :
    (p.step (.resume t (.reply (.failed e)))).BeginsWait (p.backoffDelay r.attempt u) := by
  cases h with
  | opening ht =>
    obtain ⟨n, es, hn, hres⟩ := resumeAt_connecting he hx hu
    rw [step_resume ht, hres]
    exact beginsWait_pause ht.lt (fun _ => rfl) hn hz
  | calling ht =>
    obtain ⟨n, es, hn, hres⟩ := resumeAt_attempting he hx hu
    rw [step_resume ht, hres]
    exact beginsWait_pause ht.lt (fun _ => rfl) hn hz

/-- The fixed wait of an opening whose endpoint cannot be reached. -/
theorem beginsWait_unreachable {o : Opener} {e : ChannelError} (ht : p.At t (.connecting o r))
    (he : e.recovery = .reconnect) (hx : r.exhausted = false)
    (hz : p.config.reconnectWait.isZero = false) :
    (p.step (.resume t (.reply (.failed e)))).BeginsWait p.config.reconnectWait := by
  have hf : ¬ (e.recovery = .giveUp ∨ r.exhausted = true) := by simp [hx, he]
  rw [step_resume ht]
  simp only [resumeAt, answer, Option.getD_some]
  rw [connectFailed_again hf]
  simp only [connectDelay, he]
  exact beginsWait_pause ht.lt (fun _ => rfl) rfl hz

/-- A run in which `n` attempts fail with nothing to wait in between. -/
theorem Tries.exists_run {e : ChannelError} (he : e.recovery = .backOff) {m : UInt32} {k : Nat}
    {b : Nat} (hk : k ≤ m.toNat) (h : p.Tries t ⟨0, m, b⟩) (hp : p.Reachable)
    (hu : p.draws = List.replicate k (.finite 0) ++ us) :
    ∃ q : Proxy, q.Reachable ∧ q.config = p.config ∧ q.Tries t ⟨.ofNat k, m, b⟩ ∧
      q.draws = us := by
  induction k generalizing us with
  | zero => exact ⟨p, hp, rfl, h, hu⟩
  | succ k ih =>
    have hu' : p.draws = List.replicate k (.finite 0) ++ (.finite 0 :: us) := by
      rw [hu, List.replicate_succ', List.append_assoc, List.singleton_append]
    obtain ⟨q, hq, hc, ht, hd⟩ := ih (by omega) hu'
    have hx : (RetryLoop.mk (.ofNat k) m b).exhausted = false := by
      have hne : ¬ k = m.toNat := by omega
      simpa using (RetryLoop.exhausted_mk (by omega)).not.mpr hne
    -- A draw of zero leaves nothing to wait, so the next attempt begins in the same step.
    have hz : (q.backoffDelay (.ofNat k) (.finite 0)).isZero = true := by
      rw [backoffDelay, Backoff.delay_of_share_zero (Binary64.share_of_le_zero (by decide))]
      rfl
    obtain ⟨hnext, hdraws⟩ := ht.again he hx (by rw [hd]; rfl) hz
    have hrun := run_stretches (p := q) [.resume t (.reply (.failed e))]
    rw [RetryLoop.advance_mk] at hnext
    exact ⟨_, hq.run _, hrun.config.trans hc, hnext, hdraws⟩

/-- Between two attempts of a loop, each of its ceilings can be what is waited. -/
theorem Tries.exists_beginsWait {m n : UInt32} {b : Nat} (hn : n < m)
    (h : p.Tries t (.start m b))
    (hp : p.Reachable) (hu : p.draws = List.replicate n.toNat (.finite 0) ++ [.finite 1])
    (hz : ((Backoff.mk p.config.retryTimeSlot).ceiling n).isZero = false) :
    ∃ q : Proxy, q.Reachable ∧ q.config = p.config ∧
      q.BeginsWait ((Backoff.mk p.config.retryTimeSlot).ceiling n) := by
  have hlt : n.toNat < m.toNat := UInt32.lt_iff_toNat_lt.mp hn
  have he : ChannelError.endpointTooBusy.recovery = .backOff := rfl
  obtain ⟨q, hq, hc, ht, hd⟩ := h.exists_run he (Nat.le_of_lt hlt) hp hu
  rw [UInt32.ofNat_toNat] at ht
  have hx : (RetryLoop.mk n m b).exhausted = false := by simpa [RetryLoop.exhausted] using hn
  have hwait : q.backoffDelay n (.finite 1) = (Backoff.mk p.config.retryTimeSlot).ceiling n := by
    rw [backoffDelay, hc, Backoff.delay_of_share_one (Binary64.share_of_one_le (by decide))]
  have hbegins := ht.beginsWait he hx (u := .finite 1) (by rw [hd]; rfl) (hwait ▸ hz)
  have hrun := run_stretches (p := q) [.resume t (.reply (.failed .endpointTooBusy))]
  exact ⟨_, hq.run _, hrun.config.trans hc, hwait ▸ hbegins⟩

/-- A proxy that works with `c`, to which nothing has happened yet. -/
def starting (c : Config) (us : Draws) : Proxy :=
  { ofDefaults ⟨"svc", by decide⟩ us with config := c }

theorem reachable_starting {c : Config} (hc : c.check = .ok ()) (us : Draws) (ms : List Move) :
    ((starting c us).run ms).Reachable := by
  refine ⟨⟨"svc", by decide⟩, c, us, .unbounded, starting c us, ms, ?_, rfl⟩
  simp only [create, hc]
  rfl

theorem exists_opening {c : Config} (hc : c.check = .ok ()) (us : Draws) :
    ∃ p : Proxy, p.Reachable ∧ p.config = c ∧ p.draws = us ∧
      p.At 0 (.connecting .owner (.start c.maxOpenRetries)) :=
  ⟨_, reachable_starting hc us [.submit .connect, .resume 0 .turn], rfl, rfl, rfl⟩

theorem exists_calling {c : Config} (hc : c.check = .ok ()) (us : Draws) :
    ∃ p : Proxy, p.Reachable ∧ p.config = c ∧ p.draws = us ∧
      p.Tries 1 (.start c.maxCallRetries) := by
  have hp := reachable_starting hc us [.submit .connect, .resume 0 .turn,
    .resume 0 (.reply (.connected .opened)), .submit (.invoke "op" 8 "x")]
  generalize hrun : (starting c us).run _ = p at hp
  have hconfig : p.config = c := hrun ▸ rfl
  have hdraws : p.draws = us := hrun ▸ rfl
  have ht : p.At 1 (.queued (.invoke "op" 8 "x")) := hrun ▸ rfl
  have hl : p.lock = .free := hrun ▸ rfl
  have hs : p.slot.handle = some 0 := hrun ▸ rfl
  have huptime : p.uptime = 0 := hrun ▸ rfl
  obtain ⟨htries, hnext⟩ := tries_invoke ht hl hs (by decide)
  rw [hconfig, huptime] at htries
  have hstep := run_stretches (p := p) [.resume 1 .turn]
  exact ⟨_, hp.run _, hstep.config.trans hconfig, hnext.trans hdraws, htries⟩

/-! ## What the log tells -/

/-- Where all waits of all runs are told in full, they fit. -/
theorem waitsFit_of_tellsWaits {c : Config} (hc : c.check = .ok ())
    (h : ∀ p : Proxy, p.Reachable → p.config = c → p.TellsWaits Duration.millis) : c.WaitsFit := by
  have hzero : ∀ {d : Duration}, d.isZero = true → d.millis < UInt64.size := by
    intro d hd
    rw [Duration.eq_zero_of_isZero hd]
    decide
  refine ⟨fun hpos => ?_, fun n hn => ?_⟩
  · cases hz : c.reconnectWait.isZero with
    | true => exact hzero hz
    | false =>
      obtain ⟨p, hp, rfl, -, ht⟩ := exists_opening hc []
      have hx : (RetryLoop.start p.config.maxOpenRetries).exhausted = false :=
        decide_eq_false (UInt32.not_le.mpr hpos)
      have hbegins := beginsWait_unreachable (e := .endpointUnreachable) ht rfl hx hz
      have hrun := run_stretches (p := p) [.resume 0 (.reply (.failed .endpointUnreachable))]
      exact hbegins.millis_lt
        (h _ (hp.run [.resume 0 (.reply (.failed .endpointUnreachable))]) hrun.config)
  · cases hz : ((Backoff.mk c.retryTimeSlot).ceiling n).isZero with
    | true => exact hzero hz
    | false =>
      -- With zeros up to attempt `n` and a one there, the whole ceiling has to be waited.
      obtain ⟨p, hp, rfl, hu, m, t, b, hm, htries⟩ : ∃ p : Proxy, p.Reachable ∧ p.config = c ∧
          p.draws = List.replicate n.toNat (.finite 0) ++ [.finite 1] ∧
            ∃ m t b, n < m ∧ p.Tries t (.start m b) := by
        cases hn with
        | inl hn =>
          obtain ⟨p, hp, hpc, hu, ht⟩ := exists_opening hc _
          exact ⟨p, hp, hpc, hu, _, 0, _, hn, .opening ht⟩
        | inr hn =>
          obtain ⟨p, hp, hpc, hu, ht⟩ := exists_calling hc _
          exact ⟨p, hp, hpc, hu, _, 1, _, hn, ht⟩
      obtain ⟨q, hq, hqc, hbegins⟩ := htries.exists_beginsWait hm hp hu hz
      exact hbegins.millis_lt (h q hq hqc)

theorem Attainable.waitsOut (h : p.Attainable) (t : TaskId) :
    WaitsOut p.clock (p.loopEvents t) := by
  cases ht : p.tasks[t]? with
  | some s => exact (h.tasks_of_preserved preserved_onTime t s ht).waits
  | none =>
    rw [loopEvents_eq, h.tasksExist.eventsOf_eq_nil (List.getElem?_eq_none_iff.mp ht)]
    exact .nil

/-- For a checked configuration, the log tells all milliseconds of every wait that it reports if
and only if the waits fit. In any case it tells them modulo `2 ^ 64`, every wait is waited out, with
a pause that is over exactly when the wait is, and a call that is given up fails with exactly the
limit that is configured for it. -/
theorem waits_told_in_full_iff_fit (c : Config) (hc : c.check = .ok ()) :
    ((∀ p : Proxy, p.Reachable → p.config = c → p.TellsWaits Duration.millis) ↔ c.WaitsFit) ∧
    ∀ p : Proxy, p.Reachable → p.config = c →
      p.TellsWaits (fun d => d.millis % UInt64.size) ∧ (∀ t, WaitsOut p.clock (p.loopEvents t)) ∧
        (∀ t s, p.At t s → OnTime p.config p.clock p.now t s (p.loopEvents t)) ∧
          p.TellsTimeOuts := by
  refine ⟨⟨waitsFit_of_tellsWaits hc, fun hfit p hp hpc => ?_⟩, fun p hp _ => ?_⟩
  · refine hp.attainable.tellsWaits fun q t s d hq hqc ht hd => ?_
    have hlt : d.millis < UInt64.size := hq.millis_lt ht hd (hqc.trans hpc ▸ hfit)
    exact UInt64.toNat_ofNat_of_lt' hlt
  · have ha := hp.attainable
    exact ⟨ha.tellsWaits fun q t s d _ _ _ _ => UInt64.toNat_ofNat', ha.waitsOut,
      ha.tasks_of_preserved preserved_onTime, ha.tellsTimeOuts⟩

/-- The longest fixed wait that fits, and the longest limit that can be set: both are told in full,
the wait as 18446744073709551000 and the time-out as 18446744073709551615 milliseconds. -/
theorem longest_fitting_wait_told_in_full :
    let c : Config := { Config.default with
      reconnectWaitSecs := 18446744073709551, callTimeoutMs := some 18446744073709551615 }
    let p := (starting c []).run [.submit .connect, .resume 0 .turn,
      .resume 0 (.reply (.failed .endpointUnreachable)), .tick 18446744073709551000 0,
      .resume 0 .elapsed, .resume 0 (.reply (.connected .opened)),
      .submit (.invoke "op" 8 "x"), .resume 1 .turn, .tick 18446744073709551615 0,
      .resume 1 .expired]
    c.check = .ok () ∧ c.WaitsFit ∧ p.Reachable ∧ p.config = c ∧
      p.TellsWaits Duration.millis ∧ p.TellsTimeOuts ∧
      ⟨0, some 0, .noted (.waitingToOpen p.address 0 18446744073709551000)⟩ ∈ p.history ∧
      ⟨36893488147419102615, some 1, .attempted (.start 5)
        (.error (.operationTimedOut 18446744073709551615))⟩ ∈ p.history := by
  intro c p
  have hc : c.check = .ok () := by decide
  have hfit : c.WaitsFit :=
    .of_ceiling (by decide) (UInt32.le_refl 5) (UInt32.le_refl 5) (by decide +kernel)
  have hp : p.Reachable := reachable_starting hc _ _
  have hpc : p.config = c := (run_stretches _).config
  obtain ⟨htells, hall⟩ := waits_told_in_full_iff_fit c hc
  exact ⟨hc, hfit, hp, hpc, htells.mpr hfit p hp hpc, (hall p hp hpc).2.2.2, by decide +kernel,
    by decide +kernel⟩

/-- A wait of a second more is reported as 384 milliseconds. -/
theorem long_wait_told_short :
    let c : Config := { Config.default with reconnectWaitSecs := 18446744073709552 }
    let p := (starting c []).run [.submit .connect, .resume 0 .turn,
      .resume 0 (.reply (.failed .endpointUnreachable))]
    c.check = .ok () ∧ p.Reachable ∧ c.reconnectWait.millis = 18446744073709552000 ∧
      p.history.take 2 = [⟨0, some 0, .waiting c.reconnectWait⟩,
        ⟨0, some 0, .noted (.waitingToOpen p.address 0 384)⟩] ∧ ¬ p.TellsWaits Duration.millis := by
  intro c p
  have hc : c.check = .ok () := by decide
  have hp : p.Reachable := reachable_starting hc _ _
  have hlast : p.history.take 2 = [⟨0, some 0, .waiting c.reconnectWait⟩,
      ⟨0, some 0, .noted (.waitingToOpen p.address 0 384)⟩] := by decide +kernel
  have hbegins : p.BeginsWait c.reconnectWait := by
    refine ⟨0, some 0, .waitingToOpen p.address 0 384, p.history.drop 2, ?_, by decide⟩
    rw [← List.take_append_drop 2 p.history, hlast]
    rfl
  refine ⟨hc, hp, by decide, hlast, fun htells => ?_⟩
  exact absurd (hbegins.millis_lt htells) (by decide)

end Proxy

end ResilientProxy
