import ResilientProxy.Proofs.Distance

/-!
# Every task comes to its end

In a fair run nobody waits forever for what only the channel, the clock or a free thread can give.
Then every task ends, and with what it was started for: retry budgets bound the turns of each task,
and the lock is handed on in the order of the line.
-/

namespace ResilientProxy.Proxy

variable {p q r : Proxy} {t u : TaskId} {s s' : Stage} {es : List Happening}

/-- The proxy after the first `n` moves of an endless run. -/
def upTo (p : Proxy) (ms : Nat → Move) (n : Nat) : Proxy := p.run ((List.range n).map ms)

theorem upTo_succ (p : Proxy) (ms : Nat → Move) (n : Nat) :
    p.upTo ms (n + 1) = (p.upTo ms n).step (ms n) := by
  rw [upTo, List.range_succ, List.map_append, run_append]
  rfl

theorem upTo_stretches (p : Proxy) (ms : Nat → Move) {m n : Nat} (h : m ≤ n) :
    (p.upTo ms m).Stretches (p.upTo ms n) := by
  induction n, h using Nat.le_induction with
  | base => exact .refl
  | succ n _ ih =>
    rw [upTo_succ]
    exact ih.trans (step_course _).stretches

/-- Whether a task at stage `s` waits for nobody but the channel, the clock or a free thread: it has
not ended, and if it is in line for the lock, the lock is its own. -/
def mayGoOn (p : Proxy) (t : TaskId) : Stage → Bool
  | .finished _ => false
  | .awaitingLock _ => p.lock.owner == some t
  | _ => true

/-- At some time from `n` on, task `t` is told something that it waits for, or the runtime ends. -/
def GoesOn (p : Proxy) (ms : Nat → Move) (t : TaskId) (n : Nat) : Prop :=
  ∃ k ≥ n, ms k = .shutDown ∨ ∃ s signal, (p.upTo ms k).At t s ∧
    (p.upTo ms k).heeds t s signal = true ∧ ms k = .resume t signal

/-- An endless run in which the channel returns from all calls that are not given up, the clock
reaches the end of all pauses, and every task that may go on does so at some time, unless the
runtime ends first. -/
def Fair (p : Proxy) (ms : Nat → Move) : Prop :=
  ∀ n t s, (p.upTo ms n).At t s → (p.upTo ms n).mayGoOn t s = true → p.GoesOn ms t n

/-- A task that may not go on waits for one ahead of it that may. -/
theorem exists_mayGoOn (ho : p.InOrder) (hs : p.At t s) (hn : s.isFinished = false) :
    ∃ u r, p.At u r ∧ p.mayGoOn u r = true ∧ (u = t ∨ u ∈ p.ahead t) := by
  by_cases hgo : p.mayGoOn t s = true
  · exact ⟨t, s, hs, hgo, .inl rfl⟩
  · obtain ⟨goal, rfl⟩ : ∃ goal, s = .awaitingLock goal := by
      cases s with
      | awaitingLock goal => exact ⟨goal, rfl⟩
      | finished => exact nomatch hn
      | _ => exact absurd rfl hgo
    have hin : t ∈ p.lock.line := (ho.mem_line t).mpr (by simp [hs.grip, Stage.grip])
    cases hl : p.lock.owner with
    | none => simp [Lock.line, hl, ho.idle hl] at hin
    | some u =>
      have hut : u ≠ t := by simpa [mayGoOn, hl] using hgo
      obtain ⟨r, hr, hgrip⟩ := exists_of_view (ho.owner_grip hl)
      refine ⟨u, r, hr, ?_, .inr ?_⟩
      · cases r with
        | awaitingLock => simp [mayGoOn, hl]
        | finished => exact absurd rfl hgrip
        | _ => rfl
      · rw [Lock.line_of_owner hl] at hin
        have hwaits : t ∈ p.lock.waiting := (List.mem_cons.mp hin).resolve_left hut.symm
        simp [ahead, inFront, Lock.line_of_owner hl, hut, hwaits]

theorem exists_outcome_of_shutDown (hs : p.At t s) :
    ∃ o, (p.step .shutDown).At t (.finished o) := by
  have hend : (p.step .shutDown).At t _ := reap_reaping.at hs.shutDown
  split at hend
  · obtain ⟨o, rfl⟩ := Stage.exists_outcome ‹_›
    exact ⟨o, hend⟩
  · exact ⟨.vanished, hend⟩

/-- In a fair run every task ends. -/
theorem Fair.finishes {ms : Nat → Move} (h : p.Fair ms) (hp : p.Attainable) {n : Nat}
    (ht : t < (p.upTo ms n).tasks.length) :
    ∃ k ≥ n, ∃ o, (p.upTo ms k).At t (.finished o) := by
  induction hd : (p.upTo ms n).distance t using WellFoundedLT.induction generalizing n with
  | ind d ih =>
    subst hd
    have attainable (k : Nat) : (p.upTo ms k).Attainable :=
      hp.stretches (upTo_stretches p ms (Nat.zero_le k))
    obtain ⟨s₀, hs⟩ : ∃ s, (p.upTo ms n).At t s := ⟨_, List.getElem?_eq_getElem ht⟩
    cases hf : s₀.isFinished with
    | true =>
      obtain ⟨o, rfl⟩ := Stage.exists_outcome hf
      exact ⟨n, Nat.le_refl n, o, hs⟩
    | false =>
      obtain ⟨u, r, hu, hgo, hahead⟩ := exists_mayGoOn (attainable n).inOrder hs hf
      obtain ⟨k, hk, hm⟩ := h n u r hu hgo
      obtain ⟨hnear, hlt⟩ := (upTo_stretches p ms hk).nearer (attainable n) ht
      obtain hm | ⟨s, signal, hat, hsig, hm⟩ := hm
      · obtain ⟨s, hs⟩ : ∃ s, (p.upTo ms k).At t s := ⟨_, List.getElem?_eq_getElem hlt⟩
        obtain ⟨o, ho⟩ := exists_outcome_of_shutDown hs
        exact ⟨k + 1, by omega, o, by rwa [upTo_succ, hm]⟩
      -- until `u` goes on, task `t` has come nearer to its end or still stands behind `u`
      obtain hless | ⟨he, ha⟩ := hnear
      · obtain ⟨k', hk', o, ho⟩ := ih _ hless hlt rfl
        exact ⟨k', Nat.le_trans hk hk', o, ho⟩
      · have hless : (p.upTo ms (k + 1)).distance t < (p.upTo ms n).distance t := by
          rw [upTo_succ, hm, ← he]
          exact step_distance_lt (attainable k) hlt hat hsig (ha ▸ hahead)
        have hlt' := ((upTo_stretches p ms (Nat.le_succ k)).nearer (attainable k) hlt).2
        obtain ⟨k', hk', o, ho⟩ := ih _ hless hlt' rfl
        exact ⟨k', by omega, o, ho⟩

/-- How a task may end that was submitted for a job. -/
inductive Completes (p : Proxy) (t : TaskId) : Job → Outcome → Prop where
  | connected (result : Except ConnectionError OpenOutcome) :
    Completes p t .connect (.connected result)
  | closed (result : Except ConnectionError Bool) : Completes p t .close (.stopped result)
  | aborted (result : Except ConnectionError Bool) : Completes p t .abort (.stopped result)
  | called {operation request : String} {arenaSize : Nat} (result : Except ProxyError String) :
    Completes p t (.invoke operation arenaSize request) (.called result)
  /-- The channel brought the call down, or its scratch memory could not be reserved. -/
  | brokeDown {operation request : String} {arenaSize : Nat}
      (h : (∃ time, ⟨time, some t, .callEnded .panicked⟩ ∈ p.history) ∨
        Arena.largest < arenaSize) :
    Completes p t (.invoke operation arenaSize request) .panicked
  | cutOff {job : Job} (h : p.running = false) : Completes p t job .vanished

theorem Turn.not_vanished (h : p.Turn t s s' es q) : s' ≠ .finished .vanished := by
  cases h with
  | foundOpen _ _ _ hx | connected _ hx | replaced _ _ hx | connectFailed _ hx => cases hx <;> nofun
  | _ => nofun

/-- Only the end of the runtime makes tasks vanish. -/
theorem Attainable.running_of_vanished (h : p.Attainable) (ht : p.At t (.finished .vanished)) :
    p.running = false := by
  refine h.induct (I := fun p => ∀ t, p.At t (.finished .vanished) → p.running = false)
    (fun q hq t ht => ?_) (fun q r _ hi hs t ht => ?_) t ht
  · simp [At, hq.tasks] at ht
  · cases hs with
    | submitted =>
      obtain ht | ⟨-, hr⟩ := at_append rfl ht
      · exact hi t ht
      · cases hr
    | turned hu hturn =>
      obtain ⟨-, hr⟩ | ⟨-, ht⟩ := (at_goOn hu hturn.frame.tasks).mp ht
      · exact absurd hr.symm hturn.not_vanished
      · exact hturn.frame.running.trans (hi t ht)
    | dropped _ _ hd =>
      cases hd with
      | running =>
        obtain ht | ⟨-, hr⟩ := at_append rfl ht
        · exact hi t ht
        · cases hr
      | _ => exact hi t ht
    | halted => rfl
    | _ => exact hi t ht

/-- A call breaks down only where the channel brings it down, or its scratch memory cannot be
reserved. -/
theorem Attainable.brokeDown (h : p.Attainable) (ht : p.At t (.finished .panicked)) {time : Nat}
    {operation request : String} {arenaSize : Nat}
    (hm : ⟨time, some t, .submitted (.invoke operation arenaSize request)⟩ ∈ p.history) :
    (∃ time, ⟨time, some t, .callEnded .panicked⟩ ∈ p.history) ∨ Arena.largest < arenaSize := by
  obtain ⟨_, hfollows⟩ := h.tasks_of_preserved preserved_followsIfCall t _ ht time operation
    arenaSize request (List.mem_filter.mpr ⟨hm, by simp [Happening.ofLoop]⟩)
  generalize hes : p.loopEvents t = es at hfollows
  cases hfollows with
  | finished hends =>
    cases hends with
    | @brokeDown _ _ time' =>
      have hmem : ⟨time', some t, .callEnded .panicked⟩ ∈ p.loopEvents t := by
        rw [hes]
        exact .tail _ (.head _)
      exact .inl ⟨time', (List.mem_filter.mp hmem).1⟩
    | refused _ ha => exact .inr ha
    | gaveUp _ _ _ ho => cases ho

theorem Attainable.completes (h : p.Attainable) {time : Nat} {job : Job}
    (hm : ⟨time, some t, .submitted job⟩ ∈ p.history) {o : Outcome} (ht : p.At t (.finished o)) :
    p.Completes t job o := by
  have hreach := h.mayReach ht hm
  cases o with
  | vanished => exact .cutOff (h.running_of_vanished ht)
  | connected result =>
    obtain rfl : job = .connect := by simpa [Job.mayReach] using hreach
    exact .connected result
  | stopped result =>
    obtain rfl | rfl : job = .close ∨ job = .abort := by simpa [Job.mayReach] using hreach
    · exact .closed result
    · exact .aborted result
  | called result =>
    cases job with
    | invoke => exact .called result
    | _ => cases hreach
  | panicked =>
    cases job with
    | invoke => exact .brokeDown (h.brokeDown ht hm)
    | _ => cases hreach
  | tornDown => cases hreach

/-- The moves of a list, and then nothing but the clocks. -/
def endless (ms : List Move) (n : Nat) : Move := ms.getD n (.tick 1 nanosPerMilli)

/-- A task that does not end is told what it waits for, or waits for the same as before. -/
theorem step_at (ht : p.At t s) (hs : s.isFinished = false) {m : Move} (hm : m ≠ .shutDown) :
    (∃ signal, m = .resume t signal ∧ p.heeds t s signal = true) ∨
      ∃ s', (p.step m).At t s' ∧ s'.isFinished = false := by
  have reaped {q : Proxy} {s : Stage} (h : q.At t s) : q.reap.At t s := reap_reaping.at h
  by_cases htask : m.task? = some t
  · cases m with
    | resume u signal =>
      obtain rfl : u = t := Option.some.inj htask
      cases hh : p.heeds u s signal with
      | true => exact .inl ⟨signal, rfl, hh⟩
      | false =>
        have hsame : p.apply (.resume u signal) = p := by
          have ht' : p.tasks[u]? = some s := ht
          simp only [apply, resume, ht', resumeAt_eq hh]
        refine .inr ⟨s, ?_, hs⟩
        rw [step, hsame]
        exact reaped ht
    | allocate u n =>
      obtain rfl : u = t := Option.some.inj htask
      have ht' : p.tasks[u]? = some s := ht
      cases s with
      | attempting c conn a d =>
        cases ha : a.alloc n with
        | ok b =>
          refine .inr ⟨.attempting c conn b.2 d, reaped ?_, rfl⟩
          simp only [apply, allocate, ht', ha]
          exact at_setStage ht.lt _
        | error e =>
          refine .inr ⟨_, reaped ?_, hs⟩
          simp only [apply, allocate, ht', ha]
          exact ht
      | _ =>
        refine .inr ⟨_, reaped ?_, hs⟩
        simp only [apply, allocate, ht']
        exact ht
    | _ => cases htask
  · exact .inr ⟨s, reaped (ht.apply htask hm), hs⟩

theorem endless_of_le {ms : List Move} {n : Nat} (h : ms.length ≤ n) :
    endless ms n = .tick 1 nanosPerMilli := by
  simp [endless, List.getElem?_eq_none h]

theorem upTo_endless (p : Proxy) (ms : List Move) : p.upTo (endless ms) ms.length = p.run ms := by
  rw [upTo]
  congr 1
  refine List.ext_getElem (by simp) fun n hn hn' => ?_
  simp [endless, hn']

/-- Nothing but the clocks goes on after the last move of a list. -/
theorem tasks_upTo_endless (hp : p.Reaped) (ms : List Move) (k : Nat) :
    (p.upTo (endless ms) (ms.length + k)).tasks = (p.run ms).tasks := by
  have reaped (n : Nat) : (p.upTo (endless ms) n).Reaped := hp.run _
  induction k with
  | zero => rw [Nat.add_zero, upTo_endless]
  | succ k ih =>
    have htick : endless ms (ms.length + k) = .tick 1 nanosPerMilli :=
      endless_of_le (Nat.le_add_right ..)
    have hreap :
        ((p.upTo (endless ms) (ms.length + k)).apply (.tick 1 nanosPerMilli)).Reaped := reaped _
    rw [← Nat.add_assoc, upTo_succ, htick, step, hreap.reap, ← ih]
    rfl

/-- A run after which no task is left is fair. -/
theorem fair_endless (hp : p.Reaped) {ms : List Move}
    (hend : ∀ s ∈ (p.run ms).tasks, s.isFinished = true) : p.Fair (endless ms) := by
  -- whoever has not ended goes on at some time before the end of the list
  have goesOn (d : Nat) : ∀ n t s, n + d = ms.length → (p.upTo (endless ms) n).At t s →
      s.isFinished = false → p.GoesOn (endless ms) t n := by
    induction d with
    | zero =>
      rintro n t s rfl ht hs
      have ht' : s ∈ (p.upTo (endless ms) ms.length).tasks := ht.mem
      rw [upTo_endless] at ht'
      simp [hend s ht'] at hs
    | succ d ih =>
      intro n t s hn ht hs
      by_cases hm : endless ms n = .shutDown
      · exact ⟨n, Nat.le_refl n, .inl hm⟩
      obtain ⟨signal, hsig, hheeds⟩ | ⟨s', ht', hs'⟩ := step_at ht hs hm
      · exact ⟨n, Nat.le_refl n, .inr ⟨s, signal, ht, hheeds, hsig⟩⟩
      · rw [← upTo_succ] at ht'
        obtain ⟨k, hk, hgo⟩ := ih (n + 1) t s' (by omega) ht' hs'
        exact ⟨k, by omega, hgo⟩
  intro n t s ht hgo
  have hs : s.isFinished = false := by
    cases s with
    | finished => exact nomatch hgo
    | _ => rfl
  by_cases hn : n ≤ ms.length
  · exact goesOn (ms.length - n) n t s (by omega) ht hs
  · obtain ⟨k, rfl⟩ := Nat.exists_eq_add_of_le (Nat.le_of_not_le hn)
    have hm : s ∈ (p.upTo (endless ms) (ms.length + k)).tasks := ht.mem
    rw [tasks_upTo_endless hp] at hm
    simp [hend s hm] at hs

/-- Retry budgets bound the work of nested loops. No counter of a retry loop comes near the point
where it would wrap. An opening asks for a connection once and once for every retry, and closes at
most one. A call makes an attempt once and once for every retry, and every retry may take a whole
opening. In every fair run each of them ends. -/
theorem retry_budgets_bound_nested_loops {a : Address} {config : Config} {us : Draws}
    {clock : Clock} {start : Proxy} (h : create a config us clock = .ok start) :
    (∀ p, start.Stretches p → ∀ t s r, p.At t s → r ∈ s.loops →
      r.attempt ≤ r.maxRetries ∧ r.maxRetries ≤ 32 ∧
        r.attempts.toNat = r.attempt.toNat + 1 ∧ r.advance.attempt.toNat = r.attempt.toNat + 1) ∧
    (∀ ms t time, ⟨time, some t, .submitted .connect⟩ ∈ (start.run ms).history →
      let calls := (start.run ms).startedBy t
      calls.count .connect ≤ config.maxOpenRetries.toNat + 1 ∧
        calls.countP ChannelCall.isClose ≤ 1) ∧
    (∀ ms t time operation arenaSize request,
      ⟨time, some t, .submitted (.invoke operation arenaSize request)⟩ ∈ (start.run ms).history →
      let calls := (start.run ms).startedBy t
      calls.countP ChannelCall.isInvoke ≤ config.maxCallRetries.toNat + 1 ∧
        calls.count .connect ≤ config.maxCallRetries.toNat * (config.maxOpenRetries.toNat + 1) ∧
        calls.countP ChannelCall.isClose ≤ config.maxCallRetries.toNat) ∧
    ∀ ms : Nat → Move, start.Fair ms → ∀ n t time job,
      ⟨time, some t, .submitted job⟩ ∈ (start.upTo ms n).history →
      ∃ k ≥ n, ∃ o, (start.upTo ms k).At t (.finished o) ∧
        (start.upTo ms k).Completes t job o := by
  have hstart : start.Attainable := ⟨start, fresh_of_create h, .refl⟩
  have attainable (ms : List Move) : (start.run ms).Attainable :=
    hstart.stretches (run_stretches ms)
  have same (ms : List Move) : (start.run ms).config = config :=
    (run_stretches ms).config.trans (config_of_create h)
  refine ⟨?_, ?_, ?_, ?_⟩
  · intro p hp t s r ht hr
    exact (hstart.stretches hp).loop_le ht hr
  · intro ms t time hm
    have hle := connect_calls_le (attainable ms) hm
    rwa [same] at hle
  · intro ms t time operation arenaSize request hm
    have hle := invoke_calls_le (attainable ms) hm
    rwa [same] at hle
  · intro ms hfair n t time job hm
    have hlt := (attainable _).tasksExist _ hm t rfl
    obtain ⟨k, hk, o, ho⟩ := hfair.finishes hstart hlt
    obtain ⟨-, new, hh, -⟩ := (upTo_stretches start ms hk).continues
    have hm' : ⟨time, some t, .submitted job⟩ ∈ (start.upTo ms k).history :=
      hh ▸ List.mem_append_right _ hm
    exact ⟨k, hk, o, ho, (attainable _).completes hm' ho⟩

/-- With one retry for each loop, an opening and then a call use up all that they may. -/
theorem nested_loops_use_up_their_budget :
    let config : Config := { Config.default with maxOpenRetries := 1, maxCallRetries := 1 }
    let start := { ofDefaults ⟨"svc", by decide⟩ [] with config := config }
    let reopening (t : TaskId) : List Move := [.resume t (.reply (.failed .endpointTooBusy)),
      .tick 100 0, .resume t .elapsed, .resume t (.reply (.connected .opened)),
      .resume t (.reply .done)]
    let parts : List (List Move) := [[.submit .connect, .resume 0 .turn,
        .resume 0 (.reply (.connected .opened)), .drift 0 .faulted, .submit .connect,
        .resume 1 .turn],
      reopening 1,
      [.submit (.invoke "a" 8 "x"), .resume 2 .turn, .drift 1 .faulted,
        .resume 2 (.reply (.failed .endpointDisconnected))],
      reopening 2,
      [.resume 2 (.reply (.failed .endpointTooBusy))]]
    let ms := parts.flatten
    let opened := (start.run ms).startedBy 1
    let called := (start.run ms).startedBy 2
    ((start.run (ms.take 9)).At 1 (.connecting .owner ⟨1, 1, 0⟩) ∧
      (RetryLoop.mk 1 1 0).attempts.toNat = 2) ∧
    (opened.count .connect = 2 ∧ opened.count .connect ≤ 1 + 1 ∧
      opened.countP ChannelCall.isClose = 1 ∧ opened.countP ChannelCall.isClose ≤ 1) ∧
    (called.countP ChannelCall.isInvoke = 2 ∧ called.countP ChannelCall.isInvoke ≤ 1 + 1 ∧
      called.count .connect = 2 ∧ called.count .connect ≤ 1 * (1 + 1) ∧
      called.countP ChannelCall.isClose = 1 ∧ called.countP ChannelCall.isClose ≤ 1) ∧
    ∃ k o, (start.upTo (endless ms) k).At 2 (.finished o) ∧
      (start.upTo (endless ms) k).Completes 2 (.invoke "a" 8 "x") o := by
  intro config start reopening parts ms opened called
  have hstart : create ⟨"svc", by decide⟩ config [] .unbounded = .ok start := rfl
  obtain ⟨hloops, hopen, hcall, hends⟩ := retry_budgets_bound_nested_loops hstart
  have hat : (start.run (ms.take 9)).At 1 (.connecting .owner ⟨1, 1, 0⟩) := by decide +kernel
  obtain ⟨-, -, hattempts, -⟩ := hloops _ (run_stretches _) 1 _ ⟨1, 1, 0⟩ hat (.head _)
  have hopened : ⟨0, some 1, .submitted .connect⟩ ∈ (start.run ms).history := by decide +kernel
  have hcalled : ⟨100, some 2, .submitted (.invoke "a" 8 "x")⟩ ∈ (start.run ms).history := by
    decide +kernel
  have hfair : start.Fair (endless ms) :=
    fair_endless (fresh_of_create hstart).reaped (by decide +kernel)
  obtain ⟨hconnects, hcloses⟩ := hopen ms 1 0 hopened
  obtain ⟨hinvokes, hreconnects, hrecloses⟩ := hcall ms 2 100 "a" 8 "x" hcalled
  obtain ⟨k, -, o, ho⟩ := hends (endless ms) hfair ms.length 2 100 (.invoke "a" 8 "x")
    (upTo_endless start ms ▸ hcalled)
  exact ⟨⟨hat, hattempts⟩, ⟨by decide +kernel, hconnects, by decide +kernel, hcloses⟩,
    ⟨by decide +kernel, hinvokes, by decide +kernel, hreconnects, by decide +kernel, hrecloses⟩,
    k, o, ho⟩

end ResilientProxy.Proxy
