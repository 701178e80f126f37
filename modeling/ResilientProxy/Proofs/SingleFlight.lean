import ResilientProxy.Proofs.CallLoop
import ResilientProxy.Proofs.Newest

/-!
# Openings are single-flight

However many openings and reconnecting calls are in line for the lock, one of them calls the
channel, and each of the others decides by what it finds when the lock is its own. As long as the
newest connection is reported open, that is this connection: an opening returns at once, and a call
sleeps and goes on with it.
-/

namespace ResilientProxy

/-- `e` is the first event of its task in `new`. -/
def FirstIn (new : List Event) (e : Event) : Prop :=
  ∃ later between, new = later ++ e :: between ∧ ∀ b ∈ between, b.task ≠ e.task

theorem FirstIn.task_eq {new : List Event} {e e' : Event} (h : FirstIn new e)
    (h' : FirstIn new e') (ht : e.task = e'.task) : e = e' := by
  obtain ⟨later, between, rfl, hno⟩ := h
  obtain ⟨later', between', heq, hno'⟩ := h'
  obtain ⟨mid, hl, hb⟩ | ⟨mid, hl, hb⟩ := List.append_eq_append_iff.mp heq
  · cases mid with
    | nil => exact (List.cons.inj hb).1
    | cons x mid =>
      obtain ⟨rfl, rfl⟩ := List.cons.inj hb
      exact absurd ht.symm (hno e' (by simp))
  · cases mid with
    | nil => exact (List.cons.inj hb).1.symm
    | cons x mid =>
      obtain ⟨rfl, rfl⟩ := List.cons.inj hb
      exact absurd ht (hno' e (by simp))

theorem FirstIn.append {new : List Event} {e : Event} (h : FirstIn new e) (later : List Event) :
    FirstIn (later ++ new) e := by
  obtain ⟨later', between, rfl, hno⟩ := h
  exact ⟨later ++ later', between, (List.append_assoc ..).symm, hno⟩

/-- What happens, the latest first, when an opening is told that the connection is open. -/
def Opener.spared (wait : Duration) : Opener → List Happening
  | .owner => [.returned (.connected (.ok .alreadyOpen)), .lockReleased,
      .openingEnded (.ok .alreadyOpen)]
  | .call _ => [.waiting wait, .lockReleased, .openingEnded (.ok .alreadyOpen)]

/-- The call of a task that has handed an attempt of it to the channel. -/
def Stage.tried : Stage → Option Call
  | .awaitingLock (.connect o) | .connecting o _ | .connectPause o .. | .replacing o .. => o.call?
  | .attempting c .. | .callPause c _ => some c
  | _ => none

theorem Lapsed.of_cons {conn : ConnId} {old new : List Event} {e : Event}
    (h : Lapsed conn old (e :: new)) (hq : ∀ s, e.what ≠ .queried conn s)
    (hc : e.what ≠ .callStarted (.close conn)) : Lapsed conn old new := by
  generalize hl : e :: new = l at h
  cases h with
  | reported he hx hs =>
    subst hl
    obtain rfl | he := List.mem_cons.mp he
    · exact absurd hx (hq _)
    · exact .reported he hx hs
  | @stopped later rest x t o stop ht hx ho hg =>
    obtain ⟨rfl, heq⟩ | ⟨mid, rfl, rfl⟩ := List.cons_eq_append_iff.mp hl
    · obtain ⟨rfl, -⟩ := List.cons.inj heq
      exact absurd hx hc
    · exact .stopped ht hx ho hg

/-- As long as a connection is reported open, and nobody closes it, its stay has not lapsed. -/
theorem not_lapsed {conn : ConnId} {old new : List Event}
    (hq : ∀ e ∈ new, ∀ s, e.what = .queried conn s → s = .opened)
    (hc : ∀ e ∈ new, e.what ≠ .callStarted (.close conn)) : ¬ Lapsed conn old new := by
  intro h
  cases h with
  | reported he hx hs => exact hs (hq _ he _ hx)
  | stopped _ he => exact hc _ (by simp) he

namespace Proxy

variable {p q r : Proxy} {t : TaskId} {s s' : Stage} {es es₁ es₂ : List Happening} {conn : ConnId}
  {c : Call} {o : Opener} {goal : Goal} {d : Nat}

theorem Leaves.not_lockTaken {result : Except ConnectionError OpenOutcome} {l : Lock}
    (h : p.Leaves t o result s es l) : .lockTaken goal ∉ es := by
  cases h <;> simp

/-- Only who waits for the lock takes it, only when it is its own, and only once in a turn. -/
theorem Turn.takes (h : p.Turn t s s' es q) (hx : .lockTaken goal ∈ es) :
    s = .awaitingLock goal ∧ p.lock.owner = some t ∧ .lockTaken goal ∉ es.dropLast := by
  have hnote : ∀ {ns : List Happening}, Noted ns → .lockTaken goal ∉ ns := fun hn =>
    hn.not_mem nofun
  cases h with
  | foundOpen hl _ _ hx' =>
    obtain rfl : goal = _ := by simpa [hx'.not_lockTaken] using hx
    exact ⟨rfl, hl, by simp [hx'.not_lockTaken]⟩
  | foundFaulted hl | foundClosed hl | foundEmpty hl | closeStarted hl | stoppedClosed hl
  | stoppedEmpty hl | abortStarted hl | attemptedEmpty hl | arenaRefused hl | attemptSent hl =>
    obtain rfl : goal = _ := by simpa using hx
    exact ⟨rfl, hl, by simp⟩
  | connected _ hx' => simp [hx'.not_lockTaken, hnote (p.noted_installNotes _)] at hx
  | replaced he hn hx' =>
    cases he <;> simp [hx'.not_lockTaken, hnote (p.noted_installNotes _),
      hnote (p.noted_staleNotes _), hnote hn.noted] at hx
  | connectFailed _ hx' => simp [hx'.not_lockTaken] at hx
  | connectPaused | connectBackedOff => simp [hnote (p.noted_willReopenNotes _ _)] at hx
  | drained he hn =>
    cases he <;> simp [hnote (p.noted_stopNotes _ _), hnote hn.noted] at hx
  | failedForGood he | teardownClosed he => cases he <;> simp at hx
  | lostConnection he | backedOff he => cases he <;> simp [hnote (p.noted_willRetryNotes _ _)] at hx
  | teardownAborted he => cases he <;> simp [hnote (p.noted_teardownAbortNotes _)] at hx
  | _ => simp at hx

/-- Taking the lock is what a turn begins with. -/
theorem Turn.of_lockTaken (h : p.Turn t s s' (es₁ ++ .lockTaken goal :: es₂) q) :
    s = .awaitingLock goal ∧ p.lock.owner = some t ∧ es₂ = [] := by
  have hm : .lockTaken goal ∈ es₁ ++ .lockTaken goal :: es₂ := by simp
  obtain ⟨hs, hl, hno⟩ := h.takes hm
  refine ⟨hs, hl, ?_⟩
  cases es₂ with
  | nil => rfl
  | cons y es₂ => simp at hno

/-- An opening asks the channel about the connection that it finds; if that is open, the opening is
over. -/
theorem Turn.asks (h : p.Turn t (.awaitingLock (.connect o)) s' (es ++ [.lockTaken (.connect o)]) q)
    (hc : p.slot.handle = some conn) :
    ∃ rest cs, es = rest ++ [.queried conn cs] ∧ (cs = .opened →
      rest = o.spared p.config.reconnectWait ∧
        ∀ c, o = .call c → s' = .callPause c (p.clock.after p.now p.config.reconnectWait)) := by
  generalize hs : Stage.awaitingLock (.connect o) = s at h
  generalize hes : es ++ [.lockTaken (.connect o)] = es' at h
  cases h with
  | foundOpen _ hc' _ hx =>
    cases hs
    cases hc'.symm.trans hc
    cases hx with
    | owner =>
      exact ⟨Opener.spared _ .owner, .opened, List.append_cancel_right hes, fun _ => ⟨rfl, nofun⟩⟩
    | @alreadyOpen c =>
      refine ⟨Opener.spared _ (.call c), .opened, List.append_cancel_right hes, fun _ => ⟨rfl, ?_⟩⟩
      rintro c ⟨⟩
      rfl
  | foundFaulted _ hc' =>
    cases hs
    cases hc'.symm.trans hc
    exact ⟨[.callStarted .connect], .faulted, List.append_cancel_right hes, nofun⟩
  | foundClosed _ hc' =>
    cases hs
    cases hc'.symm.trans hc
    exact ⟨[.callStarted .connect, .letGo conn], .closed, List.append_cancel_right hes, nofun⟩
  | foundEmpty _ hc' => exact nomatch hc'.symm.trans hc
  | @closeStarted stop | @stoppedClosed stop | @stoppedEmpty stop => cases stop <;> cases hs
  | _ => cases hs

/-- An attempt takes the lock before anything else happens, and goes to the connection that it
finds. -/
theorem Turn.hands (h : p.Turn t (.awaitingLock (.attempt c)) s' es q) :
    ∃ rest, es = rest ++ [.lockTaken (.attempt c)] ∧
      ∀ conn, p.slot.handle = some conn → c.arenaSize ≤ Arena.largest → rest =
        [.callStarted (.invoke conn c.arenaSize 0), .lockReleased, .lookedUp (some conn)] := by
  generalize hs : Stage.awaitingLock (.attempt c) = s at h
  cases h with
  | attemptedEmpty _ hc =>
    cases hs
    exact ⟨[_, _, _, _], rfl, fun conn hc' => nomatch hc.symm.trans hc'⟩
  | arenaRefused _ _ ha =>
    cases hs
    exact ⟨[_, _, _], rfl, fun conn _ ha' => absurd ha' (Nat.not_le.mpr ha)⟩
  | attemptSent _ hc =>
    cases hs
    refine ⟨[_, _, _], rfl, fun conn hc' _ => ?_⟩
    cases hc.symm.trans hc'
    rfl
  | @closeStarted stop | @stoppedClosed stop | @stoppedEmpty stop => cases stop <;> cases hs
  | _ => cases hs

theorem Leaves.tried {result : Except ConnectionError OpenOutcome} {l : Lock}
    (h : p.Leaves t o result s es l) (hs : s.tried = some c) : o.call? = some c := by
  cases h with
  | alreadyOpen => exact hs
  | _ => exact nomatch hs

theorem Turn.tried (h : p.Turn t s s' es q)
    (hs : ∀ c, s.tried = some c → c.arenaSize ≤ Arena.largest) :
    ∀ c, s'.tried = some c → c.arenaSize ≤ Arena.largest := by
  cases h with
  | @began job => cases job <;> exact nofun
  | foundOpen _ _ _ hx | connected _ hx | replaced _ _ hx | connectFailed _ hx =>
    exact fun c hc => hs c (hx.tried hc)
  | attemptSent _ _ ha =>
    rintro c ⟨⟩
    exact ha
  | foundFaulted | foundClosed | foundEmpty | connectedOver | connectPaused | connectBackedOff
  | connectAgain | allocated | arenaShort | lostConnection | backedOff => exact hs
  | _ => exact nofun

/-- An attempt is handed to the channel with an arena that can be reserved. -/
theorem preserved_tried :
    Preserved fun _ _ _ _ s _ => ∀ c, s.tried = some c → c.arenaSize ≤ Arena.largest where
  queued _ _ _ _ _ := nofun
  teardown _ _ _ _ _ _ := nofun
  turn _ _ _ _ _ _ _ hs h := h.tried hs
  later _ _ _ _ _ _ _ _ hs := hs
  vanished _ _ _ _ _ _ _ _ := nofun

/-- Where a task that pauses until `d` before the next attempt of call `c` can have come to by
`now`, as long as nothing has happened in it. -/
inductive Pausing (c : Call) (d now : Nat) : Stage → Prop where
  | pausing : Pausing c d now (.callPause c d)
  | inLine (hd : d ≤ now) : Pausing c d now (.awaitingLock (.attempt c.advance))
  | vanished : Pausing c d now (.finished .vanished)

theorem Pausing.later {now now' : Nat} (h : Pausing c d now s) (hn : now ≤ now') :
    Pausing c d now' s := by
  cases h with
  | pausing => exact .pausing
  | inLine hd => exact .inLine (Nat.le_trans hd hn)
  | vanished => exact .vanished

/-- A pause lasts until its end, and the next attempt of the call follows. -/
inductive PausesOut (p q : Proxy) (t : TaskId) (c : Call) (d : Nat) : Prop where
  | still {s : Stage} (new : List Event) (hh : q.history = new ++ p.history)
      (hnew : ∀ e ∈ new, e.task ≠ some t) (ht : q.At t s) (hs : Pausing c d q.now s)
  | done {e : Event} (new : List Event) (hh : q.history = new ++ p.history) (he : FirstIn new e)
      (ht : e.task = some t) (hx : e.what = .lockTaken (.attempt c.advance)) (hd : d ≤ e.time)

theorem PausesOut.stretch (h : p.PausesOut q t c d) (hs : q.Stretch r) : p.PausesOut r t c d := by
  cases h with
  | done new hh he ht hx hd =>
    obtain ⟨-, new', hh', -⟩ := hs.continues
    exact .done (new' ++ new) (by rw [hh', hh, List.append_assoc]) (he.append new') ht hx hd
  | still new hh hnew ht hp =>
    cases hs.passes ht with
    | aside new' hh' hnew' hn ht' =>
      have hall : ∀ e ∈ new' ++ new, e.task ≠ some t :=
        List.forall_mem_append.mpr ⟨hnew', hnew⟩
      have hall' : r.history = new' ++ new ++ p.history := by rw [hh', hh, List.append_assoc]
      obtain ht' | ⟨-, ht'⟩ := ht'
      · exact .still _ hall' hall ht' (hp.later hn)
      · exact .still _ hall' hall ht' .vanished
    | turned hturn hr =>
      have hf := hturn.frame
      subst hr
      cases hp with
      | pausing =>
        cases hturn with
        | paused hd => exact .still new hh hnew (ht.goOn rfl) (.inLine hd)
      | inLine hd =>
        obtain ⟨rest, rfl, -⟩ := hturn.hands
        refine .done (e := ⟨q.now, some t, .lockTaken (.attempt c.advance)⟩) _ ?_
          ⟨rest.map (⟨q.now, some t, ·⟩), new, rfl, hnew⟩ rfl rfl hd
        simp [hf.history, hf.now, hh]
      | vanished => exact nomatch hturn.unfinished

theorem Stretches.pausesOut (h : p.Stretches q) (ht : p.At t (.callPause c d)) :
    p.PausesOut q t c d := by
  induction h with
  | refl => exact .still [] rfl (by simp) ht .pausing
  | tail _ hs ih => exact ih.stretch hs

/-- After a pause, the first that happens in the task is that it takes the lock for the next
attempt. -/
theorem PausesOut.firstIn (h : p.PausesOut q t c d) {new : List Event} {e : Event}
    (hh : q.history = new ++ p.history) (he : FirstIn new e) (ht : e.task = some t) :
    e.what = .lockTaken (.attempt c.advance) ∧ d ≤ e.time := by
  cases h with
  | still new' hh' hnew =>
    obtain rfl := List.append_cancel_right (hh'.symm.trans hh)
    obtain ⟨later, between, rfl, -⟩ := he
    exact absurd ht (hnew e (by simp))
  | done new' hh' he' ht' hx hd =>
    obtain rfl := List.append_cancel_right (hh'.symm.trans hh)
    obtain rfl := he.task_eq he' (ht.trans ht'.symm)
    exact ⟨hx, hd⟩

/-- As long as nothing has happened in the task, it pauses, until `d` and no longer. -/
theorem PausesOut.pausing (h : p.PausesOut q t c d) {new : List Event}
    (hh : q.history = new ++ p.history) (hnew : ∀ e ∈ new, e.task ≠ some t) (ht : q.At t s) :
    Pausing c d q.now s := by
  cases h with
  | still new' hh' hnew' ht' hs =>
    obtain rfl := ht'.unique ht
    exact hs
  | done new' hh' he hx =>
    obtain rfl := List.append_cancel_right (hh'.symm.trans hh)
    obtain ⟨later, between, rfl, -⟩ := he
    exact absurd hx (hnew _ (by simp))

/-- Where a connection stays, the channel opens no other. -/
theorem Stays.pending_ne (h : p.Stays conn) (ha : p.Attainable) (ht : p.At t s) :
    s.pending ≠ some .connect := by
  intro hs
  obtain ⟨o, r, rfl⟩ : ∃ o r, s = .connecting o r := by
    cases s with
    | connecting o r => exact ⟨o, r, rfl⟩
    | _ => exact nomatch hs
  cases h with
  | slot _ hopens => exact nomatch hopens t _ ht
  | hand hu =>
    obtain rfl := Orderly.holder_unique ha.inOrder ht.grip hu.grip
    exact nomatch ht.unique hu
  | dropped hd => exact nomatch ha.settled.left hd t _ ht
  | halted hr => exact nomatch ha.settled.halted hr t _ ht

/-- Where a connection stays, who gets the lock finds it. -/
theorem Stays.handle_eq (h : p.Stays conn) (ha : p.Attainable) (ht : p.At t (.awaitingLock goal))
    (hl : p.lock.owner = some t) : p.slot.handle = some conn := by
  cases h with
  | slot hc => exact hc
  | @hand u o r stale d hu =>
    have hown : p.lock.owner = some u := Orderly.holder ha.inOrder u hu.grip
    obtain rfl := Option.some.inj (hl.symm.trans hown)
    exact nomatch ht.unique hu
  | dropped hd => exact nomatch ha.settled.left hd t _ ht
  | halted hr => exact nomatch ha.settled.halted hr t _ ht

/-- An opening that has the lock, and is told that the connection is open, is over with that. -/
theorem connectLocked_spared (ht : p.At t (.awaitingLock (.connect o)))
    (hl : p.lock.owner = some t) (hc : p.slot.handle = some conn) (hq : p.query conn = .opened) :
    ∃ s, Stretches
      ({ p with
          slot := ⟨some conn, .opened⟩
          published := ConnState.opened.toByte
          lock := p.lock.pass }.goOn t s (o.spared p.config.reconnectWait ++
            [Happening.queried conn .opened, .lockTaken (.connect o)]))
      ((p.record (some t) (.lockTaken (.connect o))).connectLocked t o) := by
  obtain ⟨first, hfirst, hrest⟩ :=
    Relation.TransGen.head'_iff.mp (connectLocked_course ht hl).turns
  replace hrest := stretches_of_advances hrest
  obtain ⟨ht', hturn, -⟩ := hfirst
  have hs := ht.unique ht'
  -- of all turns, only the one that finds the connection open can be the first
  cases hturn with
  | foundOpen _ hc' _ hx =>
    cases hs
    obtain rfl := Option.some.inj (hc.symm.trans hc')
    cases hx with
    | owner => exact ⟨_, hrest⟩
    | alreadyOpen => exact ⟨_, hrest⟩
  | foundFaulted _ hc' hq' | foundClosed _ hc' hq' =>
    obtain rfl := Option.some.inj (hc.symm.trans hc')
    simp [hq] at hq'
  | foundEmpty _ hc' => simp [hc] at hc'
  | @closeStarted stop | @stoppedClosed stop | @stoppedEmpty stop => cases stop <;> exact nomatch hs
  | _ => exact nomatch hs

/-- An opening that has the lock goes through with its turn, and if the connection is reported open,
it is over at once. -/
theorem step_spared (ht : p.At t (.awaitingLock (.connect o))) (hl : p.lock.owner = some t)
    (hc : p.slot.handle = some conn) (hq : p.query conn = .opened) :
    ∃ rest, (p.step (.resume t .turn)).history =
      rest ++ (o.spared p.config.reconnectWait).map (⟨p.now, some t, ·⟩) ++
        ⟨p.now, some t, .queried conn .opened⟩ :: ⟨p.now, some t, .lockTaken (.connect o)⟩ ::
          p.history := by
  obtain ⟨s, hrun⟩ := connectLocked_spared ht hl hc hq
  have hstep : p.step (.resume t .turn) =
      ((p.record (some t) (.lockTaken (.connect o))).connectLocked t o).reap := by
    simp only [At] at ht
    simp [step, apply, resume, resumeAt, proceed, ht, hl]
  obtain ⟨-, rest, hrest, -⟩ :=
    Stretches.continues (hrun.trans reap_leads.stretches)
  refine ⟨rest, ?_⟩
  rw [hstep, hrest, goOn_history]
  simp

section

variable {later between new earlier : List Event} {a : Event} {time : Nat}

/-- The channel does not open another connection before the stay of the newest one has lapsed. -/
theorem Attainable.lapsed (h : p.Attainable) (ha : a.what.isConnected = true)
    (hh : p.history = later ++ ⟨time, some t, .callStarted .connect⟩ :: (between ++ a :: earlier)) :
    Lapsed (established earlier) (a :: earlier) between := by
  by_contra hno
  obtain ⟨q, r, s, s', es₁, es₂, rest, hq, rfl, ht, hturn, -, hold, -⟩ := h.origin (by simp) hh
  obtain ⟨rfl, hpending⟩ := hturn.of_started
  have hf := hturn.frame
  have hafter := hq.stretch (.turned ht hturn)
  have hhist : (r.goOn t s' ([] ++ .callStarted .connect :: es₂)).history =
      ⟨q.now, some t, .callStarted .connect⟩ :: between ++ a :: earlier := by
    rw [goOn_history, hf.history, hf.now, List.cons_append, hold]
    rfl
  have hstays := hafter.stays hhist ha fun hl => hno (hl.of_cons nofun nofun)
  exact hstays.pending_ne hafter (ht.goOn hf.tasks) hpending

/-- Who takes the lock before that finds the newest connection. -/
theorem Attainable.origin_lockTaken (h : p.Attainable) (ha : a.what.isConnected = true)
    (hh : p.history = later ++ ⟨time, some t, .lockTaken goal⟩ :: (between ++ a :: earlier))
    (hno : ¬ Lapsed (established earlier) (a :: earlier) between) :
    ∃ (q r : Proxy) (s' : Stage) (es : List Happening) (rest : List Event), q.Attainable ∧
      q.now = time ∧ q.At t (.awaitingLock goal) ∧ q.slot.handle = some (established earlier) ∧
      q.Turn t (.awaitingLock goal) s' (es ++ [.lockTaken goal]) r ∧
      (r.goOn t s' (es ++ [.lockTaken goal])).Stretches p ∧
      p.history = rest ++ (r.goOn t s' (es ++ [.lockTaken goal])).history ∧
      later = rest ++ es.map (⟨time, some t, ·⟩) := by
  obtain ⟨q, r, s, s', es₁, es₂, rest, hq, rfl, ht, hturn, hp, hold, rfl⟩ := h.origin (by simp) hh
  obtain ⟨rfl, hl, rfl⟩ := hturn.of_lockTaken
  have hf := hturn.frame
  have hstays := hq.stays hold.symm ha hno
  refine ⟨q, r, s', es₁, rest, hq, rfl, ht, hstays.handle_eq hq ht hl, hturn, hp, ?_, rfl⟩
  rw [hh, goOn_history, hf.history, hf.now, hold]
  simp

/-- Once the channel has established a connection, it opens no other until that one is reported
broken or closed, or taken down. Before that, whoever gets the lock to open one finds it; if it is
reported open, the channel is not called: an opening returns, and a call sleeps until the reconnect
wait is over, and the next that it does is another attempt, which goes to that connection. Whoever
has the lock gets as far as that in a single move. -/
theorem reconnects_single_flight (h : p.Reachable) (ha : a.what.isConnected = true)
    (hh : p.history = new ++ a :: earlier) :
    (∀ later time task between, new = later ++ ⟨time, task, .callStarted .connect⟩ :: between →
      Lapsed (established earlier) (a :: earlier) between) ∧
    (∀ later time task o between, new = later ++ ⟨time, task, .lockTaken (.connect o)⟩ :: between →
      ¬ Lapsed (established earlier) (a :: earlier) between →
      ∃ rest cs, later = rest ++ [⟨time, task, .queried (established earlier) cs⟩] ∧
        (cs = .opened → ∃ next,
          rest = next ++ (o.spared p.config.reconnectWait).map (⟨time, task, ·⟩) ∧
          ∀ c, o = .call c → c.arenaSize ≤ Arena.largest ∧
            (∀ e, FirstIn next e → e.task = task → e.what = .lockTaken (.attempt c.advance) ∧
              p.clock.after time p.config.reconnectWait ≤ e.time) ∧
            ∀ t s, task = some t → p.At t s → (∀ e ∈ next, e.task ≠ task) →
              Pausing c (p.clock.after time p.config.reconnectWait) p.now s)) ∧
    (∀ later time task c between, new = later ++ ⟨time, task, .lockTaken (.attempt c)⟩ :: between →
      ¬ Lapsed (established earlier) (a :: earlier) between → c.arenaSize ≤ Arena.largest →
      ∃ next, later = next ++
        [⟨time, task, .callStarted (.invoke (established earlier) c.arenaSize 0)⟩,
          ⟨time, task, .lockReleased⟩, ⟨time, task, .lookedUp (some (established earlier))⟩]) ∧
    ∀ t o, p.At t (.awaitingLock (.connect o)) → p.lock.owner = some t →
      ¬ Lapsed (established earlier) (a :: earlier) new → p.query (established earlier) = .opened →
      ∃ rest, (p.step (.resume t .turn)).history =
        rest ++ (o.spared p.config.reconnectWait).map (⟨p.now, some t, ·⟩) ++
          ⟨p.now, some t, .queried (established earlier) .opened⟩ ::
            ⟨p.now, some t, .lockTaken (.connect o)⟩ :: p.history := by
  have hatt := h.attainable
  have hsplit : ∀ {later between : List Event} {time : Nat} {task : Option TaskId} {x : Happening},
      new = later ++ ⟨time, task, x⟩ :: between → x.isAside = false →
      p.history = later ++ ⟨time, task, x⟩ :: (between ++ a :: earlier) ∧ ∃ t, task = some t := by
    intro later between time task x hx haside
    have hhist : p.history = later ++ ⟨time, task, x⟩ :: (between ++ a :: earlier) := by
      rw [hh, hx, List.append_assoc, List.cons_append]
    exact ⟨hhist, hatt.exists_task (e := ⟨time, task, x⟩) (by simp [hhist]) haside⟩
  refine ⟨fun later time task between hx => ?_, fun later time task o between hx hno => ?_,
    fun later time task c between hx hno hfits => ?_, fun t o ht hl hno hq => ?_⟩
  · obtain ⟨hhist, t, rfl⟩ := hsplit hx rfl
    exact hatt.lapsed ha hhist
  · obtain ⟨hhist, t, rfl⟩ := hsplit hx rfl
    obtain ⟨q, r, s', es, rest, hq, rfl, ht, hc, hturn, hp, hrest, rfl⟩ :=
      hatt.origin_lockTaken ha hhist hno
    obtain ⟨es, cs, rfl, hopen⟩ := hturn.asks hc
    refine ⟨rest ++ es.map (⟨q.now, some t, ·⟩), cs, by simp, fun hcs => ⟨rest, ?_⟩⟩
    obtain ⟨rfl, hpause⟩ := hopen hcs
    have hf := hturn.frame
    have hconfig : p.config = q.config := hp.config.trans hf.config
    have hclock : p.clock = q.clock := hp.clock.trans hf.clock
    refine ⟨by rw [hconfig], fun c hcall => ⟨?_, ?_⟩⟩
    · refine hq.tasks_of_preserved preserved_tried t _ ht c ?_
      rw [Stage.tried, hcall, Opener.call?]
    · obtain rfl := hpause c hcall
      have hout := hp.pausesOut (ht.goOn hf.tasks)
      rw [hconfig, hclock]
      refine ⟨fun e he het => hout.firstIn hrest he het, ?_⟩
      rintro u s ⟨⟩ hs hno
      exact hout.pausing hrest hno hs
  · obtain ⟨hhist, t, rfl⟩ := hsplit hx rfl
    obtain ⟨q, r, s', es, rest, hq, rfl, ht, hc, hturn, hp, hrest, rfl⟩ :=
      hatt.origin_lockTaken ha hhist hno
    obtain ⟨sent, hes, hsent⟩ := hturn.hands
    obtain rfl := List.append_cancel_right hes
    exact ⟨rest, by rw [hsent _ hc hfits]; rfl⟩
  · exact step_spared ht hl ((hatt.stays hh ha hno).handle_eq hatt ht hl) hq

/-- Two calls lose their connection at the same time: one opens another, and the other one, which
was in line behind it, finds that one open, sleeps, and goes on. -/
theorem reconnects_single_flight_of_two_calls :
    let start := ofDefaults ⟨"svc", by decide⟩ []
    let ms := [Move.submit .connect, .resume 0 .turn, .resume 0 (.reply (.connected .opened)),
      .submit (.invoke "op" 8 "x"), .submit (.invoke "op" 8 "y"), .resume 1 .turn, .resume 2 .turn,
      .drift 0 .faulted, .resume 1 (.reply (.failed .endpointDisconnected)),
      .resume 2 (.reply (.failed .endpointDisconnected)), .resume 1 (.reply (.connected .opened)),
      .resume 1 (.reply .done), .resume 2 .turn, .resume 1 .turn, .tick 30000 0, .resume 2 .elapsed]
    let c : Call := ⟨"op", 8, "y", ⟨0, 5, 0⟩⟩
    ∃ next before, (start.run ms).history = next ++
        [⟨0, some 2, .waiting start.config.reconnectWait⟩, ⟨0, some 2, .lockReleased⟩,
          ⟨0, some 2, .openingEnded (.ok .alreadyOpen)⟩, ⟨0, some 2, .queried 1 .opened⟩,
          ⟨0, some 2, .lockTaken (.connect (.call c))⟩] ++ before ∧
      ⟨30000, some 2, .lockTaken (.attempt c.advance)⟩ ∈ next ∧
      ∀ e, FirstIn next e → e.task = some 2 → e.what = .lockTaken (.attempt c.advance) ∧
        start.clock.after 0 start.config.reconnectWait ≤ e.time := by
  intro start ms c
  have hreach : (start.run ms).Reachable := reachable_ofDefaults ..
  let h := (start.run ms).history
  let between : List Event := [⟨0, some 1, .noted (.reconnected start.address "op")⟩,
    ⟨0, some 1, .lockReleased⟩, ⟨0, some 1, .openingEnded (.ok .opened)⟩,
    ⟨0, some 1, .callEnded .done⟩, ⟨0, some 1, .callStarted (.close 0)⟩]
  have hconn : established (h.drop 19) = 1 := by decide +kernel
  have hh : h = h.take 18 ++ ⟨0, some 1, .callEnded (.connected .opened)⟩ :: h.drop 19 := by
    decide +kernel
  have hx : h.take 18 = h.take 12 ++ ⟨0, some 2, .lockTaken (.connect (.call c))⟩ :: between := by
    decide +kernel
  have hno : ¬ Lapsed (established (h.drop 19))
      (⟨0, some 1, .callEnded (.connected .opened)⟩ :: h.drop 19) between := by
    rw [hconn]
    exact not_lapsed (by simp [between]) (by simp [between])
  obtain ⟨rest, cs, hlater, hopen⟩ :=
    (reconnects_single_flight hreach rfl hh).2.1 _ _ _ _ _ hx hno
  have hlast : (h.take 12).getLast? = some ⟨0, some 2, .queried 1 .opened⟩ := by decide +kernel
  obtain rfl : cs = .opened := by
    rw [hlater, List.getLast?_concat] at hlast
    simpa [hconn] using hlast
  obtain ⟨next, rfl, hnext⟩ := hopen rfl
  have hm : ⟨30000, some 2, .lockTaken (.attempt c.advance)⟩ ∈ h.take 12 := by decide +kernel
  rw [(run_stretches ms).config] at hlater hnext
  rw [(run_stretches ms).clock] at hnext
  rw [hlater] at hm
  refine ⟨next, between ++ ⟨0, some 1, .callEnded (.connected .opened)⟩ :: h.drop 19,
    hh.trans ?_, by simpa [Opener.spared] using hm, fun e he ht => ?_⟩
  · rw [hx, hlater, hconn]
    simp [Opener.spared]
  · simpa using (hnext c rfl).2.1 e he ht

end

end Proxy

end ResilientProxy
