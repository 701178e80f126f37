import ResilientProxy.Proofs.Finishing
import ResilientProxy.Proofs.Opening
import ResilientProxy.Proofs.SingleFlight

/-!
# Openings follow their reference loop

Whatever other tasks do meanwhile, what happens in a task from when it gets the lock to open the
connection until it gives the lock back is what the reference loop says, for what it found in the
slot, for the answers of the channel and for the jitter draws that it got.
-/

namespace ResilientProxy

namespace Opening

/-- The opening of a proxy with this configuration and this address that found this in the slot, and
that started when the machine's clock read `m`. -/
structure IsOf (x : Opening) (config : Config) (address : Address) (found : Finding) (m : Nat) :
    Prop where
  config : x.config = config
  address : x.address = address
  found : x.found = found
  started : x.started = m
  /-- Only a limit makes the closing of a connection be given up. -/
  limited : x.closing = none → x.config.closeTimeout ≠ none

theorem isOf_after {config : Config} {address : Address} {found : Finding} {ys : List Setback}
    {answer : Except ChannelError ConnState} {closed : Except ChannelError Unit} {m n : Nat} :
    (after config address found ys answer (some closed) m n).IsOf config address found m :=
  ⟨rfl, rfl, rfl, rfl, nofun⟩

/-- How far an opening has come that found `found` in the slot: with this in the slot, a task in
which this has happened, in order, since it got the lock stands at this stage. -/
inductive Progress (config : Config) (address : Address) (found : Finding) (m : Nat) (o : Opener) :
    Option ConnId → Stage → List Happening → Prop where
  | connecting {ys : List Setback} (hopen : found.isOpen = false) (h : Pending config ys) :
    Progress config address found m o found.stale
      (.connecting o ⟨.ofNat ys.length, config.maxOpenRetries, m⟩)
      (found.look ++ repeats config address ys ++ [.callStarted .connect])
  | pausing {ys : List Setback} {y : Setback} {d : Nat} (hopen : found.isOpen = false)
      (h : Pending config (ys ++ [y])) :
    Progress config address found m o found.stale
      (.connectPause o ⟨.ofNat ys.length, config.maxOpenRetries, m⟩ d)
      (found.look ++ repeats config address (ys ++ [y]))
  | replacing {handle : Option ConnId} {ys : List Setback} {cs : ConnState} {fresh conn : ConnId}
      {d : Option Nat} (hopen : found.isOpen = false) (h : Pending config ys)
      (hstale : found.stale = some conn) (hd : d ≠ none → config.closeTimeout ≠ none) :
    Progress config address found m o handle
      (.replacing o ⟨.ofNat ys.length, config.maxOpenRetries, m⟩ fresh conn d)
      (found.look ++ repeats config address ys ++
        [.callStarted .connect, .callEnded (.connected cs), .callStarted (.close conn)])
  | ended {handle : Option ConnId} {x : Opening} {s : Stage} {later : List Happening}
      (hx : x.IsOf config address found m) (ho : o = .owner →
        s = .finished (.connected x.result) ∧ later = [.returned (.connected x.result)]) :
    Progress config address found m o handle s (x.events ++ later)
  /-- The runtime ended before the opening did. -/
  | vanished {handle handle' : Option ConnId} {s : Stage} {ws : List Happening}
      (h : Progress config address found m o handle s ws) (hs : s.grip = .holding) :
    Progress config address found m o handle' (.finished .vanished) ws

section

variable {config : Config} {address : Address} {found : Finding} {o : Opener}
  {handle : Option ConnId} {s : Stage} {ws : List Happening} {m : Nat}

/-- What a call does after it has opened the connection is not part of the opening. -/
theorem Progress.ended_call {c : Call} {x : Opening} {later : List Happening}
    (hx : x.IsOf config address found m) :
    Progress config address found m (.call c) handle s (x.events ++ later) :=
  .ended hx nofun

/-- Off the lock, a task does not care what is in the slot. -/
theorem Progress.of_grip (h : Progress config address found m o handle s ws)
    (hs : s.grip ≠ .holding) (handle' : Option ConnId) :
    Progress config address found m o handle' s ws := by
  cases h with
  | ended hx ho => exact .ended hx ho
  | vanished h hg => exact .vanished h hg
  | _ => exact absurd rfl hs

theorem Progress.vanish (h : Progress config address found m o handle s ws)
    (hs : s.isFinished = false) (handle' : Option ConnId) :
    Progress config address found m o handle' (.finished .vanished) ws := by
  by_cases hg : s.grip = .holding
  · exact .vanished h hg
  · cases h with
    | ended hx ho =>
      cases o with
      | owner =>
        obtain ⟨rfl, -⟩ := ho rfl
        exact nomatch hs
      | call c => exact .ended_call hx
    | vanished => exact nomatch hs
    | _ => exact absurd rfl hg

/-- The reference loop conducts a task that stands at stage `s` and has done `ws`, in order, since
it got the lock. -/
inductive Conducts (x : Opening) (o : Opener) (s : Stage) (ws : List Happening) : Prop where
  /-- The task is at work under the lock, or the runtime ended under it. -/
  | underWay (h : ws <+: x.events) (hs : s.grip = .holding ∨ s = .finished .vanished)
  /-- The lock was given back; the task that the owner of the proxy started is over. -/
  | ended {later : List Happening} (h : ws = x.events ++ later) (ho : o = .owner →
      s = .finished (.connected x.result) ∧ later = [.returned (.connected x.result)])

theorem Progress.conducts (h : Progress config address found m o handle s ws) :
    ∃ x : Opening, x.IsOf config address found m ∧ x.Conducts o s ws := by
  induction h with
  | @connecting ys hopen hys =>
    refine ⟨after config address found ys (.ok .opened) (some (.ok ())) m 0, isOf_after,
      .underWay ?_ (.inl rfl)⟩
    rw [events_after_ok hopen hys]
    simp
  | @pausing ys y d hopen hys =>
    refine ⟨after config address found (ys ++ [y]) (.ok .opened) (some (.ok ())) m 0, isOf_after,
      .underWay ?_ (.inl rfl)⟩
    rw [events_after_ok hopen hys]
    simp
  | @replacing _ ys cs fresh conn d hopen hys hstale hd =>
    refine ⟨after config address found ys (.ok cs) (some (.ok ())) m 0, isOf_after,
      .underWay ?_ (.inl rfl)⟩
    have hcloses : (after config address found ys (.ok cs) (some (.ok ())) m 0).closes =
        [.callStarted (.close conn), .callEnded .done] := by
      simp [closes, closingEnds, after, hstale]
    rw [events_after_ok hopen hys, hcloses]
    simp
  | @ended handle x s later hx ho => exact ⟨x, hx, .ended rfl ho⟩
  | vanished _ hg ih =>
    obtain ⟨x, hx, hconducts⟩ := ih
    refine ⟨x, hx, ?_⟩
    cases hconducts with
    | underWay h => exact .underWay h (.inr rfl)
    | ended h ho =>
      refine .ended h fun howner => ?_
      obtain ⟨rfl, -⟩ := ho howner
      cases hg

end

end Opening

namespace Proxy

open Opening

variable {p q r : Proxy} {t u : TaskId} {s s' : Stage} {es : List Happening} {o : Opener}
  {found : Finding} {ws ns : List Happening} {ys : List Setback} {m : Nat}

/-- What an opening finds that gets the lock now. -/
def finding (p : Proxy) : Finding := p.slot.handle.map fun conn => (conn, p.query conn)

theorem Leaves.progress {x : Opening} {l : Lock}
    {result : Except ConnectionError OpenOutcome} (h : p.Leaves t o result s es l)
    (hx : x.IsOf p.config p.address found m) (hr : x.result = result) (handle : Option ConnId) :
    Progress p.config p.address found m o handle s (x.events ++ es.reverse) := by
  subst hr
  generalize hres : x.result = result at h
  cases h with
  | owner => exact .ended hx fun _ => ⟨by rw [hres], by rw [hres]; rfl⟩
  | _ => exact .ended_call hx

theorem installNotes_eq (h : Pending p.config ys) :
    p.installNotes ⟨.ofNat ys.length, p.config.maxOpenRetries, m⟩ =
      if 0 < ys.length then
        [.noted (.openedAfterRetrying p.address (.ofNat (ys.length + 1)) (.between m p.uptime))]
      else [] := by
  simp only [installNotes, RetryLoop.ofNat_pos h.length_le, RetryLoop.attempts_mk,
    RetryLoop.elapsed]

theorem willReopenNotes_eq (h : Pending p.config ys) (e : ChannelError) :
    p.willReopenNotes ⟨.ofNat ys.length, p.config.maxOpenRetries, m⟩ e =
      if ys.length = 0 then [.noted (.openWillRetry p.address p.config.maxOpenRetries e)]
      else [] := by
  simp only [willReopenNotes, RetryLoop.ofNat_eq_zero h.length_le]

/-- How the closing of the replaced connection ends, the reference loop says, too. -/
theorem CloseEnds.closingEnds {d : Option Nat} {ending : Happening}
    {closed : Except ChannelError Unit} {result : Except ConnectionError Unit}
    (he : p.CloseEnds d ending closed) (hn : p.CloseCounts true closed result ns)
    (hd : d ≠ none → p.config.closeTimeout ≠ none) :
    ∃ closing, (closing = none → p.config.closeTimeout ≠ none) ∧
      ∀ x : Opening, x.config = p.config → x.address = p.address → x.closing = closing →
        x.closingEnds.reverse = p.staleNotes result ++ (ns ++ [ending]) := by
  have hnotes : ∀ (e : ChannelError) (x : Opening), closed = .error e → x.address = p.address →
      (x.closingNotes e).reverse = p.staleNotes result ++ ns := by
    rintro e x rfl hx
    cases hn with
    | excused => simp [closingNotes, staleNotes, hx]
    | error h =>
      have hother := h.resolve_left (by simp)
      cases e with
      | invalidOperation detail => exact absurd rfl (hother detail)
      | _ => simp [closingNotes, staleNotes, hx]
  cases he with
  | done =>
    refine ⟨some (.ok ()), by simp, fun x _ _ hx => ?_⟩
    cases hn
    simp [Opening.closingEnds, hx, staleNotes]
  | @failed e =>
    refine ⟨some (.error e), by simp, fun x _ ha hx => ?_⟩
    simp [Opening.closingEnds, hx, hnotes e x rfl ha]
  | givenUp hm =>
    refine ⟨none, fun _ => hd (by simp [hm]), fun x hc ha hx => ?_⟩
    simp [Opening.closingEnds, hx, hc, hnotes _ x rfl ha]

theorem reverse_installNotes (r : RetryLoop) : (p.installNotes r).reverse = p.installNotes r := by
  rw [installNotes]
  split <;> rfl

theorem reverse_willReopenNotes (r : RetryLoop) (e : ChannelError) :
    (p.willReopenNotes r e).reverse = p.willReopenNotes r e := by
  rw [willReopenNotes]
  split <;> rfl

/-- After an attempt that failed, an opening that goes on pauses. -/
theorem pausing_progress (hopen : found.isOpen = false) (hys : Pending p.config ys)
    (hlt : ys.length < p.config.maxOpenRetries.toNat) (y : Setback)
    (hy : y.error.recovery ≠ .giveUp) (m d : Nat) (o : Opener) :
    Progress p.config p.address found m o found.stale
      (.connectPause o ⟨.ofNat ys.length, p.config.maxOpenRetries, m⟩ d)
      (found.look ++ repeats p.config p.address ys ++ [.callStarted .connect] ++
        (.waiting (y.wait p.config ys.length) :: .noted (.waitingToOpen p.address
            (.ofNat ys.length) (.ofNat (y.wait p.config ys.length).millis)) ::
          (y.draws ++ (p.willReopenNotes ⟨.ofNat ys.length, p.config.maxOpenRetries, m⟩ y.error ++
            [.callEnded (.failed y.error)]))).reverse) := by
  have hdraws : y.draws.reverse = y.draws := by
    rw [Setback.draws]
    split <;> rfl
  have hnext : Progress p.config p.address found m o found.stale _ _ :=
    .pausing hopen (hys.concat hy hlt) (d := d)
  rw [repeats_concat, Setback.happenings, ← willReopenNotes_eq hys] at hnext
  simpa [hdraws, reverse_willReopenNotes] using hnext

/-- Each turn of a task that opens the connection is one that the reference loop takes. -/
theorem Turn.progress (h : p.Turn t s s' es q)
    (hp : Progress p.config p.address found m o p.slot.handle s ws) :
    Progress p.config p.address found m o q.slot.handle s' (ws ++ es.reverse) := by
  generalize hslot : p.slot.handle = handle at hp
  cases hp with
  | @connecting ys hopen hys =>
    cases h with
    | @connected _ _ cs _ es _ hc hx =>
      have hstale : found.stale = none := hslot.symm.trans hc
      have hof : (after p.config p.address found ys (.ok cs) (some (.ok ())) m p.uptime).IsOf
          p.config p.address found m := isOf_after
      have hcloses :
          (after p.config p.address found ys (.ok cs) (some (.ok ())) m p.uptime).closes = [] := by
        simp [closes, after, hstale]
      have hdone := hx.progress hof (result_after_ok hopen hys) (some p.connections.length)
      rw [events_after_ok hopen hys, hcloses, ← installNotes_eq hys] at hdone
      simpa [reverse_installNotes] using hdone
    | @connectedOver _ _ cs conn hc =>
      have hstale : found.stale = some conn := hslot.symm.trans hc
      have hlist : found.look ++ Opening.repeats p.config p.address ys ++ [.callStarted .connect] ++
          [.callStarted (.close conn), .callEnded (.connected cs)].reverse =
          found.look ++ Opening.repeats p.config p.address ys ++
            [.callStarted .connect, .callEnded (.connected cs), .callStarted (.close conn)] := by
        simp
      rw [hlist]
      exact .replacing hopen hys hstale (by simp [deadline])
    | @connectFailed _ _ e _ _ _ hf hx =>
      have hlast := hf.imp_right (RetryLoop.exhausted_mk hys.length_le).mp
      have hof : (after p.config p.address found ys (.error e) (some (.ok ())) m p.uptime).IsOf
          p.config p.address found m := isOf_after
      rw [RetryLoop.attempts_mk] at hx ⊢
      have hdone := hx.progress hof (result_after_error hopen hys hlast) p.slot.handle
      rw [events_after_error hopen hys hlast] at hdone
      simpa using hdone
    | @connectPaused _ _ e he hr =>
      have hlt := RetryLoop.lt_of_exhausted_mk hys.length_le hr
      have hnext := pausing_progress hopen hys hlt ⟨e, .finite (1 / 2)⟩ (by simp [he])
        m (p.clock.after p.now p.config.reconnectWait) o
      simpa [hslot, Setback.wait, Setback.draws, he] using hnext
    | @connectBackedOff _ _ e u _ he hr hu =>
      have hlt := RetryLoop.lt_of_exhausted_mk hys.length_le hr
      have hnext := pausing_progress hopen hys hlt ⟨e, u⟩ (by simp [he])
        m (p.clock.after p.now (p.backoffDelay (.ofNat ys.length) u)) o
      simpa [hslot, Setback.wait, Setback.draws, he, backoffDelay] using hnext
  | @pausing ys y d hopen hys =>
    cases h with
    | connectAgain =>
      have hlen : ys.length + 1 = (ys ++ [y]).length := by simp
      rw [RetryLoop.advance_mk, hlen, hslot]
      exact .connecting hopen hys
  | @replacing _ ys cs fresh conn d hopen hys hstale hd =>
    cases h with
    | @replaced _ _ _ _ _ ending _ result ns _ es _ he hn hx =>
      obtain ⟨closing, hlimited, hends⟩ := he.closingEnds hn hd
      have hof : (after p.config p.address found ys (.ok cs) closing m p.uptime).IsOf
          p.config p.address found m := ⟨rfl, rfl, rfl, rfl, hlimited⟩
      have hcloses : (after p.config p.address found ys (.ok cs) closing m p.uptime).closes =
          .callStarted (.close conn) ::
            (p.staleNotes result ++ (ns ++ [ending])).reverse := by
        rw [← hends (after p.config p.address found ys (.ok cs) closing m p.uptime) rfl rfl rfl,
          List.reverse_reverse, closes]
        simp only [after, hstale]
      have hdone := hx.progress hof (result_after_ok hopen hys) (some fresh)
      rw [events_after_ok hopen hys, hcloses, ← installNotes_eq hys] at hdone
      simpa [reverse_installNotes] using hdone
  | ended hx ho =>
    cases o with
    | owner =>
      obtain ⟨rfl, -⟩ := ho rfl
      cases h.unfinished
    | call c =>
      rw [List.append_assoc]
      exact .ended_call hx
  | vanished => cases h.unfinished

theorem finding_of_handle {conn : ConnId} {cs : ConnState} (hc : p.slot.handle = some conn)
    (hq : p.query conn = cs) : p.finding = some (conn, cs) := by
  simp [finding, hc, hq]

/-- An opening that finds the connection open is over. -/
theorem events_of_open {x : Opening} {conn : ConnId} (hx : x.found = some (conn, .opened)) :
    x.events = [.queried conn .opened, .openingEnded (.ok .alreadyOpen), .lockReleased] := by
  have hopen : x.found.isOpen = true := by rw [hx]; rfl
  rw [Opening.events, if_pos hopen, x.result_of_open hopen, hx]
  rfl

/-- An opening begins with a look at the slot. -/
theorem Turn.progress_lockTaken
    (h : p.Turn t (.awaitingLock (.connect o)) s' (es ++ [.lockTaken (.connect o)]) q) :
    Progress p.config p.address p.finding p.uptime o q.slot.handle s' es.reverse := by
  generalize hs : Stage.awaitingLock (.connect o) = s at h
  generalize hes : es ++ [.lockTaken (.connect o)] = es' at h
  cases h with
  | @foundOpen o conn _ rest _ _ hc hq hx =>
    cases hs
    obtain rfl : es = rest ++ [.lockReleased, .openingEnded (.ok .alreadyOpen),
        .queried conn .opened] := by simpa using congrArg List.dropLast hes
    rw [finding_of_handle hc hq]
    have hof : (after p.config p.address (some (conn, .opened)) [] (.ok .opened) (some (.ok ()))
        p.uptime p.uptime).IsOf p.config p.address (some (conn, .opened)) p.uptime := isOf_after
    have hdone := hx.progress hof (Opening.result_of_open _ rfl) (some conn)
    rw [events_of_open rfl] at hdone
    simpa using hdone
  | @foundFaulted _ conn _ hc hq =>
    cases hs
    obtain rfl : es = [.callStarted .connect, .queried conn .faulted] := by
      simpa using congrArg List.dropLast hes
    rw [finding_of_handle hc hq]
    exact .connecting rfl pending_nil
  | @foundClosed _ conn _ hc hq =>
    cases hs
    obtain rfl : es = [.callStarted .connect, .letGo conn, .queried conn .closed] := by
      simpa using congrArg List.dropLast hes
    rw [finding_of_handle hc hq]
    exact .connecting rfl pending_nil
  | foundEmpty _ hc =>
    cases hs
    obtain rfl : es = [.callStarted .connect] := by simpa using congrArg List.dropLast hes
    have hnone : p.finding = none := by simp [finding, hc]
    rw [hnone]
    exact .connecting rfl pending_nil
  | @closeStarted stop | @stoppedClosed stop | @stoppedEmpty stop => cases stop <;> cases hs
  | _ => cases hs

/-! ## Runs -/

/-- A stretch takes an opening along its reference loop, or leaves it where it is. -/
theorem Stretch.progress (hs : p.Stretch q) (hp : p.Attainable) (ht : p.At t s)
    (h : Progress p.config p.address found m o p.slot.handle s ws) :
    ∃ s' new, q.At t s' ∧ q.eventsOf t = new ++ p.eventsOf t ∧
      Progress p.config p.address found m o q.slot.handle s'
        (ws ++ (new.map (·.what)).reverse) := by
  have hturned : ∀ r s' es, p.Turn t s s' es r → q = r.goOn t s' es →
      ∃ s' new, q.At t s' ∧ q.eventsOf t = new ++ p.eventsOf t ∧
        Progress p.config p.address found m o q.slot.handle s'
          (ws ++ (new.map (·.what)).reverse) := by
    rintro r s' es hturn rfl
    refine ⟨s', _, ht.goOn hturn.frame.tasks, eventsOf_turn hturn.frame, ?_⟩
    simpa [Function.comp_def] using hturn.progress h
  cases hs.passes ht with
  | turned hturn hq => exact hturned _ _ _ hturn hq
  | aside new hh hnew hn hat =>
    have hsame : q.eventsOf t = [] ++ p.eventsOf t := eventsOf_of_append hh hnew
    obtain hat | ⟨hs', hat⟩ := hat
    · by_cases hg : s.grip = .holding
      · obtain hslot | ⟨r, s', es, hturn, hq⟩ | hend := hs.slot_eq hp.inOrder ht hg
        · exact ⟨s, [], hat, hsame, by simpa [hslot] using h⟩
        · exact hturned _ _ _ hturn hq
        · have hoff := grip_of_keepsProxy (keepsProxy_of_isFinished (hend t s hat))
          exact nomatch hoff.symm.trans hg
      · exact ⟨s, [], hat, hsame, by simpa using h.of_grip hg _⟩
    · exact ⟨_, [], hat, hsame, by simpa using h.vanish hs' _⟩

theorem Stretches.progress (hs : p.Stretches q) (hp : p.Attainable) (ht : p.At t s)
    (h : Progress p.config p.address found m o p.slot.handle s ws) :
    ∃ s' new, q.At t s' ∧ q.eventsOf t = new ++ p.eventsOf t ∧
      Progress p.config p.address found m o q.slot.handle s'
        (ws ++ (new.map (·.what)).reverse) := by
  induction hs with
  | refl => exact ⟨s, [], ht, rfl, by simpa using h⟩
  | @tail q r hq hstretch ih =>
    obtain ⟨s', new, hat, hnew, hprogress⟩ := ih
    rw [← Stretches.config hq, ← Stretches.address hq] at hprogress ⊢
    obtain ⟨s'', new', hat', hnew', hprogress'⟩ := hstretch.progress (hp.stretches hq) hat hprogress
    refine ⟨s'', new' ++ new, hat', by rw [hnew', hnew, List.append_assoc], ?_⟩
    simpa using hprogress'

/-- What happens in a task, in order. -/
def happeningsOf (t : TaskId) (es : List Event) : List Happening :=
  ((es.filter (·.task == some t)).map (·.what)).reverse

/-- At some moment on its way to `p`, where it was `q`, task `t` took the lock to open the
connection. -/
structure OpensAt (q p : Proxy) (t : TaskId) (o : Opener) : Prop where
  attainable : q.Attainable
  leads : q.Stretches p
  waits : q.At t (.awaitingLock (.connect o))
  owns : q.lock.owner = some t

/-- Whoever got the lock to open the connection has been conducted by the reference loop ever
since. -/
theorem Attainable.conducted (h : p.Attainable) {time : Nat} {later earlier : List Event}
    (hh : p.history = later ++ ⟨time, some t, .lockTaken (.connect o)⟩ :: earlier) :
    ∃ (q : Proxy) (x : Opening) (s : Stage), q.OpensAt p t o ∧ q.history = earlier ∧
      q.now = time ∧ x.IsOf p.config p.address q.finding q.uptime ∧ p.At t s ∧
      x.Conducts o s (happeningsOf t later) := by
  obtain ⟨q, r, s, s', es₁, es₂, rest, hq, hnow, ht, hturn, hp, hold, rfl⟩ := h.origin (by simp) hh
  obtain ⟨rfl, howner, rfl⟩ := hturn.of_lockTaken
  have hf := hturn.frame
  have hfirst : q.Stretch _ := .turned ht hturn
  have hafter := hq.stretch hfirst
  have hstart := hturn.progress_lockTaken
  rw [← hf.config, ← hf.address] at hstart
  obtain ⟨s'', new, hat, hnew, hprogress⟩ := hp.progress hafter (ht.goOn hf.tasks) hstart
  -- what happened in the task after this turn is what is new in it
  have hfilter : (es₁.map (⟨q.now, some t, ·⟩ : Happening → Event)).filter (·.task == some t) =
      es₁.map (⟨q.now, some t, ·⟩) := by
    rw [List.filter_eq_self]
    simp
  have hrest : rest.filter (·.task == some t) = new := by
    rw [eventsOf_turn hf, eventsOf, hh, hold] at hnew
    have hboth : rest.filter (·.task == some t) ++ (es₁.map (⟨q.now, some t, ·⟩) ++
        ⟨q.now, some t, .lockTaken (.connect o)⟩ :: q.eventsOf t) =
        new ++ (es₁.map (⟨q.now, some t, ·⟩) ++
          ⟨q.now, some t, .lockTaken (.connect o)⟩ :: q.eventsOf t) := by
      simpa [← hnow, hfilter, eventsOf] using hnew
    exact List.append_cancel_right hboth
  have hhappenings : happeningsOf t (rest ++ es₁.map (⟨time, some t, ·⟩)) =
      es₁.reverse ++ (new.map (·.what)).reverse := by
    rw [happeningsOf, ← hnow, List.filter_append, hfilter, hrest]
    simp [Function.comp_def]
  obtain ⟨x, hx, hconducts⟩ := hprogress.conducts
  refine ⟨q, x, s'', ⟨hq, .head hfirst hp, ht, howner⟩, hold.symm, hnow, ?_, hat, ?_⟩
  · rwa [hp.config, hp.address]
  · rwa [hhappenings]

/-! ## The owner's openings -/

/-- Whether a task at this stage is about to open the connection for the owner. -/
def beforeOpening : Stage → Bool
  | .queued .connect | .awaitingLock (.connect .owner) => true
  | _ => false

/-- Whether a task at this stage has got the lock to open the connection for the owner. -/
def sinceOpening : Stage → Bool
  | .connecting .owner _ | .connectPause .owner .. | .replacing .owner .. |
    .finished (.connected _) => true
  | _ => false

/-- Before an opening for the owner gets the lock, nothing happens in its task. -/
structure OwnerOpens (_ : Config) (_ : Clock) (_ : Nat) (t : TaskId) (s : Stage)
    (es : List Event) : Prop where
  before : beforeOpening s = true → es.map (·.what) = [.submitted .connect]
  since : sinceOpening s = true →
    ∃ time, ⟨time, some t, .lockTaken (.connect .owner)⟩ ∈ es

theorem Leaves.ownerOpens {result : Except ConnectionError OpenOutcome} {l : Lock}
    (h : p.Leaves t o result s es l) :
    beforeOpening s = false ∧ (sinceOpening s = true → o = .owner) := by
  cases h with
  | owner => exact ⟨rfl, fun _ => rfl⟩
  | _ => exact ⟨rfl, nofun⟩

theorem Turn.beforeOpening (h : p.Turn t s s' es q) (hs : beforeOpening s' = true) :
    beforeOpening s = true ∧ es = [] := by
  cases h with
  | @began job => cases job <;> first | exact ⟨rfl, rfl⟩ | exact nomatch hs
  | foundOpen _ _ _ hx | connected _ hx | replaced _ _ hx | connectFailed _ hx =>
    exact nomatch hx.ownerOpens.1.symm.trans hs
  | _ => exact nomatch hs

theorem Turn.sinceOpening (h : p.Turn t s s' es q) (hs : sinceOpening s' = true) :
    sinceOpening s = true ∨ .lockTaken (.connect .owner) ∈ es := by
  cases h with
  | foundOpen _ _ _ hx =>
    obtain rfl := hx.ownerOpens.2 hs
    exact .inr (by simp)
  | @foundFaulted o | @foundClosed o | @foundEmpty o =>
    cases o with
    | owner => exact .inr (by simp)
    | call => exact nomatch hs
  | connected _ hx | replaced _ _ hx | connectFailed _ hx =>
    obtain rfl := hx.ownerOpens.2 hs
    exact .inl rfl
  | @connectedOver o | @connectPaused o | @connectBackedOff o | @connectAgain o =>
    cases o with
    | owner => exact .inl rfl
    | call => exact nomatch hs
  | @began job => cases job <;> exact nomatch hs
  | _ => exact nomatch hs

theorem kept_ownerOpens : Kept OwnerOpens where
  queued _ _ now t job := by
    refine ⟨fun h => ?_, nofun⟩
    cases job <;> first | rfl | exact nomatch h
  teardown _ _ _ _ _ _ := ⟨nofun, nofun⟩
  turn p q t s s' es old h hturn := by
    refine ⟨fun hs => ?_, fun hs => ?_⟩
    · obtain ⟨hs, rfl⟩ := hturn.beforeOpening hs
      exact h.before hs
    · obtain hs | hm := hturn.sinceOpening hs
      · obtain ⟨time, hm⟩ := h.since hs
        exact ⟨time, List.mem_append_right _ hm⟩
      · exact ⟨p.now, List.mem_append_left _ (List.mem_map_of_mem hm)⟩
  later _ _ _ _ _ _ _ _ h := ⟨h.before, h.since⟩
  vanished _ _ _ _ _ _ _ _ := ⟨nofun, nofun⟩

theorem happeningsOf_cons {e : Event} {es : List Event} (he : e.task = some t) :
    happeningsOf t (e :: es) = happeningsOf t es ++ [e.what] := by
  simp [happeningsOf, he]

theorem happeningsOf_append (es es' : List Event) :
    happeningsOf t (es ++ es') = happeningsOf t es' ++ happeningsOf t es := by
  simp [happeningsOf]

/-- All that happens in the task of an opening that returned to the owner is that it was submitted,
got the lock, did what the reference loop says, and returned the result of that. -/
theorem Attainable.exists_opening (h : p.Attainable) {result : Except ConnectionError OpenOutcome}
    (ht : p.At t (.finished (.connected result))) :
    ∃ (q : Proxy) (x : Opening), q.OpensAt p t .owner ∧
      x.IsOf p.config p.address q.finding q.uptime ∧ x.result = result ∧ happeningsOf t p.history =
        [.submitted .connect, .lockTaken (.connect .owner)] ++ x.events ++
          [.returned (.connected x.result)] := by
  obtain ⟨time, hm⟩ := (h.tasks_of_kept kept_ownerOpens t _ ht).since rfl
  obtain ⟨later, earlier, hh⟩ := List.append_of_mem (List.mem_filter.mp hm).1
  obtain ⟨q, x, s, hq, rfl, -, hx, hs, hconducts⟩ := h.conducted hh
  have hbefore : happeningsOf t q.history = [.submitted .connect] := by
    have hevents := (hq.attainable.tasks_of_kept kept_ownerOpens t _ hq.waits).before rfl
    rw [eventsOf] at hevents
    rw [happeningsOf, hevents]
    rfl
  obtain rfl := hs.unique ht
  cases hconducts with
  | underWay _ hs => exact absurd hs (by simp [Stage.grip])
  | ended hlater ho =>
    obtain ⟨hresult, rfl⟩ := ho rfl
    refine ⟨q, x, hq, hx, by simpa using hresult.symm, ?_⟩
    rw [hh, happeningsOf_append, happeningsOf_cons rfl, hbefore, hlater]
    simp

/-- Opening the connection is its reference loop, in whatever order tasks take turns and whatever
the channel does: from when a task gets the lock to open until it gives the lock back, what happens
in it is what the loop says for what is in the slot at that moment, for the answers of the channel
and for the jitter draws, each of which is the next of the supply; it waits out every wait, and a
pause is over when its wait is and neither sooner nor later. In every fair run an opening for the
owner returns the result of the loop, unless the runtime ends first. -/
theorem opening_follows_reference_loop {a : Address} {config : Config} {us : Draws}
    {clock : Clock} {start : Proxy} (h : create a config us clock = .ok start) :
    (∀ p, start.Stretches p → ∀ t o time later earlier,
      p.history = later ++ ⟨time, some t, .lockTaken (.connect o)⟩ :: earlier →
      ∃ (q : Proxy) (x : Opening) (s : Stage), q.OpensAt p t o ∧ q.history = earlier ∧
        q.now = time ∧ x.IsOf config a q.finding q.uptime ∧ x.Account ∧ x.last ≤ 32 ∧ p.At t s ∧
        x.Conducts o s (happeningsOf t later)) ∧
    (∀ p, start.Stretches p →
      (∀ t s, p.At t s → OnTime config clock p.now t s (p.loopEvents t)) ∧
      p.drawn.reverse = (List.range p.drawn.length).map (nthDraw us)) ∧
    ∀ ms : Nat → Move, start.Fair ms → ∀ n t time,
      ⟨time, some t, .submitted .connect⟩ ∈ (start.upTo ms n).history →
      ∃ k ≥ n, (start.upTo ms k).running = false ∨
        ∃ (q : Proxy) (x : Opening), q.OpensAt (start.upTo ms k) t .owner ∧
          x.IsOf config a q.finding q.uptime ∧
          (start.upTo ms k).At t (.finished (.connected x.result)) ∧
          happeningsOf t (start.upTo ms k).history =
            [.submitted .connect, .lockTaken (.connect .owner)] ++ x.events ++
              [.returned (.connected x.result)] := by
  have hfresh := fresh_of_create h
  have hattainable {p : Proxy} (hp : start.Stretches p) : p.Attainable := ⟨start, hfresh, hp⟩
  have hconfig {p : Proxy} (hp : start.Stretches p) : p.config = config :=
    hp.config.trans (config_of_create h)
  have hclock {p : Proxy} (hp : start.Stretches p) : p.clock = clock :=
    hp.clock.trans (clock_of_create h)
  have haddress {p : Proxy} (hp : start.Stretches p) : p.address = a :=
    hp.address.trans (address_of_create h)
  refine ⟨fun p hp t o time later earlier hh => ?_, fun p hp => ⟨fun t s ht => ?_, ?_⟩,
    fun ms hfair n t time hm => ?_⟩
  · obtain ⟨q, x, s, hq, hearlier, htime, hx, hs, hconducts⟩ := (hattainable hp).conducted hh
    have hlast : x.last ≤ 32 := by
      have hretries : p.config.maxOpenRetries.toNat ≤ 32 :=
        UInt32.le_iff_toNat_le.mp (Config.retries_le_of_check (hattainable hp).valid).1
      have hmax : x.maxRetries = p.config.maxOpenRetries.toNat := by
        rw [Opening.maxRetries, hx.config]
      exact Nat.le_trans x.last_le (hmax ▸ hretries)
    rw [hconfig hp, haddress hp] at hx
    exact ⟨q, x, s, hq, hearlier, htime, hx, x.account, hlast, hs, hconducts⟩
  · have honTime := (hattainable hp).tasks_of_preserved preserved_onTime t s ht
    rwa [hconfig hp, hclock hp] at honTime
  · exact (hp.supplied (supplied_of_create h)).drawn
  · have hp (k : Nat) : start.Stretches (start.upTo ms k) := run_stretches _
    have hlt := (hattainable (hp n)).tasksExist _ hm t rfl
    obtain ⟨k, hk, o, ho⟩ := hfair.finishes (hattainable .refl) hlt
    obtain ⟨-, new, hh, -⟩ := (upTo_stretches start ms hk).continues
    have hm' : ⟨time, some t, .submitted .connect⟩ ∈ (start.upTo ms k).history :=
      hh ▸ List.mem_append_right _ hm
    refine ⟨k, hk, ?_⟩
    cases (hattainable (hp k)).completes hm' ho with
    | cutOff hr => exact .inl hr
    | connected result =>
      obtain ⟨q, x, hq, hx, rfl, hall⟩ := (hattainable (hp k)).exists_opening ho
      rw [hconfig (hp k), haddress (hp k)] at hx
      exact .inr ⟨q, x, hq, hx, ho, hall⟩

/-- An opening that replaces a faulted connection at its third attempt; that the old one cannot be
closed makes no difference. -/
theorem opening_follows_reference_loop_at_third_attempt :
    let a : Address := ⟨"svc", by decide⟩
    let ms : List Move := [.submit .connect, .resume 0 .turn,
      .resume 0 (.reply (.connected .opened)), .drift 0 .faulted, .submit .connect,
      .resume 1 .turn, .resume 1 (.reply (.failed .endpointTooBusy)),
      .resume 1 (.reply (.failed .endpointNotFound)), .tick 30000 30000000000, .resume 1 .elapsed,
      .resume 1 (.reply (.connected .opened)), .resume 1 (.reply (.failed (.fault "x")))]
    let p := (ofDefaults a []).run ms
    (∃ (q : Proxy) (x : Opening), q.OpensAt p 1 .owner ∧ x.Account ∧ x.result = .ok .opened ∧
      x.events = [.queried 0 .faulted, .callStarted .connect,
        .callEnded (.failed .endpointTooBusy), .noted (.openWillRetry a 5 .endpointTooBusy),
        .drawn (.finite (1 / 2)), .noted (.waitingToOpen a 0 0), .waiting .zero,
        .callStarted .connect, .callEnded (.failed .endpointNotFound),
        .noted (.waitingToOpen a 1 30000), .waiting (.ofMillis 30000), .callStarted .connect,
        .callEnded (.connected .opened), .callStarted (.close 0), .callEnded (.failed (.fault "x")),
        .noted (.staleNotReleased a (.closing a (.fault "x"))),
        .noted (.openedAfterRetrying a 3 (.ofMillis 30000)), .openingEnded (.ok .opened),
        .lockReleased]) ∧
    (OnTime .default .unbounded p.now 1 (.finished (.connected (.ok .opened))) (p.loopEvents 1) ∧
      p.drawn = [.finite (1 / 2)]) ∧
    ∃ k, ((ofDefaults a []).upTo (endless ms) k).running = false ∨ ∃ x : Opening,
      ((ofDefaults a []).upTo (endless ms) k).At 1 (.finished (.connected x.result)) := by
  intro a ms p
  have hcreate : create a .default [] .unbounded = .ok (ofDefaults a []) := rfl
  obtain ⟨hopens, hlaws, hends⟩ := opening_follows_reference_loop hcreate
  have hp : (ofDefaults a []).Stretches p := run_stretches ms
  have hat : p.At 1 (.finished (.connected (.ok .opened))) := by decide +kernel
  have hh : p.history = p.history.take 20 ++ ⟨0, some 1, .lockTaken (.connect .owner)⟩ ::
      p.history.drop 21 := by decide +kernel
  obtain ⟨q, x, s, hq, -, -, -, haccount, -, hs, hconducts⟩ := hopens p hp 1 .owner 0 _ _ hh
  obtain rfl := hs.unique hat
  have hfair : (ofDefaults a []).Fair (endless ms) :=
    fair_endless (fresh_of_create hcreate).reaped (by decide +kernel)
  have hsubmitted : ⟨0, some 1, .submitted .connect⟩ ∈ p.history := by decide +kernel
  obtain ⟨k, -, hend⟩ := hends (endless ms) hfair ms.length 1 0
    (upTo_endless (ofDefaults a []) ms ▸ hsubmitted)
  refine ⟨?_, ⟨(hlaws p hp).1 1 _ hat, by decide +kernel⟩,
    k, hend.imp_right fun ⟨_, x, _, _, hx, _⟩ => ⟨x, hx⟩⟩
  cases hconducts with
  | underWay _ hs => exact absurd hs (by simp [Stage.grip])
  | ended hlater ho =>
    obtain ⟨hresult, rfl⟩ := ho rfl
    have hok : x.result = .ok .opened := by simpa using hresult.symm
    rw [hok] at hlater
    refine ⟨q, x, hq, haccount, hok, List.append_cancel_right (hlater.symm.trans ?_)⟩
    decide +kernel

end Proxy

end ResilientProxy
