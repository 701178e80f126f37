import ResilientProxy.Proofs.Stopping
import ResilientProxy.Proofs.UnderLock

/-!
# Closing and aborting follow their reference

Whatever other tasks do meanwhile, what happens in a task from when it gets the lock to take the
connection down until it returns is what the reference says, for what it found in the slot and for
the answers of the channel.
-/

namespace ResilientProxy

namespace Stopping

variable {config : Config} {address : Address} {stop : Stop} {found : Finding}

/-- A close or an abort, in a proxy with this configuration and this address, that found this in the
slot. -/
structure IsOf (x : Stopping) (config : Config) (address : Address) (stop : Stop)
    (found : Finding) : Prop where
  config : x.config = config
  address : x.address = address
  stop : x.stop = stop
  found : x.found = found
  /-- Only a limit makes the closing of a connection be given up. -/
  limited : x.closing = none → x.config.closeTimeout ≠ none

theorem isOf_of_closed {abortion closed : Except ChannelError Unit} :
    IsOf ⟨config, address, stop, found, abortion, some closed⟩ config address stop found :=
  ⟨rfl, rfl, rfl, rfl, by simp⟩

/-- How far a close or an abort has come that found `found` in the slot: with this in the slot, a
task in which this has happened, in order, since it got the lock stands at this stage. -/
inductive Progress (config : Config) (address : Address) (stop : Stop) (found : Finding) :
    Slot → Stage → List Happening → Prop where
  | aborting {conn : ConnId} (hstop : stop = .abort) (hfound : found = some (conn, .opened)) :
    Progress config address stop found found.refreshed (.aborting conn)
      (found.look ++ [.callStarted (.abort conn)])
  | draining {x : Stopping} {slot : Slot} {conn : ConnId} {d : Option Nat}
      (hx : x.IsOf config address stop found) (hrunning : found.running = some conn)
      (hrefusal : x.refusal = none) (hslot : slot.handle = none)
      (hd : d ≠ none → config.closeTimeout ≠ none) :
    Progress config address stop found slot (.draining stop conn x.broken d)
      (found.look ++ x.abortEvents ++ [.callStarted (.close conn)])
  | ended {x : Stopping} (hx : x.IsOf config address stop found) :
    Progress config address stop found x.left (.finished (.stopped x.result)) x.events

/-- The same, with another end of the close. -/
def withClosing (x : Stopping) (closing : Option (Except ChannelError Unit)) : Stopping :=
  { x with closing := closing }

/-- Until the connection is closed, it makes no difference how that ends. -/
theorem events_withClosing {x : Stopping} {conn : ConnId}
    (closing : Option (Except ChannelError Unit)) (hrunning : x.found.running = some conn)
    (hrefusal : x.refusal = none) :
    (x.withClosing closing).events =
      x.found.look ++ x.abortEvents ++ [.callStarted (.close conn)] ++
        ((x.withClosing closing).closeEnding :: (x.withClosing closing).closeNotes ++
          [.lockReleased,
            .returned (.stopped ((x.withClosing closing).closeResult.map fun _ => true))]) := by
  have hrunning' : (x.withClosing closing).found.running = some conn := hrunning
  have hrefusal' : (x.withClosing closing).refusal = none := hrefusal
  rw [events, result_of_running hrunning' hrefusal', closeEvents, hrunning', hrefusal']
  simp [withClosing, abortEvents, aborted]

/-- The reference conducts a task that stands at stage `s` and has done `ws`, in order, since it got
the lock; this is in the slot. -/
inductive Conducts (x : Stopping) (slot : Slot) (s : Stage) (ws : List Happening) : Prop where
  | underWay (h : ws <+: x.events) (hs : s.grip = .holding)
  | ended (h : ws = x.events) (hs : s = .finished (.stopped x.result)) (hslot : slot = x.left)

theorem Progress.conducts {slot : Slot} {s : Stage} {ws : List Happening}
    (h : Progress config address stop found slot s ws) :
    ∃ x : Stopping, x.IsOf config address stop found ∧ x.Conducts slot s ws := by
  cases h with
  | @aborting conn hstop hfound =>
    subst hstop hfound
    refine ⟨⟨config, address, .abort, some (conn, .opened), .ok (), some (.ok ())⟩,
      isOf_of_closed, .underWay ?_ rfl⟩
    simp [events, abortEvents, aborted]
  | @draining x _ conn d hx hrunning hrefusal =>
    have hevents := events_withClosing x.closing (hx.found ▸ hrunning) hrefusal
    rw [hx.found] at hevents
    exact ⟨x, hx, .underWay ⟨_, hevents.symm⟩ rfl⟩
  | @ended x hx => exact ⟨x, hx, .ended rfl rfl rfl⟩

end Stopping

/-- What somebody starts to take the connection down. -/
def Stop.job : Stop → Job
  | .close => .close
  | .abort => .abort

namespace Proxy

open Stopping

variable {p q r m : Proxy} {t u : TaskId} {s s' : Stage} {ws es ns : List Happening} {stop : Stop}
  {found : Finding}

/-- How the closing of the connection ends, the reference says, too. -/
theorem CloseEnds.stopping {d : Option Nat} {ending : Happening} {closed : Except ChannelError Unit}
    {result : Except ConnectionError Unit} {faulted : Bool} (he : p.CloseEnds d ending closed)
    (hn : p.CloseCounts faulted closed result ns)
    (hd : d ≠ none → p.config.closeTimeout ≠ none) :
    ∃ closing, (closing = none → p.config.closeTimeout ≠ none) ∧
      ∀ x : Stopping, x.config = p.config → x.address = p.address → x.closing = closing →
        x.broken = faulted → x.closeEnding = ending ∧ x.closeResult = result ∧
          x.closeNotes = (p.stopNotes x.stop result ++ ns).reverse := by
  have hcounts : ∀ x : Stopping, x.closed = closed → x.address = p.address → x.broken = faulted →
      x.closeResult = result ∧ x.closeNotes = (p.stopNotes x.stop result ++ ns).reverse := by
    rintro x rfl ha rfl
    generalize hclosed : x.closed = closed at hn
    cases hn with
    | ok =>
      rw [Stopping.closeResult, closeNotes, hclosed]
      cases x.stop <;> simp [stopNotes, stopNotice, ha]
    | excused hb =>
      rw [Stopping.closeResult, closeNotes, hclosed, hb]
      cases x.stop <;> simp [stopNotes, stopNotice, ha]
    | @error e h =>
      rw [Stopping.closeResult, closeNotes, hclosed]
      cases e with
      | invalidOperation detail =>
        obtain h | h := h
        · simp [h, ha, stopNotes]
        · exact absurd rfl (h detail)
      | _ => simp [ha, stopNotes]
  cases he with
  | done =>
    refine ⟨some (.ok ()), by simp, fun x hc ha hx hb => ?_⟩
    exact ⟨by rw [closeEnding, hx]; rfl, hcounts x (by rw [Stopping.closed, hx]; rfl) ha hb⟩
  | @failed e =>
    refine ⟨some (.error e), by simp, fun x hc ha hx hb => ?_⟩
    exact ⟨by rw [closeEnding, hx]; rfl, hcounts x (by rw [Stopping.closed, hx]; rfl) ha hb⟩
  | givenUp hm =>
    refine ⟨none, fun _ => hd (by simp [hm]), fun x hc ha hx hb => ?_⟩
    exact ⟨by rw [closeEnding, hx], hcounts x (by rw [Stopping.closed, hx, hc]; rfl) ha hb⟩

/-- Each turn of a task that takes the connection down is one that the reference says. -/
theorem Turn.stopping (h : p.Turn t s s' es q)
    (hp : Progress p.config p.address stop found p.slot s ws) :
    Progress p.config p.address stop found q.slot s' (ws ++ es.reverse) := by
  generalize hslot : p.slot = slot at hp
  cases hp with
  | @aborting conn hstop hfound =>
    subst hstop hfound
    cases h with
    | @aborted _ held hc =>
      obtain rfl : conn = held := by simpa [hslot, Finding.refreshed] using hc
      have hx : IsOf ⟨p.config, p.address, .abort, some (conn, .opened), .ok (), some (.ok ())⟩
          p.config p.address .abort (some (conn, .opened)) := isOf_of_closed
      exact .draining hx rfl rfl rfl (by simp [deadline])
    | abortedEmpty hc => simp [hslot, Finding.refreshed] at hc
    | @abortRefused _ e =>
      have hx : IsOf ⟨p.config, p.address, .abort, some (conn, .opened), .error e, some (.ok ())⟩
          p.config p.address .abort (some (conn, .opened)) := isOf_of_closed
      have hdone := Progress.ended hx
      rw [hslot]
      exact hdone
  | @draining x _ conn d hx hrunning hrefusal hempty hd =>
    cases h with
    | @drained _ _ _ _ ending closed result ns he hn =>
      obtain ⟨closing, hlimited, hends⟩ := he.stopping hn hd
      have hx' : (x.withClosing closing).IsOf p.config p.address stop found :=
        ⟨hx.config, hx.address, hx.stop, hx.found, fun hc => hx.config ▸ hlimited hc⟩
      obtain ⟨hending, hresult, hnotes⟩ :=
        hends (x.withClosing closing) hx.config hx.address rfl rfl
      have hdone := Progress.ended hx'
      have hrunning' : x.found.running = some conn := hx.found ▸ hrunning
      have hrunning'' : (x.withClosing closing).found.running = some conn := hrunning'
      have hrefusal' : (x.withClosing closing).refusal = none := hrefusal
      rw [events_withClosing closing hrunning' hrefusal, result_of_running hrunning'' hrefusal,
        hending, hresult, hnotes, hx.found] at hdone
      have hleft : (x.withClosing closing).left = ⟨p.slot.handle, .closed⟩ := by
        rw [left_of_not_refused hrefusal', hslot, hempty]
      rw [hleft] at hdone
      have hstop : (x.withClosing closing).stop = stop := hx.stop
      simpa [hstop] using hdone
  | ended => cases h.unfinished

theorem goal_inj {stop stop' : Stop} (h : stop.goal = stop'.goal) : stop = stop' := by
  cases stop <;> cases stop' <;> first | rfl | exact nomatch h

/-- A close or an abort begins with a look at the slot. -/
theorem Turn.stopping_lockTaken
    (h : p.Turn t (.awaitingLock stop.goal) s' (es ++ [.lockTaken stop.goal]) q) :
    Progress p.config p.address stop p.finding q.slot s' es.reverse := by
  generalize hs : Stage.awaitingLock stop.goal = s at h
  generalize hes : es ++ [.lockTaken stop.goal] = es' at h
  cases h with
  | @closeStarted stop' conn _ hc hr hs' =>
    obtain rfl := goal_inj (Stage.awaitingLock.inj hs)
    obtain rfl : es = [.callStarted (.close conn), .queried conn (p.query conn)] := by
      simpa using congrArg List.dropLast hes
    have hd : p.deadline p.config.closeTimeout ≠ none → p.config.closeTimeout ≠ none := by
      simp [deadline]
    rw [finding_of_handle hc rfl]
    generalize p.query conn = cs at hr hs'
    have hx : IsOf ⟨p.config, p.address, stop, some (conn, cs), .ok (), some (.ok ())⟩
        p.config p.address stop (some (conn, cs)) := isOf_of_closed
    cases stop with
    | close => cases cs <;> first | exact .draining hx rfl rfl rfl hd | cases hr
    | abort =>
      obtain rfl := hs' rfl
      exact .draining hx rfl rfl rfl hd
  | @stoppedClosed stop' conn _ hc hq =>
    obtain rfl := goal_inj (Stage.awaitingLock.inj hs)
    obtain rfl : es = [.returned (.stopped (.ok false)), .lockReleased, .letGo conn,
        .queried conn .closed] := by simpa using congrArg List.dropLast hes
    rw [finding_of_handle hc hq]
    have hx : IsOf ⟨p.config, p.address, stop, some (conn, .closed), .ok (), some (.ok ())⟩
        p.config p.address stop (some (conn, .closed)) := isOf_of_closed
    have hdone := Progress.ended hx
    cases stop <;> exact hdone
  | @stoppedEmpty stop' _ hc =>
    obtain rfl := goal_inj (Stage.awaitingLock.inj hs)
    obtain rfl : es = [.returned (.stopped (.ok false)), .lockReleased] := by
      simpa using congrArg List.dropLast hes
    have hnone : p.finding = none := by simp [finding, hc]
    rw [hnone]
    have hx : IsOf ⟨p.config, p.address, stop, none, .ok (), some (.ok ())⟩
        p.config p.address stop none := isOf_of_closed
    have hdone := Progress.ended hx
    cases stop <;> exact hdone
  | @abortStarted conn _ hc hq =>
    obtain rfl : stop = .abort := goal_inj (Stage.awaitingLock.inj hs)
    obtain rfl : es = [.callStarted (.abort conn), .queried conn .opened] := by
      simpa using congrArg List.dropLast hes
    rw [finding_of_handle hc hq]
    exact .aborting rfl rfl
  | _ => cases stop <;> cases hs

/-- The reference says how a close or an abort goes, at all moments of it. -/
theorem Operates.stopping (h : q.Operates t stop.goal m s ws) :
    Progress q.config q.address stop q.finding m.slot s ws := by
  refine h.induct (fun r s es hturn => hturn.stopping_lockTaken)
    fun p r s s' ws es ho hp _ hturn => ?_
  rw [← ho.config, ← ho.address] at hp ⊢
  exact hturn.stopping hp

/-- Nothing is left of the connection, and the next opening asks for another at once. -/
structure Reset (m : Proxy) : Prop where
  slot : m.slot = ⟨none, .closed⟩
  published : m.publishedState = .closed
  reopens : ∀ r u o, m.Next r u (.connect o) → ∀ m' s ws, r.Operates u (.connect o) m' s ws →
    ∃ rest, ws = .callStarted .connect :: rest

/-- An opening that finds nothing asks for a connection at once. -/
theorem Operates.connects {o : Opener} (h : q.Operates t (.connect o) m s ws)
    (hc : q.slot.handle = none) : ∃ rest, ws = .callStarted .connect :: rest := by
  refine h.induct (I := fun _ _ ws => ∃ rest, ws = .callStarted .connect :: rest)
    (fun r s es hturn => ?_) fun p r s s' ws es _ hp _ _ => ?_
  · generalize hs : Stage.awaitingLock (.connect o) = s₀ at hturn
    generalize hes : es ++ [.lockTaken (.connect o)] = es' at hturn
    cases hturn with
    | foundEmpty =>
      cases hs
      obtain rfl : es = [.callStarted .connect] := by simpa using congrArg List.dropLast hes
      exact ⟨[], rfl⟩
    | foundOpen _ hc' | foundFaulted _ hc' | foundClosed _ hc' => exact nomatch hc.symm.trans hc'
    | @closeStarted stop | @stoppedClosed stop | @stoppedEmpty stop => cases stop <;> cases hs
    | _ => cases hs
  · obtain ⟨rest, rfl⟩ := hp
    exact ⟨_, List.cons_append⟩

theorem Operates.reset (h : q.Operates t stop.goal m s ws) (hs : s.grip ≠ .holding)
    (hslot : m.slot = ⟨none, .closed⟩) : m.Reset where
  slot := hslot
  published := by rw [h.published, hslot]
  reopens r u o hn m' s' ws' ho := by
    have hc : r.slot.handle = none := by rw [hn.handle h hs, hslot]
    exact ho.connects hc

/-! ## Time limits -/

/-- A call of the channel is not given up before its limit. -/
theorem Turn.givenUp (h : p.Turn t s s' es q) (hx : .callGivenUp ∈ es) :
    ∃ d, s.limit = some d ∧ d ≤ p.now := by
  have hnote : ∀ {ns : List Happening}, Noted ns → .callGivenUp ∉ ns := fun hn => hn.not_mem nofun
  have hleave : ∀ {o : Opener} {result : Except ConnectionError OpenOutcome} {s : Stage}
      {es : List Happening} {l : Lock}, p.Leaves t o result s es l → .callGivenUp ∉ es := by
    intro o result s es l hx
    cases hx <;> simp
  have hends : ∀ {d : Option Nat} {ending : Happening} {closed : Except ChannelError Unit},
      p.CloseEnds d ending closed → .callGivenUp = ending → ∃ m, d = some m ∧ m ≤ p.now := by
    rintro d _ closed he rfl
    cases he with
    | givenUp hd hm => exact ⟨_, hd, hm⟩
  have hfails : ∀ {d : Option Nat} {ending : Happening} {e : ChannelError},
      p.AttemptFails d ending e → .callGivenUp = ending → ∃ m, d = some m ∧ m ≤ p.now := by
    rintro d _ e he rfl
    cases he with
    | givenUp hd hm => exact ⟨_, hd, hm⟩
  cases h with
  | foundOpen _ _ _ hx' | connectFailed _ hx' => simp [hleave hx'] at hx
  | connected _ hx' => simp [hleave hx', hnote (p.noted_installNotes _)] at hx
  | replaced he hn hx' =>
    refine hends he ?_
    simpa [hleave hx', hnote (p.noted_installNotes _), hnote (p.noted_staleNotes _),
      hnote hn.noted] using hx
  | drained he hn =>
    exact hends he (by simpa [hnote (p.noted_stopNotes _ _), hnote hn.noted] using hx)
  | connectPaused | connectBackedOff => simp [hnote (p.noted_willReopenNotes _ _)] at hx
  | failedForGood he => exact hfails he (by simpa using hx)
  | lostConnection he | backedOff he =>
    exact hfails he (by simpa [hnote (p.noted_willRetryNotes _ _)] using hx)
  | teardownAborted he =>
    obtain ⟨m, hm, -⟩ := hends he (by simpa [hnote (p.noted_teardownAbortNotes _)] using hx)
    exact nomatch hm
  | teardownClosed he =>
    obtain ⟨m, hm, -⟩ := hends he (by simpa using hx)
    exact nomatch hm
  | _ => simp at hx

/-- What starts a close sets its limit. -/
theorem Turn.closes (h : p.Turn t s s' es q) {conn : ConnId} {d : Nat}
    (hpending : s'.pending = some (.close conn)) (hlimit : s'.limit = some d) :
    ∃ es' limit, es = .callStarted (.close conn) :: es' ∧ p.config.closeTimeout = some limit ∧
      d = p.clock.after p.now limit := by
  cases h with
  | foundOpen _ _ _ hx | connected _ hx | replaced _ _ hx | connectFailed _ hx =>
    cases hx <;> exact nomatch hpending
  | connectedOver | closeStarted | aborted =>
    cases hpending
    obtain ⟨limit, hconfig, rfl⟩ := Option.map_eq_some_iff.mp hlimit
    exact ⟨_, limit, rfl, hconfig, rfl⟩
  | teardownCloses | teardownAborted => exact nomatch hlimit
  | _ => exact nomatch hpending

/-- What the latest event of an attempt is not, so far as there is a new one. -/
theorem Turn.attempting_head (h : p.Turn t s s' es q) (hs : s'.isAttempting = true) :
    (es = [] ∧ s.isAttempting = true) ∨
      ∃ x es', es = x :: es' ∧ ∀ conn, x ≠ .callStarted (.close conn) := by
  cases h with
  | foundOpen _ _ _ hx | connected _ hx | replaced _ _ hx | connectFailed _ hx =>
    cases hx <;> exact nomatch hs
  | attemptSent | arenaShort => exact .inr ⟨_, _, rfl, by simp⟩
  | allocated => exact .inl ⟨rfl, rfl⟩
  | _ => exact nomatch hs

/-- The stages with a limit are those of a close, and of an attempt. -/
theorem closes_or_attempts {d : Nat} (h : s.limit = some d) :
    (∃ conn, s.pending = some (.close conn)) ∨ s.isAttempting = true := by
  cases s with
  | replacing | draining => exact .inl ⟨_, rfl⟩
  | attempting => exact .inr rfl
  | _ => exact nomatch h

/-- Where a close was given up right after it was started, both happened before this turn, or it has
just been given up and its start is the latest that happened before. -/
theorem Turn.cases_of_givenUp (h : p.Turn t s s' es q) {old later earlier : List Event}
    {conn : ConnId} {time time' : Nat}
    (hes : es.map (⟨p.now, some t, ·⟩) ++ old = later ++ ⟨time', some t, .callGivenUp⟩ ::
      ⟨time, some t, .callStarted (.close conn)⟩ :: earlier) :
    (∃ mid, old = mid ++ ⟨time', some t, .callGivenUp⟩ ::
        ⟨time, some t, .callStarted (.close conn)⟩ :: earlier) ∨
      time' = p.now ∧ old = ⟨time, some t, .callStarted (.close conn)⟩ :: earlier ∧
        ∃ d, s.limit = some d ∧ d ≤ p.now := by
  obtain ⟨mid, rfl, hold⟩ | ⟨mid, hmid, hrest⟩ := cases_of_append hes
  · exact .inl ⟨mid, hold⟩
  · obtain ⟨es₁, es', rfl, rfl, hes'⟩ := List.map_eq_append_iff.mp hmid
    obtain ⟨y, es₂, rfl, hy, rfl⟩ := List.map_eq_cons_iff.mp hes'
    cases hy
    cases es₂ with
    | cons x es₂ =>
      -- a turn that starts a call ends with that
      obtain ⟨hx, -⟩ := List.cons.inj hrest
      obtain rfl : .callStarted (.close conn) = x := congrArg Event.what hx
      have hsplit : es₁ ++ .callGivenUp :: .callStarted (.close conn) :: es₂ =
          (es₁ ++ [.callGivenUp]) ++ .callStarted (.close conn) :: es₂ := by simp
      have hnil := (hsplit ▸ h).of_started.1
      simp at hnil
    | nil => exact .inr ⟨rfl, hrest.symm, h.givenUp (by simp)⟩

/-- A task waits for the end of a close within the limit, counted from the moment at which the close
was started; it gives up only when that is over. -/
structure ClosesInTime (config : Config) (clock : Clock) (_ : Nat) (t : TaskId) (s : Stage)
    (es : List Event) : Prop where
  pending : ∀ conn d, s.pending = some (.close conn) → s.limit = some d →
    ∃ time earlier limit, es = ⟨time, some t, .callStarted (.close conn)⟩ :: earlier ∧
      config.closeTimeout = some limit ∧ d = clock.after time limit
  /-- What an attempt waits for is not the end of a close. -/
  attempting : s.isAttempting = true → ∀ e earlier conn, es = e :: earlier →
    e.what ≠ .callStarted (.close conn)
  givenUp : ∀ later earlier conn time time', es = later ++ ⟨time', some t, .callGivenUp⟩ ::
      ⟨time, some t, .callStarted (.close conn)⟩ :: earlier →
    ∃ limit, config.closeTimeout = some limit ∧ clock.after time limit ≤ time'

theorem kept_closesInTime : Kept ClosesInTime where
  queued _ _ _ _ _ := by
    refine ⟨nofun, nofun, fun later earlier conn time time' h => ?_⟩
    have hlen := congrArg List.length h
    simp only [List.length_append, List.length_cons, List.length_nil] at hlen
    omega
  teardown _ _ _ _ _ _ := ⟨nofun, nofun, fun later earlier conn time time' h => by simp at h⟩
  turn p q t s s' es old h hturn := by
    refine ⟨fun conn d hpending hlimit => ?_, fun hs e earlier conn he => ?_,
      fun later earlier conn time time' hes => ?_⟩
    · obtain ⟨es', limit, rfl, hlimit, hd⟩ := hturn.closes hpending hlimit
      exact ⟨p.now, _, limit, rfl, hlimit, hd⟩
    · obtain ⟨rfl, hs⟩ | ⟨x, es', rfl, hx⟩ := hturn.attempting_head hs
      · exact h.attempting hs e earlier conn he
      · obtain ⟨rfl, -⟩ := List.cons.inj he
        exact hx conn
    · obtain ⟨mid, hold⟩ | ⟨rfl, hold, d, hlimit, hd⟩ := hturn.cases_of_givenUp hes
      · exact h.givenUp mid earlier conn time time' hold
      · obtain ⟨conn', hpending⟩ | hatt := closes_or_attempts hlimit
        · obtain ⟨time₀, earlier₀, limit, hold', hconfig, rfl⟩ := h.pending conn' d hpending hlimit
          obtain ⟨he, -⟩ := List.cons.inj (hold.symm.trans hold')
          cases he
          exact ⟨limit, hconfig, hd⟩
        · exact absurd rfl (h.attempting hatt _ earlier conn hold)
  later _ _ _ _ _ _ _ _ h := ⟨h.pending, h.attempting, h.givenUp⟩
  vanished _ _ _ _ _ _ _ h := ⟨nofun, nofun, h.givenUp⟩

/-! ## Closes and aborts of the owner -/

/-- Before a close or an abort gets the lock, nothing happens in its task; when it has ended, its
result was returned. -/
structure OwnerStops (_ : Config) (_ : Clock) (_ : Nat) (t : TaskId) (s : Stage)
    (es : List Event) : Prop where
  before : ∀ stop : Stop, s = .queued stop.job ∨ s = .awaitingLock stop.goal →
    es.map (·.what) = [.submitted stop.job]
  ended : ∀ result, s = .finished (.stopped result) →
    ∃ time, ⟨time, some t, .returned (.stopped result)⟩ ∈ es

theorem goal_of_job {job : Job} {config : Config} {m : Nat} (h : job.goal config m = stop.goal) :
    job = stop.job := by
  cases job <;> cases stop <;> first | rfl | exact nomatch h

theorem Turn.beforeStop (h : p.Turn t s s' es q)
    (hs : s' = .queued stop.job ∨ s' = .awaitingLock stop.goal) :
    s = .queued stop.job ∧ es = [] := by
  cases h with
  | foundOpen _ _ _ hx | connected _ hx | replaced _ _ hx | connectFailed _ hx =>
    cases hx <;> cases stop <;> simp [Stop.goal] at hs
  | began =>
    obtain hs | hs := hs
    · cases hs
    · exact ⟨congrArg _ (goal_of_job (Stage.awaitingLock.inj hs)), rfl⟩
  | lostConnection | paused => cases stop <;> simp [Stop.goal] at hs
  | _ => simp at hs

theorem Turn.returned (h : p.Turn t s s' es q) {result : Except ConnectionError Bool}
    (hs : s' = .finished (.stopped result)) : .returned (.stopped result) ∈ es := by
  cases h with
  | foundOpen _ _ _ hx | connected _ hx | replaced _ _ hx | connectFailed _ hx =>
    cases hx <;> simp at hs
  | stoppedClosed | stoppedEmpty | abortedEmpty | abortRefused | drained =>
    cases hs
    simp
  | _ => simp [Call.failure] at hs

theorem kept_ownerStops : Kept OwnerStops where
  queued _ _ _ _ job := by
    refine ⟨fun stop hs => ?_, nofun⟩
    obtain hs | hs := hs
    · cases hs
      rfl
    · exact nomatch hs
  teardown _ _ _ _ _ _ := ⟨fun _ hs => by simp at hs, nofun⟩
  turn p q t s s' es old h hturn := by
    refine ⟨fun stop hs => ?_, fun result hs => ?_⟩
    · obtain ⟨hs, rfl⟩ := hturn.beforeStop hs
      exact h.before stop (.inl hs)
    · exact ⟨p.now, List.mem_append_left _ (List.mem_map_of_mem (hturn.returned hs))⟩
  later _ _ _ _ _ _ _ _ h := ⟨h.before, h.ended⟩
  vanished _ _ _ _ _ _ _ _ := ⟨fun _ hs => by simp at hs, nofun⟩

theorem job_inj {stop stop' : Stop} (h : stop.job = stop'.job) : stop = stop' := by
  cases stop <;> cases stop' <;> first | rfl | exact nomatch h

/-- All that happens in the task of a close or an abort is that it was submitted, got the lock, and
did what the reference says. -/
theorem Attainable.exists_stopping (h : p.Attainable) {result : Except ConnectionError Bool}
    (ht : p.At t (.finished (.stopped result))) {time : Nat}
    (hm : ⟨time, some t, .submitted stop.job⟩ ∈ p.history) :
    ∃ (q m : Proxy) (x : Stopping),
      q.Operates t stop.goal m (.finished (.stopped x.result)) x.events ∧ m.Stretches p ∧
        x.IsOf p.config p.address stop q.finding ∧
        happeningsOf t p.history = [.submitted stop.job, .lockTaken stop.goal] ++ x.events := by
  obtain ⟨time', hreturned⟩ := (h.tasks_of_kept kept_ownerStops t _ ht).ended result rfl
  obtain ⟨q, m, stop', ws, ho, -, hp⟩ := h.exists_stopped (List.mem_filter.mp hreturned).1
  obtain ⟨x, hx, hconducts⟩ := ho.stopping.conducts
  cases hconducts with
  | underWay _ hs => exact nomatch hs
  | ended hws hs =>
    subst hws
    obtain rfl : result = x.result := by simpa using hs
    obtain ⟨hq, hwaits, -⟩ := ho.start
    have hbefore : happeningsOf t q.history = [.submitted stop'.job] := by
      rw [happeningsOf_eq, (hq.tasks_of_kept kept_ownerStops t _ hwaits).before stop' (.inr rfl)]
      rfl
    obtain ⟨-, hsame⟩ := hp.eventsOf_of_finished ho.attainable.2
    have hall : happeningsOf t p.history =
        [.submitted stop'.job, .lockTaken stop'.goal] ++ x.events := by
      rw [happeningsOf_eq, hsame, ← happeningsOf_eq, ho.happenings, hbefore]
      rfl
    have hfirst : .submitted stop.job ∈ happeningsOf t p.history := by
      rw [happeningsOf_eq, List.mem_reverse]
      exact List.mem_map_of_mem (List.mem_filter.mpr ⟨hm, by simp⟩)
    obtain rfl : stop = stop' := by
      rw [hall] at hfirst
      exact job_inj (by simpa [x.submitted_not_mem] using hfirst)
    have hfrom := ho.stretches.trans hp
    rw [← Stretches.config hfrom, ← Stretches.address hfrom] at hx
    exact ⟨q, m, x, ho, hp, hx, hall⟩

theorem upTo_zero (p : Proxy) (ms : Nat → Move) : p.upTo ms 0 = p := rfl

/-- Closes and aborts tell the truth, and apart from a refused abort they leave nothing, in whatever
order tasks take turns and whatever the channel does. From when a task gets the lock to take the
connection down until it returns, what happens in it is what the reference says, for what the
channel reports at that moment about the connection in the slot and for what it answers: which calls
are made, and what is returned, is told by `Account`. Every result comes about in this way. The
closing of a connection is given up only when its limit is over. In every fair run each close and
each abort returns, unless the runtime ends first. -/
theorem stops_report_truthfully (h : p.Reachable) :
    (∀ (q m : Proxy) (t : TaskId) (stop : Stop) (s : Stage) (ws : List Happening),
      q.Operates t stop.goal m s ws → m.Stretches p →
      ∃ x : Stopping, x.IsOf p.config p.address stop q.finding ∧ x.Account ∧
        x.Conducts m.slot s ws ∧ m.publishedState = m.slot.state ∧
        (s.grip ≠ .holding → x.refusal = none → m.Reset) ∧
        (x.closing = none → ∃ ms, p.config.closeTimeoutMs = some ms ∧
          x.closed = .error (.operationTimedOut ms))) ∧
    (∀ t time result, ⟨time, some t, .returned (.stopped result)⟩ ∈ p.history →
      ∃ (q m : Proxy) (stop : Stop) (ws : List Happening),
        q.Operates t stop.goal m (.finished (.stopped result)) ws ∧ m.now = time ∧
          m.Stretches p) ∧
    (∀ t later earlier conn time time', p.eventsOf t = later ++ ⟨time', some t, .callGivenUp⟩ ::
        ⟨time, some t, .callStarted (.close conn)⟩ :: earlier →
      ∃ limit, p.config.closeTimeout = some limit ∧ p.clock.after time limit ≤ time') ∧
    ∀ ms : Nat → Move, p.Fair ms → ∀ n t time (stop : Stop),
      ⟨time, some t, .submitted stop.job⟩ ∈ (p.upTo ms n).history →
      ∃ k ≥ n, (p.upTo ms k).running = false ∨ ∃ (q m : Proxy) (x : Stopping),
        q.Operates t stop.goal m (.finished (.stopped x.result)) x.events ∧
          m.Stretches (p.upTo ms k) ∧ x.IsOf p.config p.address stop q.finding ∧
          happeningsOf t (p.upTo ms k).history =
            [.submitted stop.job, .lockTaken stop.goal] ++ x.events := by
  have ha := h.attainable
  refine ⟨fun q m t stop s ws ho hp => ?_, fun t time result hm => ha.exists_stopped hm,
    fun t later earlier conn time time' hes => ?_, fun ms hfair n t time stop hm => ?_⟩
  · obtain ⟨x, hx, hconducts⟩ := ho.stopping.conducts
    have hfrom := ho.stretches.trans hp
    rw [← Stretches.config hfrom, ← Stretches.address hfrom] at hx
    refine ⟨x, hx, x.account, hconducts, ho.published, fun hs hr => ?_, fun hc => ?_⟩
    · cases hconducts with
      | underWay _ hg => exact absurd hg hs
      | ended _ _ hslot => exact ho.reset hs (by rw [hslot, left_of_not_refused hr])
    · rw [← hx.config]
      exact closed_of_givenUp hc (hx.limited hc)
  · have hm : ⟨time', some t, .callGivenUp⟩ ∈ p.eventsOf t := by simp [hes]
    have hlt := ha.tasksExist _ (List.mem_filter.mp hm).1 t rfl
    have hat : p.At t p.tasks[t] := List.getElem?_eq_getElem hlt
    exact (ha.tasks_of_kept kept_closesInTime t _ hat).givenUp later earlier conn time time' hes
  · have hp (k : Nat) : p.Stretches (p.upTo ms k) := run_stretches _
    have hlt := (ha.stretches (hp n)).tasksExist _ hm t rfl
    obtain ⟨k, hk, o, ho⟩ := hfair.finishes ha hlt
    obtain ⟨-, new, hh, -⟩ := (upTo_stretches p ms hk).continues
    have hm' : ⟨time, some t, .submitted stop.job⟩ ∈ (p.upTo ms k).history :=
      hh ▸ List.mem_append_right _ hm
    refine ⟨k, hk, ?_⟩
    have hends : (p.upTo ms k).running = false ∨ ∃ result, o = .stopped result := by
      have hcompletes := (ha.stretches (hp k)).completes hm' ho
      cases stop with
      | close =>
        cases hcompletes with
        | closed result => exact .inr ⟨result, rfl⟩
        | cutOff hr => exact .inl hr
      | abort =>
        cases hcompletes with
        | aborted result => exact .inr ⟨result, rfl⟩
        | cutOff hr => exact .inl hr
    obtain hr | ⟨result, rfl⟩ := hends
    · exact .inl hr
    · obtain ⟨q, m, x, hop, hm, hx, hall⟩ := (ha.stretches (hp k)).exists_stopping ho hm'
      rw [(hp k).config, (hp k).address] at hx
      exact .inr ⟨q, m, x, hop, hm, hx, hall⟩

/-- The close that ends an abort is not worth an error, and a close that takes too long is one; both
leave nothing. -/
theorem stops_report_truthfully_of_two :
    let a : Address := ⟨"svc", by decide⟩
    let config : Config := { Config.default with closeTimeoutMs := some 500 }
    let start := { ofDefaults a [] with config := config }
    let opening (t : TaskId) : List Move :=
      [.submit .connect, .resume t .turn, .resume t (.reply (.connected .opened))]
    let ms : List Move := opening 0 ++ [.submit .abort, .resume 1 .turn, .resume 1 (.reply .done),
      .resume 1 (.reply (.failed (.invalidOperation "x")))] ++ opening 2 ++ [.submit .close,
      .resume 3 .turn, .tick 500 0, .resume 3 .expired]
    let p := start.run ms
    let returns (result : Except ConnectionError Bool) : Prop := ∃ (m : Proxy) (x : Stopping),
      m.Stretches p ∧ x.Account ∧ x.result = result ∧ m.Reset
    p.Reachable ∧ returns (.ok true) ∧ returns (.error (.closing a (.operationTimedOut 500))) ∧
    (∃ limit, config.closeTimeout = some limit ∧ start.clock.after 0 limit ≤ 500) ∧
    ∃ k, (p.upTo (endless []) k).running = false ∨ ∃ x : Stopping,
      happeningsOf 3 (p.upTo (endless []) k).history =
        [.submitted .close, .lockTaken .close] ++ x.events := by
  intro a config start opening ms p returns
  have hcreate : create a config [] .unbounded = .ok start := rfl
  have hp : p.Reachable := ⟨a, config, [], .unbounded, start, ms, hcreate, rfl⟩
  obtain ⟨hstops, hreturned, hlimits, hends⟩ := stops_report_truthfully hp
  have returned (t : TaskId) (time : Nat) {result : Except ConnectionError Bool}
      (hm : ⟨time, some t, .returned (.stopped result)⟩ ∈ p.history)
      (hr : ∀ e', result ≠ .error (.aborting a e')) : returns result := by
    obtain ⟨q, m, stop, ws, ho, -, hmp⟩ := hreturned t time result hm
    obtain ⟨x, hx, haccount, hconducts, -, hreset, -⟩ := hstops q m t stop _ ws ho hmp
    cases hconducts with
    | underWay _ hs => exact nomatch hs
    | ended _ hs =>
      obtain rfl : result = x.result := by simpa using hs
      refine ⟨m, x, hmp, haccount, rfl, hreset nofun ?_⟩
      cases hrefusal : x.refusal with
      | none => rfl
      | some e =>
        have haddress : x.address = a := hx.address.trans (run_stretches ms).address
        exact absurd (haddress ▸ result_of_refusal hrefusal) (hr e)
  have hconfig : p.config = config := (run_stretches ms).config
  have hclock : p.clock = start.clock := (run_stretches ms).clock
  have hreaped : p.Reaped := (fresh_of_create hcreate).reaped.run ms
  have hfair : p.Fair (endless []) := fair_endless hreaped (by decide +kernel)
  have hsubmitted : ⟨0, some 3, .submitted .close⟩ ∈ p.history := by decide +kernel
  rw [← upTo_zero p (endless [])] at hsubmitted
  obtain ⟨k, -, hend⟩ := hends (endless []) hfair 0 3 0 .close hsubmitted
  have hgivenUp : p.eventsOf 3 = (p.eventsOf 3).take 2 ++ ⟨500, some 3, .callGivenUp⟩ ::
      ⟨0, some 3, .callStarted (.close 1)⟩ :: (p.eventsOf 3).drop 4 := by decide +kernel
  exact ⟨hp, returned 1 0 (by decide +kernel) nofun, returned 3 500 (by decide +kernel) nofun,
    hclock ▸ hconfig ▸ hlimits 3 _ _ 1 0 500 hgivenUp, k,
    hend.imp_right fun ⟨_, _, x, _, _, _, hall⟩ => ⟨x, hall⟩⟩

end Proxy

end ResilientProxy
