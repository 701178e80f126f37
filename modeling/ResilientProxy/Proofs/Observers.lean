import ResilientProxy.Proxy.PendingCall
import ResilientProxy.Proofs.Agreement
import ResilientProxy.Proofs.Bursts

/-!
# Observers

Whoever has a reference to a proxy may ask it something at any time. Asking for the state refreshes
what the slot knows about its connection; yet no operation looks at that before it has asked the
channel itself, and the hold flag decides about warnings only. So neither makes a difference to what
the proxy does.
-/

namespace ResilientProxy

/-- What can be asked about a proxy. -/
inductive Query where
  | state
  | onHold
  | description
  | address
  | config
  deriving DecidableEq, Repr

inductive Answer where
  | state (s : ConnState)
  | onHold (b : Bool)
  | description (text : String)
  | address (a : Address)
  | config (c : Config)

/-- What can be done to a proxy: a move is made, or somebody asks something in between. -/
inductive Act where
  | move (m : Move)
  | ask (q : Query)
  deriving DecidableEq, Repr

def Act.move? : Act → Option Move
  | .move m => some m
  | .ask _ => none

/-- Whether this is about an observer, or the warning that the hold flag decides about. -/
def Event.ofObserver : Event → Bool
  | ⟨_, none, .queried ..⟩ | ⟨_, _, .observed _⟩ | ⟨_, _, .noted (.callWillRetry ..)⟩ => true
  | _ => false

/-- All that a proxy does, and nothing of what only observers could tell. -/
def Sight.unobserved : Sight where
  task _ := true
  event e := !e.ofObserver
  exact := false
  warnings := by
    intro _ time t address operation retries error
    cases t <;> rfl

namespace Proxy

/-- Answers a question. Asking for the state is the one that leaves a trace. -/
def ask (p : Proxy) : Query → Answer × Proxy
  | .state => (.state p.observe.1, p.step .observe)
  | .onHold => (.onHold p.isOnHold, p)
  | .description => (.description p.description, p)
  | .address => (.address p.address, p)
  | .config => (.config p.config, p)

def act (p : Proxy) : Act → Proxy
  | .move m => p.step m
  | .ask q => (p.ask q).2

def actAll (p : Proxy) (acts : List Act) : Proxy := acts.foldl act p

/-- The calls of the channel so far, the latest first: when, in which task, and on which
connection. -/
def calls (p : Proxy) : List (Nat × Option TaskId × ChannelCall) :=
  p.history.filterMap fun e => e.what.started.map (e.time, e.task, ·)

/-- What the tasks returned so far, the latest first, and when. -/
def results (p : Proxy) : List (Nat × Option TaskId × Outcome) :=
  p.history.filterMap fun e => match e.what with
    | .returned o => some (e.time, e.task, o)
    | _ => none

variable {p q : Proxy}

section

variable (h : p.Agree .unobserved q)
include h

/-- What an observer cannot make a difference to can be read off what is left without observers. -/
theorem Agree.filterMap {α : Type} {f : Event → Option α}
    (hf : ∀ e, e.ofObserver = true → f e = none) :
    p.history.filterMap f = q.history.filterMap f := by
  have filtered (l : List Event) : (l.filter (!·.ofObserver)).filterMap f = l.filterMap f := by
    rw [List.filterMap_filter]
    congr 1
    funext e
    cases he : e.ofObserver with
    | true => simp [hf e he]
    | false => simp
  rw [← filtered p.history, ← filtered q.history]
  exact congrArg (List.filterMap f) h.history

theorem Agree.calls : p.calls = q.calls := by
  refine h.filterMap fun e he => ?_
  simp only [Event.ofObserver] at he
  split at he <;> first | rfl | exact nomatch he

theorem Agree.results : p.results = q.results := by
  refine h.filterMap fun e he => ?_
  simp only [Event.ofObserver] at he
  split at he <;> first | rfl | exact nomatch he

theorem Agree.tasks_eq : p.tasks = q.tasks := List.ext_getElem? fun u => h.tasks u rfl

theorem Agree.eq : p = { q with
    hold := p.hold
    slot := { q.slot with state := p.slot.state }
    published := p.published
    history := p.history } := by
  have hslot : p.slot = ⟨q.slot.handle, p.slot.state⟩ := by rw [← h.handle]
  cases p
  cases q
  exact (mk.injEq ..).mpr ⟨h.config, h.address, hslot, rfl, rfl, h.lock, h.draws, h.owned,
    h.dropped, h.running, h.connections, h.tasks_eq, h.clock, h.now, h.uptime, rfl⟩

theorem Agree.reaped (hq : q.Reaped) : p.Reaped := by
  rw [Reaped, h.unreferenced (fun _ hu => nomatch hu), h.dropped]
  exact hq

end

/-- Asking for the state leaves a trace that only observers see. -/
theorem observe_agree (p : Proxy) : p.observe.2.Agree .unobserved p := by
  have hrecord (r : Proxy) (x : Happening) (hx : Event.ofObserver ⟨r.now, none, x⟩ = true) :
      (r.record none x).Agree .unobserved r := {
    Agree.refl _ r with
    history := List.filter_cons_of_neg (by simp [Sight.unobserved, hx]) }
  have hpublish (r : Proxy) (s : ConnState) : (r.publish s).Agree .unobserved r := {
    Agree.refl _ r with
    state := nofun
    published := nofun }
  have hrefresh : (p.refresh none).Agree .unobserved p := by
    simp only [refresh]
    split
    · exact (hpublish _ _).trans (hrecord _ _ rfl)
    · exact hpublish _ _
  simp only [observe]
  split
  · exact (hrecord _ _ rfl).trans hrefresh
  · exact hrecord _ _ rfl

theorem step_observe_agree (hp : p.Reaped) : (p.step .observe).Agree .unobserved p := by
  have happly : (p.apply .observe).Agree .unobserved p := by
    simp only [apply]
    split
    · exact observe_agree p
    · exact .refl _ p
  rw [step, (happly.reaped hp).reap]
  exact happly

theorem ask_agree (hp : p.Reaped) (q : Query) : (p.ask q).2.Agree .unobserved p := by
  cases q with
  | state => exact step_observe_agree hp
  | _ => exact .refl _ p

/-- A move, if nobody looks at what observers see. -/
theorem Agree.move (h : p.Agree .unobserved q) (hq : q.Reaped) (m : Move) :
    (p.step m).Agree .unobserved (q.step m) := by
  by_cases hm : m = .observe
  · subst hm
    exact ((step_observe_agree (h.reaped hq)).trans h).trans (step_observe_agree hq).symm
  · exact h.step (fun _ => rfl) fun he => absurd he hm

/-- What is done to a proxy comes to the same, in what is not observed, as the moves alone. -/
theorem Agree.actAll (h : p.Agree .unobserved q) (hq : q.Reaped) (acts : List Act) :
    (p.actAll acts).Agree .unobserved (q.run (acts.filterMap Act.move?)) := by
  induction acts generalizing p q with
  | nil => exact h
  | cons a acts ih =>
    cases a with
    | move m => exact ih (h.move hq m) (reaped_step q m)
    | ask x => exact ih ((ask_agree (h.reaped hq) x).trans h) hq

/-- Observers and the hold flag make no difference. Take two runs of the same moves from the same
start, but for the hold flag, with different questions asked in between. Then the calls of the
channel, what is returned and the connection in the slot are the same, and so is all else but the
hold flag, the known state of the connection and what is written about the two. -/
theorem observers_make_no_difference {a : Address} {config : Config} {us : Draws}
    {clock : Clock} {start : Proxy} (h : create a config us clock = .ok start) (flag : HoldFlag)
    {acts acts' : List Act}
    (same : acts.filterMap Act.move? = acts'.filterMap Act.move?) :
    let p := start.actAll acts
    let q := { start with hold := flag }.actAll acts'
    p.calls = q.calls ∧ p.results = q.results ∧ (∀ t, p.outcome? t = q.outcome? t) ∧
      p.slot.handle = q.slot.handle ∧
      p.history.filter (!·.ofObserver) = q.history.filter (!·.ofObserver) ∧
      p = { q with
        hold := p.hold
        slot := { q.slot with state := p.slot.state }
        published := p.published
        history := p.history } := by
  intro p q
  have hs : start.Reaped := (fresh_of_create h).reaped
  have hflag : Agree .unobserved { start with hold := flag } start :=
    { Agree.refl _ start with hold := nofun }
  have hpq : p.Agree .unobserved q :=
    ((Agree.refl _ start).actAll hs acts).trans (same ▸ (hflag.actAll hs acts').symm)
  exact ⟨hpq.calls, hpq.results, fun t => by rw [outcome?, hpq.tasks_eq, outcome?], hpq.handle,
    hpq.history, hpq.eq⟩

/-- Of two runs in which a call fails on a connection that turned out to be faulted, one starts on
hold, and in the other one somebody asks. They make the same calls, although only one of them
reports the failure, and only one of them has published that the connection is faulted. -/
theorem observers_make_no_difference_to_a_retry :
    let start := ofDefaults ⟨"svc", by decide⟩ []
    let calling : List Act := [.submit .connect, .resume 0 .turn,
      .resume 0 (.reply (.connected .opened)), .submit (.invoke "a" 8 "x"), .resume 1 .turn,
      .drift 0 .faulted].map .move
    let failing : List Act := [.resume 1 (.reply (.failed .endpointTooBusy)), .tick 100 0,
      .resume 1 .elapsed].map .move
    let p := start.actAll (calling ++ [Act.ask .state, Act.ask .onHold] ++ failing)
    let q := { start with hold := ⟨true⟩ }.actAll (calling ++ failing)
    p.calls = q.calls ∧ p.results = q.results ∧ q.calls.length = 3 ∧
      p.history.countP (·.what.isWarning) = 1 ∧ q.history.countP (·.what.isWarning) = 0 ∧
      p.publishedState = .faulted ∧ q.publishedState = .opened := by
  intro start calling failing p q
  have hstart : create ⟨"svc", by decide⟩ .default [] .unbounded = .ok start := rfl
  have same : (calling ++ [Act.ask .state, Act.ask .onHold] ++ failing).filterMap Act.move? =
      (calling ++ failing).filterMap Act.move? := rfl
  obtain ⟨hcalls, hresults, -⟩ := observers_make_no_difference hstart ⟨true⟩ same
  exact ⟨hcalls, hresults, by decide +kernel, by decide +kernel, by decide +kernel,
    by decide +kernel, by decide +kernel⟩

end Proxy

end ResilientProxy
