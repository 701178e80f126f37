import ResilientProxy.Proofs.Operation
import ResilientProxy.Proofs.Origin

/-!
# The newest connection

A connection that the channel has established comes into the slot, and it stays there until the
channel reports it broken or closed, or somebody closes or aborts it. As long as it is there, nobody
opens another one.
-/

namespace ResilientProxy

/-- Whether the channel has established a connection. -/
def Happening.isConnected : Happening → Bool
  | .callEnded (.connected _) => true
  | _ => false

/-- How many connections the channel has established, which is the number of the next one. -/
def established (h : List Event) : Nat := (h.filter (·.what.isConnected)).length

/-- What ends the stay of `conn` in the slot happened in `new`, after `old`: the channel reported it
broken or closed, or an operation that takes the connection down has begun to close it. -/
inductive Lapsed (conn : ConnId) (old : List Event) : List Event → Prop where
  | reported {new : List Event} {e : Event} {s : ConnState} (he : e ∈ new)
      (hq : e.what = .queried conn s) (hs : s ≠ .opened) : Lapsed conn old new
  | stopped {later rest : List Event} {e : Event} {t : TaskId} {o : Operation} {stop : Stop}
      (ht : e.task = some t) (he : e.what = .callStarted (.close conn))
      (ho : underWay t (rest ++ old) = some o) (hg : o.goal = stop.goal) :
    Lapsed conn old (later ++ e :: rest)

theorem Lapsed.append {conn : ConnId} {old new : List Event} (h : Lapsed conn old new)
    (later : List Event) : Lapsed conn old (later ++ new) := by
  cases h with
  | reported he hq hs => exact .reported (List.mem_append_right _ he) hq hs
  | stopped ht he ho hg =>
    rw [← List.append_assoc]
    exact .stopped ht he ho hg

/-- Whether a task at this stage is opening a connection. -/
def Stage.opens : Stage → Bool
  | .connecting .. | .connectPause .. | .replacing .. => true
  | _ => false

theorem Stage.opens_eq_false {s : Stage} (h : s.grip ≠ .holding) : s.opens = false := by
  cases s with
  | connecting | connectPause | replacing => exact absurd rfl h
  | _ => rfl

namespace Proxy

variable {p q : Proxy} {t : TaskId} {s s' : Stage} {es : List Happening} {conn : ConnId}
  {x : Happening}

theorem Noted.filter_isConnected (h : Noted es) : es.filter Happening.isConnected = [] :=
  h.filter fun _ => rfl

theorem CloseEnds.isConnected {d : Option Nat} {ending : Happening} {r : Except ChannelError Unit}
    (h : p.CloseEnds d ending r) : ending.isConnected = false := by
  cases h <;> rfl

theorem AttemptFails.isConnected {d : Option Nat} {ending : Happening} {e : ChannelError}
    (h : p.AttemptFails d ending e) : ending.isConnected = false := by
  cases h <;> rfl

theorem Leaves.filter_isConnected {o : Opener} {result : Except ConnectionError OpenOutcome}
    {l : Lock} (h : p.Leaves t o result s es l) : es.filter Happening.isConnected = [] := by
  cases h <;> rfl

theorem Leaves.opens {o : Opener} {result : Except ConnectionError OpenOutcome} {l : Lock}
    (h : p.Leaves t o result s es l) : s.opens = false := by
  cases h <;> rfl

/-- What a turn means for the connections: at most one comes to be, and then it is in the slot, or
in the hands of the task that is about to put it there. -/
inductive Brings (p q : Proxy) (s s' : Stage) (es : List Happening) : Prop where
  | nothing (h : es.filter Happening.isConnected = [])
      (hq : q.connections.length = p.connections.length)
  | connection (h : (es.filter Happening.isConnected).length = 1)
      (hq : q.connections.length = p.connections.length + 1) (hg : s.grip = .holding)
      (hs : (q.slot.handle = some p.connections.length ∧ s'.opens = false) ∨
        ∃ o r stale d, s' = .replacing o r p.connections.length stale d)

theorem Turn.brings (h : p.Turn t s s' es q) : p.Brings q s s' es := by
  cases h with
  | connected hc hx =>
    refine .connection ?_ (by simp) rfl (.inl ⟨rfl, hx.opens⟩)
    simp only [List.filter_append, List.filter_cons, hx.filter_isConnected,
      (p.noted_installNotes _).filter_isConnected]
    rfl
  | connectedOver => exact .connection rfl (by simp) rfl (.inr ⟨_, _, _, _, rfl⟩)
  | foundOpen _ _ _ hx | connectFailed _ hx =>
    refine .nothing ?_ rfl
    rw [List.filter_append, hx.filter_isConnected]
    rfl
  | replaced he hcc hx =>
    refine .nothing ?_ rfl
    simp only [List.filter_append, List.filter_cons, hx.filter_isConnected, he.isConnected,
      (p.noted_installNotes _).filter_isConnected, (p.noted_staleNotes _).filter_isConnected,
      hcc.noted.filter_isConnected]
    rfl
  | connectPaused | connectBackedOff =>
    refine .nothing ?_ rfl
    simp only [List.filter_append, List.filter_cons,
      (p.noted_willReopenNotes _ _).filter_isConnected]
    rfl
  | drained he hcc =>
    refine .nothing ?_ rfl
    simp only [List.filter_append, List.filter_cons, (p.noted_stopNotes _ _).filter_isConnected,
      hcc.noted.filter_isConnected, he.isConnected]
    rfl
  | lostConnection he | backedOff he =>
    refine .nothing ?_ rfl
    simp only [List.filter_append, List.filter_cons,
      (p.noted_willRetryNotes _ _).filter_isConnected, he.isConnected]
    rfl
  | teardownAborted he =>
    refine .nothing ?_ rfl
    simp only [List.filter_append, List.filter_cons,
      (p.noted_teardownAbortNotes _).filter_isConnected, he.isConnected]
    rfl
  | failedForGood he | teardownClosed he =>
    refine .nothing ?_ rfl
    simp only [List.filter_cons, he.isConnected]
    rfl
  | _ => exact .nothing rfl rfl

/-- What ends the stay of `conn` in the slot happens in a turn of a task that has `o` under way. -/
inductive Ousts (conn : ConnId) (o : Option Operation) (es : List Happening) : Prop where
  | reported {s : ConnState} (h : .queried conn s ∈ es) (hs : s ≠ .opened)
  | stopped {es₁ es₂ : List Happening} {x : Operation} {stop : Stop}
      (h : es = es₁ ++ .callStarted (.close conn) :: es₂)
      (ho : es₂.foldr Happening.carry o = some x) (hg : x.goal = stop.goal)

/-- With a connection in the slot that nobody is replacing, a turn leaves it there, or ousts it. -/
theorem Turn.keeps (h : p.Turn t s s' es q) (hc : p.slot.handle = some conn)
    (hs : s.opens = false) {o : Option Operation} (ho : s.Carries p.slot.state o) :
    (q.slot.handle = some conn ∧ s'.opens = false) ∨ Ousts conn o es := by
  cases h with
  | foundOpen hl hc' hq hx => exact .inl ⟨hc'.symm.trans hc ▸ rfl, hx.opens⟩
  | foundFaulted hl hc' =>
    cases hc'.symm.trans hc
    exact .inr (.reported (.tail _ (.head _)) nofun)
  | foundClosed hl hc' =>
    cases hc'.symm.trans hc
    exact .inr (.reported (.tail _ (.tail _ (.head _))) nofun)
  | stoppedClosed hl hc' =>
    cases hc'.symm.trans hc
    exact .inr (.reported (.tail _ (.tail _ (.tail _ (.head _)))) nofun)
  | foundEmpty hl hc' | stoppedEmpty hl hc' | abortedEmpty hc' => exact nomatch hc'.symm.trans hc
  | connected | connectedOver | replaced | connectFailed | connectPaused | connectBackedOff
  | connectAgain => exact nomatch hs
  | @closeStarted stop conn' hl hc' =>
    cases hc'.symm.trans hc
    refine .inr (@Ousts.stopped _ _ _ [] _ ⟨stop.goal, some (p.query conn)⟩ stop rfl ?_ rfl)
    cases stop <;> rfl
  | abortStarted hl hc' => exact .inl ⟨hc'.symm.trans hc ▸ rfl, rfl⟩
  | aborted hc' =>
    cases hc'.symm.trans hc
    obtain ⟨x, rfl, hx⟩ := Option.map_eq_some_iff.mp ho.1
    exact .inr (@Ousts.stopped _ _ _ [] _ x .abort rfl rfl hx)
  | _ => exact .inl ⟨hc, rfl⟩

theorem Ousts.lapsed {o : Option Operation} (h : Ousts conn o es) {time : Nat}
    {new old : List Event} (ho : o = underWay t (new ++ old)) :
    Lapsed conn old (es.map (⟨time, some t, ·⟩) ++ new) := by
  cases h with
  | @reported s h hs =>
    refine .reported (e := ⟨time, some t, .queried conn s⟩) ?_ rfl hs
    exact List.mem_append_left _ (List.mem_map_of_mem h)
  | @stopped es₁ es₂ x stop h hx hg =>
    rw [h, List.map_append, List.map_cons, List.append_assoc, List.cons_append]
    refine .stopped (t := t) rfl rfl ?_ hg
    rw [List.append_assoc, underWay_turn, ← ho, hx]

/-- Where connection `conn` is, until its stay lapses: in the slot, with nobody opening another one,
or in the hands of the task that is about to put it there. -/
inductive Stays (p : Proxy) (conn : ConnId) : Prop where
  | slot (hc : p.slot.handle = some conn) (hs : ∀ t s, p.At t s → s.opens = false)
  | hand {t : TaskId} {o : Opener} {r : RetryLoop} {stale : ConnId} {d : Option Nat}
      (h : p.At t (.replacing o r conn stale d))
  | dropped (h : p.dropped = true)
  | halted (h : p.running = false)

/-- All that opens a connection is done by the task that has the lock. -/
theorem opens_of_turn (ho : p.InOrder) (ht : p.At t s) (hg : s.grip = .holding)
    (hq : q.tasks = p.tasks) (hs : s'.opens = false) :
    ∀ u r, (q.goOn t s' es).At u r → r.opens = false := by
  intro u r hu
  obtain ⟨-, rfl⟩ | ⟨hne, hu⟩ := (at_goOn ht hq).mp hu
  · exact hs
  · refine Stage.opens_eq_false fun hr => hne ?_
    exact Orderly.holder_unique ho (hu.grip.trans hr) (ht.grip.trans hg)

/-- The task that has the new connection in hand puts it into the slot. -/
theorem Turn.installs {o : Opener} {r : RetryLoop} {stale : ConnId} {d : Option Nat}
    (h : p.Turn t (.replacing o r conn stale d) s' es q) :
    q.slot.handle = some conn ∧ s'.opens = false := by
  cases h with
  | replaced _ _ hx => exact ⟨rfl, hx.opens⟩

theorem Stays.turn (h : p.Stays conn) (ha : p.Attainable) (ht : p.At t s)
    (hturn : p.Turn t s s' es q) (hno : ¬ Ousts conn (underWay t p.history) es) :
    (q.goOn t s' es).Stays conn := by
  have hf := hturn.frame
  have hr : p.running = true := ha.settled.runs ht hturn.unfinished
  cases h with
  | slot hc hs =>
    obtain ⟨hslot, hs'⟩ | hout := hturn.keeps hc (hs t s ht) (ha.tracked hr t s ht)
    · refine .slot hslot fun u r hu => ?_
      obtain ⟨-, rfl⟩ | ⟨-, hu⟩ := (at_goOn ht hf.tasks).mp hu
      · exact hs'
      · exact hs u r hu
    · exact absurd hout hno
  | @hand u o r stale d hu =>
    by_cases hut : u = t
    · subst hut
      obtain rfl := hu.unique ht
      obtain ⟨hslot, hs'⟩ := hturn.installs
      exact .slot hslot (opens_of_turn ha.inOrder ht rfl hf.tasks hs')
    · exact .hand ((at_goOn ht hf.tasks).mpr (.inr ⟨hut, hu⟩))
  | dropped h => exact .dropped (hf.dropped.trans h)
  | halted h => simp [hr] at h

theorem Stays.of_same (h : p.Stays conn) (hs : q.slot.handle = p.slot.handle)
    (hback : ∀ t s, q.At t s → p.At t s ∨ s.opens = false) (ht : ∀ t s, p.At t s → q.At t s)
    (hd : q.dropped = p.dropped) (hr : q.running = p.running) : q.Stays conn := by
  cases h with
  | slot hc hopens =>
    exact .slot (hs.trans hc) fun t s hat => (hback t s hat).elim (hopens t s) id
  | hand hat => exact .hand (ht _ _ hat)
  | dropped h => exact .dropped (hd.trans h)
  | halted h => exact .halted (hr.trans h)

theorem isConnected_of_isAside (h : x.isAside = true) : x.isConnected = false := by
  cases x with
  | callEnded => exact nomatch h
  | _ => rfl

theorem established_append (new old : List Event) :
    established (new ++ old) = (new.filter (·.what.isConnected)).length + established old := by
  rw [established, List.filter_append, List.length_append, established]

theorem filter_isConnected_map (time : Nat) (t : TaskId) (es : List Happening) :
    ((es.map (⟨time, some t, ·⟩ : Happening → Event)).filter (·.what.isConnected)).length =
      (es.filter Happening.isConnected).length := by
  simp [List.filter_map, Function.comp_def]

theorem Aside.established (h : p.Aside q) :
    established q.history = established p.history := by
  obtain ⟨new, hh, hnew⟩ := h.history
  have hnone : new.filter (·.what.isConnected) = [] := by
    refine List.filter_eq_nil_iff.mpr fun e he => ?_
    simp [isConnected_of_isAside (hnew e he).2.2]
  rw [hh, established_append, hnone, List.length_nil, Nat.zero_add]

/-- Connections are numbered as they are established. -/
theorem Attainable.length_connections (h : p.Attainable) :
    p.connections.length = established p.history := by
  refine h.induct (I := fun p => p.connections.length = established p.history)
    (fun q hq => by simp [hq.connections, hq.history, established]) fun q q' _ hi hs => ?_
  have hdrop : ∀ {p q : Proxy}, p.Reaping q → q.connections = p.connections := by
    intro p q hq
    cases hq with
    | kept => rfl
    | dropped _ _ hd => cases hd <;> rfl
  cases hs with
  | turned ht hturn =>
    rw [goOn_history, hturn.frame.history, established_append, filter_isConnected_map,
      goOn_connections, ← hi]
    cases hturn.brings with
    | nothing h hq => rw [h, hq, List.length_nil, Nat.zero_add]
    | connection h hq => rw [h, hq, Nat.add_comm]
  | drifted => simpa using hi
  | submitted | observed | observedEmpty | observedBusy | ticked | disowned => exact hi
  | dropped hu hd h =>
    rw [h.aside.established, hdrop (.dropped hu hd h)]
    exact hi
  | halted hq =>
    rw [(halted_aside hq).established]
    exact (congrArg List.length (hdrop hq)).trans hi

/-- As long as its stay has not lapsed, the newest connection is where it belongs. -/
theorem Attainable.stays (h : p.Attainable) {new earlier : List Event} {a : Event}
    (hh : p.history = new ++ a :: earlier) (ha : a.what.isConnected = true)
    (hno : ¬ Lapsed (established earlier) (a :: earlier) new) : p.Stays (established earlier) := by
  revert new
  refine h.induct (I := fun p => ∀ {new}, p.history = new ++ a :: earlier →
    ¬ Lapsed (established earlier) (a :: earlier) new → p.Stays (established earlier))
    (fun q hq new hh => by simp [hq.history] at hh) fun q q' hq hi hs new hh hno => ?_
  have older : q.Aside q' → q.Stays (established earlier) := by
    intro haside
    obtain ⟨n, hn, hall⟩ := haside.history
    obtain ⟨mid, rfl, hold⟩ | ⟨mid, rfl, -⟩ := cases_of_append (hn.symm.trans hh)
    · exact hi hold fun hl => hno (hl.append n)
    · simp [isConnected_of_isAside (hall a (by simp)).2.2] at ha
  cases hs with
  | submitted =>
    obtain ⟨rfl, heq⟩ | ⟨mid, rfl, hold⟩ := List.cons_eq_append_iff.mp hh
    · obtain ⟨rfl, -⟩ := List.cons.inj heq
      exact nomatch ha
    · have hst := hi hold fun hl => hno (hl.append [_])
      refine hst.of_same rfl (fun u r hu => ?_) (fun _ _ hu => hu.append rfl) rfl rfl
      obtain hu | ⟨-, rfl⟩ := at_append rfl hu
      · exact .inl hu
      · exact .inr rfl
  | @turned r t s s' es ht hturn =>
    rw [goOn_history, hturn.frame.history] at hh
    obtain ⟨mid, rfl, hold⟩ | ⟨mid, hmid, rfl⟩ := cases_of_append hh
    · have hst := hi hold fun hl => hno (hl.append _)
      exact hst.turn hq ht hturn fun hout => hno (hout.lapsed (by rw [hold]))
    · -- the connection comes from this very turn
      have hcount := congrArg (fun l => (l.filter (·.what.isConnected)).length) hmid
      simp only [filter_isConnected_map, List.filter_append, List.filter_cons, ha, if_true,
        List.length_append, List.length_cons] at hcount
      cases hturn.brings with
      | nothing h => simp [h] at hcount
      | connection h hlen hg hs =>
        have hnew : established (mid ++ q.history) = q.connections.length := by
          rw [established_append, hq.length_connections]
          omega
        rw [hnew]
        obtain ⟨hslot, hs'⟩ | ⟨o, r', stale, d, rfl⟩ := hs
        · exact .slot hslot (opens_of_turn hq.inOrder ht hg hturn.frame.tasks hs')
        · exact .hand (ht.goOn hturn.frame.tasks)
  | drifted | ticked | disowned =>
    exact (hi hh hno).of_same rfl (fun _ _ => .inl) (fun _ _ => id) rfl rfl
  | observed _ _ hc =>
    exact (older (.of_events [_, _] (by simp [Happening.isAside]))).of_same
      hc.symm (fun _ _ => .inl) (fun _ _ => id) rfl rfl
  | observedEmpty _ _ hc =>
    exact (older (.of_events [_] (by simp [Happening.isAside]))).of_same
      hc.symm (fun _ _ => .inl) (fun _ _ => id) rfl rfl
  | observedBusy =>
    exact (older (.of_events [_] (by simp [Happening.isAside]))).of_same
      rfl (fun _ _ => .inl) (fun _ _ => id) rfl rfl
  | dropped _ _ h =>
    exact .dropped h.dropped
  | halted => exact .halted rfl

end Proxy

end ResilientProxy
