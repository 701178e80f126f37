import ResilientProxy.Proofs.Breakdown
import ResilientProxy.Proofs.Finishing
import ResilientProxy.Proofs.Teardown
import ResilientProxy.Proofs.UnderLock

/-!
# When the last reference goes

The last reference goes when all tasks have ended. If the connection is running then, and the
runtime is, one more task tears it down, as the reference says, and nobody else asks anything of the
channel or the log. If not, nobody does.
-/

namespace ResilientProxy

/-- Nothing is asked of the channel, and nothing is noted. -/
def Happening.isSilent (x : Happening) : Bool := x.started.isNone && x.notice.isNone

namespace Teardown

variable {address : Address} {conn : ConnId} {cs : ConnState} {s : Stage} {ws : List Happening}

/-- The teardown of a connection that was in state `cs`, of a proxy with this address. -/
structure IsOf (x : Teardown) (address : Address) (conn : ConnId) (cs : ConnState) : Prop where
  address : x.address = address
  conn : x.conn = conn
  state : x.state = cs

/-- How far a teardown has come: its task, in which this has happened, in order, stands at this
stage. -/
inductive Progress (address : Address) (conn : ConnId) (cs : ConnState) :
    Stage → List Happening → Prop where
  | queued : Progress address conn cs (.teardownQueued conn cs) []
  | aborting (h : cs = .opened) :
    Progress address conn cs (.teardownAborting conn) [.callStarted (.abort conn)]
  | closing {x : Teardown} (hx : x.IsOf address conn cs) :
    Progress address conn cs (.teardownClosing conn) (x.abortEvents ++ [.callStarted (.close conn)])
  | ended {x : Teardown} (hx : x.IsOf address conn cs) :
    Progress address conn cs (.finished .tornDown) x.events
  /-- The runtime has ended. -/
  | vanished {s : Stage} {ws : List Happening} (h : Progress address conn cs s ws)
      (hs : s.isFinished = false) : Progress address conn cs (.finished .vanished) ws

theorem Progress.conducts (h : Progress address conn cs s ws) :
    ∃ x : Teardown, x.IsOf address conn cs ∧ ws <+: x.events ∧
      (s = .finished .tornDown → ws = x.events) := by
  induction h with
  | queued =>
    exact ⟨⟨address, conn, cs, .ok (), .ok ()⟩, ⟨rfl, rfl, rfl⟩, List.nil_prefix, by simp⟩
  | aborting h =>
    subst h
    refine ⟨⟨address, conn, .opened, .ok (), .ok ()⟩, ⟨rfl, rfl, rfl⟩, ?_, by simp⟩
    simp [events, abortEvents]
  | @closing x hx =>
    refine ⟨x, hx, ?_, by simp⟩
    rw [events, hx.conn]
    exact (List.prefix_append_right_inj _).mpr (by simp)
  | @ended x hx => exact ⟨x, hx, List.prefix_rfl, fun _ => rfl⟩
  | vanished _ _ ih =>
    obtain ⟨x, hx, hpre, -⟩ := ih
    exact ⟨x, hx, hpre, by simp⟩

theorem Progress.outcome {o : Outcome} (h : Progress address conn cs (.finished o) ws) :
    o = .tornDown ∨ o = .vanished := by
  cases h with
  | ended => exact .inl rfl
  | vanished => exact .inr rfl

end Teardown

namespace Proxy

open Teardown

variable {p q r : Proxy} {t u : TaskId} {s s' : Stage} {ws es : List Happening} {conn : ConnId}
  {cs : ConnState}

/-- A call that nobody gives up ends with its answer. -/
theorem CloseEnds.answered {ending : Happening} {result : Except ChannelError Unit}
    (h : p.CloseEnds none ending result) : ending = Stopping.ending result := by
  cases h with
  | done | failed => rfl
  | givenUp hd => cases hd

theorem closeNotice_eq {x : Teardown} (h : x.address = p.address) :
    x.closeNotice = p.teardownCloseNotice x.closed := by
  rw [closeNotice, h]
  rcases x.closed with e | ⟨⟩
  · cases e <;> rfl
  · rfl

/-- Each turn of a teardown is one that the reference says. -/
theorem Turn.teardown (h : p.Turn t s s' es q) (hp : Progress p.address conn cs s ws) :
    Progress p.address conn cs s' (ws ++ es.reverse) := by
  cases hp with
  | queued =>
    cases h with
    | teardownAborts => exact .aborting rfl
    | teardownCloses hs =>
      have hx : IsOf ⟨p.address, conn, cs, .ok (), .ok ()⟩ p.address conn cs := ⟨rfl, rfl, rfl⟩
      have hclosing := Progress.closing hx
      rw [abortEvents, if_neg hs] at hclosing
      exact hclosing
  | aborting hs =>
    subst hs
    cases h with
    | @teardownAborted _ _ result he =>
      obtain rfl := he.answered
      have hx : IsOf ⟨p.address, conn, .opened, result, .ok ()⟩ p.address conn .opened :=
        ⟨rfl, rfl, rfl⟩
      have hclosing := Progress.closing hx
      rcases result with e | ⟨⟩ <;> exact hclosing
  | @closing x hx =>
    cases h with
    | @teardownClosed _ _ result he =>
      obtain rfl := he.answered
      have hx' : IsOf { x with closed := result } p.address conn cs :=
        ⟨hx.address, hx.conn, hx.state⟩
      have hended := Progress.ended hx'
      have habort : abortEvents { x with closed := result } = x.abortEvents := rfl
      have hnotice : closeNotice { x with closed := result } = p.teardownCloseNotice result :=
        closeNotice_eq hx'.address
      rw [events, habort, hnotice, hx'.conn] at hended
      simpa using hended
  | ended | vanished => cases h.unfinished

/-- A teardown goes on as the reference says until it is over, or the runtime is. -/
theorem Stretches.teardown (h : q.Stretches r)
    (hq : q.At t (.teardownQueued conn cs)) (hnew : happeningsOf t q.history = []) :
    ∃ s, r.At t s ∧ Progress q.address conn cs s (happeningsOf t r.history) := by
  induction h with
  | refl => exact ⟨_, hq, hnew ▸ .queued⟩
  | @tail m r hm hs ih =>
    obtain ⟨s, hat, hprogress⟩ := ih
    cases hs.passes hat with
    | turned hturn hr =>
      subst hr
      have hf := hturn.frame
      rw [← Stretches.address hm] at hprogress ⊢
      exact ⟨_, hat.goOn hf.tasks, happeningsOf_turn hf ▸ hturn.teardown hprogress⟩
    | aside new hh hne hn hat' =>
      have hsame : happeningsOf t r.history = happeningsOf t m.history := by
        rw [happeningsOf_eq, eventsOf_of_append hh hne, ← happeningsOf_eq]
      rw [hsame]
      obtain hat' | ⟨hs, hat'⟩ := hat'
      · exact ⟨s, hat', hprogress⟩
      · exact ⟨_, hat', .vanished hprogress hs⟩

/-! ## Nobody else is left -/

/-- The proxy has been dropped, in the state `p`; of its tasks, all have ended but `t`, and since
then nobody else has asked anything of the channel or the log. -/
structure Deserted (t : TaskId) (p q : Proxy) : Prop where
  unowned : q.owned = false
  dropped : q.dropped = true
  ended : ∀ u s, q.At u s → u ≠ t → s.isFinished = true
  silent : ∃ new, q.history = new ++ p.history ∧
    ∀ e ∈ new, e.task = some t ∨ e.what.isSilent = true

/-- Others ask nothing any more. -/
theorem Deserted.of_append (h : Deserted t p q) (new : List Event) (ho : r.owned = false)
    (hd : r.dropped = true) (hended : ∀ u s, r.At u s → u ≠ t → s.isFinished = true)
    (hh : r.history = new ++ q.history)
    (hnew : ∀ e ∈ new, e.task = some t ∨ e.what.isSilent = true) : Deserted t p r := by
  obtain ⟨old, hold, hsilent⟩ := h.silent
  refine ⟨ho, hd, hended, new ++ old, by rw [hh, hold, List.append_assoc], fun e he => ?_⟩
  exact (List.mem_append.mp he).elim (hnew e) (hsilent e)

theorem Deserted.cutOff (h : Deserted t p q) : Deserted t p q.cutOff := by
  refine h.of_append _ h.unowned h.dropped (fun _ _ hat _ => isFinished_of_cutOff hat) rfl
    fun e he => .inr ?_
  obtain ⟨c, -, rfl⟩ := List.mem_map.mp he
  rfl

theorem Deserted.stretch (h : Deserted t p q) (hs : q.Stretch r) :
    Deserted t p r ∧ r.tasks.length = q.tasks.length := by
  have hunowned := h.unowned
  cases hs with
  | submitted ho | observed ho | observedEmpty ho | observedBusy ho => simp [hunowned] at ho
  | @turned r u s s' es hu hturn =>
    have hf := hturn.frame
    obtain rfl : u = t := by
      by_contra hne
      exact nomatch (h.ended u s hu hne).symm.trans hturn.unfinished
    refine ⟨h.of_append (es.map (⟨r.now, some u, ·⟩)) (hf.owned.trans h.unowned)
      (hf.dropped.trans h.dropped) (fun v s hv hne => ?_) (by rw [goOn_history, hf.history])
      (by simp), by simp [hf.tasks]⟩
    obtain ⟨rfl, -⟩ | ⟨-, hv⟩ := (at_goOn hu hf.tasks).mp hv
    · exact absurd rfl hne
    · exact h.ended v s hv hne
  | drifted | ticked => exact ⟨h.of_append [] h.unowned h.dropped h.ended rfl (by simp), rfl⟩
  | disowned => exact ⟨h.of_append [] rfl h.dropped h.ended rfl (by simp), rfl⟩
  | dropped _ hd => exact nomatch h.dropped.symm.trans hd
  | halted hq =>
    cases hq with
    | kept =>
      have hcut := h.cutOff.cutOff
      exact ⟨⟨hcut.unowned, hcut.dropped, hcut.ended, hcut.silent⟩, by simp [Proxy.cutOff]⟩
    | dropped _ hd => exact nomatch h.dropped.symm.trans hd

theorem Deserted.stretches (h : Deserted t p q) (hs : q.Stretches r) :
    Deserted t p r ∧ r.tasks.length = q.tasks.length := by
  induction hs with
  | refl => exact ⟨h, rfl⟩
  | tail _ hs ih =>
    obtain ⟨hdeserted, hlength⟩ := ih.1.stretch hs
    exact ⟨hdeserted, hlength.trans ih.2⟩

/-! ## The drop -/

theorem Dropping.spawns (h : p.Dropping q) (hr : p.running = true)
    (hf : p.finding = some (conn, cs)) (hcs : cs.isRunning = true) :
    q.tasks = p.tasks ++ [.teardownQueued conn cs] := by
  cases h with
  | empty hc => simp [finding, hc] at hf
  | closed hc hs =>
    rw [finding_of_handle hc hs] at hf
    cases hf
    cases hcs
  | running hc =>
    rw [finding_of_handle hc rfl] at hf
    cases hf
    rfl
  | outside _ _ hr' => simp [hr] at hr'

theorem Dropping.spawns_nothing (h : p.Dropping q) (hf : p.finding.running = none) :
    q.tasks = p.tasks := by
  cases h with
  | running hc hs => simp [finding, Finding.running, hc, hs] at hf
  | _ => rfl

theorem Turn.of_tornDown (h : p.Turn t s (.finished .tornDown) es q) : s.tearsDown = true := by
  generalize hs' : Stage.finished .tornDown = s' at h
  cases h with
  | foundOpen _ _ _ hx | connected _ hx | replaced _ _ hx | connectFailed _ hx =>
    cases hx <;> cases hs'
  | teardownClosed => rfl
  | _ => cases hs'

/-- Who has ended when the tasks are cut off had ended before. -/
theorem At.of_cutOff {o : Outcome} (h : p.cutOff.At t (.finished o)) (ho : o ≠ .vanished) :
    p.At t (.finished o) := by
  simp only [At, Proxy.cutOff, List.getElem?_map, Option.map_eq_some_iff] at h
  obtain ⟨s, hs, he⟩ := h
  split at he
  · rwa [he] at hs
  · cases he
    exact absurd rfl ho

/-- Nothing is torn down before the last reference goes. -/
theorem Attainable.not_tornDown (h : p.Attainable) (hd : p.dropped = false) (u : TaskId) :
    ¬ p.At u (.finished .tornDown) := by
  refine h.induct (I := fun p => p.dropped = false → ∀ u, ¬ p.At u (.finished .tornDown))
    (fun q hq _ u hu => by simp [At, hq.tasks] at hu) (fun q r hq hi hs hd u hu => ?_) hd u
  cases hs with
  | submitted =>
    obtain hu | ⟨-, hu⟩ := at_append rfl hu
    · exact hi hd u hu
    · cases hu
  | turned ht hturn =>
    have hd' : q.dropped = false := hturn.frame.dropped.symm.trans hd
    obtain ⟨-, rfl⟩ | ⟨-, hu⟩ := (at_goOn ht hturn.frame.tasks).mp hu
    · have huntorn := hq.settled.untorn hd' _ _ ht
      simp [hturn.of_tornDown] at huntorn
    · exact hi hd' u hu
  | dropped _ _ hdrop => simp [hdrop.dropped] at hd
  | halted hr =>
    cases hr with
    | kept =>
      have hq' : q.cutOff.cutOff.At u (.finished .tornDown) := hu
      exact hi hd u ((hq'.of_cutOff (by simp)).of_cutOff (by simp))
    | dropped _ _ hdrop =>
      cases hdrop.dropped.symm.trans hd
  | _ => exact hi hd u hu

/-- The last reference goes inside a runtime. -/
structure DropsInside (p q : Proxy) : Prop where
  attainable : p.Attainable
  unreferenced : p.unreferenced = true
  undropped : p.dropped = false
  running : p.running = true
  dropping : p.Dropping q

namespace DropsInside

theorem attainable_after (h : p.DropsInside q) : q.Attainable :=
  h.attainable.stretch (.dropped h.unreferenced h.undropped h.dropping)

theorem deserted (h : p.DropsInside q) : Deserted p.tasks.length p q := by
  have hended : ∀ u s, p.At u s → s.isFinished = true := fun u s hs => by
    obtain ⟨o, rfl⟩ := finished_of_unreferenced h.attainable h.unreferenced h.undropped hs
    rfl
  have hunowned : p.owned = false := owned_of_unreferenced h.unreferenced
  have hp : Deserted p.tasks.length p { p with dropped := true } :=
    ⟨hunowned, rfl, fun u s hs _ => hended u s hs, [], rfl, by simp⟩
  cases h.dropping with
  | empty => exact hp
  | closed =>
    exact hp.of_append [_, _] hunowned rfl (fun u s hs _ => hended u s hs) rfl
      (by simp [Happening.isSilent, Happening.started, Happening.notice])
  | running =>
    refine hp.of_append [_] hunowned rfl (fun u s hs hne => ?_) rfl
      (by simp [Happening.isSilent, Happening.started, Happening.notice])
    obtain hs | ⟨hu, -⟩ := at_append rfl hs
    · exact hended u s hs
    · exact absurd hu hne
  | outside _ _ hr => simp [h.running] at hr

end DropsInside

/-- In a running state after the last reference went, it went inside a runtime. -/
theorem Attainable.exists_drop (h : r.Attainable) (hd : r.dropped = true)
    (hr : r.running = true) : ∃ p q, DropsInside p q ∧ q.Stretches r := by
  refine h.induct (I := fun r => r.dropped = true → r.running = true →
    ∃ p q, DropsInside p q ∧ q.Stretches r) (fun r hfresh hd => ?_)
    (fun q r hq hi hs hd hr => ?_) hd hr
  · exact nomatch hfresh.dropped.symm.trans hd
  · have later : q.dropped = true → q.running = true → ∃ p q', DropsInside p q' ∧ q'.Stretches r :=
      fun hd hr => by
        obtain ⟨p, q', hdrops, hq'⟩ := hi hd hr
        exact ⟨p, q', hdrops, hq'.tail hs⟩
    cases hs with
    | turned _ hturn =>
      exact later (hturn.frame.dropped.symm.trans hd) (hturn.frame.running.symm.trans hr)
    | dropped hu hd' hdrop =>
      have hrunning : q.running = true := by cases hdrop <;> exact hr
      exact ⟨q, r, ⟨hq, hu, hd', hrunning, hdrop⟩, .refl⟩
    | halted => exact nomatch hr
    | _ => exact later hd hr

theorem closeEnds_ending (p : Proxy) (result : Except ChannelError Unit) :
    p.CloseEnds none (Stopping.ending result) result := by
  rcases result with e | ⟨⟩
  · exact .failed
  · exact .done

/-- The channel may answer anything to a teardown. -/
theorem exists_tornDown {x : Teardown} (hx : x.IsOf q.address conn cs)
    (hq : q.At t (.teardownQueued conn cs)) (hnew : happeningsOf t q.history = []) :
    ∃ r, q.Stretches r ∧ r.At t (.finished .tornDown) ∧
      happeningsOf t r.history = x.events := by
  obtain ⟨m, hm, hat, hws⟩ : ∃ m, q.Stretches m ∧ m.At t (.teardownClosing conn) ∧
      happeningsOf t m.history = x.abortEvents ++ [.callStarted (.close conn)] := by
    by_cases hs : cs = .opened
    · subst hs
      have habort := @Turn.teardownAborts q t conn
      generalize hm : q.goOn t (.teardownAborting conn) [.callStarted (.abort conn)] = m
      have hqm : q.Stretches m := hm ▸ .single (.turned hq habort)
      have hat : m.At t (.teardownAborting conn) := hm ▸ hq.goOn habort.frame.tasks
      have hws : happeningsOf t m.history = [.callStarted (.abort conn)] := by
        rw [← hm, happeningsOf_turn habort.frame, hnew]
        rfl
      have hclose := @Turn.teardownAborted m t conn _ _ (m.closeEnds_ending x.abortion)
      refine ⟨_, hqm.tail (.turned hat hclose), hat.goOn hclose.frame.tasks, ?_⟩
      rw [happeningsOf_turn hclose.frame, hws, abortEvents, if_pos hx.state, hx.conn, hx.address,
        ← Stretches.address hqm]
      rcases x.abortion with e | ⟨⟩ <;> simp [teardownAbortNotes]
    · have hclose := @Turn.teardownCloses q t conn cs hs
      refine ⟨_, .single (.turned hq hclose), hq.goOn hclose.frame.tasks, ?_⟩
      rw [happeningsOf_turn hclose.frame, hnew, abortEvents, if_neg (hx.state ▸ hs)]
      rfl
  have hdone := @Turn.teardownClosed m t conn _ _ (m.closeEnds_ending x.closed)
  refine ⟨_, hm.tail (.turned hat hdone), hat.goOn hdone.frame.tasks, ?_⟩
  have hnotice : x.closeNotice = m.teardownCloseNotice x.closed :=
    closeNotice_eq (hx.address.trans (Stretches.address hm).symm)
  rw [happeningsOf_turn hdone.frame, hws, events, hnotice, hx.conn]
  simp

/-- After the last reference went, when the proxy was `p`, one task tears the connection down. -/
structure TearsDown (p q : Proxy) (conn : ConnId) (cs : ConnState) : Prop where
  starts : q.tasks = p.tasks ++ [.teardownQueued conn cs]
  /-- Nobody else asks anything of the channel or the log. -/
  alone : ∀ r, q.Stretches r → r.tasks.length = q.tasks.length ∧
    ∃ new, r.history = new ++ p.history ∧
      ∀ e ∈ new, e.task = some p.tasks.length ∨ e.what.isSilent = true
  conducted : ∀ r, q.Stretches r → ∃ x : Teardown, x.IsOf p.address conn cs ∧
    happeningsOf p.tasks.length r.history <+: x.events ∧
    (r.At p.tasks.length (.finished .tornDown) → happeningsOf p.tasks.length r.history = x.events)
  /-- The channel may answer anything. -/
  answered : ∀ x : Teardown, x.IsOf p.address conn cs → ∃ r, q.Stretches r ∧
    r.At p.tasks.length (.finished .tornDown) ∧ happeningsOf p.tasks.length r.history = x.events
  ends : ∀ ms, q.Fair ms → ∃ n, (q.upTo ms n).At p.tasks.length (.finished .tornDown) ∨
    (q.upTo ms n).running = false

theorem DropsInside.tearsDown (h : p.DropsInside q) (hf : p.finding = some (conn, cs))
    (hcs : cs.isRunning = true) : TearsDown p q conn cs := by
  have hstarts := h.dropping.spawns h.running hf hcs
  have hat : q.At p.tasks.length (.teardownQueued conn cs) := by simp [At, hstarts]
  have haddress : q.address = p.address :=
    Reaping.address (.dropped h.unreferenced h.undropped h.dropping)
  have hnew : happeningsOf p.tasks.length q.history = [] := by
    rw [happeningsOf_eq, h.dropping.aside.eventsOf,
      h.attainable.tasksExist.eventsOf_eq_nil (Nat.le_refl _)]
    rfl
  refine ⟨hstarts, fun r hr => ?_, fun r hr => ?_, fun x hx => ?_, fun ms hfair => ?_⟩
  · obtain ⟨hdeserted, hlength⟩ := h.deserted.stretches hr
    exact ⟨hlength, hdeserted.silent⟩
  · obtain ⟨s, hs, hprogress⟩ := hr.teardown hat hnew
    obtain ⟨x, hx, hpre, hends⟩ := hprogress.conducts
    exact ⟨x, haddress ▸ hx, hpre, fun hs' => hends (hs.unique hs')⟩
  · exact exists_tornDown (haddress.symm ▸ hx) hat hnew
  · have hlt : p.tasks.length < (q.upTo ms 0).tasks.length := hat.lt
    obtain ⟨n, -, o, ho⟩ := hfair.finishes h.attainable_after hlt
    have hn : q.Stretches (q.upTo ms n) := upTo_stretches q ms (Nat.zero_le n)
    obtain ⟨s, hs, hprogress⟩ := hn.teardown hat hnew
    obtain rfl := hs.unique ho
    obtain rfl | rfl := hprogress.outcome
    · exact ⟨n, .inl ho⟩
    · exact ⟨n, .inr ((h.attainable_after.stretches hn).running_of_vanished ho)⟩

/-- When the last reference goes inside a runtime, all tasks have ended. If the connection is
running then, one task tears it down, and nobody else asks anything of the channel or the log; if
not, nobody does. A teardown aborts an open connection and then closes it, and closes a faulted one.
It gives the log all reports that it owes, and no false report of a success, if and only if it does
not swallow the failure of a close. In every running state after it, the last reference went in this
way. -/
theorem teardown_reports_iff_not_swallows (h : p.DropsInside q) :
    (∀ u s, p.At u s → s.isFinished = true ∧ s ≠ .finished .tornDown) ∧
    (∀ conn cs, p.finding = some (conn, cs) → cs.isRunning = true → TearsDown p q conn cs) ∧
    (p.finding.running = none → ∀ r, q.Stretches r → r.tasks.length = p.tasks.length ∧
      ∃ new, r.history = new ++ p.history ∧ ∀ e ∈ new, e.what.isSilent = true) ∧
    (∀ x : Teardown, x.state.isRunning = true →
      x.events.filterMap Happening.started = x.calls.map (·.1) ∧ (x.Reports ↔ ¬ x.Swallows)) ∧
    ∀ r : Proxy, r.Reachable → r.dropped = true → r.running = true →
      ∃ p q, DropsInside p q ∧ q.Stretches r := by
  refine ⟨fun u s hs => ⟨?_, ?_⟩, fun conn cs => h.tearsDown, fun hf r hr => ?_,
    fun x hx => ⟨Teardown.started_events, Teardown.reports_iff hx⟩,
    fun r hr hd => hr.attainable.exists_drop hd⟩
  · obtain ⟨o, rfl⟩ := finished_of_unreferenced h.attainable h.unreferenced h.undropped hs
    rfl
  · rintro rfl
    exact h.attainable.not_tornDown h.undropped u hs
  · obtain ⟨hdeserted, hlength⟩ := h.deserted.stretches hr
    have hlength' : r.tasks.length = p.tasks.length := by
      rw [hlength, h.dropping.spawns_nothing hf]
    obtain ⟨new, hh, hnew⟩ := hdeserted.silent
    refine ⟨hlength', new, hh, fun e he => (hnew e he).resolve_left fun htask => ?_⟩
    have hmem : e ∈ r.history := hh ▸ List.mem_append_left _ he
    have hlt := (h.attainable_after.stretches hr).tasksExist e hmem _ htask
    exact absurd hlt (by simp [hlength'])

/-- An open connection can be neither aborted nor closed, and the log gets a report of both. -/
theorem teardown_reports_iff_not_swallows_of_two_failures :
    let a : Address := ⟨"svc", by decide⟩
    let p := { (ofDefaults a []).run [.submit .connect, .resume 0 .turn,
      .resume 0 (.reply (.connected .opened))] with owned := false }
    let x : Teardown := ⟨a, 0, .opened, .error (.fault "x"), .error (.fault "y")⟩
    DropsInside p p.drop ∧ TearsDown p p.drop 0 .opened ∧
      (∃ r, p.drop.Stretches r ∧ happeningsOf 1 r.history = x.events) ∧ x.Reports := by
  intro a p x
  have hreach : ((ofDefaults a []).run [.submit .connect, .resume 0 .turn,
      .resume 0 (.reply (.connected .opened))]).Reachable := reachable_ofDefaults _ _ _
  have hdrops : DropsInside p p.drop :=
    ⟨hreach.attainable.stretch .disowned, by decide +kernel, by decide +kernel, by decide +kernel,
      drop_dropping⟩
  obtain ⟨-, htears, -, hreports, -⟩ := teardown_reports_iff_not_swallows hdrops
  have hp : TearsDown p p.drop 0 .opened := htears 0 .opened (by decide +kernel) rfl
  obtain ⟨r, hr, -, hevents⟩ := hp.answered x ⟨by decide +kernel, rfl, rfl⟩
  have hlength : p.tasks.length = 1 := by decide +kernel
  refine ⟨hdrops, hp, ⟨r, hr, hlength ▸ hevents⟩, (hreports x rfl).2.mpr fun ⟨_, _, _, hs⟩ => ?_⟩
  cases hs

/-- An open connection can be neither aborted nor closed, and the latter is an invalid operation.
Of the two failures the log gets a report of one, and it is told that the proxy was torn down. -/
theorem failed_teardown_reported_as_success :
    let a : Address := ⟨"svc", by decide⟩
    let r := (ofDefaults a []).run [.submit .connect, .resume 0 .turn,
      .resume 0 (.reply (.connected .opened)), .disown, .resume 1 .turn,
      .resume 1 (.reply (.failed (.fault "busy"))),
      .resume 1 (.reply (.failed (.invalidOperation "not closable")))]
    let x : Teardown :=
      ⟨a, 0, .opened, .error (.fault "busy"), .error (.invalidOperation "not closable")⟩
    r.Reachable ∧ happeningsOf 1 r.history = [.callStarted (.abort 0),
      .callEnded (.failed (.fault "busy")), .noted (.teardownAbortFailed a (.fault "busy")),
      .callStarted (.close 0), .callEnded (.failed (.invalidOperation "not closable")),
      .noted (.tornDown a), .returned .tornDown] ∧
      happeningsOf 1 r.history = x.events ∧ ¬ x.Reports := by
  intro a r x
  have hr : r.Reachable := reachable_ofDefaults _ _ _
  have hswallows : x.Swallows := ⟨rfl, ⟨_, rfl⟩, ⟨_, rfl⟩⟩
  exact ⟨hr, by decide +kernel, by decide +kernel, fun h => (reports_iff rfl).mp h hswallows⟩

end Proxy

end ResilientProxy
