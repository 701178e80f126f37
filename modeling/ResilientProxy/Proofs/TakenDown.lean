import Mathlib.Data.List.Basic
import ResilientProxy.Proofs.History
import ResilientProxy.Proofs.Slot

/-!
# A connection that was taken down

After a close or an abort has returned with the slot empty, who may bring the connection up again?
The owner, of course. Calls that have no connection end at once; but a call whose attempt was with
the channel all the time, or that is in line to open the connection, opens it again. The condition
under which this can happen is exact.
-/

namespace ResilientProxy

/-- On whose behalf a task at this stage is in line to open the connection. -/
def Stage.opener : Stage → Option Opener
  | .awaitingLock (.connect o) => some o
  | _ => none

namespace Proxy

variable {p q : Proxy} {t : TaskId} {s s' : Stage} {es : List Happening}

/-- Those in line to open the connection, in the order in which they get the lock. -/
def openers (p : Proxy) : List Opener := p.lock.line.filterMap (p.view Stage.opener none)

/-- A close or an abort has just returned, and the slot is empty. -/
def TookDown (p : Proxy) : Prop :=
  p.slot = ⟨none, .closed⟩ ∧ ∃ time t result earlier,
    p.history = ⟨time, some t, .returned (.stopped result)⟩ :: earlier

/-- Whatever happens from here on, the channel is asked for a connection only after the owner has
got the lock to open one. -/
def StaysDown (p : Proxy) : Prop :=
  ∀ ms later e between, (p.run ms).history = later ++ e :: (between ++ p.history) →
    e.what = .callStarted .connect → ∃ x ∈ between, x.what = .lockTaken (.connect .owner)

/-- A call can bring the connection up: one is in line to open it, before the owner is; or the owner
is not in line at all, and an attempt that may be followed by another is with the channel. -/
def MayComeUp (p : Proxy) : Prop :=
  (∃ c os, p.openers = .call c :: os) ∨
    (p.openers = [] ∧ ∃ t c conn a d, p.At t (.attempting c conn a d) ∧ c.retry.exhausted = false)

/-- Nobody is at work on the empty slot, and no call will be before the owner. -/
structure Down (p : Proxy) : Prop where
  slot : p.slot.handle = none
  rests : ∀ t, p.grip t ≠ .holding
  first : (p.openers = [] ∧
      ∀ t c conn a d, p.At t (.attempting c conn a d) → c.retry.exhausted = true) ∨
    ∃ os, p.openers = .owner :: os

/-- A turn with an empty slot, of a task that is not at work under the lock. -/
inductive Idles (p : Proxy) (t : TaskId) (s s' : Stage) (q : Proxy) : List Happening → Prop where
  | stays {es : List Happening} (hs : s.grip = .off) (hs' : s'.grip = .off)
      (hl : q.lock = p.lock) (ha : ∀ c conn a d, s' = .attempting c conn a d →
        ∃ a, s = .attempting c conn a d)
      (he : .callStarted .connect ∉ es) : Idles p t s s' q es
  | joins {es : List Happening} (hs : s.grip = .off) (hs' : s'.grip = .inLine)
      (hl : q.lock = p.lock.join t) (ho : ∀ o, s'.opener = some o → o = .owner ∨
        ∃ c conn a d, s = .attempting c conn a d ∧ c.retry.exhausted = false)
      (he : .callStarted .connect ∉ es) : Idles p t s s' q es
  | leaves {es : List Happening} {o : Outcome} (ho : p.lock.owner = some t)
      (hs : s.opener = none) (hs' : s' = .finished o) (hl : q.lock = p.lock.pass)
      (he : .callStarted .connect ∉ es) : Idles p t s s' q es
  | opens {o : Opener} (ho : p.lock.owner = some t) (hs : s.opener = some o) :
    Idles p t s s' q [.callStarted .connect, .lockTaken (.connect o)]

theorem AttemptFails.ne {d : Option Nat} {ending : Happening} {e : ChannelError}
    (h : p.AttemptFails d ending e) : ending ≠ .callStarted .connect := by
  cases h <;> nofun

theorem CloseEnds.ne {d : Option Nat} {ending : Happening} {r : Except ChannelError Unit}
    (h : p.CloseEnds d ending r) : ending ≠ .callStarted .connect := by
  cases h <;> nofun

theorem Turn.idles (h : p.Turn t s s' es q) (hslot : p.slot.handle = none)
    (hs : s.grip ≠ .holding) : p.Idles t s s' q es ∧ q.slot.handle = none := by
  cases h with
  | foundOpen _ hc | foundFaulted _ hc | foundClosed _ hc | closeStarted _ hc
  | stoppedClosed _ hc | abortStarted _ hc | attemptSent _ hc | arenaRefused _ hc =>
    exact absurd (hslot.symm.trans hc) nofun
  | connected | connectedOver | replaced | connectFailed | connectPaused | connectBackedOff
  | connectAgain | aborted | abortedEmpty | abortRefused | drained => exact absurd rfl hs
  | @began job =>
    refine ⟨.joins rfl rfl rfl (fun o ho => .inl ?_) (by simp), hslot⟩
    cases job <;> simp [Stage.opener, Job.goal] at ho
    exact ho.symm
  | foundEmpty hl => exact ⟨.opens hl rfl, rfl⟩
  | @stoppedEmpty stop hl =>
    cases stop <;> exact ⟨.leaves hl rfl rfl rfl (by simp), rfl⟩
  | attemptedEmpty hl => exact ⟨.leaves hl rfl rfl rfl (by simp), hslot⟩
  | lostConnection he hr hx =>
    refine ⟨.joins rfl rfl rfl (fun o ho => .inr ⟨_, _, _, _, rfl, hx⟩) ?_, hslot⟩
    have hn := fun c e => (noted_willRetryNotes p e c).not_mem (x := .callStarted .connect) nofun
    simp [hn, he.ne.symm]
  | paused => exact ⟨.joins rfl rfl rfl nofun (by simp), hslot⟩
  | allocated =>
    refine ⟨.stays rfl rfl rfl (fun c conn a d heq => ?_) (by simp), hslot⟩
    cases heq
    exact ⟨_, rfl⟩
  | arenaShort =>
    refine ⟨.stays rfl rfl rfl (fun c conn a d heq => ?_) (by simp), hslot⟩
    cases heq
    exact ⟨_, rfl⟩
  | failedForGood he => exact ⟨.stays rfl rfl rfl nofun (by simp [he.ne.symm]), hslot⟩
  | backedOff he =>
    have hn := fun c e => (noted_willRetryNotes p e c).not_mem (x := .callStarted .connect) nofun
    exact ⟨.stays rfl rfl rfl nofun (by simp [hn, he.ne.symm]), hslot⟩
  | teardownAborted he =>
    have hn := fun r => (noted_teardownAbortNotes p r).not_mem (x := .callStarted .connect) nofun
    exact ⟨.stays rfl rfl rfl nofun (by simp [hn, he.ne.symm]), hslot⟩
  | teardownClosed he => exact ⟨.stays rfl rfl rfl nofun (by simp [he.ne.symm]), hslot⟩
  | answered | brokeDown | teardownAborts | teardownCloses =>
    exact ⟨.stays rfl rfl rfl nofun (by simp), hslot⟩

theorem mem_line_of_grip (h : p.InOrder) (ht : p.At t s) : t ∈ p.lock.line ↔ s.grip ≠ .off := by
  rw [Orderly.mem_line h t]
  have hg : p.grip t = s.grip := ht.grip
  rw [hg]

/-- A task that is not in line when it takes a turn changes nothing for those who are. -/
theorem filterMap_goOn {l : List TaskId} (ht : p.At t s) (hq : q.tasks = p.tasks) (hl : t ∉ l) :
    l.filterMap ((q.goOn t s' es).view Stage.opener none) =
      l.filterMap (p.view Stage.opener none) := by
  refine List.filterMap_congr fun u hu => ?_
  have hne : u ≠ t := fun he => hl (he ▸ hu)
  rw [view_goOn ht hq, Function.update_of_ne hne]

theorem openers_join (h : p.InOrder) (ht : p.At t s) (hs : s.grip = .off)
    (hq : q.tasks = p.tasks) (hl : q.lock = p.lock.join t) :
    (q.goOn t s' es).openers = p.openers ++ s'.opener.toList := by
  have hnot : t ∉ p.lock.line := by simp [mem_line_of_grip h ht, hs]
  have hview : (q.goOn t s' es).view Stage.opener none t = s'.opener := by
    rw [view_goOn ht hq, Function.update_self]
  rw [openers, goOn_lock, hl, Lock.line_join h.idle, List.filterMap_append,
    filterMap_goOn ht hq hnot]
  cases ho : s'.opener <;> simp [hview, ho, openers]

theorem openers_keep (h : p.InOrder) (ht : p.At t s) (hs : s.grip = .off)
    (hq : q.tasks = p.tasks) (hl : q.lock = p.lock) : (q.goOn t s' es).openers = p.openers := by
  have hnot : t ∉ p.lock.line := by simp [mem_line_of_grip h ht, hs]
  rw [openers, goOn_lock, hl, filterMap_goOn ht hq hnot, openers]

/-- The first in line, and who remains when it leaves. -/
theorem openers_of_owner (ht : p.At t s) (ho : p.lock.owner = some t) :
    p.openers = s.opener.toList ++ p.lock.waiting.filterMap (p.view Stage.opener none) := by
  have hview : p.view Stage.opener none t = s.opener := ht.view
  rw [openers, Lock.line_of_owner ho, List.filterMap_cons, hview]
  cases s.opener <;> rfl

theorem openers_pass (h : p.InOrder) (ht : p.At t s) (ho : p.lock.owner = some t)
    (hs : s.opener = none) (hq : q.tasks = p.tasks) (hl : q.lock = p.lock.pass) :
    (q.goOn t s' es).openers = p.openers := by
  have hnot : t ∉ p.lock.waiting := fun hm => (Orderly.waiting_grip h ho hm).1 rfl
  rw [openers_of_owner ht ho, openers, goOn_lock, hl, Lock.line_pass, filterMap_goOn ht hq hnot, hs]
  rfl

theorem grip_goOn_ne (h : ∀ u, p.grip u ≠ .holding) (ht : p.At t s) (hq : q.tasks = p.tasks)
    (hs' : s'.grip ≠ .holding) (u : TaskId) : (q.goOn t s' es).grip u ≠ .holding := by
  rw [grip, view_goOn ht hq]
  by_cases hu : u = t
  · rw [hu, Function.update_self]
    exact hs'
  · rw [Function.update_of_ne hu]
    exact h u

/-- Either the proxy stays down in a turn, or the owner has got the lock to open it. -/
theorem Down.turn (h : p.Down) (ho : p.InOrder) (ht : p.At t s) (hturn : p.Turn t s s' es q) :
    ((q.goOn t s' es).Down ∧ .callStarted .connect ∉ es) ∨
      es = [.callStarted .connect, .lockTaken (.connect .owner)] := by
  have htasks := hturn.frame.tasks
  have hs : s.grip ≠ .holding := ht.grip ▸ h.rests t
  obtain ⟨hidles, hslot⟩ := hturn.idles h.slot hs
  cases hidles with
  | stays hoff hoff' hl ha he =>
    refine .inl ⟨⟨hslot, grip_goOn_ne h.rests ht htasks (by simp [hoff']), ?_⟩, he⟩
    rw [openers_keep ho ht hoff htasks hl]
    refine h.first.imp_left fun ⟨hnone, hall⟩ => ⟨hnone, fun u c conn a d hu => ?_⟩
    obtain ⟨-, hu⟩ | ⟨-, hu⟩ := (at_goOn ht htasks).mp hu
    · obtain ⟨a', rfl⟩ := ha c conn a d hu.symm
      exact hall t c conn a' d ht
    · exact hall u c conn a d hu
  | joins hoff hin hl hopener he =>
    refine .inl ⟨⟨hslot, grip_goOn_ne h.rests ht htasks (by simp [hin]), ?_⟩, he⟩
    rw [openers_join ho ht hoff htasks hl]
    obtain ⟨hnone, hall⟩ | ⟨os, hos⟩ := h.first
    · rw [hnone]
      cases hs' : s'.opener with
      | none =>
        refine .inl ⟨rfl, fun u c conn a d hu => ?_⟩
        obtain ⟨-, hu⟩ | ⟨-, hu⟩ := (at_goOn ht htasks).mp hu
        · rw [← hu] at hin
          exact nomatch hin
        · exact hall u c conn a d hu
      | some o =>
        obtain rfl | ⟨c, conn, a, d, rfl, hx⟩ := hopener o hs'
        · exact .inr ⟨[], rfl⟩
        · simp [hall t c conn a d ht] at hx
    · exact .inr ⟨_, by rw [hos, List.cons_append]⟩
  | leaves howner hopener hfin hl he =>
    subst hfin
    refine .inl ⟨⟨hslot, grip_goOn_ne h.rests ht htasks nofun, ?_⟩, he⟩
    rw [openers_pass ho ht howner hopener htasks hl]
    refine h.first.imp_left fun ⟨hnone, hall⟩ => ⟨hnone, fun u c conn a d hu => ?_⟩
    obtain ⟨-, hu⟩ | ⟨-, hu⟩ := (at_goOn ht htasks).mp hu
    · exact nomatch hu
    · exact hall u c conn a d hu
  | @opens o howner hopener =>
    have hfirst := openers_of_owner ht howner
    rw [hopener] at hfirst
    obtain ⟨hnone, -⟩ | ⟨os, hos⟩ := h.first
    · simp [hfirst] at hnone
    · have ho' : o = .owner := by
        rw [hfirst] at hos
        exact (List.cons.inj hos).1
      exact .inr (by rw [ho'])

/-- What the owner has to do before the channel is asked for a connection. -/
def Guarded (new : List Event) : Prop :=
  ∀ later e between, new = later ++ e :: between → e.what = .callStarted .connect →
    ∃ x ∈ between, x.what = .lockTaken (.connect .owner)

theorem Guarded.of_not_mem {new : List Event} (h : ∀ e ∈ new, e.what ≠ .callStarted .connect) :
    Guarded new := by
  rintro later e between rfl he
  exact absurd he (h e (by simp))

/-- What comes after the owner got the lock is guarded, too. -/
theorem Guarded.append {old : List Event} (h : Guarded old) (new : List Event)
    (hnew : (∀ e ∈ new, e.what ≠ .callStarted .connect) ∨
      ∃ x ∈ old, x.what = .lockTaken (.connect .owner)) : Guarded (new ++ old) := by
  intro later e between heq he
  obtain ⟨as, -, hold⟩ | ⟨as, has, rfl⟩ := cases_of_append heq
  · exact h as e between hold he
  · cases hnew with
    | inl hno => exact absurd he (hno e (by simp [has]))
    | inr hsome =>
      obtain ⟨x, hx, hxw⟩ := hsome
      exact ⟨x, by simp [hx], hxw⟩

theorem Down.of_same (h : p.Down) (hslot : q.slot.handle = none) (hl : q.lock = p.lock)
    (ht : q.tasks = p.tasks) : q.Down := by
  have hview : ∀ {α : Type} (f : Stage → α) (a : α), q.view f a = p.view f a := by
    intro α f a
    funext u
    rw [view, view, ht]
  refine ⟨hslot, fun u => ?_, ?_⟩
  · rw [grip, hview]
    exact h.rests u
  · simp only [openers, hl, hview, At, ht]
    exact h.first

theorem Down.submitted (h : p.Down) {job : Job} (hslot : q.slot.handle = none)
    (hl : q.lock = p.lock) (ht : q.tasks = p.tasks ++ [.queued job]) : q.Down := by
  have hgrip := view_append (f := Stage.grip) (a := .off) (s := .queued job) rfl ht
  have hopener := view_append (f := Stage.opener) (a := none) (s := .queued job) rfl ht
  refine ⟨hslot, fun u => ?_, ?_⟩
  · rw [grip, hgrip]
    exact h.rests u
  · rw [openers, hl, hopener]
    refine h.first.imp_left fun hnone => ⟨hnone.1, fun u c conn a d hu => ?_⟩
    obtain hu | ⟨-, hu⟩ := at_append ht hu
    · exact hnone.2 u c conn a d hu
    · simp at hu

theorem down_of_finished (hslot : p.slot.handle = none) (hl : p.lock = .free)
    (ht : ∀ t s, p.At t s → s.isFinished = true) : p.Down := by
  refine ⟨hslot, fun u hu => ?_, .inl ⟨?_, fun t c conn a d hu => nomatch ht t _ hu⟩⟩
  · have hne : p.view Stage.grip .off u ≠ .off := fun hoff => nomatch hu.symm.trans hoff
    obtain ⟨s, hs, hg⟩ := exists_of_view hne
    have hfin := ht u s hs
    cases s <;> first | exact hg rfl | exact nomatch hfin
  · rw [openers, hl]
    rfl

/-- Either the proxy stays down, or the owner has got the lock to open it. -/
theorem Down.stretch (h : p.Down) (ho : p.InOrder) (hs : p.Stretch q) :
    ∃ new, q.history = new ++ p.history ∧
      ((q.Down ∧ ∀ e ∈ new, e.what ≠ .callStarted .connect) ∨
        ∃ e x, new = [e, x] ∧ x.what = .lockTaken (.connect .owner)) := by
  cases hs with
  | submitted => exact ⟨[_], rfl, .inl ⟨h.submitted h.slot rfl rfl, by simp⟩⟩
  | @turned q t s s' es ht hturn =>
    refine ⟨es.map (⟨q.now, some t, ·⟩), by rw [goOn_history, hturn.frame.history], ?_⟩
    obtain ⟨hd, he⟩ | heq := h.turn ho ht hturn
    · refine .inl ⟨hd, fun e hm => ?_⟩
      obtain ⟨x, hx, rfl⟩ := List.mem_map.mp hm
      exact fun hxe => he (hxe ▸ hx)
    · subst heq
      exact .inr ⟨_, _, rfl, rfl⟩
  | observed _ _ hc => exact absurd (h.slot.symm.trans hc) nofun
  | observedEmpty => exact ⟨[_], rfl, .inl ⟨h.of_same rfl rfl rfl, by simp⟩⟩
  | observedBusy => exact ⟨[_], rfl, .inl ⟨h.of_same h.slot rfl rfl, by simp⟩⟩
  | drifted | ticked | disowned => exact ⟨[], rfl, .inl ⟨h.of_same h.slot rfl rfl, by simp⟩⟩
  | dropped _ _ hdrop =>
    cases hdrop with
    | empty => exact ⟨[], rfl, .inl ⟨h.of_same h.slot rfl rfl, by simp⟩⟩
    | closed hc | running hc | outside hc => exact absurd (h.slot.symm.trans hc) nofun
  | @halted q hq =>
    obtain ⟨new, hnew, haside⟩ := (halted_aside hq).history
    have hslot : q.slot.handle = none := by
      cases hq with
      | kept => exact h.slot
      | dropped _ _ hdrop =>
        cases hdrop with
        | empty => exact h.slot
        | closed hc | running hc | outside hc => exact absurd (h.slot.symm.trans hc) nofun
    refine ⟨new, hnew, .inl ⟨?_, fun e he heq => ?_⟩⟩
    · exact down_of_finished hslot rfl fun _ _ ht => isFinished_of_cutOff ht
    · have hkind := (haside e he).2.2
      simp [heq, Happening.isAside] at hkind

/-- From a state that is down, the channel is asked for a connection only after the owner has got
the lock to open one. -/
theorem Down.guarded (h : p.Down) (ho : p.InOrder) (hs : p.Stretches q) :
    ∃ new, q.history = new ++ p.history ∧ Guarded new := by
  have hall : q.InOrder ∧ ∃ new, q.history = new ++ p.history ∧ Guarded new ∧
      (q.Down ∨ ∃ x ∈ new, x.what = .lockTaken (.connect .owner)) := by
    induction hs with
    | refl => exact ⟨ho, [], rfl, .of_not_mem (by simp), .inl h⟩
    | @tail r q' _ hst ih =>
      obtain ⟨hor, old, hold, hguard, hcase⟩ := ih
      refine ⟨hst.inOrder hor, ?_⟩
      cases hcase with
      | inl hdown =>
        obtain ⟨new, hnew, hcase⟩ := hdown.stretch hor hst
        refine ⟨new ++ old, by rw [hnew, hold, List.append_assoc], ?_⟩
        obtain ⟨hd, hno⟩ | ⟨e, x, rfl, hx⟩ := hcase
        · exact ⟨hguard.append new (.inl hno), .inl hd⟩
        · have hxold : Guarded (x :: old) := by
            refine hguard.append [x] (.inl fun y hy => ?_)
            rw [List.mem_singleton] at hy
            rw [hy, hx]
            nofun
          refine ⟨hxold.append [e] (.inr ⟨x, by simp, hx⟩), .inr ⟨x, by simp, hx⟩⟩
      | inr hopened =>
        obtain ⟨-, new, hnew, -⟩ := hst.continues
        refine ⟨new ++ old, by rw [hnew, hold, List.append_assoc], hguard.append new (.inr hopened),
          ?_⟩
        obtain ⟨x, hx, hxw⟩ := hopened
        exact .inr ⟨x, by simp [hx], hxw⟩
  obtain ⟨-, new, hnew, hguard, -⟩ := hall
  exact ⟨new, hnew, hguard⟩

/-- What the last happening tells about the turn that made it: after the end of a close or an abort
nobody is at work. -/
theorem Turn.rests (h : p.Turn t s s' es q) {r : Except ConnectionError Bool}
    {rest : List Happening} (hes : es = .returned (.stopped r) :: rest) :
    s'.grip = .off ∧ (p.lock.owner = some t ∨ s.grip = .holding) := by
  cases h with
  | foundOpen _ _ _ hx | connected _ hx | connectFailed _ hx | replaced _ _ hx =>
    cases hx <;> simp at hes
  | stoppedClosed hl | stoppedEmpty hl => exact ⟨rfl, .inl hl⟩
  | abortedEmpty | abortRefused | drained => exact ⟨rfl, .inr rfl⟩
  | lostConnection he =>
    simp only [willRetryNotes] at hes
    split at hes <;> simp at hes
  | attemptedEmpty | failedForGood => simp [Call.failure] at hes
  | _ => simp at hes

theorem Turn.grip_of_nil (h : p.Turn t s s' es q) (hes : es = []) : s'.grip ≠ .holding := by
  cases h with
  | foundOpen | connected | replaced | connectFailed => simp at hes
  | lostConnection => simp at hes
  | began | allocated | paused => nofun
  | _ => simp at hes

/-- If the last thing that happened is the end of a close or an abort, nobody is at work. -/
def RestsAfterStop (p : Proxy) : Prop :=
  ∀ time u r earlier, p.history = ⟨time, u, .returned (.stopped r)⟩ :: earlier →
    ∀ v, p.grip v ≠ .holding

theorem RestsAfterStop.turn (h : p.RestsAfterStop) (ho : p.InOrder) (ht : p.At t s)
    (hturn : p.Turn t s s' es q) : (q.goOn t s' es).RestsAfterStop := by
  intro time u r earlier hh v
  rw [goOn_history, hturn.frame.history] at hh
  have hupdate : (q.goOn t s' es).grip = Function.update p.grip t s'.grip :=
    view_goOn ht hturn.frame.tasks
  rw [hupdate]
  cases es with
  | nil =>
    by_cases hv : v = t
    · rw [hv, Function.update_self]
      exact hturn.grip_of_nil rfl
    · rw [Function.update_of_ne hv]
      exact h time u r earlier hh v
  | cons e es =>
    obtain ⟨he, -⟩ := List.cons.inj hh
    have hwhat : e = .returned (.stopped r) := congrArg Event.what he
    obtain ⟨hoff, hlock⟩ := hturn.rests (congrArg (· :: es) hwhat)
    by_cases hv : v = t
    · rw [hv, Function.update_self, hoff]
      nofun
    · rw [Function.update_of_ne hv]
      intro hhold
      have howner : p.lock.owner = some t :=
        Orderly.owner_of_leaving ho (hlock.imp_right ht.grip.trans)
      exact hv (Option.some.inj ((Orderly.holder ho v hhold).symm.trans howner))

theorem RestsAfterStop.stretch (h : p.RestsAfterStop) (ho : p.InOrder) (hs : p.Stretch q) :
    q.RestsAfterStop := by
  cases hs with
  | turned ht hturn => exact h.turn ho ht hturn
  | @halted q hq =>
    intro _ _ _ _ _ v hv
    have hoff : q.cutOff.grip v = .off := grip_cutOff v
    exact nomatch hoff.symm.trans hv
  | dropped _ _ hdrop =>
    cases hdrop with
    | empty => exact h
    | closed | running | outside => exact fun _ _ _ _ hh => nomatch hh
  | drifted | ticked | disowned => exact h
  | submitted | observed | observedEmpty | observedBusy => exact fun _ _ _ _ hh => nomatch hh

theorem Reachable.restsAfterStop (h : p.Reachable) : p.RestsAfterStop :=
  h.induct_settled (fun q hq _ _ _ _ hh => by simp [hq.history] at hh)
    fun _ _ ho _ hi hs => hi.stretch ho hs

theorem TookDown.rests (hd : p.TookDown) (h : p.Reachable) (t : TaskId) :
    p.grip t ≠ .holding := by
  obtain ⟨-, time, u, r, earlier, hh⟩ := hd
  exact h.restsAfterStop time (some u) r earlier hh t

/-- If no call may come first, the proxy is down. -/
theorem TookDown.down (hd : p.TookDown) (h : p.Reachable) (hno : ¬ p.MayComeUp) : p.Down := by
  refine ⟨by rw [hd.1], hd.rests h, ?_⟩
  simp only [MayComeUp, not_or] at hno
  obtain ⟨hcall, hattempt⟩ := hno
  cases hos : p.openers with
  | nil =>
    refine .inl ⟨rfl, fun t c conn a d ht => ?_⟩
    by_contra hx
    exact hattempt ⟨hos, t, c, conn, a, d, ht, by simpa using hx⟩
  | cons o os =>
    cases o with
    | owner => exact .inr ⟨os, rfl⟩
    | call c => exact absurd ⟨c, os, hos⟩ hcall

/-- Some run asks the channel for a connection before the owner has got the lock to open one. -/
def ComesUp (p : Proxy) : Prop :=
  ∃ ms later e between, (p.run ms).history = later ++ e :: (between ++ p.history) ∧
    e.what = .callStarted .connect ∧ ∀ x ∈ between, x.what ≠ .lockTaken (.connect .owner)

theorem ComesUp.not_staysDown (h : p.ComesUp) : ¬ p.StaysDown := by
  intro hstays
  obtain ⟨ms, later, e, between, hh, he, hno⟩ := h
  obtain ⟨x, hx, hxw⟩ := hstays ms later e between hh he
  exact hno x hx hxw

/-- A move in which the owner does not get the lock to open may come first. -/
theorem ComesUp.of_step {m : Move} (new : List Event) (h : (p.step m).ComesUp)
    (hh : (p.step m).history = new ++ p.history)
    (hno : ∀ x ∈ new, x.what ≠ .lockTaken (.connect .owner)) : p.ComesUp := by
  obtain ⟨ms, later, e, between, hrun, he, hnob⟩ := h
  refine ⟨m :: ms, later, e, between ++ new, ?_, he, fun x hx => ?_⟩
  · rw [run_cons, hrun, hh, List.append_assoc]
  · cases List.mem_append.mp hx with
    | inl hx => exact hnob x hx
    | inr hx => exact hno x hx

/-- Opening over an empty slot asks the channel for a connection at once. -/
theorem connectLocked_of_empty {o : Opener} (hc : p.slot.handle = none)
    (ht : t < p.tasks.length) :
    ((p.record (some t) (.lockTaken (.connect o))).connectLocked t o).reap.history =
      ⟨p.now, some t, .callStarted .connect⟩ :: ⟨p.now, some t, .lockTaken (.connect o)⟩ ::
        p.history := by
  have hlocked : (p.record (some t) (.lockTaken (.connect o))).connectLocked t o =
      { p with slot := ⟨none, .closed⟩, published := ConnState.closed.toByte }.goOn t
        (.connecting o (.start p.config.maxOpenRetries p.uptime))
        [.callStarted .connect, .lockTaken (.connect o)] := by
    simp only [connectLocked, refresh, currentState, publish, letGo, record, hc]
    rfl
  have hat : ((p.record (some t) (.lockTaken (.connect o))).connectLocked t o).At t
      (.connecting o (.start p.config.maxOpenRetries p.uptime)) := by
    rw [hlocked]
    simp [At, ht]
  rw [reap_of_keepsProxy hat rfl, hlocked]
  rfl

/-- With an empty slot, the first in line leaves at once if it is not there to open. -/
theorem resumeAt_of_empty {goal : Goal} (hc : p.slot.handle = none) (hl : p.lock.owner = some t)
    (hg : (Stage.awaitingLock goal).opener = none) :
    ∃ q o es, p.resumeAt t (.awaitingLock goal) .turn = q.goOn t (.finished o) es ∧
      p.Turn t (.awaitingLock goal) (.finished o) es q ∧ q.lock = p.lock.pass ∧
      q.slot.handle = none ∧ .lockTaken (.connect .owner) ∉ es := by
  cases goal with
  | connect o => exact nomatch hg
  | close =>
    refine ⟨_, _, _, ?_, @Turn.stoppedEmpty p t .close hl hc, rfl, rfl, by simp [Stop.goal]⟩
    simp only [resumeAt, if_pos hl, proceed, closeLocked, refresh, currentState, publish, drain,
      record, hc]
    rfl
  | abort =>
    refine ⟨_, _, _, ?_, @Turn.stoppedEmpty p t .abort hl hc, rfl, rfl, by simp [Stop.goal]⟩
    simp only [resumeAt, if_pos hl, proceed, abortLocked, refresh, currentState, publish, drain,
      record, hc]
    rfl
  | attempt c =>
    refine ⟨_, _, _, ?_, Turn.attemptedEmpty hl hc, rfl, hc, by simp⟩
    simp only [resumeAt, if_pos hl, proceed, attemptLocked, record, hc]
    rfl

/-- A call that is in line to open the connection opens it, once those before it, who do not want
to, have left. -/
theorem comesUp_of_line {c : Call} {pre post : List TaskId} (ho : p.InOrder)
    (hc : p.slot.handle = none) (hr : ∀ u, p.grip u ≠ .holding)
    (hline : p.lock.line = pre ++ t :: post)
    (hpre : ∀ u ∈ pre, p.view Stage.opener none u = none)
    (ht : p.At t (.awaitingLock (.connect (.call c)))) : p.ComesUp := by
  induction pre generalizing p with
  | nil =>
    obtain ⟨howner, -⟩ := Lock.owner_of_line ho.idle hline
    have hrun := connectLocked_of_empty (o := .call c) hc ht.lt
    refine ⟨[.resume t .turn], [], ⟨p.now, some t, .callStarted .connect⟩,
      [⟨p.now, some t, .lockTaken (.connect (.call c))⟩], ?_, rfl, ?_⟩
    · rw [run_cons, run_nil, step_resume ht]
      simp only [resumeAt, if_pos howner, proceed]
      exact hrun
    · simp
  | cons u pre ih =>
    rw [List.cons_append] at hline
    obtain ⟨howner, hwaiting⟩ := Lock.owner_of_line ho.idle hline
    have hne : t ≠ u := fun he => (Orderly.waiting_grip ho howner (by simp [hwaiting, he])).1 rfl
    obtain ⟨s, hu, -⟩ := exists_of_view (Orderly.owner_grip ho howner)
    have hs : s.grip = .inLine := by
      have hoff := Orderly.owner_grip ho howner
      have hhold := hr u
      rw [hu.grip] at hoff hhold
      cases hg : s.grip <;> simp_all
    obtain ⟨goal, rfl⟩ := Stage.exists_goal hs
    have hopener : (Stage.awaitingLock goal).opener = none :=
      hu.view.symm.trans (hpre u (List.mem_cons_self ..))
    obtain ⟨q, o, es, hres, hturn, hlock, hslot, hno⟩ := resumeAt_of_empty hc howner hopener
    have htasks := hturn.frame.tasks
    have ht' : (q.goOn u (.finished o) es).At t _ := (at_goOn hu htasks).mpr (.inr ⟨hne, ht⟩)
    have hstep : p.step (.resume u .turn) = q.goOn u (.finished o) es := by
      rw [step_resume hu, hres, reap_of_keepsProxy ht' rfl]
    refine ComesUp.of_step (m := .resume u .turn) (es.map (⟨q.now, some u, ·⟩)) ?_ ?_ ?_
    · rw [hstep]
      refine ih ((Stretch.turned hu hturn).inOrder ho) hslot
        (grip_goOn_ne hr hu htasks (by simp [Stage.grip])) ?_ (fun v hv => ?_) ht'
      · rw [goOn_lock, hlock, Lock.line_pass, hwaiting]
      · have hvu : v ≠ u :=
          (Orderly.waiting_grip ho howner (by simp [hwaiting, hv])).1
        rw [view_goOn hu htasks, Function.update_of_ne hvu]
        exact hpre v (List.mem_cons_of_mem _ hv)
    · rw [hstep, goOn_history, hturn.frame.history]
    · intro x hx hxw
      obtain ⟨y, hy, rfl⟩ := List.mem_map.mp hx
      exact hno (hxw ▸ hy)

/-- A call that gets in line to open opens the connection, if nobody before it wants to. -/
theorem comesUp_of_joining {c : Call} (ho : p.InOrder) (hc : q.slot.handle = none)
    (hr : ∀ u, p.grip u ≠ .holding) (hnone : p.openers = []) (ht : p.At t s) (hs : s.grip = .off)
    (hturn : p.Turn t s (.awaitingLock (.connect (.call c))) es q)
    (hl : q.lock = p.lock.join t) :
    (q.goOn t (.awaitingLock (.connect (.call c))) es).ComesUp := by
  have htasks := hturn.frame.tasks
  have hnot : t ∉ p.lock.line := by simp [mem_line_of_grip ho ht, hs]
  have hline : (q.goOn t (.awaitingLock (.connect (.call c))) es).lock.line =
      p.lock.line ++ [t] := by
    rw [goOn_lock, hl, Lock.line_join ho.idle]
  refine comesUp_of_line ((Stretch.turned ht hturn).inOrder ho) hc
    (grip_goOn_ne hr ht htasks nofun) hline (fun u hu => ?_) (ht.goOn htasks)
  have hne : u ≠ t := fun he => hnot (he ▸ hu)
  rw [view_goOn ht htasks, Function.update_of_ne hne]
  exact List.filterMap_eq_nil_iff.mp hnone u hu

/-- What happens when an attempt with retries left finds its endpoint disconnected. -/
def disconnectedNotes (p : Proxy) (c : Call) : List Happening :=
  p.willRetryNotes c .endpointDisconnected ++
    [.attempted c.retry (.error .endpointDisconnected), .callEnded (.failed .endpointDisconnected)]

theorem disconnectedNotes_ne {c : Call} {o : Opener} :
    .lockTaken (.connect o) ∉ p.disconnectedNotes c := by
  have hnotes := (noted_willRetryNotes p .endpointDisconnected c).not_mem
    (x := .lockTaken (.connect o)) nofun
  simp [disconnectedNotes, hnotes]

/-- An attempt that finds its endpoint disconnected, with retries left, goes on to open the
connection. -/
theorem step_disconnected {c : Call} {conn : ConnId} {a : Arena} {d : Option Nat}
    (ht : p.At t (.attempting c conn a d)) (hx : c.retry.exhausted = false) :
    p.step (.resume t (.reply (.failed .endpointDisconnected))) =
      (({ p with hold := p.hold.engage.2 }.recordAll t (p.disconnectedNotes c)).beginConnect t
        (.call c)).reap := by
  have hrec : ChannelError.endpointDisconnected.recovery = .reconnect := rfl
  have hnotes : ((p.record (some t) (.callEnded (.failed .endpointDisconnected))).record (some t)
      (.attempted c.retry (.error .endpointDisconnected))).willRetryNotes c .endpointDisconnected =
      p.willRetryNotes c .endpointDisconnected := rfl
  rw [step_resume ht]
  simp only [resumeAt, answer, Option.getD_some, attemptFailed, hrec, hx, retryCall, engageHold_eq,
    hnotes]
  simp [recordAll, record, disconnectedNotes]

/-- An attempt with retries left opens the connection if its endpoint is disconnected and nobody
else is in line to. -/
theorem comesUp_of_attempting {c : Call} {conn : ConnId} {a : Arena} {d : Option Nat}
    (ho : p.InOrder) (hc : p.slot.handle = none) (hr : ∀ u, p.grip u ≠ .holding)
    (hnone : p.openers = []) (ht : p.At t (.attempting c conn a d))
    (hx : c.retry.exhausted = false) : p.ComesUp := by
  have hstep := step_disconnected ht hx
  have hno : ∀ x ∈ (p.disconnectedNotes c).map (Event.mk p.now (some t)),
      x.what ≠ .lockTaken (.connect .owner) := by
    intro x hx hxw
    obtain ⟨y, hy, rfl⟩ := List.mem_map.mp hx
    have hy' : y = .lockTaken (.connect .owner) := hxw
    exact disconnectedNotes_ne (hy' ▸ hy)
  simp only [beginConnect, acquire, recordAll] at hstep
  cases howner : p.lock.owner with
  | none =>
    -- the lock is free, so the same move goes on to ask for the connection
    simp only [howner] at hstep
    have hrun := (congrArg history hstep).trans
      (connectLocked_of_empty (by exact hc) (by simpa [lineUp, setStage] using ht.lt))
    exact ⟨[.resume t (.reply (.failed .endpointDisconnected))], [],
      ⟨p.now, some t, .callStarted .connect⟩,
      ⟨p.now, some t, .lockTaken (.connect (.call c))⟩ :: _, hrun, rfl, by simpa using hno⟩
  | some o =>
    have hturn : p.Turn t (.attempting c conn a d) (.awaitingLock (.connect (.call c)))
        (p.disconnectedNotes c) { p with hold := p.hold.engage.2, lock := p.lock.join t } :=
      .lostConnection .failed rfl hx
    have hq := comesUp_of_joining (q := { p with hold := p.hold.engage.2, lock := p.lock.join t })
      ho hc hr hnone ht rfl hturn rfl
    simp only [howner] at hstep
    have hat : (Proxy.goOn { p with hold := p.hold.engage.2, lock := p.lock.join t } t
        (.awaitingLock (.connect (.call c))) (p.disconnectedNotes c)).At t
        (.awaitingLock (.connect (.call c))) := ht.goOn hturn.frame.tasks
    replace hstep := hstep.trans (reap_of_keepsProxy hat rfl)
    refine ComesUp.of_step (m := .resume t (.reply (.failed .endpointDisconnected))) _ ?_
      (congrArg history hstep) hno
    rw [hstep]
    exact hq

/-- A call that is the first in line to open opens the connection. -/
theorem comesUp_of_openers {c : Call} {os : List Opener} (ho : p.InOrder)
    (hc : p.slot.handle = none) (hr : ∀ u, p.grip u ≠ .holding)
    (hopeners : p.openers = .call c :: os) : p.ComesUp := by
  obtain ⟨pre, t, post, hline, hpre, hview, -⟩ := List.filterMap_eq_cons_iff.mp hopeners
  have hne : p.view Stage.opener none t ≠ none := by simp [hview]
  obtain ⟨s, ht, -⟩ := exists_of_view hne
  have hs : s.opener = some (.call c) := ht.view.symm.trans hview
  obtain rfl : s = .awaitingLock (.connect (.call c)) := by
    cases s with
    | awaitingLock goal => cases goal <;> simp_all [Stage.opener]
    | _ => exact nomatch hs
  exact comesUp_of_line ho hc hr hline hpre ht

theorem MayComeUp.comesUp (h : p.MayComeUp) (ho : p.InOrder) (hc : p.slot.handle = none)
    (hr : ∀ u, p.grip u ≠ .holding) : p.ComesUp := by
  obtain ⟨c, os, hopeners⟩ | ⟨hnone, t, c, conn, a, d, ht, hx⟩ := h
  · exact comesUp_of_openers ho hc hr hopeners
  · exact comesUp_of_attempting ho hc hr hnone ht hx

theorem Down.staysDown (h : p.Down) (ho : p.InOrder) : p.StaysDown := by
  intro ms later e between hh he
  obtain ⟨new, hnew, hguard⟩ := h.guarded ho (run_stretches ms)
  have heq : (later ++ e :: between) ++ p.history = new ++ p.history := by
    rw [← hnew, hh]
    simp
  exact hguard later e between (List.append_cancel_right heq).symm he

/-- A connection that was taken down stays down until the owner opens it, except for calls whose
attempt was with the channel at that moment and calls that were in line to open it. -/
theorem staysDown_iff_not_mayComeUp (h : p.Reachable) (hd : p.TookDown) :
    p.StaysDown ↔ ¬ p.MayComeUp := by
  have hc : p.slot.handle = none := by rw [hd.1]
  constructor
  · intro hstays hmay
    exact (hmay.comesUp h.inOrder hc (hd.rests h)).not_staysDown hstays
  · intro hno
    exact (hd.down h hno).staysDown h.inOrder

/-- A call that backs off while the connection is closed does not bring it up again. -/
theorem stays_down_while_backing_off :
    let p := (ofDefaults ⟨"svc", by decide⟩ []).run [.submit .connect, .resume 0 .turn,
      .resume 0 (.reply (.connected .opened)), .submit (.invoke "op" 8 "x"), .resume 1 .turn,
      .resume 1 (.reply (.failed .endpointTooBusy)), .resume 1 (.reply (.failed .endpointTooBusy)),
      .submit .close, .resume 2 .turn, .resume 2 (.reply .done)]
    p.TookDown ∧ p.At 1 (.callPause ⟨"op", 8, "x", ⟨1, 5, 0⟩⟩ 50) ∧ p.StaysDown := by
  intro p
  have hd : p.TookDown :=
    ⟨by decide +kernel, 0, 2, .ok true, p.history.drop 1, by decide +kernel⟩
  refine ⟨hd, by decide +kernel,
    (staysDown_iff_not_mayComeUp (reachable_ofDefaults _ _ _) hd).mpr ?_⟩
  have hopeners : p.openers = [] := by decide +kernel
  have hattempting : ∀ s ∈ p.tasks, ∀ c conn a d, s ≠ .attempting c conn a d := by
    have htasks : p.tasks = [.finished (.connected (.ok .opened)),
        .callPause ⟨"op", 8, "x", ⟨1, 5, 0⟩⟩ 50, .finished (.stopped (.ok true))] := by
      decide +kernel
    simp [htasks]
  rintro (⟨c, os, hos⟩ | ⟨-, t, c, conn, a, d, ht, -⟩)
  · exact nomatch hopeners.symm.trans hos
  · exact hattempting _ ht.mem c conn a d rfl

/-- A call whose attempt is with the channel while the connection is closed brings it up again, if
that attempt finds its endpoint disconnected. -/
theorem comes_up_behind_its_owner :
    let p := (ofDefaults ⟨"svc", by decide⟩ []).run [.submit .connect, .resume 0 .turn,
      .resume 0 (.reply (.connected .opened)), .submit (.invoke "op" 8 "x"), .resume 1 .turn,
      .submit .close, .resume 2 .turn, .resume 2 (.reply .done)]
    p.Reachable ∧ p.TookDown ∧ ¬ p.StaysDown := by
  intro p
  refine ⟨reachable_ofDefaults _ _ _,
    ⟨by decide +kernel, 0, 2, .ok true, p.history.drop 1, by decide +kernel⟩,
    ComesUp.not_staysDown ⟨[.resume 1 (.reply (.failed .endpointDisconnected))], [], ?_⟩⟩
  refine ⟨⟨0, some 1, .callStarted .connect⟩, ?_⟩
  refine ⟨[⟨0, some 1, .lockTaken (.connect (.call ⟨"op", 8, "x", ⟨0, 5, 0⟩⟩))⟩,
    ⟨0, some 1, .noted (.callWillRetry ⟨"svc", by decide⟩ "op" 5 .endpointDisconnected)⟩,
    ⟨0, some 1, .attempted ⟨0, 5, 0⟩ (.error .endpointDisconnected)⟩,
    ⟨0, some 1, .callEnded (.failed .endpointDisconnected)⟩], by decide +kernel, rfl, by simp⟩

end Proxy

end ResilientProxy
