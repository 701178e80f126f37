import Mathlib.Data.List.Basic
import ResilientProxy.Proofs.WaitReports

/-!
# Where time-outs come from

A call of the channel times out because the channel says so, or because the proxy gives it up at
the limit that is configured. In the second case the error carries that limit, to the millisecond,
and it is told in the turn in which the call is given up.
-/

namespace ResilientProxy

/-- A call of the channel for which a time limit can be configured. -/
inductive Limited where
  | invoke
  | close
  deriving DecidableEq, Repr

def Limited.limitMs (config : Config) : Limited → Option UInt64
  | invoke => config.callTimeoutMs
  | close => config.closeTimeoutMs

/-- The milliseconds after which an operation timed out. -/
def ChannelError.timeOut? : ChannelError → Option UInt64
  | operationTimedOut ms => some ms
  | _ => none

theorem ChannelError.eq_of_timeOut? {e : ChannelError} {ms : UInt64} (h : e.timeOut? = some ms) :
    e = .operationTimedOut ms := by
  cases e with
  | operationTimedOut => exact congrArg _ (Option.some.inj h)
  | _ => exact nomatch h

namespace Happening

/-- Which call is said to have timed out, and after how many milliseconds. -/
def timeOut? : Happening → Option (Limited × UInt64)
  | attempted _ (.error e) => e.timeOut?.map (.invoke, ·)
  | noted (.staleNotReleased _ (.closing _ e)) | returned (.stopped (.error (.closing _ e))) =>
    e.timeOut?.map (.close, ·)
  | _ => none

/-- Whether no call is given up here, nor said to have timed out. -/
def isTimely : Happening → Bool
  | callGivenUp => false
  | x => x.timeOut?.isNone

theorem timeOut?_of_isTimely {x : Happening} (h : x.isTimely = true) : x.timeOut? = none := by
  cases x with
  | callGivenUp => rfl
  | _ => exact Option.isNone_iff_eq_none.mp h

theorem isAside_of_timeOut? {x : Happening} {k : Limited × UInt64} (h : x.timeOut? = some k) :
    x.isAside = false := by
  cases x with
  | noted n =>
    cases n with
    | staleNotReleased => rfl
    | _ => exact nomatch h
  | attempted | returned => rfl
  | _ => exact nomatch h

end Happening

/-- How a call of the channel comes to time out after `ms` milliseconds: the channel says so, or
the limit has passed that is configured for it. -/
inductive TimesOut (config : Config) (k : Limited) (ms : UInt64) : Happening → Prop where
  | reported : TimesOut config k ms (.callEnded (.failed (.operationTimedOut ms)))
  | givenUp (h : k.limitMs config = some ms) : TimesOut config k ms .callGivenUp

/-- How a call of the channel ends that fails with `e`. -/
inductive FailsWith (config : Config) (k : Limited) (e : ChannelError) (ending : Happening) :
    Prop where
  | timely (he : e.timeOut? = none) (h : ending.isTimely = true) : FailsWith config k e ending
  | late {ms : UInt64} (he : e.timeOut? = some ms) (h : TimesOut config k ms ending) :
    FailsWith config k e ending

theorem FailsWith.of_reported (config : Config) (k : Limited) (e : ChannelError) :
    FailsWith config k e (.callEnded (.failed e)) := by
  cases he : e.timeOut? with
  | none => exact .timely he rfl
  | some ms =>
    rw [ChannelError.eq_of_timeOut? he]
    exact .late rfl .reported

/-- What a turn says about time-outs, the latest first: nothing, or that one call timed out, whose
end is what the turn begins with. -/
inductive TimeOutTold (config : Config) : List Happening → Prop where
  | timely {es : List Happening} (h : es.all Happening.isTimely = true) : TimeOutTold config es
  | late {x ending : Happening} {k : Limited} {ms : UInt64} {es mid : List Happening}
      (h : es.all Happening.isTimely = true) (hx : x.timeOut? = some (k, ms))
      (hmid : mid = [] ∨ mid = [.lockReleased]) (he : TimesOut config k ms ending) :
    TimeOutTold config (es ++ x :: (mid ++ [ending]))

theorem all_isTimely_mid {mid : List Happening} (h : mid = [] ∨ mid = [.lockReleased]) :
    mid.all Happening.isTimely = true := by
  obtain rfl | rfl := h <;> rfl

/-- A turn that tells of a failure tells of a time-out exactly if the call failed with one. -/
theorem FailsWith.told {config : Config} {ending : Happening} {k : Limited} {e : ChannelError}
    (h : FailsWith config k e ending) (es : List Happening) (x : Happening) (mid : List Happening)
    (hes : es.all Happening.isTimely = true) (hx : x.timeOut? = e.timeOut?.map (k, ·))
    (ht : x.isTimely = x.timeOut?.isNone) (hmid : mid = [] ∨ mid = [.lockReleased]) :
    TimeOutTold config (es ++ x :: (mid ++ [ending])) := by
  cases h with
  | timely he hending =>
    have hx' : x.isTimely = true := by
      rw [ht, hx, he]
      rfl
    refine .timely ?_
    simp only [List.all_append, List.all_cons, hes, hx', all_isTimely_mid hmid, hending]
    rfl
  | late he hends => exact .late hes (by rw [hx, he]; rfl) hmid hends

section

variable {config : Config} {x : Happening} {k : Limited} {ms : UInt64} {es₁ es₂ : List Happening}

theorem TimesOut.timeOut? (h : TimesOut config k ms x) : x.timeOut? = none := by
  cases h <;> rfl

/-- A time-out is told in the turn that begins with the end of the call. -/
theorem TimeOutTold.of_timeOut (h : TimeOutTold config (es₁ ++ x :: es₂))
    (hx : x.timeOut? = some (k, ms)) :
    ∃ mid ending, es₂ = mid ++ [ending] ∧ (mid = [] ∨ mid = [.lockReleased]) ∧
      TimesOut config k ms ending := by
  have hnot : ∀ {es : List Happening}, es.all Happening.isTimely = true → x ∉ es := fun hes hm => by
    simp [Happening.timeOut?_of_isTimely (List.all_eq_true.mp hes x hm)] at hx
  generalize hes : es₁ ++ x :: es₂ = es at h
  cases h with
  | timely h => exact absurd (by simp [← hes]) (hnot h)
  | @late y ending k' ms' es mid h hy hmid hends =>
    have hpost : x ∉ mid ++ [ending] := by
      rw [List.mem_append, List.mem_singleton, not_or]
      refine ⟨hnot (all_isTimely_mid hmid), ?_⟩
      rintro rfl
      simp [hends.timeOut?] at hx
    obtain ⟨rfl, rfl, rfl⟩ := (List.append_cons_inj_of_notMem (hnot h) hpost).mp hes.symm
    obtain ⟨rfl, rfl⟩ : k' = k ∧ ms' = ms := by simpa using hy.symm.trans hx
    exact ⟨mid, ending, rfl, hmid, hends⟩

/-- In a turn that begins with a call being given up, this call is told to have timed out. -/
theorem TimeOutTold.of_givenUp (h : TimeOutTold config (es₁ ++ .callGivenUp :: es₂)) :
    ∃ es x mid k ms, es₁ = es ++ x :: mid ∧ (mid = [] ∨ mid = [.lockReleased]) ∧
      x.timeOut? = some (k, ms) ∧ k.limitMs config = some ms := by
  have hnot : ∀ {es : List Happening}, es.all Happening.isTimely = true → .callGivenUp ∉ es :=
    fun hes hm => nomatch List.all_eq_true.mp hes _ hm
  generalize hes : es₁ ++ .callGivenUp :: es₂ = es at h
  cases h with
  | timely h => exact absurd (by simp [← hes]) (hnot h)
  | @late x ending k ms es mid h hx hmid hends =>
    have hpre : .callGivenUp ∉ es ++ x :: mid := by
      have hne : .callGivenUp ≠ x := by
        rintro rfl
        exact nomatch hx
      simp [hnot h, hne, hnot (all_isTimely_mid hmid)]
    have hsplit : es₁ ++ .callGivenUp :: es₂ = (es ++ x :: mid) ++ [ending] := by simpa using hes
    cases hends with
    | reported =>
      have hm : .callGivenUp ∈ (es ++ x :: mid) ++ [.callEnded (.failed (.operationTimedOut ms))] :=
        by simp [← hsplit]
      obtain hm | hm := List.mem_append.mp hm
      · exact absurd hm hpre
      · exact nomatch List.mem_singleton.mp hm
    | givenUp hlimit =>
      obtain ⟨rfl, -, -⟩ :=
        (List.append_cons_inj_of_notMem hpre List.not_mem_nil).mp hsplit.symm
      exact ⟨es, x, mid, k, ms, rfl, hmid, hx, hlimit⟩

end

/-- Only a configured limit sets a task at this stage a deadline. -/
def Stage.Deadlined (config : Config) : Stage → Prop
  | .attempting _ _ _ m => m ≠ none → config.callTimeoutMs ≠ none
  | .replacing _ _ _ _ m | .draining _ _ _ m => m ≠ none → config.closeTimeoutMs ≠ none
  | _ => True

namespace Proxy

variable {p q : Proxy} {t : TaskId} {s s' : Stage} {es : List Happening}

/-! ## Deadlines come from limits -/

theorem deadline_ne_none {limit : Option UInt64} (h : p.deadline (limit.map .ofMillis) ≠ none) :
    limit ≠ none := by
  rintro rfl
  exact h rfl

theorem Leaves.deadlined {o : Opener} {result : Except ConnectionError OpenOutcome} {l : Lock}
    (h : p.Leaves t o result s es l) : s.Deadlined p.config := by
  cases h <;> trivial

theorem Turn.deadlined (h : p.Turn t s s' es q) (hs : s.Deadlined p.config) :
    s'.Deadlined p.config := by
  cases h with
  | foundOpen _ _ _ hx | connected _ hx | replaced _ _ hx | connectFailed _ hx => exact hx.deadlined
  | connectedOver | closeStarted | aborted | attemptSent => exact deadline_ne_none
  | allocated | arenaShort => exact hs
  | _ => trivial

theorem kept_deadlined : Kept fun config _ _ _ s _ => s.Deadlined config where
  queued _ _ _ _ _ := trivial
  teardown _ _ _ _ _ _ := trivial
  turn _ _ _ _ _ _ _ h hturn := hturn.deadlined h
  later _ _ _ _ _ _ _ _ h := h
  vanished _ _ _ _ _ _ _ _ := trivial

theorem Attainable.deadlined (h : p.Attainable) (ht : p.At t s) : s.Deadlined p.config :=
  h.tasks_of_kept kept_deadlined t s ht

/-! ## One turn -/

/-- A call that is given up fails with the limit that was configured. -/
theorem timeOut?_timedOut (ms : UInt64) :
    (timedOut ((some ms).map .ofMillis)).timeOut? = some ms := by
  simp [timedOut, ChannelError.timeOut?]

theorem AttemptFails.failsWith {m : Option Nat} {ending : Happening} {e : ChannelError}
    (h : p.AttemptFails m ending e) (hm : m ≠ none → p.config.callTimeoutMs ≠ none) :
    FailsWith p.config .invoke e ending := by
  cases h with
  | failed => exact .of_reported ..
  | givenUp hd =>
    obtain ⟨ms, hms⟩ := Option.ne_none_iff_exists'.mp (hm (by simp [hd]))
    rw [Config.callTimeout, hms]
    exact .late (timeOut?_timedOut ms) (.givenUp hms)

theorem CloseEnds.failsWith {m : Option Nat} {ending : Happening} {e : ChannelError}
    (h : p.CloseEnds m ending (.error e)) (hm : m ≠ none → p.config.closeTimeoutMs ≠ none) :
    FailsWith p.config .close e ending := by
  cases h with
  | failed => exact .of_reported ..
  | givenUp hd =>
    obtain ⟨ms, hms⟩ := Option.ne_none_iff_exists'.mp (hm (by simp [hd]))
    rw [Config.closeTimeout, hms]
    exact .late (timeOut?_timedOut ms) (.givenUp hms)

theorem Leaves.timely {o : Opener} {result : Except ConnectionError OpenOutcome} {l : Lock}
    (h : p.Leaves t o result s es l) : es.all Happening.isTimely = true := by
  cases h <;> rfl

/-- A close without a limit is not given up. -/
theorem CloseEnds.isTimely {ending : Happening} {closed : Except ChannelError Unit}
    (h : p.CloseEnds none ending closed) : ending.isTimely = true := by
  cases h with
  | done | failed => rfl
  | givenUp hd => exact nomatch hd

/-- A close that counts as a success has not timed out. -/
theorem CloseCounts.timely {m : Option Nat} {ending : Happening} {closed : Except ChannelError Unit}
    {faulted : Bool} {ns : List Happening} (hn : p.CloseCounts faulted closed (.ok ()) ns)
    (h : p.CloseEnds m ending closed) : (ns ++ [ending]).all Happening.isTimely = true := by
  cases hn <;> cases h <;> rfl

theorem Turn.timeOutTold (h : p.Turn t s s' es q) (hs : s.Deadlined p.config) :
    TimeOutTold p.config es := by
  have hinstall : ∀ r, (p.installNotes r).all Happening.isTimely = true := fun r =>
    List.all_eq_true.mpr (p.forall_installNotes r fun _ _ _ => rfl)
  have hreopen : ∀ r e, (p.willReopenNotes r e).all Happening.isTimely = true := fun r e =>
    List.all_eq_true.mpr (p.forall_willReopenNotes r e fun _ _ _ => rfl)
  have hretry : ∀ c e, (p.willRetryNotes c e).all Happening.isTimely = true := fun _ e =>
    List.all_eq_true.mpr (p.forall_willRetryNotes e fun _ _ _ _ => rfl)
  have hclosed : ∀ result, (Happening.noted (p.teardownCloseNotice result)).isTimely = true :=
    fun _ => p.teardownCloseNotice_of (·.isTimely = true) (fun _ => rfl) fun _ _ => rfl
  cases h with
  | @failedForGood c _ _ _ _ e he =>
    exact (he.failsWith hs).told [.returned (c.failure p.uptime e)]
      (.attempted c.retry (.error e)) [] rfl rfl rfl (.inl rfl)
  | @lostConnection c _ _ _ _ e he =>
    exact (he.failsWith hs).told _ (.attempted c.retry (.error e)) [] (hretry c e) rfl rfl
      (.inl rfl)
  | @backedOff c _ _ _ _ e u _ he =>
    exact (he.failsWith hs).told (.waiting _ :: .noted _ :: .drawn u :: p.willRetryNotes c e)
      (.attempted c.retry (.error e)) [] (hretry c e) rfl rfl (.inl rfl)
  | @replaced _ r _ _ _ _ _ result _ _ es _ he hn hx =>
    have hpre : (es ++ .lockReleased :: .openingEnded (.ok .opened) ::
        p.installNotes r).all Happening.isTimely = true := by
      simp only [List.all_append, List.all_cons, hx.timely, hinstall]
      rfl
    -- What the error of a close is excused for is never a time-out.
    cases result with
    | ok =>
      refine .timely ?_
      simp only [List.all_append, List.all_cons, hx.timely, hinstall, hn.timely he]
      rfl
    | error e =>
      cases hn with
      | @error e =>
        have htold := (he.failsWith hs).told _
          (.noted (.staleNotReleased p.address (.closing p.address e))) [] hpre rfl rfl (.inl rfl)
        simpa [staleNotes] using htold
  | @drained stop _ _ _ _ _ result _ he hn =>
    cases result with
    | ok =>
      have hstop : ∀ result, (p.stopNotes stop result).all Happening.isTimely = true := fun _ =>
        List.all_eq_true.mpr (p.forall_stopNotes (by cases stop <;> rfl))
      refine .timely ?_
      simp only [List.all_append, List.all_cons, hstop, hn.timely he]
      rfl
    | error e =>
      cases hn with
      | @error e =>
        exact (he.failsWith hs).told [] (.returned (.stopped (.error (.closing p.address e))))
          [.lockReleased] rfl rfl rfl (.inr rfl)
  | foundOpen _ _ _ hx | connectFailed _ hx =>
    refine .timely ?_
    simp only [List.all_append, hx.timely]
    rfl
  | connected _ hx =>
    refine .timely ?_
    simp only [List.all_append, List.all_cons, hx.timely, hinstall]
    rfl
  | connectPaused | connectBackedOff =>
    refine .timely ?_
    simp only [List.all_append, List.all_cons, hreopen]
    rfl
  | teardownAborted he =>
    have habort : ∀ result, (p.teardownAbortNotes result).all Happening.isTimely = true := fun _ =>
      List.all_eq_true.mpr (p.forall_teardownAbortNotes fun _ _ => rfl)
    refine .timely ?_
    simp only [List.all_append, List.all_cons, habort, he.isTimely]
    rfl
  | teardownClosed he =>
    refine .timely ?_
    simp only [List.all_cons, hclosed, he.isTimely]
    rfl
  | _ => exact .timely rfl

/-! ## The history -/

/-- Every time-out that is told ends a call of the channel that has just timed out, and every call
that is given up is told at once to have timed out after the limit that is configured for it. -/
structure TellsTimeOuts (p : Proxy) : Prop where
  told : ∀ later a earlier k ms, p.history = later ++ a :: earlier →
    a.what.timeOut? = some (k, ms) → ∃ mid ending rest,
      earlier = (mid ++ [ending]).map (⟨a.time, a.task, ·⟩) ++ rest ∧
      (mid = [] ∨ mid = [.lockReleased]) ∧ TimesOut p.config k ms ending
  tells : ∀ later a earlier, p.history = later ++ a :: earlier → a.what = .callGivenUp →
    ∃ rest x mid k ms, later = rest ++ (x :: mid).map (⟨a.time, a.task, ·⟩) ∧
      (mid = [] ∨ mid = [.lockReleased]) ∧ x.timeOut? = some (k, ms) ∧
      k.limitMs p.config = some ms

theorem Attainable.tellsTimeOuts (h : p.Attainable) : p.TellsTimeOuts where
  told later a earlier k ms hh hx := by
    obtain ⟨t, ht⟩ := h.exists_task (e := a) (by simp [hh]) (Happening.isAside_of_timeOut? hx)
    obtain ⟨time, task, x⟩ := a
    obtain rfl : task = some t := ht
    obtain ⟨q, r, s, s', es₁, es₂, rest, hq, rfl, ht, hturn, hp, rfl, -⟩ :=
      h.origin (by rintro job rfl; exact nomatch hx) hh
    have hconfig : q.config = p.config := (hp.config.trans hturn.frame.config).symm
    obtain ⟨mid, ending, rfl, hmid, hends⟩ := (hturn.timeOutTold (hq.deadlined ht)).of_timeOut hx
    exact ⟨mid, ending, q.history, rfl, hmid, hconfig ▸ hends⟩
  tells later a earlier hh hx := by
    obtain ⟨t, ht⟩ := h.exists_task (e := a) (by simp [hh]) (by rw [hx]; rfl)
    obtain ⟨time, task, x⟩ := a
    obtain rfl : task = some t := ht
    obtain rfl : x = .callGivenUp := hx
    obtain ⟨q, r, s, s', es₁, es₂, rest, hq, rfl, ht, hturn, hp, -, rfl⟩ := h.origin (by simp) hh
    have hconfig : q.config = p.config := (hp.config.trans hturn.frame.config).symm
    obtain ⟨es, x, mid, k, ms, rfl, hmid, hx, hlimit⟩ :=
      (hturn.timeOutTold (hq.deadlined ht)).of_givenUp
    exact ⟨rest ++ es.map (⟨q.now, some t, ·⟩), x, mid, k, ms, by simp, hmid, hx,
      hconfig ▸ hlimit⟩

end Proxy

end ResilientProxy
