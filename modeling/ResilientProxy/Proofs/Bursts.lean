import Mathlib.Data.List.Basic
import ResilientProxy.Proofs.Origin

/-!
# Bursts of failures

The attempts of all calls, in the order in which they end, beat a rhythm of failures with retries
left and of successes. The hold flag is the last beat, and a failure is reported exactly if the beat
before it is not one, so no burst is reported twice.
-/

namespace ResilientProxy

/-- What the end of an attempt means for all calls of a proxy. -/
inductive Beat where
  /-- It failed, and there will be another one. -/
  | failure
  | success
  deriving DecidableEq

namespace Happening

/-- Only attempts that end beat, and not those that end their call with a failure. -/
def beat : Happening → Option Beat
  | .attempted _ (.ok _) => some .success
  | .attempted r (.error e) =>
    if e.recovery = .giveUp ∨ r.exhausted = true then none else some .failure
  | _ => none

/-- Whether a burst of failures is reported. -/
def isWarning : Happening → Bool
  | .noted (.callWillRetry ..) => true
  | _ => false

/-- Whether this is neither a beat nor the report of a burst. -/
def isQuiet (x : Happening) : Bool := x.beat.isNone && !x.isWarning

theorem beat_of_isQuiet {x : Happening} (h : x.isQuiet = true) : x.beat = none := by
  simp only [isQuiet, Bool.and_eq_true, Option.isNone_iff_eq_none] at h
  exact h.1

/-- A failure that ends its call is no beat. -/
theorem isQuiet_attempted {r : RetryLoop} {e : ChannelError}
    (h : e.recovery = .giveUp ∨ r.exhausted = true) :
    (attempted r (.error e)).isQuiet = true := by
  simp [isQuiet, beat, isWarning, h]

theorem beat_attempted {r : RetryLoop} {e : ChannelError} (he : e.recovery ≠ .giveUp)
    (hr : r.exhausted = false) : (attempted r (.error e)).beat = some .failure := by
  simp [beat, he, hr]

@[simp] theorem beat_answered (r : RetryLoop) (response : String) :
    (attempted r (.ok response)).beat = some .success := rfl

theorem isWarning_of_isQuiet {x : Happening} (h : x.isQuiet = true) : x.isWarning = false := by
  simp only [isQuiet, Bool.and_eq_true, Bool.not_eq_true'] at h
  exact h.2

theorem isAside_of_beat {x : Happening} {b : Beat} (h : x.beat = some b) : x.isAside = false := by
  cases x with
  | attempted => rfl
  | _ => exact nomatch h

theorem isAside_of_isWarning {x : Happening} (h : x.isWarning = true) : x.isAside = false := by
  cases x with
  | noted n =>
    cases n with
    | callWillRetry => rfl
    | _ => exact nomatch h
  | _ => exact nomatch h

theorem beat_of_isWarning {x : Happening} (h : x.isWarning = true) : x.beat = none := by
  cases x with
  | noted => rfl
  | _ => exact nomatch h

end Happening

/-- The beats of a history, the latest first. -/
def beats (h : List Event) : List Beat := h.filterMap (·.what.beat)

theorem beats_append (new old : List Event) : beats (new ++ old) = beats new ++ beats old :=
  List.filterMap_append ..

theorem beats_turn (time : Nat) (t : TaskId) (es : List Happening) :
    beats (es.map (⟨time, some t, ·⟩)) = es.filterMap Happening.beat := by
  simp [beats, List.filterMap_map]

theorem filterMap_beat {es : List Happening} (h : es.all Happening.isQuiet = true) :
    es.filterMap Happening.beat = [] :=
  List.filterMap_eq_nil_iff.mpr fun x hx => Happening.beat_of_isQuiet (List.all_eq_true.mp h x hx)

/-- If the last beat is no failure, an attempt has succeeded since the one before it. -/
theorem exists_success {a f : Event} {mid rest : List Event} (ha : a.what.beat = none)
    (hf : f.what.beat = some .failure)
    (h : (beats (mid ++ a :: f :: rest)).head? ≠ some .failure) :
    ∃ x ∈ mid, x.what.beat = some .success := by
  induction mid with
  | nil => simp [beats, ha, hf] at h
  | cons x mid ih =>
    cases hx : x.what.beat with
    | none =>
      obtain ⟨y, hy, hbeat⟩ := ih (by simpa [beats, hx] using h)
      exact ⟨y, List.mem_cons_of_mem _ hy, hbeat⟩
    | some b =>
      cases b with
      | failure => simp [beats, hx] at h
      | success => exact ⟨x, List.mem_cons_self, hx⟩

namespace Proxy

variable {p q : Proxy} {t : TaskId} {s s' : Stage} {es : List Happening}

/-- What a turn means for the burst of failures that is in progress, if one is. -/
inductive Beaten (p q : Proxy) : List Happening → Prop where
  | silent {es : List Happening} (h : es.all Happening.isQuiet = true) (hq : q.hold = p.hold) :
    Beaten p q es
  | failed {c : Call} {e : ChannelError} {ending : Happening} {es : List Happening}
      (h : es.all Happening.isQuiet = true) (he : ending.isQuiet = true)
      (hr : e.recovery ≠ .giveUp) (hx : c.retry.exhausted = false)
      (hq : q.hold = p.hold.engage.2) :
    Beaten p q (es ++ (p.willRetryNotes c e ++ [.attempted c.retry (.error e), ending]))
  | succeeded {r : RetryLoop} {response : String} {last ending : Happening}
      (hl : last.isQuiet = true) (he : ending.isQuiet = true) (hq : q.hold = p.hold.release) :
    Beaten p q [last, .attempted r (.ok response), ending]

section

variable (p : Proxy) (r : RetryLoop) (e : ChannelError)

theorem quiet_installNotes : (p.installNotes r).all Happening.isQuiet = true :=
  List.all_eq_true.mpr (p.forall_installNotes r fun _ _ _ => rfl)

theorem quiet_staleNotes (result : Except ConnectionError Unit) :
    (p.staleNotes result).all Happening.isQuiet = true :=
  List.all_eq_true.mpr (p.forall_staleNotes fun _ => rfl)

theorem quiet_stopNotes (stop : Stop) (result : Except ConnectionError Unit) :
    (p.stopNotes stop result).all Happening.isQuiet = true :=
  List.all_eq_true.mpr (p.forall_stopNotes (by cases stop <;> rfl))

theorem quiet_willReopenNotes : (p.willReopenNotes r e).all Happening.isQuiet = true :=
  List.all_eq_true.mpr (p.forall_willReopenNotes r e fun _ _ _ => rfl)

theorem quiet_teardownAbortNotes (result : Except ChannelError Unit) :
    (p.teardownAbortNotes result).all Happening.isQuiet = true :=
  List.all_eq_true.mpr (p.forall_teardownAbortNotes fun _ _ => rfl)

theorem isQuiet_teardownCloseNotice (result : Except ChannelError Unit) :
    (Happening.noted (p.teardownCloseNotice result)).isQuiet = true :=
  p.teardownCloseNotice_of (·.isQuiet = true) (fun _ => rfl) fun _ _ => rfl

end

theorem CloseCounts.quiet {faulted : Bool} {closed : Except ChannelError Unit}
    {result : Except ConnectionError Unit} (h : p.CloseCounts faulted closed result es) :
    es.all Happening.isQuiet = true :=
  List.all_eq_true.mpr (h.forall fun _ _ => rfl)

theorem CloseEnds.isQuiet {d : Option Nat} {ending : Happening} {r : Except ChannelError Unit}
    (h : p.CloseEnds d ending r) : ending.isQuiet = true := by
  cases h <;> rfl

theorem AttemptFails.isQuiet {d : Option Nat} {ending : Happening} {e : ChannelError}
    (h : p.AttemptFails d ending e) : ending.isQuiet = true := by
  cases h <;> rfl

theorem Leaves.quiet {o : Opener} {result : Except ConnectionError OpenOutcome} {l : Lock}
    (h : p.Leaves t o result s es l) : es.all Happening.isQuiet = true := by
  cases h <;> rfl

theorem Turn.beaten (h : p.Turn t s s' es q) : p.Beaten q es := by
  cases h with
  | answered => exact .succeeded rfl rfl rfl
  | lostConnection he hr hx =>
    exact @Beaten.failed p _ _ _ _ [] rfl he.isQuiet (by simp [hr]) hx rfl
  | backedOff he hr hx =>
    exact @Beaten.failed p _ _ _ _ [_, _, _] rfl he.isQuiet (by simp [hr]) hx rfl
  | failedForGood he hf =>
    refine .silent ?_ rfl
    simp only [List.all_cons, Happening.isQuiet_attempted hf, he.isQuiet]
    rfl
  | foundOpen _ _ _ hx | connectFailed _ hx =>
    refine .silent ?_ rfl
    simp only [List.all_append, hx.quiet]
    rfl
  | connected _ hx =>
    refine .silent ?_ rfl
    simp only [List.all_append, List.all_cons, hx.quiet, p.quiet_installNotes]
    rfl
  | replaced he hcc hx =>
    refine .silent ?_ rfl
    simp only [List.all_append, List.all_cons, hx.quiet, p.quiet_installNotes, p.quiet_staleNotes,
      hcc.quiet, he.isQuiet]
    rfl
  | connectPaused | connectBackedOff =>
    refine .silent ?_ rfl
    simp only [List.all_append, List.all_cons, p.quiet_willReopenNotes]
    rfl
  | drained he hcc =>
    refine .silent ?_ rfl
    simp only [List.all_append, List.all_cons, p.quiet_stopNotes, hcc.quiet, he.isQuiet]
    rfl
  | teardownAborted he =>
    refine .silent ?_ rfl
    simp only [List.all_append, List.all_cons, p.quiet_teardownAbortNotes, he.isQuiet]
    rfl
  | teardownClosed he =>
    refine .silent ?_ rfl
    simp only [List.all_cons, p.isQuiet_teardownCloseNotice, he.isQuiet]
    rfl
  | _ => exact .silent rfl rfl

theorem beat_willRetryNotes (p : Proxy) (c : Call) (e : ChannelError) :
    (p.willRetryNotes c e).filterMap Happening.beat = [] :=
  (p.noted_willRetryNotes e c).filterMap fun _ => rfl

/-- A turn brings one beat or none, and leaves the hold flag as that beat has it. -/
theorem Beaten.beats (h : p.Beaten q es) :
    (es.filterMap Happening.beat = [] ∧ q.hold = p.hold) ∨
      (es.filterMap Happening.beat = [.failure] ∧ q.hold.engaged = true) ∨
      (es.filterMap Happening.beat = [.success] ∧ q.hold.engaged = false) := by
  cases h with
  | silent h hq => exact .inl ⟨filterMap_beat h, hq⟩
  | failed h he hr hx hq =>
    refine .inr (.inl ⟨?_, by rw [hq]; rfl⟩)
    simp [filterMap_beat h, beat_willRetryNotes, Happening.beat_attempted hr hx,
      Happening.beat_of_isQuiet he]
  | succeeded hl he hq =>
    refine .inr (.inr ⟨?_, by rw [hq]; rfl⟩)
    simp [Happening.beat_of_isQuiet hl, Happening.beat_of_isQuiet he]

/-- The hold flag is engaged after a failure, until an attempt succeeds. -/
def InStep (p : Proxy) : Prop :=
  p.hold.engaged = true ↔ (beats p.history).head? = some .failure

theorem InStep.of_aside (h : p.InStep) (ha : p.Aside q) (hq : q.hold = p.hold) : q.InStep := by
  obtain ⟨new, hh, hnew⟩ := ha.history
  have hnone : ResilientProxy.beats new = [] := by
    refine List.filterMap_eq_nil_iff.mpr fun e he => ?_
    have haside := (hnew e he).2.2
    cases hw : e.what <;> simp_all [Happening.isAside, Happening.beat]
  rwa [InStep, hq, hh, beats_append, hnone, List.nil_append]

theorem Dropping.hold (h : p.Dropping q) : q.hold = p.hold := by
  cases h <;> rfl

theorem InStep.reaping (h : p.InStep) (hq : p.Reaping q) : q.InStep := by
  cases hq with
  | kept => exact h
  | dropped _ _ hdrop => exact h.of_aside hdrop.aside hdrop.hold

theorem Stretch.inStep (hs : p.Stretch q) (h : p.InStep) : q.InStep := by
  cases hs with
  | @turned r t s s' es ht hturn =>
    rw [InStep, goOn_history, hturn.frame.history, beats_append, beats_turn]
    change r.hold.engaged = true ↔ _
    obtain ⟨hb, hq⟩ | ⟨hb, hq⟩ | ⟨hb, hq⟩ := hturn.beaten.beats
    · rw [hb, hq]
      exact h
    · simp [hb, hq]
    · simp [hb, hq]
  | observed =>
    exact h.of_aside (.of_events [_, _] (by simp [Happening.isAside])) rfl
  | observedEmpty | observedBusy =>
    exact h.of_aside (.of_events [_] (by simp [Happening.isAside])) rfl
  | dropped hu hd hdrop => exact h.reaping (.dropped hu hd hdrop)
  | halted hq =>
    have hcut : p.cutOff.InStep := h.of_aside cutOff_aside rfl
    have hagain := (hcut.reaping hq).of_aside cutOff_aside rfl
    exact hagain
  | submitted | drifted | ticked | disowned => exact h

theorem Attainable.inStep (h : p.Attainable) : p.InStep :=
  h.induct (fun q hq => by simp [InStep, hq.hold, hq.history, HoldFlag.released, beats])
    fun _ _ _ hi hs => hs.inStep hi

section

variable {x : Happening} {es₁ es₂ : List Happening}

/-- Around a failure in a turn there is the report that its burst calls for, and no other beat. -/
theorem Beaten.of_failure (h : p.Beaten q (es₁ ++ x :: es₂)) (hx : x.beat = some .failure) :
    ∃ c e es ending, x = .attempted c.retry (.error e) ∧ es₁ = es ++ p.willRetryNotes c e ∧
      es₂ = [ending] ∧ ending.isQuiet = true := by
  have hnot : ∀ {y : Happening}, y.isQuiet = true → y ≠ x := by
    rintro y hy rfl
    simp [Happening.beat_of_isQuiet hy] at hx
  generalize hes : es₁ ++ x :: es₂ = es at h
  have hm : x ∈ es := by simp [← hes]
  cases h with
  | silent h => exact absurd rfl (hnot (List.all_eq_true.mp h x hm))
  | @failed c e ending es h he =>
    have hnotes : x ∉ p.willRetryNotes c e :=
      (p.noted_willRetryNotes e c).not_mem (by rintro n rfl; exact nomatch hx)
    have hpre : x ∉ es ++ p.willRetryNotes c e := by
      rw [List.mem_append, not_or]
      exact ⟨fun hm => hnot (List.all_eq_true.mp h x hm) rfl, hnotes⟩
    have hend : x ∉ [ending] := by simpa using (hnot he).symm
    rw [← List.append_assoc, eq_comm, List.append_cons_inj_of_notMem hpre hend] at hes
    obtain ⟨rfl, rfl, rfl⟩ := hes
    exact ⟨c, e, es, ending, rfl, rfl, rfl, he⟩
  | succeeded hl he =>
    simp only [List.mem_cons, List.not_mem_nil, or_false] at hm
    obtain rfl | rfl | rfl := hm
    · exact absurd rfl (hnot hl)
    · simp at hx
    · exact absurd rfl (hnot he)

/-- The report of a burst in a turn is about the failure just before it, and no burst was in
progress then. -/
theorem Beaten.of_warning (h : p.Beaten q (es₁ ++ x :: es₂)) (hx : x.isWarning = true) :
    p.hold.engaged = false ∧ ∃ (c : Call) (e : ChannelError) (ending : Happening),
      x = .noted (.callWillRetry p.address c.operation c.retry.maxRetries e) ∧
      (Happening.attempted c.retry (.error e)).beat = some .failure ∧
      es₂ = [.attempted c.retry (.error e), ending] ∧ ending.isQuiet = true := by
  have hnot : ∀ {y : Happening}, y.isQuiet = true → y ≠ x := by
    rintro y hy rfl
    simp [Happening.isWarning_of_isQuiet hy] at hx
  generalize hes : es₁ ++ x :: es₂ = es at h
  have hm : x ∈ es := by simp [← hes]
  cases h with
  | silent h => exact absurd rfl (hnot (List.all_eq_true.mp h x hm))
  | @failed c e ending es h he hr hretry =>
    have hpre : x ∉ es := fun hm => hnot (List.all_eq_true.mp h x hm) rfl
    have hpost : x ∉ [.attempted c.retry (.error e), ending] := by
      simp only [List.mem_cons, List.not_mem_nil, or_false, not_or]
      exact ⟨fun heq => by simp [heq, Happening.isWarning] at hx, (hnot he).symm⟩
    cases hh : p.hold.engaged with
    | true =>
      -- a burst is in progress, so nothing is reported
      simp only [willRetryNotes, hh, if_true, List.nil_append, List.mem_append] at hm
      exact absurd hm (by simpa only [not_or] using ⟨hpre, hpost⟩)
    | false =>
      rw [willRetryNotes, if_neg (by simp [hh]), List.singleton_append, eq_comm,
        List.append_cons_inj_of_notMem hpre hpost] at hes
      obtain ⟨-, rfl, rfl⟩ := hes
      exact ⟨rfl, c, e, ending, rfl, Happening.beat_attempted hr hretry, rfl, he⟩
  | succeeded hl he =>
    simp only [List.mem_cons, List.not_mem_nil, or_false] at hm
    obtain rfl | rfl | rfl := hm
    · exact absurd rfl (hnot hl)
    · simp [Happening.isWarning] at hx
    · exact absurd rfl (hnot he)

end

section

variable {later earlier : List Event} {a : Event}

/-- What is reported is a failure before which no burst was in progress. -/
theorem Attainable.warned (h : p.Attainable) (hh : p.history = later ++ a :: earlier)
    (hx : a.what.isWarning = true) : ∃ rest operation r error,
      a.what = .noted (.callWillRetry p.address operation r.maxRetries error) ∧
      earlier = ⟨a.time, a.task, .attempted r (.error error)⟩ :: rest ∧
      (Happening.attempted r (.error error)).beat = some .failure ∧
      (beats rest).head? ≠ some .failure := by
  obtain ⟨t, ht⟩ := h.exists_task (e := a) (by simp [hh]) (Happening.isAside_of_isWarning hx)
  obtain ⟨time, task, x⟩ := a
  obtain rfl : task = some t := ht
  obtain ⟨q, r, s, s', es₁, es₂, rest, hq, rfl, ht, hturn, hp, rfl, -⟩ :=
    h.origin (by rintro job rfl; exact nomatch hx) hh
  have haddress : p.address = q.address := hp.address.trans hturn.frame.address
  obtain ⟨hfree, c, e, ending, rfl, hbeat, rfl, hend⟩ := hturn.beaten.of_warning hx
  refine ⟨⟨q.now, some t, ending⟩ :: q.history, c.operation, c.retry, e, by rw [haddress], rfl,
    hbeat, fun hlast => ?_⟩
  have hcons : beats (⟨q.now, some t, ending⟩ :: q.history) = beats q.history := by
    simp [ResilientProxy.beats, Happening.beat_of_isQuiet hend]
  have hengaged : q.hold.engaged = true := hq.inStep.mpr (hcons ▸ hlast)
  simp [hfree] at hengaged

/-- A failure before which no burst was in progress is reported at once. -/
theorem Attainable.warns (h : p.Attainable) (hh : p.history = later ++ a :: earlier)
    (hx : a.what.beat = some .failure) (hlast : (beats earlier).head? ≠ some .failure) :
    ∃ rest operation r error, a.what = .attempted r (.error error) ∧ later = rest ++
      [⟨a.time, a.task, .noted (.callWillRetry p.address operation r.maxRetries error)⟩] := by
  obtain ⟨t, ht⟩ := h.exists_task (e := a) (by simp [hh]) (Happening.isAside_of_beat hx)
  obtain ⟨time, task, x⟩ := a
  obtain rfl : task = some t := ht
  obtain ⟨q, r, s, s', es₁, es₂, rest, hq, rfl, ht, hturn, hp, rfl, rfl⟩ :=
    h.origin (by rintro job rfl; exact nomatch hx) hh
  have haddress : p.address = q.address := hp.address.trans hturn.frame.address
  obtain ⟨c, e, es, ending, rfl, rfl, rfl, hend⟩ := hturn.beaten.of_failure hx
  have hcons : beats ([ending].map (⟨q.now, some t, ·⟩) ++ q.history) = beats q.history := by
    simp [ResilientProxy.beats, Happening.beat_of_isQuiet hend]
  have hfree : q.hold.engaged = false := by
    by_contra hengaged
    exact hlast (hcons ▸ hq.inStep.mp (by simpa using hengaged))
  refine ⟨rest ++ es.map (⟨q.now, some t, ·⟩), c.operation, c.retry, e, rfl, ?_⟩
  rw [willRetryNotes, if_neg (by simp [hfree]), haddress]
  simp

/-- Between two reports an attempt succeeds. -/
theorem Attainable.succeeds {between : List Event} {b : Event} (h : p.Attainable)
    (hh : p.history = later ++ b :: (between ++ a :: earlier)) (hwa : a.what.isWarning = true)
    (hwb : b.what.isWarning = true) : ∃ x ∈ between, x.what.beat = some .success := by
  have hha : p.history = (later ++ b :: between) ++ a :: earlier := by simpa using hh
  obtain ⟨_, _, _, _, -, rfl, hfirst, -⟩ := h.warned hha hwa
  obtain ⟨_, _, _, _, -, hb, -, hlast⟩ := h.warned hh hwb
  -- the failure that `b` is about comes after `a`, which is no beat
  cases between with
  | nil =>
    obtain ⟨rfl, -⟩ := List.cons.inj hb
    exact nomatch hwa
  | cons x mid =>
    obtain ⟨-, rfl⟩ := List.cons.inj hb
    obtain ⟨y, hy, hbeat⟩ := exists_success (Happening.beat_of_isWarning hwa) hfirst hlast
    exact ⟨y, List.mem_cons_of_mem _ hy, hbeat⟩

end

/-- The hold flag is engaged exactly if the last beat is a failure. A failure is reported, at once
and by its own call, exactly if it does not follow another one; nothing else is reported in this
way, and between two reports an attempt succeeds. What brings no beat leaves the flag as it is. -/
theorem one_warning_per_burst (h : p.Reachable) :
    (p.isOnHold = true ↔ (beats p.history).head? = some .failure) ∧
    (∀ later e earlier, p.history = later ++ e :: earlier → e.what.beat = some .failure →
      ((beats earlier).head? ≠ some .failure ↔ ∃ rest operation r error,
        e.what = .attempted r (.error error) ∧ later = rest ++ [⟨e.time, e.task,
          .noted (.callWillRetry p.address operation r.maxRetries error)⟩])) ∧
    (∀ later e earlier, p.history = later ++ e :: earlier → e.what.isWarning = true →
      ∃ rest operation r error,
        e.what = .noted (.callWillRetry p.address operation r.maxRetries error) ∧
        earlier = ⟨e.time, e.task, .attempted r (.error error)⟩ :: rest ∧
        (Happening.attempted r (.error error)).beat = some .failure ∧
        (beats rest).head? ≠ some .failure) ∧
    (∀ later b between a earlier, p.history = later ++ b :: (between ++ a :: earlier) →
      a.what.isWarning = true → b.what.isWarning = true →
      ∃ x ∈ between, x.what.beat = some .success) ∧
    ∀ ms new, (p.run ms).history = new ++ p.history → beats new = [] →
      (p.run ms).isOnHold = p.isOnHold := by
  have ha := h.attainable
  refine ⟨ha.inStep, fun later e earlier hh hx => ⟨ha.warns hh hx, ?_⟩,
    fun later e earlier hh hx => ha.warned hh hx,
    fun later b between a earlier hh hwa hwb => ha.succeeds hh hwa hwb, fun ms new hh hnew => ?_⟩
  · rintro ⟨rest, operation, r, error, -, rfl⟩
    have hwarning : p.history = rest ++ ⟨e.time, e.task,
        .noted (.callWillRetry p.address operation r.maxRetries error)⟩ :: (e :: earlier) := by
      simpa using hh
    obtain ⟨rest', -, r', error', -, hearlier, -, hlast⟩ := ha.warned hwarning rfl
    obtain ⟨-, rfl⟩ := List.cons.inj hearlier
    exact hlast
  · have hrun := (h.run ms).attainable.inStep
    rw [InStep, hh, beats_append, hnew, List.nil_append] at hrun
    exact Bool.eq_iff_iff.mpr (hrun.trans ha.inStep.symm)

/-- Two calls fail, one of them then succeeds, and the other one fails again: the first failure of
each of the two bursts is reported. -/
theorem one_warning_per_burst_of_two_calls :
    let p := (ofDefaults ⟨"svc", by decide⟩ []).run [.submit .connect, .resume 0 .turn,
      .resume 0 (.reply (.connected .opened)), .submit (.invoke "a" 8 "x"), .resume 1 .turn,
      .submit (.invoke "b" 8 "y"), .resume 2 .turn,
      .resume 1 (.reply (.failed .endpointTooBusy)), .resume 2 (.reply (.failed .endpointTooBusy)),
      .tick 100 0, .resume 1 .elapsed, .resume 1 (.reply (.answered "z")), .resume 2 .elapsed,
      .resume 2 (.reply (.failed .endpointTooBusy))]
    beats p.history = [.failure, .success, .failure, .failure] ∧ p.isOnHold = true ∧
      (p.history.filter (·.what.isWarning)).length = 2 ∧
      ∃ x ∈ (p.history.drop 4).take 21, x.what.beat = some .success := by
  intro p
  have hp : p.Reachable := reachable_ofDefaults _ _ _
  have hbeats : beats p.history = [.failure, .success, .failure, .failure] := by decide +kernel
  obtain ⟨hhold, -, -, hbetween, -⟩ := one_warning_per_burst hp
  have hh : p.history = p.history.take 3 ++
      ⟨100, some 2, .noted (.callWillRetry ⟨"svc", by decide⟩ "b" 5 .endpointTooBusy)⟩ ::
        ((p.history.drop 4).take 21 ++
      ⟨0, some 1, .noted (.callWillRetry ⟨"svc", by decide⟩ "a" 5 .endpointTooBusy)⟩ ::
        p.history.drop 26) := by decide +kernel
  exact ⟨hbeats, hhold.mpr (by rw [hbeats]; rfl), by decide +kernel, hbetween _ _ _ _ _ hh rfl rfl⟩

end Proxy

end ResilientProxy
