import Mathlib.Data.List.Basic
import ResilientProxy.Proofs.Budget
import ResilientProxy.Proofs.Origin

/-!
# Reports of waits

A retry loop says how long it is going to wait before it does. The report and the wait are next to
each other in one turn, so what is reported can be held against what is waited. Only the fixed wait
of a call whose connection turned out to be open goes without a report.
-/

namespace ResilientProxy

/-- The milliseconds of a wait, if this is the report of one. -/
def Notice.delayMs? : Notice → Option UInt64
  | waitingToOpen _ _ ms | backingOff _ _ ms => some ms
  | _ => none

namespace Happening

def delayMs? : Happening → Option UInt64
  | noted n => n.delayMs?
  | _ => none

/-- Whether this is neither a wait nor the report of one. -/
def isPrompt : Happening → Bool
  | waiting _ => false
  | x => x.delayMs?.isNone

theorem delayMs?_of_isPrompt {x : Happening} (h : x.isPrompt = true) : x.delayMs? = none := by
  cases x with
  | noted n => exact Option.isNone_iff_eq_none.mp h
  | _ => rfl

theorem isAside_of_delayMs? {x : Happening} {ms : UInt64} (h : x.delayMs? = some ms) :
    x.isAside = false := by
  cases x with
  | noted n =>
    cases n with
    | waitingToOpen | backingOff => rfl
    | _ => exact nomatch h
  | _ => exact nomatch h

end Happening

namespace Proxy

variable {p q : Proxy} {t : TaskId} {s s' : Stage} {es : List Happening} {d : Duration}

/-! ## One turn -/

/-- The waits that are reported: between two attempts to open, and between two of a call. -/
inductive Pauses (p : Proxy) : Stage → Duration → Prop where
  | unreachable {o : Opener} {r : RetryLoop} (hr : r.exhausted = false) :
    Pauses p (.connecting o r) p.config.reconnectWait
  | opening {o : Opener} {r : RetryLoop} {u : Binary64} (hr : r.exhausted = false) :
    Pauses p (.connecting o r) (p.backoffDelay r.attempt u)
  | calling {c : Call} {conn : ConnId} {a : Arena} {m : Option Nat} {u : Binary64}
      (hr : c.retry.exhausted = false) :
    Pauses p (.attempting c conn a m) (p.backoffDelay c.retry.attempt u)

/-- What a turn from stage `s` says about waits, the latest first. -/
inductive Announces (p : Proxy) (s : Stage) : List Happening → Prop where
  | silent {es : List Happening} (h : es.all Happening.isPrompt = true) : Announces p s es
  | told {d : Duration} {n : Notice} {es : List Happening} (hd : p.Pauses s d)
      (hn : n.delayMs? = some (.ofNat d.millis)) (h : es.all Happening.isPrompt = true) :
    Announces p s (.waiting d :: .noted n :: es)
  /-- The connection that a call wanted to open was open. -/
  | untold {es : List Happening} (h : es.all Happening.isPrompt = true) :
    Announces p s (.waiting p.config.reconnectWait :: .lockReleased ::
      .openingEnded (.ok .alreadyOpen) :: es)

theorem AttemptFails.isPrompt {m : Option Nat} {ending : Happening} {e : ChannelError}
    (h : p.AttemptFails m ending e) : ending.isPrompt = true := by
  cases h <;> rfl

theorem CloseEnds.isPrompt {m : Option Nat} {ending : Happening} {r : Except ChannelError Unit}
    (h : p.CloseEnds m ending r) : ending.isPrompt = true := by
  cases h <;> rfl

theorem CloseCounts.isPrompt {faulted : Bool} {closed : Except ChannelError Unit}
    {result : Except ConnectionError Unit} (h : p.CloseCounts faulted closed result es) :
    es.all Happening.isPrompt = true := by
  cases h <;> rfl

theorem Leaves.announces {o : Opener} {result : Except ConnectionError OpenOutcome} {l : Lock}
    {rest : List Happening} (h : p.Leaves t o result s' es l) (s : Stage)
    (hrest : rest.all Happening.isPrompt = true) :
    p.Announces s (es ++ .lockReleased :: .openingEnded result :: rest) := by
  cases h with
  | alreadyOpen => exact .untold hrest
  | owner | failed | reopened => exact .silent hrest

theorem Turn.announces (h : p.Turn t s s' es q) : p.Announces s es := by
  have hinstall : ∀ r, (p.installNotes r).all Happening.isPrompt = true := fun r =>
    List.all_eq_true.mpr (p.forall_installNotes r fun _ _ _ => rfl)
  have hreopen : ∀ r e, (p.willReopenNotes r e).all Happening.isPrompt = true := fun r e =>
    List.all_eq_true.mpr (p.forall_willReopenNotes r e fun _ _ _ => rfl)
  have hretry : ∀ c e, (p.willRetryNotes c e).all Happening.isPrompt = true := fun _ e =>
    List.all_eq_true.mpr (p.forall_willRetryNotes e fun _ _ _ _ => rfl)
  have hclosed : ∀ result, (Happening.noted (p.teardownCloseNotice result)).isPrompt = true :=
    fun _ => p.teardownCloseNotice_of (·.isPrompt = true) (fun _ => rfl) fun _ _ => rfl
  cases h with
  | foundOpen _ _ _ hx | connectFailed _ hx => exact hx.announces _ rfl
  | connected _ hx =>
    refine hx.announces _ ?_
    simp only [List.all_append, hinstall]
    rfl
  | replaced he hn hx =>
    refine hx.announces _ ?_
    have hstale : ∀ result, (p.staleNotes result).all Happening.isPrompt = true := fun _ =>
      List.all_eq_true.mpr (p.forall_staleNotes fun _ => rfl)
    simp only [List.all_append, List.all_cons, hinstall, hstale, hn.isPrompt, he.isPrompt]
    rfl
  | connectPaused _ hr =>
    refine .told (.unreachable hr) rfl ?_
    simp only [List.all_append, hreopen]
    rfl
  | connectBackedOff _ hr =>
    refine .told (.opening hr) rfl ?_
    simp only [List.all_append, List.all_cons, hreopen]
    rfl
  | backedOff he _ hx =>
    refine .told (.calling hx) rfl ?_
    simp only [List.all_append, List.all_cons, hretry, he.isPrompt]
    rfl
  | lostConnection he =>
    refine .silent ?_
    simp only [List.all_append, List.all_cons, hretry, he.isPrompt]
    rfl
  | @drained stop _ _ _ _ _ _ _ he hn =>
    have hstop : ∀ result, (p.stopNotes stop result).all Happening.isPrompt = true := fun _ =>
      List.all_eq_true.mpr (p.forall_stopNotes (by cases stop <;> rfl))
    refine .silent ?_
    simp only [List.all_append, List.all_cons, hstop, hn.isPrompt, he.isPrompt]
    rfl
  | failedForGood he =>
    refine .silent ?_
    simp only [List.all_cons, he.isPrompt]
    rfl
  | teardownAborted he =>
    have habort : ∀ result, (p.teardownAbortNotes result).all Happening.isPrompt = true := fun _ =>
      List.all_eq_true.mpr (p.forall_teardownAbortNotes fun _ _ => rfl)
    refine .silent ?_
    simp only [List.all_append, List.all_cons, habort, he.isPrompt]
    rfl
  | teardownClosed he =>
    refine .silent ?_
    simp only [List.all_cons, hclosed, he.isPrompt]
    rfl
  | _ => exact .silent rfl

section

variable {x : Happening} {ms : UInt64} {es₁ es₂ : List Happening}

/-- The wait follows its report. -/
theorem Announces.of_report (h : p.Announces s (es₁ ++ x :: es₂)) (hx : x.delayMs? = some ms) :
    ∃ d, p.Pauses s d ∧ ms = .ofNat d.millis ∧ es₁ = [.waiting d] := by
  have hnot : ∀ {es : List Happening}, es.all Happening.isPrompt = true → x ∉ es := fun hes hm => by
    simp [Happening.delayMs?_of_isPrompt (List.all_eq_true.mp hes x hm)] at hx
  generalize hes : es₁ ++ x :: es₂ = es at h
  have hm : x ∈ es := by simp [← hes]
  cases h with
  | silent h => exact absurd hm (hnot h)
  | untold h =>
    simp only [List.mem_cons, hnot h, or_false] at hm
    obtain rfl | rfl | rfl := hm <;> exact nomatch hx
  | @told d n es hd hn h =>
    have hpre : x ∉ [.waiting d] := by
      rw [List.mem_singleton]
      rintro rfl
      exact nomatch hx
    obtain ⟨rfl, rfl, -⟩ := (List.append_cons_inj_of_notMem hpre (hnot h)).mp hes.symm
    exact ⟨d, hd, Option.some.inj (hx.symm.trans hn), rfl⟩

/-- The report comes before its wait. -/
theorem Announces.of_waiting (h : p.Announces s (es₁ ++ .waiting d :: es₂)) :
    (∃ n rest, p.Pauses s d ∧ n.delayMs? = some (.ofNat d.millis) ∧ es₂ = .noted n :: rest) ∨
      d = p.config.reconnectWait ∧
        ∃ rest, es₂ = .lockReleased :: .openingEnded (.ok .alreadyOpen) :: rest := by
  have hnot : ∀ {es : List Happening}, es.all Happening.isPrompt = true → .waiting d ∉ es :=
    fun hes hm => nomatch List.all_eq_true.mp hes _ hm
  have hnil : .waiting d ∉ ([] : List Happening) := List.not_mem_nil
  generalize hes : es₁ ++ .waiting d :: es₂ = es at h
  cases h with
  | silent h => exact absurd (by simp [← hes]) (hnot h)
  | @told d' n es hd hn h =>
    have hpost : .waiting d ∉ Happening.noted n :: es := by simp [hnot h]
    obtain ⟨-, hd', rfl⟩ := (List.append_cons_inj_of_notMem hnil hpost).mp hes.symm
    cases hd'
    exact .inl ⟨n, es, hd, hn, rfl⟩
  | @untold es h =>
    have hpost :
        .waiting d ∉ Happening.lockReleased :: .openingEnded (.ok .alreadyOpen) :: es := by
      simp [hnot h]
    obtain ⟨-, hd', rfl⟩ := (List.append_cons_inj_of_notMem hnil hpost).mp hes.symm
    cases hd'
    exact .inr ⟨rfl, es, rfl⟩

end

/-! ## The history -/

/-- Every report of a wait is followed at once by a wait `d` of which it tells `f d` milliseconds,
and every wait follows such a report, or an opening of a call that found the connection open. -/
structure TellsWaits (p : Proxy) (f : Duration → Nat) : Prop where
  told : ∀ later a earlier ms, p.history = later ++ a :: earlier → a.what.delayMs? = some ms →
    ∃ rest d, later = rest ++ [⟨a.time, a.task, .waiting d⟩] ∧ ms.toNat = f d
  tells : ∀ later a earlier d, p.history = later ++ a :: earlier → a.what = .waiting d →
    (∃ n ms rest, earlier = ⟨a.time, a.task, .noted n⟩ :: rest ∧ n.delayMs? = some ms ∧
      ms.toNat = f d) ∨
    d = p.config.reconnectWait ∧ ∃ rest, earlier = ⟨a.time, a.task, .lockReleased⟩ ::
      ⟨a.time, a.task, .openingEnded (.ok .alreadyOpen)⟩ :: rest

/-- Of every wait, the log tells what a word keeps of its milliseconds. -/
theorem Attainable.tellsWaits (h : p.Attainable) {f : Duration → Nat}
    (hf : ∀ (q : Proxy) t s d, q.Attainable → q.config = p.config → q.At t s → q.Pauses s d →
      (UInt64.ofNat d.millis).toNat = f d) : p.TellsWaits f where
  told later a earlier ms hh hx := by
    obtain ⟨t, ht⟩ := h.exists_task (e := a) (by simp [hh]) (Happening.isAside_of_delayMs? hx)
    obtain ⟨time, task, x⟩ := a
    obtain rfl : task = some t := ht
    obtain ⟨q, r, s, s', es₁, es₂, rest, hq, rfl, ht, hturn, hp, -, rfl⟩ :=
      h.origin (by rintro job rfl; exact nomatch hx) hh
    obtain ⟨d, hd, rfl, rfl⟩ := hturn.announces.of_report hx
    have hconfig : q.config = p.config := (hp.config.trans hturn.frame.config).symm
    exact ⟨rest, d, rfl, hf q t s d hq hconfig ht hd⟩
  tells later a earlier d hh hx := by
    obtain ⟨t, ht⟩ := h.exists_task (e := a) (by simp [hh]) (by rw [hx]; rfl)
    obtain ⟨time, task, x⟩ := a
    obtain rfl : task = some t := ht
    obtain rfl : x = .waiting d := hx
    obtain ⟨q, r, s, s', es₁, es₂, rest, hq, rfl, ht, hturn, hp, rfl, -⟩ := h.origin (by simp) hh
    have hconfig : q.config = p.config := (hp.config.trans hturn.frame.config).symm
    obtain ⟨n, es, hd, hn, rfl⟩ | ⟨hd, es, rfl⟩ := hturn.announces.of_waiting
    · exact .inl ⟨n, _, _, rfl, hn, hf q t s d hq hconfig ht hd⟩
    · exact .inr ⟨hconfig ▸ hd, _, rfl⟩

end Proxy

end ResilientProxy
