import ResilientProxy.Proofs.CallLoop

/-!
# What a task is started for

A task comes only to stages that belong to the job it was submitted for, and so it ends with an
outcome of that job, unless the runtime ends under it.
-/

namespace ResilientProxy

/-- Whether a task that was submitted for a job may come to a stage. -/
def Job.mayReach (job : Job) : Stage → Bool
  | .queued job' => job' == job
  | .awaitingLock (.connect .owner) | .connecting .owner _ | .connectPause .owner _ _
  | .replacing .owner _ _ _ _ | .finished (.connected _) => job == .connect
  | .awaitingLock .close | .draining .close _ _ _ => job == .close
  | .awaitingLock .abort | .draining .abort _ _ _ | .aborting _ => job == .abort
  | .finished (.stopped _) => job == .close || job == .abort
  | .awaitingLock (.attempt c) | .awaitingLock (.connect (.call c)) | .connecting (.call c) _
  | .connectPause (.call c) _ _ | .replacing (.call c) _ _ _ _ | .attempting c _ _ _
  | .callPause c _ => job == .invoke c.operation c.arenaSize c.request
  | .finished (.called _) | .finished .panicked =>
    match job with
    | .invoke .. => true
    | _ => false
  | .teardownQueued .. | .teardownAborting _ | .teardownClosing _ | .finished .tornDown => false
  | .finished .vanished => true

namespace Proxy

variable {p q : Proxy} {t : TaskId} {s s' : Stage} {es : List Happening}

theorem Leaves.mayReach {o : Opener} {result : Except ConnectionError OpenOutcome} {l : Lock}
    (h : p.Leaves t o result s es l) {job : Job}
    (hs : job.mayReach (.awaitingLock (.connect o)) = true) : job.mayReach s = true := by
  cases h with
  | failed =>
    obtain rfl : job = _ := by simpa [Job.mayReach] using hs
    rfl
  | _ => exact hs

theorem Turn.mayReach (h : p.Turn t s s' es q) {job : Job} (hs : job.mayReach s = true) :
    job.mayReach s' = true := by
  cases h with
  | @began job' =>
    have hj : job' = job := by simpa [Job.mayReach] using hs
    subst hj
    cases job' <;> simp [Job.goal, Job.mayReach]
  | foundOpen _ _ _ hx | connected _ hx | replaced _ _ hx | connectFailed _ hx =>
    refine hx.mayReach ?_
    cases ‹Opener› <;> exact hs
  | foundFaulted | foundClosed | foundEmpty | connectedOver | connectPaused | connectBackedOff
  | connectAgain => cases ‹Opener› <;> exact hs
  | @closeStarted stop => cases stop <;> exact hs
  | @stoppedClosed stop | @stoppedEmpty stop | @drained stop =>
    cases stop <;> simp_all [Job.mayReach, Stop.goal]
  | abortedEmpty | abortRefused => simp_all [Job.mayReach]
  | attemptedEmpty | arenaRefused | answered | failedForGood | brokeDown =>
    obtain rfl : job = _ := by simpa [Job.mayReach] using hs
    rfl
  | _ => exact hs

/-- A task stands at a stage of the job that it was submitted for. -/
def Suits (_ : Config) (_ : Clock) (_ : Nat) (t : TaskId) (s : Stage) (es : List Event) : Prop :=
  ∀ time job, ⟨time, some t, .submitted job⟩ ∈ es → job.mayReach s = true

theorem preserved_suits : Preserved Suits where
  queued _ _ now t job time job' hm := by
    obtain ⟨-, rfl⟩ : time = now ∧ job' = job := by simpa using hm
    simp [Job.mayReach]
  teardown _ _ _ _ _ _ _ _ hm := nomatch hm
  turn p q t s s' es old h hturn time job hm :=
    hturn.mayReach (h time job (hturn.submitted_mem hm))
  later _ _ _ _ _ _ _ _ h := h
  vanished _ _ _ _ _ _ _ _ _ _ _ := rfl

theorem Attainable.mayReach (h : p.Attainable) (ht : p.At t s) {time : Nat} {job : Job}
    (hm : ⟨time, some t, .submitted job⟩ ∈ p.history) : job.mayReach s = true :=
  h.tasks_of_preserved preserved_suits t s ht time job
    (List.mem_filter.mpr ⟨hm, by simp [Happening.ofLoop]⟩)

end Proxy

end ResilientProxy
