import ResilientProxy.Proofs.Chain

/-!
# Who has the lock

A task is off the lock, in line for it, or at work under it. In every reachable state the line
holds exactly the tasks that are not off the lock, each of them once, and only the first of them
can be at work. So an operation on the connection has the slot to itself from its first call of
the channel to its last.
-/

namespace ResilientProxy

/-- What a task has to do with the lock. -/
inductive Grip where
  | off
  | inLine
  | holding
  deriving DecidableEq

def Stage.grip : Stage → Grip
  | .awaitingLock _ => .inLine
  | .connecting .. | .connectPause .. | .replacing .. | .draining .. | .aborting _ => .holding
  | _ => .off

/-- The owner and those who wait, in the order in which they get the lock. -/
def Lock.line (l : Lock) : List TaskId := l.owner.toList ++ l.waiting

theorem Stage.exists_goal {s : Stage} (h : s.grip = .inLine) : ∃ goal, s = .awaitingLock goal := by
  cases s with
  | awaitingLock goal => exact ⟨goal, rfl⟩
  | _ => simp [grip] at h

/-- What a turn of task `t` does to the lock and to the grip it has on it. -/
inductive LockTurn (t : TaskId) : Lock → Grip → Lock → Grip → Prop where
  | keep {l : Lock} {g : Grip} : LockTurn t l g l g
  | join {l : Lock} : LockTurn t l .off (l.join t) .inLine
  | take {l : Lock} (h : l.owner = some t) : LockTurn t l .inLine l .holding
  | leave {l : Lock} {g : Grip} (h : l.owner = some t ∨ g = .holding) :
    LockTurn t l g l.pass .off
  | rejoin {l : Lock} {g : Grip} (h : l.owner = some t ∨ g = .holding) :
    LockTurn t l g (l.pass.join t) .inLine

/-- The lock and the grips of all tasks fit together. -/
structure Orderly (l : Lock) (grip : TaskId → Grip) : Prop where
  /-- Nobody waits for a free lock. -/
  idle : l.owner = none → l.waiting = []
  nodup : l.line.Nodup
  mem_line : ∀ t, t ∈ l.line ↔ grip t ≠ .off
  holder : ∀ t, grip t = .holding → l.owner = some t

namespace Lock

@[simp] theorem line_free : free.line = [] := rfl

theorem line_pass (l : Lock) : l.pass.line = l.waiting := by
  cases l with
  | mk owner waiting => cases waiting <;> rfl

theorem line_join {l : Lock} (h : l.owner = none → l.waiting = []) (t : TaskId) :
    (l.join t).line = l.line ++ [t] := by
  cases l with
  | mk owner waiting =>
    cases owner with
    | none =>
      have hw : waiting = [] := h rfl
      subst hw
      rfl
    | some o => rfl

theorem line_of_owner {l : Lock} {t : TaskId} (h : l.owner = some t) :
    l.line = t :: l.waiting := by
  simp [line, h]

theorem owner_of_line {l : Lock} {t : TaskId} {ts : List TaskId}
    (h : l.owner = none → l.waiting = []) (hl : l.line = t :: ts) :
    l.owner = some t ∧ l.waiting = ts := by
  cases l with
  | mk owner waiting =>
    cases owner with
    | none =>
      have hw : waiting = [] := h rfl
      simp [line, hw] at hl
    | some o => simpa [line] using hl

theorem idle_pass (l : Lock) : l.pass.owner = none → l.pass.waiting = [] := by
  cases l with
  | mk owner waiting => cases waiting <;> simp [pass, free]

theorem owner_join_ne_none (l : Lock) (t : TaskId) : (l.join t).owner ≠ none := by
  simp only [join]
  split <;> simp

theorem owner_join_of_owner {l : Lock} {o : TaskId} (h : l.owner = some o) (t : TaskId) :
    (l.join t).owner = some o := by
  simp [join, h]

end Lock

namespace Orderly

variable {l l' : Lock} {grip : TaskId → Grip} {t u : TaskId} {g g' : Grip}

theorem owner_grip (h : Orderly l grip) (ho : l.owner = some t) : grip t ≠ .off :=
  (h.mem_line t).mp (by simp [Lock.line_of_owner ho])

theorem owner_of_leaving (h : Orderly l grip) (hg : l.owner = some t ∨ grip t = .holding) :
    l.owner = some t :=
  hg.elim id (h.holder t)

/-- Only the first in line can be at work. -/
theorem waiting_grip (h : Orderly l grip) (ho : l.owner = some t) (hu : u ∈ l.waiting) :
    u ≠ t ∧ grip u = .inLine := by
  have hline : l.line = t :: l.waiting := Lock.line_of_owner ho
  have hnd : (t :: l.waiting).Nodup := hline ▸ h.nodup
  have hne : u ≠ t := fun he => (List.nodup_cons.mp hnd).1 (he ▸ hu)
  refine ⟨hne, ?_⟩
  have hin : grip u ≠ .off := (h.mem_line u).mp (by simp [hline, hu])
  cases hg : grip u with
  | off => exact absurd hg hin
  | inLine => rfl
  | holding =>
    have hu' : l.owner = some u := h.holder u hg
    exact absurd (Option.some.inj (hu'.symm.trans ho)) hne

/-- With a free lock, no task is at work or in line. -/
theorem off_of_free (h : Orderly l grip) (ho : l.owner = none) (t : TaskId) : grip t = .off := by
  by_contra hg
  have hm : t ∈ l.line := (h.mem_line t).mpr hg
  simp [Lock.line, ho, h.idle ho] at hm

/-- Two tasks at work are one. -/
theorem holder_unique (h : Orderly l grip) (ht : grip t = .holding) (hu : grip u = .holding) :
    t = u :=
  Option.some.inj ((h.holder t ht).symm.trans (h.holder u hu))

theorem join (h : Orderly l grip) (ht : grip t = .off) :
    Orderly (l.join t) (Function.update grip t .inLine) where
  idle ho := absurd ho (l.owner_join_ne_none t)
  nodup := by
    rw [Lock.line_join h.idle]
    have hn : t ∉ l.line := fun hm => (h.mem_line t).mp hm ht
    exact List.nodup_append.mpr ⟨h.nodup, by simp, by
      intro a ha b hb hab
      rw [List.mem_singleton] at hb
      exact hn (hb ▸ hab ▸ ha)⟩
  mem_line u := by
    rw [Lock.line_join h.idle]
    by_cases hu : u = t
    · simp [hu]
    · simp [hu, h.mem_line]
  holder u hg := by
    have hu : u ≠ t := by
      rintro rfl
      simp at hg
    rw [Function.update_of_ne hu] at hg
    exact Lock.owner_join_of_owner (h.holder u hg) t

theorem pass (h : Orderly l grip) (ho : l.owner = some t) :
    Orderly l.pass (Function.update grip t .off) where
  idle := l.idle_pass
  nodup := by
    rw [Lock.line_pass]
    have hnd : (t :: l.waiting).Nodup := Lock.line_of_owner ho ▸ h.nodup
    exact (List.nodup_cons.mp hnd).2
  mem_line u := by
    rw [Lock.line_pass]
    have hline : l.line = t :: l.waiting := Lock.line_of_owner ho
    have hnd : (t :: l.waiting).Nodup := hline ▸ h.nodup
    by_cases hu : u = t
    · subst hu
      simp [(List.nodup_cons.mp hnd).1]
    · rw [Function.update_of_ne hu, ← h.mem_line u, hline]
      simp [hu]
  holder u hg := by
    have hu : u ≠ t := by
      rintro rfl
      simp at hg
    rw [Function.update_of_ne hu] at hg
    exact absurd (Option.some.inj ((h.holder u hg).symm.trans ho)) hu

theorem take (h : Orderly l grip) (ho : l.owner = some t) :
    Orderly l (Function.update grip t .holding) where
  idle := h.idle
  nodup := h.nodup
  mem_line u := by
    by_cases hu : u = t
    · subst hu
      simp [Lock.line_of_owner ho]
    · rw [Function.update_of_ne hu]
      exact h.mem_line u
  holder u hg := by
    by_cases hu : u = t
    · rw [hu, ho]
    · rw [Function.update_of_ne hu] at hg
      exact h.holder u hg

/-- Every turn keeps the line in order. -/
theorem turn (h : Orderly l grip) (ht : LockTurn t l g l' g') (hg : grip t = g) :
    Orderly l' (Function.update grip t g') := by
  cases ht with
  | keep =>
    subst hg
    rwa [Function.update_eq_self]
  | join => exact h.join hg
  | take ho => exact h.take ho
  | leave ho =>
    subst hg
    exact h.pass (h.owner_of_leaving ho)
  | rejoin ho =>
    subst hg
    have hp := h.pass (h.owner_of_leaving ho)
    have hj := hp.join (t := t) (by simp)
    rwa [Function.update_idem] at hj

end Orderly

namespace Proxy

/-- The grip of a task on the lock; one that does not exist has none. -/
def grip (p : Proxy) : TaskId → Grip := p.view Stage.grip .off

variable {p q : Proxy} {t : TaskId} {s s' : Stage} {es : List Happening}

theorem At.grip (h : p.At t s) : p.grip t = s.grip := h.view

theorem grip_cutOff (u : TaskId) : p.cutOff.grip u = .off := by
  simp only [Proxy.grip, view, cutOff, List.getElem?_map]
  cases p.tasks[u]? with
  | none => rfl
  | some s =>
    cases s <;> rfl

theorem Leaves.lockTurn {o : Opener} {result : Except ConnectionError OpenOutcome} {l : Lock}
    {g : Grip} (h : p.Leaves t o result s es l) (hg : p.lock.owner = some t ∨ g = .holding) :
    LockTurn t p.lock g l s.grip := by
  cases h with
  | owner => exact .leave hg
  | failed => exact .leave hg
  | reopened => exact .rejoin hg
  | alreadyOpen => exact .leave hg

theorem Turn.lockTurn (h : p.Turn t s s' es q) : LockTurn t p.lock s.grip q.lock s'.grip := by
  cases h with
  | began => exact .join
  | foundOpen hl hc hq hx => exact hx.lockTurn (.inl hl)
  | foundFaulted hl | foundClosed hl | foundEmpty hl => exact .take hl
  | connected hc hx => exact hx.lockTurn (.inr rfl)
  | replaced he hn hx => exact hx.lockTurn (.inr rfl)
  | connectFailed hf hx => exact hx.lockTurn (.inr rfl)
  | @closeStarted stop conn hl => cases stop <;> exact .take hl
  | @stoppedClosed stop conn hl => cases stop <;> exact .leave (.inl hl)
  | @stoppedEmpty stop hl => cases stop <;> exact .leave (.inl hl)
  | abortStarted hl => exact .take hl
  | abortedEmpty | abortRefused | drained => exact .leave (.inr rfl)
  | attemptedEmpty hl | arenaRefused hl | attemptSent hl => exact .leave (.inl hl)
  | lostConnection | paused => exact .join
  | _ => exact .keep

/-- The line at the lock is in order. -/
def InOrder (p : Proxy) : Prop := Orderly p.lock p.grip

theorem inOrder_free (hl : p.lock = .free) (hg : ∀ u, p.grip u = .off) : p.InOrder where
  idle _ := by rw [hl]; rfl
  nodup := by simp [hl]
  mem_line u := by simp [hl, hg]
  holder u hu := by simp [hg] at hu

theorem InOrder.of_fresh (h : p.Fresh) : p.InOrder :=
  inOrder_free h.lock fun u => by simp [Proxy.grip, view, h.tasks]

theorem InOrder.of_same (h : p.InOrder) (hl : q.lock = p.lock) (hg : q.grip = p.grip) :
    q.InOrder := by
  rw [InOrder, hl, hg]
  exact h

theorem Dropping.inOrder (h : p.Dropping q) (hp : p.InOrder) : q.InOrder := by
  cases h with
  | empty | closed | outside => exact hp.of_same rfl rfl
  | running => exact hp.of_same rfl (view_append rfl rfl)

theorem Stretch.inOrder (h : p.Stretch q) (hp : p.InOrder) : q.InOrder := by
  cases h with
  | submitted => exact hp.of_same rfl (view_append rfl rfl)
  | turned ht hturn =>
    have hg : p.grip _ = _ := ht.grip
    have ho := Orderly.turn hp hturn.lockTurn hg
    rw [InOrder, grip, view_goOn ht hturn.frame.tasks]
    exact ho
  | dropped _ _ hd => exact hd.inOrder hp
  | halted => exact inOrder_free rfl fun u => grip_cutOff u
  | _ => exact hp.of_same rfl rfl

theorem Attainable.inOrder (h : p.Attainable) : p.InOrder :=
  h.induct (fun _ hq => .of_fresh hq) fun _ _ _ hi hs => hs.inOrder hi

theorem Reachable.inOrder (h : p.Reachable) : p.InOrder := h.attainable.inOrder

end Proxy

end ResilientProxy
