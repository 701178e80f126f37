import Mathlib.Algebra.Order.BigOperators.Group.List
import Mathlib.Algebra.Order.Group.Nat
import Mathlib.Data.List.TakeWhile
import Mathlib.Data.Prod.Lex
import ResilientProxy.Proofs.Budget

/-!
# How far a task is from its end

A task has only so many turns left. While it stands in line for the lock it takes none; but those
ahead of it have only so many left, too, and nobody comes in between. So nothing that happens takes
a task further from its end, and every turn of the task, or of one ahead of it, brings it nearer.
-/

namespace ResilientProxy

/-- The price list by which turns are counted. -/
def Prices.turns : Prices := ⟨1, 0, 0, 0⟩

theorem Prices.toPay_pos (w : Prices) (config : Config) {s : Stage} (hw : 0 < w.turn)
    (hs : s.isFinished = false) : 0 < w.toPay config s := by
  cases s with
  | finished => exact nomatch hs
  | awaitingLock goal =>
    cases goal <;> simp only [toPay, forGoal, reopening, beginning] <;> omega
  | connecting o r =>
    have hle := w.turn_le_opening r.left
    simp only [toPay]
    omega
  | attempting c =>
    have hle := w.turn_le_attempting config c.retry.left
    simp only [toPay]
    omega
  | _ =>
    simp only [toPay]
    omega

theorem Stage.exists_outcome {s : Stage} (h : s.isFinished = true) : ∃ o, s = .finished o := by
  cases s with
  | finished o => exact ⟨o, rfl⟩
  | _ => exact nomatch h

/-- Those who stand before task `t`, if it stands in the line at all. -/
def inFront (line : List TaskId) (t : TaskId) : List TaskId :=
  if t ∈ line then line.takeWhile (· != t) else []

theorem inFront_cons {line : List TaskId} {t u : TaskId} (hu : u ≠ t) :
    inFront (u :: line) t = inFront line t ∨ inFront (u :: line) t = u :: inFront line t := by
  by_cases ht : t ∈ line
  · right
    simp [inFront, ht, hu]
  · left
    simp [inFront, ht, hu.symm]

theorem inFront_concat {line : List TaskId} {t u : TaskId} (hu : u ≠ t) :
    inFront (line ++ [u]) t = inFront line t := by
  by_cases ht : t ∈ line
  · have hstop : ¬ (line.takeWhile (· != t)).length = line.length := fun hlen => by
      have hall := List.takeWhile_eq_self_iff.mp ((List.takeWhile_sublist _).eq_of_length hlen)
      simpa using hall t ht
    simp [inFront, ht, List.takeWhile_append, hstop]
  · simp [inFront, ht, hu.symm]

/-- A turn of another task puts nobody ahead of `t` in the line. -/
theorem LockTurn.inFront {l l' : Lock} {g g' : Grip} {grip : TaskId → Grip} {t u : TaskId}
    (h : LockTurn u l g l' g') (ho : Orderly l grip) (hg : grip u = g) (hu : u ≠ t) :
    inFront l'.line t = inFront l.line t ∨ inFront l.line t = u :: inFront l'.line t := by
  have leaves (howner : l.owner = some u ∨ g = .holding) : l.line = u :: l.waiting :=
    Lock.line_of_owner (ho.owner_of_leaving (hg ▸ howner))
  cases h with
  | keep | take => exact .inl rfl
  | join =>
    rw [Lock.line_join ho.idle, inFront_concat hu]
    exact .inl rfl
  | leave howner =>
    rw [Lock.line_pass, leaves howner]
    exact (inFront_cons hu).imp Eq.symm id
  | rejoin howner =>
    rw [Lock.line_join l.idle_pass, Lock.line_pass, inFront_concat hu, leaves howner]
    exact (inFront_cons hu).imp Eq.symm id

namespace Proxy

variable {p q r : Proxy} {t u : TaskId} {s s' : Stage} {es : List Happening}

/-- A bound for the turns that a task has left, those for scratch memory apart. -/
def turnsLeft (p : Proxy) : TaskId → Nat := p.view (Prices.turns.toPay p.config) 0

def ahead (p : Proxy) (t : TaskId) : List TaskId := inFront p.lock.line t

/-- How far task `t` is from its end: the turns that it has left, and the turns that those ahead of
it in the line have left. -/
def distance (p : Proxy) (t : TaskId) : ℕ ×ₗ ℕ :=
  toLex (p.turnsLeft t, ((p.ahead t).map p.turnsLeft).sum)

/-- Task `t` has come nearer to its end, or is where it was, behind the same tasks. -/
def Nearer (t : TaskId) (p q : Proxy) : Prop :=
  q.distance t < p.distance t ∨ q.distance t = p.distance t ∧ q.ahead t = p.ahead t

theorem Nearer.refl (t : TaskId) (p : Proxy) : Nearer t p p := .inr ⟨rfl, rfl⟩

theorem Nearer.le (h : Nearer t p q) : q.distance t ≤ p.distance t :=
  h.elim le_of_lt fun h => le_of_eq h.1

theorem Nearer.trans (h : Nearer t p q) (h' : Nearer t q r) : Nearer t p r := by
  obtain hlt | ⟨he, ha⟩ := h'
  · exact .inl (lt_of_lt_of_le hlt h.le)
  · obtain hlt | ⟨he', ha'⟩ := h
    · exact .inl (he ▸ hlt)
    · exact .inr ⟨he.trans he', ha.trans ha'⟩

theorem distance_lt_iff : q.distance t < p.distance t ↔ q.turnsLeft t < p.turnsLeft t ∨
    q.turnsLeft t = p.turnsLeft t ∧
      ((q.ahead t).map q.turnsLeft).sum < ((p.ahead t).map p.turnsLeft).sum := by
  simp [distance, Prod.Lex.toLex_lt_toLex]

theorem turnsLeft_goOn (hu : p.At u s) (hf : p.Frame q) (s' : Stage) (es : List Happening) :
    (q.goOn u s' es).turnsLeft =
      Function.update p.turnsLeft u (Prices.turns.toPay p.config s') := by
  have hconfig : (q.goOn u s' es).config = p.config := hf.config
  rw [turnsLeft, hconfig, view_goOn hu hf.tasks]
  rfl

theorem ahead_eq_nil (ho : p.InOrder) (hg : p.grip t = .off) : p.ahead t = [] := by
  have hn : t ∉ p.lock.line := fun hm => (ho.mem_line t).mp hm hg
  simp [ahead, inFront, hn]

theorem mem_line_of_ahead (h : u ∈ p.ahead t) : u ∈ p.lock.line := by
  simp only [ahead, inFront] at h
  split at h
  · exact (List.takeWhile_sublist _).subset h
  · exact nomatch h

/-- A turn leaves nobody more turns than before. -/
theorem Turn.turnsLeft_le (h : p.Turn u s s' es q) (hu : p.At u s) (hb : s.InBudget p.config)
    (v : TaskId) : (q.goOn u s' es).turnsLeft v ≤ p.turnsLeft v := by
  rw [turnsLeft_goOn hu h.frame]
  by_cases hv : v = u
  · have hs : p.turnsLeft u = Prices.turns.toPay p.config s := hu.view
    rw [hv, Function.update_self, hs]
    exact Nat.le_trans (Nat.le_add_left ..) (h.paid_add_toPay_le Prices.turns hb)
  · rw [Function.update_of_ne hv]

/-- A turn is one turn less that its task has left. -/
theorem Turn.turnsLeft_lt (h : p.Turn u s s' es q) (hu : p.At u s) (hb : s.InBudget p.config)
    (hn : (s.isAttempting && s'.isAttempting) = false) :
    (q.goOn u s' es).turnsLeft u < p.turnsLeft u := by
  have hs : p.turnsLeft u = Prices.turns.toPay p.config s := hu.view
  have hpays := h.pays Prices.turns hb hn
  rw [turnsLeft_goOn hu h.frame, Function.update_self, hs]
  simp only [Prices.turns] at hpays ⊢
  omega

/-- A turn brings its own task nearer to its end. -/
theorem Turn.nearer_self (h : p.Turn t s s' es q) (ht : p.At t s) (ho : p.InOrder)
    (hb : s.InBudget p.config) :
    Nearer t p (q.goOn t s' es) ∧
      ((s.isAttempting && s'.isAttempting) = false →
        (q.goOn t s' es).distance t < p.distance t) := by
  by_cases hn : (s.isAttempting && s'.isAttempting) = true
  · refine ⟨.inr ?_, fun hn' => by simp [hn] at hn'⟩
    have hs : p.turnsLeft t = Prices.turns.toPay p.config s := ht.view
    have hleft : (q.goOn t s' es).turnsLeft t = Prices.turns.toPay p.config s' := by
      rw [turnsLeft_goOn ht h.frame, Function.update_self]
    cases h with
    | allocated | arenaShort =>
      have hnil : p.ahead t = [] := ahead_eq_nil ho ht.grip
      have hnil' (s' : Stage) (es : List Happening) : (p.goOn t s' es).ahead t = [] := hnil
      refine ⟨?_, (hnil' _ _).trans hnil.symm⟩
      rw [distance, distance, hleft, hs, hnil', hnil]
      rfl
    | _ => simp [Stage.isAttempting] at hn
  · have hlt : (q.goOn t s' es).distance t < p.distance t :=
      distance_lt_iff.mpr (.inl (h.turnsLeft_lt ht hb (Bool.not_eq_true _ ▸ hn)))
    exact ⟨.inl hlt, fun _ => hlt⟩

/-- A turn of another task brings `t` nearer to its end if that one is ahead of it, and changes
nothing for it otherwise. -/
theorem Turn.nearer_of_ne (h : p.Turn u s s' es q) (hu : p.At u s) (ho : p.InOrder)
    (hb : s.InBudget p.config) (hut : u ≠ t) :
    Nearer t p (q.goOn u s' es) ∧
      (u ∈ p.ahead t → (q.goOn u s' es).distance t < p.distance t) := by
  have hleft (v : TaskId) (hv : v ≠ u) : (q.goOn u s' es).turnsLeft v = p.turnsLeft v := by
    rw [turnsLeft_goOn hu h.frame, Function.update_of_ne hv]
  -- who is in line takes no turn for scratch memory
  have strict (hin : u ∈ p.ahead t) : (q.goOn u s' es).turnsLeft u < p.turnsLeft u := by
    refine h.turnsLeft_lt hu hb ?_
    have hg : s.grip ≠ .off := hu.grip ▸ (ho.mem_line u).mp (mem_line_of_ahead hin)
    cases s with
    | attempting => exact absurd rfl hg
    | _ => rfl
  have hfront : (q.goOn u s' es).ahead t = p.ahead t ∨
      p.ahead t = u :: (q.goOn u s' es).ahead t := h.lockTurn.inFront ho hu.grip hut
  by_cases hin : u ∈ p.ahead t
  · have hlt : (q.goOn u s' es).distance t < p.distance t := by
      refine distance_lt_iff.mpr (.inr ⟨hleft t hut.symm, ?_⟩)
      obtain hsame | hless := hfront
      · rw [hsame]
        exact List.sum_lt_sum _ _ (fun v _ => h.turnsLeft_le hu hb v) ⟨u, hin, strict hin⟩
      · have hsum := List.sum_le_sum (l := (q.goOn u s' es).ahead t) fun v _ =>
          h.turnsLeft_le hu hb v
        have hpos := strict hin
        rw [hless, List.map_cons, List.sum_cons]
        omega
    exact ⟨.inl hlt, fun _ => hlt⟩
  · have hsame := hfront.resolve_right fun hless => hin (hless ▸ List.mem_cons_self)
    have hmap : (p.ahead t).map (q.goOn u s' es).turnsLeft = (p.ahead t).map p.turnsLeft :=
      List.map_congr_left fun v hv => hleft v fun he => hin (he ▸ hv)
    refine ⟨.inr ⟨?_, hsame⟩, fun hin' => absurd hin' hin⟩
    rw [distance, distance, hleft t hut.symm, hsame, hmap]

theorem mem_line_lt (ho : p.InOrder) (hu : u ∈ p.lock.line) : u < p.tasks.length := by
  obtain ⟨s, hs, -⟩ := exists_of_view ((ho.mem_line u).mp hu)
  exact hs.lt

/-- Where the lock is as it was and no task that there was has been moved, nothing has changed. -/
theorem Nearer.of_same (ho : p.InOrder) (ht : t < p.tasks.length) (hl : q.lock = p.lock)
    (h : ∀ u < p.tasks.length, q.turnsLeft u = p.turnsLeft u) : Nearer t p q := by
  have hahead : q.ahead t = p.ahead t := by rw [ahead, hl, ahead]
  have hmap : (p.ahead t).map q.turnsLeft = (p.ahead t).map p.turnsLeft :=
    List.map_congr_left fun u hu => h u (mem_line_lt ho (mem_line_of_ahead hu))
  exact .inr ⟨by rw [distance, distance, h t ht, hahead, hmap], hahead⟩

theorem turnsLeft_append (hq : q.tasks = p.tasks ++ [s]) (hc : q.config = p.config)
    (hu : u < p.tasks.length) : q.turnsLeft u = p.turnsLeft u := by
  simp only [turnsLeft, view, hq, hc, List.getElem?_append_left hu]

theorem Dropping.nearer (h : p.Dropping q) (ho : p.InOrder) (ht : t < p.tasks.length) :
    Nearer t p q := by
  cases h with
  | running => exact .of_same ho ht rfl fun u hu => turnsLeft_append rfl rfl hu
  | _ => exact .of_same ho ht rfl fun _ _ => rfl

/-- The end of the runtime is the end of every task. -/
theorem nearer_cutOff (ho : p.InOrder) (hl : q.lock = .free)
    (hq : ∀ u s, q.At u s → s.isFinished = true) : Nearer t p q := by
  have hzero : q.turnsLeft t = 0 := by
    by_contra hne
    obtain ⟨s, hs, hpos⟩ := exists_of_view hne
    cases s with
    | finished => exact hpos rfl
    | _ => exact nomatch hq t _ hs
  have hnil : q.ahead t = [] := by simp [ahead, hl, inFront]
  by_cases hp : p.turnsLeft t = 0
  · have hoff : p.grip t = .off := by
      by_contra hg
      obtain ⟨s, hs, hg⟩ := exists_of_view hg
      have hpos := Prices.turns.toPay_pos p.config (s := s) Nat.one_pos (by
        cases s with
        | finished => exact absurd rfl hg
        | _ => rfl)
      have hview : p.turnsLeft t = Prices.turns.toPay p.config s := hs.view
      omega
    have hnil' : p.ahead t = [] := ahead_eq_nil ho hoff
    exact .inr ⟨by rw [distance, distance, hzero, hp, hnil, hnil']; rfl, hnil.trans hnil'.symm⟩
  · exact .inl (distance_lt_iff.mpr (.inl (by omega)))

theorem Stretch.nearer (h : p.Stretch q) (hp : p.Attainable) (ht : t < p.tasks.length) :
    Nearer t p q := by
  have ho : p.InOrder := hp.inOrder
  cases h with
  | submitted => exact .of_same ho ht rfl fun u hu => turnsLeft_append rfl rfl hu
  | @turned r u s s' es hu hturn =>
    by_cases hut : u = t
    · subst hut
      exact (hturn.nearer_self hu ho (hp.inBudget hu)).1
    · exact (hturn.nearer_of_ne hu ho (hp.inBudget hu) hut).1
  | dropped _ _ hd => exact hd.nearer ho ht
  | halted => exact nearer_cutOff ho rfl fun _ _ hs => isFinished_of_cutOff hs
  | _ => exact .of_same ho ht rfl fun _ _ => rfl

theorem Stretch.length_le (h : p.Stretch q) : p.tasks.length ≤ q.tasks.length := by
  cases h.effect with
  | submitted => simp
  | turned _ hturn => simp [hturn.frame.tasks]
  | ticked => exact Nat.le_refl _
  | aside ha => exact ha.length_le

theorem Stretches.nearer (h : p.Stretches q) (hp : p.Attainable) (ht : t < p.tasks.length) :
    Nearer t p q ∧ t < q.tasks.length := by
  induction h with
  | refl => exact ⟨.refl t p, ht⟩
  | tail hpq hs ih =>
    exact ⟨ih.1.trans (hs.nearer (hp.stretches hpq) ih.2), Nat.lt_of_lt_of_le ih.2 hs.length_le⟩

/-- When a task goes on, it comes nearer to its end, and so do all tasks that it is ahead of. -/
theorem Advances.distance_lt (h : p.Advances u q) (hp : p.Attainable) (hu : u = t ∨ u ∈ p.ahead t) :
    q.distance t < p.distance t := by
  obtain ⟨hat, hturn, hn⟩ := h
  by_cases hut : u = t
  · subst hut
    exact (hturn.nearer_self hat hp.inOrder (hp.inBudget hat)).2 hn
  · exact (hturn.nearer_of_ne hat hp.inOrder (hp.inBudget hat) hut).2 (hu.resolve_left hut)

/-- A task that is told what it waits for comes nearer to its end, and so do all tasks that it is
ahead of. -/
theorem step_distance_lt {signal : Signal} (hp : p.Attainable) (ht : t < p.tasks.length)
    (hs : p.At u s) (hsig : p.heeds u s signal = true) (hu : u = t ∨ u ∈ p.ahead t) :
    (p.step (.resume u signal)).distance t < p.distance t := by
  have hresume : p.apply (.resume u signal) = p.resumeAt u s signal := by
    have hs' : p.tasks[u]? = some s := hs
    simp only [apply, resume, hs']
  have hturns := (resumeAt_course hs hsig).turns
  obtain ⟨r, hfirst, hrest⟩ := Relation.TransGen.head'_iff.mp hturns
  have hr : r.Attainable := hp.stretch hfirst.stretch
  have hrt : t < r.tasks.length := Nat.lt_of_lt_of_le ht hfirst.stretch.length_le
  have hafter : r.Stretches (p.step (.resume u signal)) := by
    rw [step, hresume]
    exact (stretches_of_advances hrest).trans reap_leads.stretches
  exact lt_of_le_of_lt (hafter.nearer hr hrt).1.le (hfirst.distance_lt hp hu)

end Proxy

end ResilientProxy
