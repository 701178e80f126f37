import ResilientProxy.Proofs.History
import ResilientProxy.Proofs.Slot

/-!
# Lifecycle work is serialized

Calls of the channel that open, close or abort a connection never overlap, and those of one
operation are never interrupted by a call of another one. The history is read by a small machine
that knows who calls the channel and whose operation is under way; it agrees with where the tasks
stand, and the lock lets only one of them be at work.
-/

namespace ResilientProxy

/-- What a happening means for the work on the connection. -/
inductive Mark where
  /-- A call that opens, closes or aborts a connection starts. -/
  | start
  /-- A call of the channel ends. -/
  | stop
  /-- The lock is given back, or the task is over. -/
  | leave
  deriving DecidableEq

def Happening.mark : Happening → Option Mark
  | .callStarted .connect | .callStarted (.close _) | .callStarted (.abort _) => some .start
  | .callEnded _ | .callGivenUp => some .stop
  | .lockReleased | .returned _ => some .leave
  | _ => none

/-- The task whose call is in progress, and the one whose operation is. -/
structure Floor where
  caller : Option TaskId
  operator : Option TaskId
  deriving DecidableEq

namespace Floor

/-- What a mark of task `t` changes. -/
def after (f : Floor) (t : Option TaskId) : Mark → Floor
  | .start => ⟨t, t⟩
  | .stop => if t = f.caller then { f with caller := none } else f
  | .leave => if t = f.operator then { f with operator := none } else f

end Floor

/-- Who has the floor at the end of a history. -/
def floor : List Event → Floor
  | [] => ⟨none, none⟩
  | e :: h => (e.what.mark).elim (floor h) ((floor h).after e.task)

/-- `e` ends the call that `a` started, if `passed` is what came between the two: it is the next end
of a call in that task. -/
def Event.Ends (e a : Event) (passed : List Event) : Prop :=
  e.what.mark = some .stop ∧ e.task = a.task ∧
    ∀ x ∈ passed, x.task = a.task → x.what.mark ≠ some .stop

/-- A call of task `t` for a connection may start: no call is in progress, and no operation but one
of this task. -/
def Floor.Admits (f : Floor) (t : Option TaskId) : Prop :=
  t ≠ none ∧ f.caller = none ∧ (f.operator = none ∨ f.operator = t)

/-- Every call for a connection started when it could. -/
def Serial : List Event → Prop
  | [] => True
  | e :: h => (e.what.mark = some .start → (floor h).Admits e.task) ∧ Serial h

/-- What a task has to do with the work on the connection. -/
inductive Activity where
  | away
  /-- Its operation rests between two calls. -/
  | resting
  | calling
  deriving DecidableEq

def Stage.activity : Stage → Activity
  | .connectPause .. => .resting
  | .connecting .. | .replacing .. | .draining .. | .aborting _ | .teardownAborting _
  | .teardownClosing _ => .calling
  | _ => .away

/-- The marks of a turn, the latest first, between two activities. -/
inductive Marks : Activity → List Mark → Activity → Prop where
  | away {ms : List Mark} (h : .start ∉ ms) : Marks .away ms .away
  | enter {a : Activity} (h : a ≠ .calling) : Marks a [.start] .calling
  | again : Marks .calling [.start, .stop] .calling
  | rest : Marks .calling [.stop] .resting
  | leave {ms : List Mark} (h : .start ∉ ms) : Marks .calling (ms ++ [.leave, .stop]) .away

/-- The floor after the marks of task `t`, the latest of which comes first. -/
def Floor.afterAll (f : Floor) (t : TaskId) (ms : List Mark) : Floor :=
  ms.foldr (fun m f => f.after (some t) m) f

/-- Every start among the marks of task `t` is admitted where it stands. -/
def Floor.Allows (f : Floor) (t : TaskId) : List Mark → Prop
  | [] => True
  | m :: ms => (m = .start → (f.afterAll t ms).Admits (some t)) ∧ f.Allows t ms

theorem floor_turn (time : Nat) (t : TaskId) (es : List Happening) (h : List Event) :
    floor (es.map (⟨time, some t, ·⟩) ++ h) =
      (floor h).afterAll t (es.filterMap Happening.mark) := by
  induction es with
  | nil => rfl
  | cons e es ih =>
    rw [List.map_cons, List.cons_append, floor, ih, List.filterMap_cons]
    cases e.mark <;> rfl

theorem serial_turn (time : Nat) (t : TaskId) (es : List Happening) (h : List Event) :
    Serial (es.map (⟨time, some t, ·⟩) ++ h) ↔
      (floor h).Allows t (es.filterMap Happening.mark) ∧ Serial h := by
  induction es with
  | nil => simp [Floor.Allows]
  | cons e es ih =>
    rw [List.map_cons, List.cons_append, Serial, ih, List.filterMap_cons, floor_turn]
    cases hm : e.mark with
    | none => simp
    | some m => simp [Floor.Allows, and_assoc]

theorem floor_unmarked {new : List Event} (h : ∀ e ∈ new, e.what.mark = none) (es : List Event) :
    floor (new ++ es) = floor es := by
  induction new with
  | nil => rfl
  | cons e new ih =>
    have he : e.what.mark = none := h e List.mem_cons_self
    rw [List.cons_append, floor, he, ih fun x hx => h x (List.mem_cons_of_mem _ hx)]
    rfl

theorem serial_unmarked (new : List Event) (h : ∀ e ∈ new, e.what.mark = none) {es : List Event} :
    Serial (new ++ es) ↔ Serial es := by
  induction new with
  | nil => exact Iff.rfl
  | cons e new ih =>
    have he : e.what.mark = none := h e List.mem_cons_self
    rw [List.cons_append, Serial, ih fun x hx => h x (List.mem_cons_of_mem _ hx), he]
    simp

theorem floor_start {a : Event} (ha : a.what.mark = some .start) (h : List Event) :
    floor (a :: h) = ⟨a.task, a.task⟩ := by
  rw [floor, ha]
  rfl

/-- A call is in progress until it ends. -/
theorem Serial.caller {a : Event} {between earlier : List Event}
    (h : Serial (between ++ a :: earlier)) (ha : a.what.mark = some .start)
    (hstop : ∀ x ∈ between, x.task = a.task → x.what.mark ≠ some .stop) :
    a.task ≠ none ∧ (floor (between ++ a :: earlier)).caller = a.task := by
  induction between with
  | nil =>
    have hadmits := h.1 ha
    rw [List.nil_append, floor_start ha]
    exact ⟨hadmits.1, rfl⟩
  | cons x l ih =>
    obtain ⟨hx, hl⟩ := h
    have hx' : x.task = a.task → x.what.mark ≠ some .stop := hstop x List.mem_cons_self
    obtain ⟨hne, hcaller⟩ := ih hl fun y hy => hstop y (List.mem_cons_of_mem _ hy)
    refine ⟨hne, ?_⟩
    rw [List.cons_append, floor]
    cases hm : x.what.mark with
    | none => exact hcaller
    | some m =>
      cases m with
      | start => exact absurd (hcaller.symm.trans (hx hm).2.1) hne
      | stop =>
        have hxa : x.task ≠ a.task := fun he => hx' he hm
        simp [Floor.after, hxa, hcaller]
      | leave =>
        simp only [Option.elim_some, Floor.after]
        split <;> exact hcaller

/-- An operation is under way until its task leaves it, and no other one calls the channel. -/
theorem Serial.operator {a : Event} {between earlier : List Event}
    (h : Serial (between ++ a :: earlier)) (ha : a.what.mark = some .start)
    (hleave : ∀ x ∈ between, x.task = a.task → x.what.mark ≠ some .leave) :
    a.task ≠ none ∧ (floor (between ++ a :: earlier)).operator = a.task ∧
      ∀ x ∈ between, x.what.mark = some .start → x.task = a.task := by
  induction between with
  | nil =>
    have hadmits := h.1 ha
    rw [List.nil_append, floor_start ha]
    exact ⟨hadmits.1, rfl, fun x hx => absurd hx List.not_mem_nil⟩
  | cons x l ih =>
    obtain ⟨hx, hl⟩ := h
    have hx' : x.task = a.task → x.what.mark ≠ some .leave := hleave x List.mem_cons_self
    obtain ⟨hne, hop, hall⟩ := ih hl fun y hy => hleave y (List.mem_cons_of_mem _ hy)
    have hstart : x.what.mark = some .start → x.task = a.task := by
      intro hm
      obtain hnone | hsame := (hx hm).2.2
      · exact absurd (hop.symm.trans hnone) hne
      · exact hsame.symm.trans hop
    refine ⟨hne, ?_, fun y hy => ?_⟩
    · rw [List.cons_append, floor]
      cases hm : x.what.mark with
      | none => exact hop
      | some m =>
        cases m with
        | start => exact hstart hm
        | stop =>
          simp only [Option.elim_some, Floor.after]
          split <;> exact hop
        | leave =>
          have hxa : x.task ≠ a.task := fun he => hx' he hm
          simp [Floor.after, hxa, hop]
    · cases hy with
      | head => exact hstart
      | tail _ hy => exact hall y hy

/-- If some call of the task ends, one is the first to. -/
theorem exists_ends {a : Event} {between : List Event}
    (h : ¬ ∀ x ∈ between, x.task = a.task → x.what.mark ≠ some .stop) :
    ∃ rest e passed, between = rest ++ e :: passed ∧ e.Ends a passed := by
  induction between with
  | nil => exact absurd (fun x hx => absurd hx List.not_mem_nil) h
  | cons x l ih =>
    by_cases hl : ∀ y ∈ l, y.task = a.task → y.what.mark ≠ some .stop
    · have hx : x.task = a.task ∧ x.what.mark = some .stop := by
        by_contra hx
        refine h fun y hy => ?_
        cases hy with
        | head => exact fun ht hm => hx ⟨ht, hm⟩
        | tail _ hy => exact hl y hy
      exact ⟨[], x, l, rfl, hx.2, hx.1, hl⟩
    · obtain ⟨rest, e, passed, rfl, he⟩ := ih hl
      exact ⟨x :: rest, e, passed, rfl, he⟩

theorem Serial.of_append {later earlier : List Event} (h : Serial (later ++ earlier)) :
    Serial earlier := by
  induction later with
  | nil => exact h
  | cons x l ih => exact ih h.2

/-- The floor agrees with what the tasks do. -/
structure Agrees (f : Floor) (act : TaskId → Activity) : Prop where
  caller : ∀ t, f.caller = some t ↔ act t = .calling
  operator : ∀ t, f.operator = some t ↔ act t ≠ .away

namespace Agrees

variable {f : Floor} {act : TaskId → Activity} {t : TaskId} {a' : Activity} {ms : List Mark}

/-- The marks of a task that does not have the floor change nothing, unless a call starts. -/
theorem afterAll_of_ne (hc : f.caller ≠ some t) (ho : f.operator ≠ some t) (h : .start ∉ ms) :
    f.afterAll t ms = f := by
  induction ms with
  | nil => rfl
  | cons m ms ih =>
    rw [List.mem_cons, not_or] at h
    have hrest : f.afterAll t ms = f := ih h.2
    change (f.afterAll t ms).after (some t) m = f
    rw [hrest]
    cases m with
    | start => exact absurd rfl h.1
    | stop => exact if_neg fun he => hc he.symm
    | leave => exact if_neg fun he => ho he.symm

theorem calling (halone : ∀ u, u ≠ t → act u = .away) :
    Agrees ⟨some t, some t⟩ (Function.update act t .calling) := by
  constructor <;> intro u <;> by_cases hu : u = t
  · simp [hu]
  · have hne : t ≠ u := fun he => hu he.symm
    simp [Function.update_of_ne hu, halone u hu, hne]
  · simp [hu]
  · have hne : t ≠ u := fun he => hu he.symm
    simp [Function.update_of_ne hu, halone u hu, hne]

theorem allows_of_not_mem (h : .start ∉ ms) : f.Allows t ms := by
  induction ms with
  | nil => trivial
  | cons m ms ih =>
    rw [List.mem_cons, not_or] at h
    exact ⟨fun hm => absurd hm.symm h.1, ih h.2⟩

/-- With nobody else at work, a task that is not calling may start to. -/
theorem admits (h : Agrees f act) (hne : act t ≠ .calling)
    (halone : ∀ u, u ≠ t → act u = .away) : f.Admits (some t) := by
  refine ⟨by simp, ?_, ?_⟩
  · cases hc : f.caller with
    | none => rfl
    | some u =>
      have hu : act u = .calling := (h.caller u).mp hc
      by_cases hut : u = t
      · exact absurd (hut ▸ hu) hne
      · simp [halone u hut] at hu
  · cases ho : f.operator with
    | none => exact .inl rfl
    | some u =>
      have hu : act u ≠ .away := (h.operator u).mp ho
      by_cases hut : u = t
      · exact .inr (by rw [hut])
      · exact absurd (halone u hut) hu

/-- The floor after the call of a task has ended. -/
theorem after_stop (h : Agrees f act) (ht : act t = .calling) :
    f.after (some t) .stop = ⟨none, some t⟩ := by
  have hc : f.caller = some t := (h.caller t).mpr ht
  have ho : f.operator = some t := (h.operator t).mpr (by simp [ht])
  simp [Floor.after, hc, ho]

/-- A turn keeps the floor in agreement, if no other task is at work with the one that takes it. -/
theorem turn (h : Agrees f act) (hm : Marks (act t) ms a')
    (halone : act t ≠ .away ∨ a' ≠ .away → ∀ u, u ≠ t → act u = .away) :
    Agrees (f.afterAll t ms) (Function.update act t a') ∧ f.Allows t ms := by
  generalize ha : act t = a at hm
  cases hm with
  | away hns =>
    have hc : f.caller ≠ some t := fun hc => by simp [(h.caller t).mp hc] at ha
    have ho : f.operator ≠ some t := fun ho => (h.operator t).mp ho ha
    rw [afterAll_of_ne hc ho hns, ← ha, Function.update_eq_self]
    exact ⟨h, allows_of_not_mem hns⟩
  | enter hne =>
    have hal := halone (.inr nofun)
    refine ⟨calling hal, fun _ => h.admits (by rwa [ha]) hal, trivial⟩
  | again =>
    have hal := halone (.inr nofun)
    have hstop := h.after_stop ha
    refine ⟨calling hal, fun _ => ?_, nofun, trivial⟩
    change (f.after (some t) .stop).Admits (some t)
    rw [hstop]
    exact ⟨by simp, rfl, .inr rfl⟩
  | rest =>
    have hal := halone (.inr nofun)
    refine ⟨?_, nofun, trivial⟩
    change Agrees (f.after (some t) .stop) _
    rw [h.after_stop ha]
    constructor <;> intro u <;> by_cases hu : u = t
    · simp [hu]
    · simp [Function.update_of_ne hu, hal u hu]
    · simp [hu]
    · have hne : t ≠ u := fun he => hu he.symm
      simp [Function.update_of_ne hu, hal u hu, hne]
  | @leave ms hns =>
    have hal := halone (.inl (by simp [ha]))
    have hall : f.afterAll t (ms ++ [.leave, .stop]) = ⟨none, none⟩ := by
      have hsplit : f.afterAll t (ms ++ [.leave, .stop]) =
          ((f.after (some t) .stop).after (some t) .leave).afterAll t ms := by
        simp [Floor.afterAll]
      rw [hsplit, h.after_stop ha]
      have hleave : Floor.after ⟨none, some t⟩ (some t) .leave = ⟨none, none⟩ := by
        simp [Floor.after]
      rw [hleave]
      exact afterAll_of_ne nofun nofun hns
    rw [hall]
    refine ⟨?_, allows_of_not_mem (by simp [hns])⟩
    constructor <;> intro u <;> by_cases hu : u = t
    · simp [hu]
    · simp [Function.update_of_ne hu, hal u hu]
    · simp [hu]
    · simp [Function.update_of_ne hu, hal u hu]

end Agrees

namespace Proxy

variable {p q : Proxy} {t : TaskId} {s s' : Stage} {es : List Happening}

theorem CloseEnds.mark {d : Option Nat} {ending : Happening} {r : Except ChannelError Unit}
    (h : p.CloseEnds d ending r) : ending.mark = some .stop := by
  cases h <;> rfl

theorem AttemptFails.mark {d : Option Nat} {ending : Happening} {e : ChannelError}
    (h : p.AttemptFails d ending e) : ending.mark = some .stop := by
  cases h <;> rfl

theorem Leaves.marks {o : Opener} {result : Except ConnectionError OpenOutcome} {l : Lock}
    (h : p.Leaves t o result s es l) :
    s.activity = .away ∧ .start ∉ es.filterMap Happening.mark := by
  cases h <;> exact ⟨rfl, by simp [Happening.mark, List.filterMap_cons]⟩

theorem Turn.marks (h : p.Turn t s s' es q) :
    Marks s.activity (es.filterMap Happening.mark) s'.activity := by
  have hn : ∀ n, Happening.mark (.noted n) = none := fun _ => rfl
  cases h with
  | foundOpen hl hc hq hx =>
    obtain ⟨hs, hes⟩ := hx.marks
    rw [hs, List.filterMap_append]
    refine .away ?_
    simp [hes, Happening.mark, List.filterMap_cons]
  | connected hc hx =>
    obtain ⟨hs, hes⟩ := hx.marks
    simp only [List.filterMap_append, List.filterMap_cons, hs,
      (noted_installNotes p _).filterMap hn]
    exact .leave hes
  | replaced he hcc hx =>
    obtain ⟨hs, hes⟩ := hx.marks
    simp only [List.filterMap_append, List.filterMap_cons, hs, he.mark, hcc.noted.filterMap hn,
      (noted_installNotes p _).filterMap hn, (noted_staleNotes p _).filterMap hn]
    exact .leave hes
  | connectFailed hf hx =>
    obtain ⟨hs, hes⟩ := hx.marks
    simp only [List.filterMap_append, List.filterMap_cons, hs]
    exact .leave hes
  | connectPaused | connectBackedOff =>
    simp only [List.filterMap_append, List.filterMap_cons,
      (noted_willReopenNotes p _ _).filterMap hn]
    exact .rest
  | drained he hcc =>
    simp only [List.filterMap_append, List.filterMap_cons, (noted_stopNotes p _ _).filterMap hn,
      hcc.noted.filterMap hn, he.mark]
    exact @Marks.leave [.leave] (by decide)
  | teardownAborted he =>
    simp only [List.filterMap_append, List.filterMap_cons,
      (noted_teardownAbortNotes p _).filterMap hn, he.mark]
    exact .again
  | teardownClosed he =>
    simp only [List.filterMap_cons, he.mark]
    exact @Marks.leave [] (by decide)
  | failedForGood he =>
    simp only [List.filterMap_cons, he.mark]
    exact .away (by simp [Happening.mark])
  | lostConnection he | backedOff he =>
    simp only [List.filterMap_append, List.filterMap_cons,
      (noted_willRetryNotes p _ _).filterMap hn, he.mark]
    exact .away (by simp [Happening.mark])
  | foundFaulted | foundClosed | foundEmpty | abortStarted | connectAgain | teardownAborts
  | teardownCloses => exact .enter nofun
  | @closeStarted stop => cases stop <;> exact .enter nofun
  | @stoppedClosed stop =>
    cases stop <;> exact .away (by simp [Happening.mark, List.filterMap_cons])
  | @stoppedEmpty stop => cases stop <;> exact .away (by simp [Happening.mark, List.filterMap_cons])
  | connectedOver | aborted => exact .again
  | abortedEmpty | abortRefused => exact @Marks.leave [.leave] (by decide)
  | _ => exact .away (by simp [Happening.mark, List.filterMap_cons])

/-- What a task is doing; one that does not exist is away. -/
def activity (p : Proxy) : TaskId → Activity := p.view Stage.activity .away

theorem At.activity (h : p.At t s) : p.activity t = s.activity := h.view

theorem grip_or_tearsDown (h : s.activity ≠ .away) :
    s.grip = .holding ∨ s.tearsDown = true := by
  cases s <;> first | exact .inl rfl | exact .inr rfl | exact absurd rfl h

theorem keepsProxy_of_grip (h : s.grip = .holding) : s.keepsProxy = true := by
  cases s <;> first | rfl | exact nomatch h

/-- At most one task is at work, be it under the lock or in the teardown. -/
theorem activity_unique (ho : p.InOrder) (hset : p.Settled) {u : TaskId} {r : Stage}
    (ht : p.At t s) (hu : p.At u r) (hs : s.activity ≠ .away) (hr : r.activity ≠ .away) :
    t = u := by
  have apart : ∀ {v w x y}, p.At v x → p.At w y → x.grip = .holding → y.tearsDown = true →
      False := by
    intro v w x y hv hw hx hy
    have hd : p.dropped = true := by
      by_contra hd
      simp [hset.untorn (by simpa using hd) w y hw] at hy
    have hk := hset.left hd v x hv
    simp [keepsProxy_of_grip hx] at hk
  obtain hs | hs := grip_or_tearsDown hs
  · obtain hr | hr := grip_or_tearsDown hr
    · exact Orderly.holder_unique ho (ht.grip.trans hs) (hu.grip.trans hr)
    · exact (apart ht hu hs hr).elim
  · obtain hr | hr := grip_or_tearsDown hr
    · exact (apart hu ht hr hs).elim
    · exact hset.tornByOne t u s r ht hu hs hr

/-- The history is serial, and as long as there is a runtime, it tells who is at work. -/
structure InTurn (p : Proxy) : Prop where
  serial : Serial p.history
  agrees : p.running = true → Agrees (floor p.history) p.activity

theorem InTurn.turn (h : p.InTurn) (ho : p.InOrder) (hset : p.Settled) (ht : p.At t s)
    (hturn : p.Turn t s s' es q) : (q.goOn t s' es).InTurn := by
  have hf := hturn.frame
  have hrun : p.running = true := hset.runs ht hturn.unfinished
  have hst : p.Stretch (q.goOn t s' es) := .turned ht hturn
  have hmarks := hturn.marks
  rw [← ht.activity] at hmarks
  have halone : p.activity t ≠ .away ∨ s'.activity ≠ .away →
      ∀ u, u ≠ t → p.activity u = .away := by
    intro hact u hu
    by_contra hne
    obtain ⟨r, hur, hr⟩ := exists_of_view hne
    cases hact with
    | inl hact =>
      rw [ht.activity] at hact
      exact hu (activity_unique ho hset hur ht hr hact)
    | inr hact =>
      have ht' : (q.goOn t s' es).At t s' := ht.goOn hf.tasks
      have hu' : (q.goOn t s' es).At u r := (at_goOn ht hf.tasks).mpr (.inr ⟨hu, hur⟩)
      exact hu (activity_unique (hst.inOrder ho) (hset.stretch ho hst) hu' ht' hr hact)
  obtain ⟨hagrees, hallows⟩ := (h.agrees hrun).turn hmarks halone
  refine ⟨?_, fun _ => ?_⟩
  · rw [goOn_history, hf.history, serial_turn]
    exact ⟨hallows, h.serial⟩
  · rw [goOn_history, hf.history, floor_turn, activity, view_goOn ht hf.tasks]
    exact hagrees

theorem InTurn.unmarked (h : p.InTurn) (new : List Event) (hh : q.history = new ++ p.history)
    (hnew : ∀ e ∈ new, e.what.mark = none)
    (hact : q.running = true → p.running = true ∧ q.activity = p.activity) : q.InTurn := by
  refine ⟨?_, fun hr => ?_⟩
  · rw [hh, serial_unmarked new hnew]
    exact h.serial
  · rw [hh, floor_unmarked hnew, (hact hr).2]
    exact h.agrees (hact hr).1

theorem mark_of_isAside {x : Happening} (h : x.isAside = true) : x.mark = none := by
  cases x with
  | callStarted | callEnded | callGivenUp | lockReleased | returned =>
    simp [Happening.isAside] at h
  | _ => rfl

theorem InTurn.aside (h : p.InTurn) (ha : p.Aside q)
    (hact : q.running = true → p.running = true ∧ q.activity = p.activity) : q.InTurn := by
  obtain ⟨new, hh, hnew⟩ := ha.history
  exact h.unmarked new hh (fun e he => mark_of_isAside (hnew e he).2.2) hact

theorem InTurn.dropping (h : p.InTurn) (hdrop : p.Dropping q) : q.InTurn := by
  refine h.aside hdrop.aside fun hr => ?_
  cases hdrop with
  | empty | closed | outside => exact ⟨hr, rfl⟩
  | running => exact ⟨hr, view_append rfl rfl⟩

theorem InTurn.stretch (h : p.InTurn) (ho : p.InOrder) (hset : p.Settled) (hs : p.Stretch q) :
    q.InTurn := by
  cases hs with
  | turned ht hturn => exact h.turn ho hset ht hturn
  | dropped _ _ hdrop => exact h.dropping hdrop
  | halted hq => exact h.aside (halted_aside hq) nofun
  | submitted =>
    exact h.unmarked [_] rfl (by simp [Happening.mark])
      fun hr => ⟨hr, view_append rfl rfl⟩
  | observed =>
    exact h.unmarked [_, _] rfl (by simp [Happening.mark]) fun hr => ⟨hr, rfl⟩
  | observedEmpty | observedBusy =>
    exact h.unmarked [_] rfl (by simp [Happening.mark]) fun hr => ⟨hr, rfl⟩
  | drifted | ticked | disowned => exact ⟨h.serial, h.agrees⟩

theorem InTurn.of_fresh (h : p.Fresh) : p.InTurn := by
  refine ⟨by simp [h.history, Serial], fun _ => ?_⟩
  have hact : ∀ u, p.activity u = .away := fun u => by simp [Proxy.activity, view, h.tasks]
  constructor <;> intro u <;> simp [h.history, floor, hact]

theorem Reachable.inTurn (h : p.Reachable) : p.InTurn :=
  h.induct_settled (fun _ hq => .of_fresh hq) fun _ _ ho hset hi hs => hi.stretch ho hset hs

/-- Of two calls that open, close or abort a connection, the first ends before the second starts.
And until the first one's task leaves its operation, all such calls are its own, so those of one
operation are contiguous. -/
theorem lifecycle_calls_serialized (h : p.Reachable) {later between earlier : List Event}
    {a b : Event} (hh : p.history = later ++ b :: (between ++ a :: earlier))
    (ha : a.what.mark = some .start) (hb : b.what.mark = some .start) :
    (∃ rest e passed, between = rest ++ e :: passed ∧ e.Ends a passed ∧
      a.time ≤ e.time ∧ e.time ≤ b.time) ∧
    ((∀ x ∈ between, x.task = a.task → x.what.mark ≠ some .leave) →
      ∀ x ∈ b :: between, x.what.mark = some .start → x.task = a.task) := by
  have hserial : Serial (b :: (between ++ a :: earlier)) := by
    have hall := h.inTurn.serial
    rw [hh] at hall
    exact hall.of_append
  obtain ⟨hadmits, hbefore⟩ := hserial
  have hsorted := h.history_sorted
  rw [hh, List.pairwise_append] at hsorted
  obtain ⟨-, hsorted, -⟩ := hsorted
  rw [List.pairwise_cons, List.pairwise_append] at hsorted
  obtain ⟨hlast, -, -, hfirst⟩ := hsorted
  refine ⟨?_, fun hleave => ?_⟩
  · have hstop : ¬ ∀ x ∈ between, x.task = a.task → x.what.mark ≠ some .stop := fun hno => by
      obtain ⟨hne, hcaller⟩ := hbefore.caller ha hno
      exact hne (hcaller.symm.trans (hadmits hb).2.1)
    obtain ⟨rest, e, passed, hsplit, he⟩ := exists_ends hstop
    have hmem : e ∈ between := by simp [hsplit]
    exact ⟨rest, e, passed, hsplit, he, hfirst e hmem a (by simp), hlast e (by simp [hmem])⟩
  · obtain ⟨hne, hop, hall⟩ := hbefore.operator ha hleave
    intro x hx hm
    cases hx with
    | head =>
      obtain hnone | hsame := (hadmits hb).2.2
      · exact absurd (hop.symm.trans hnone) hne
      · exact hsame.symm.trans hop
    | tail _ hx => exact hall x hx hm

/-- The two attempts of an opening that waits in between: the first has ended before the second
starts, and the operation is the same. -/
theorem lifecycle_calls_serialized_while_retrying :
    let p := (ofDefaults ⟨"svc", by decide⟩ []).run [.submit .connect, .submit .close,
      .resume 0 .turn, .resume 1 .turn, .tick 3 0, .resume 0 (.reply (.failed .endpointNotFound)),
      .tick 30000 0, .resume 0 .elapsed]
    ∃ between earlier, p.history =
      ⟨30003, some 0, .callStarted .connect⟩ ::
        (between ++ ⟨0, some 0, .callStarted .connect⟩ :: earlier) ∧
      (∃ rest e passed, between = rest ++ e :: passed ∧
        e.Ends ⟨0, some 0, .callStarted .connect⟩ passed ∧ 0 ≤ e.time ∧ e.time ≤ 30003) ∧
      ∀ x ∈ between, x.what.mark = some .start → x.task = some 0 := by
  intro p
  have hh : p.history = [] ++ ⟨30003, some 0, .callStarted .connect⟩ ::
      ((p.history.drop 1).take 4 ++ ⟨0, some 0, .callStarted .connect⟩ ::
        p.history.drop 6) := by decide
  have h := lifecycle_calls_serialized (reachable_ofDefaults _ _ _) hh rfl rfl
  refine ⟨(p.history.drop 1).take 4, p.history.drop 6, hh, h.1, fun x hx hm => ?_⟩
  exact h.2 (by decide) x (List.mem_cons_of_mem _ hx) hm

end Proxy

end ResilientProxy
