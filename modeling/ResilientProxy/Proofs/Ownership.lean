import ResilientProxy.Proofs.Slot

/-!
# Where each connection is

No connection is leaked, and none is released twice: the connections in the slot, in the hands of
a task and disposed of are together all connections the channel ever established, each of them
once. From this conservation law follows the one place where each connection is.
-/

namespace ResilientProxy

/-- The connection that is disposed of, if that is what happened. -/
def Happening.disposed : Happening → Option ConnId
  | .callStarted (.close conn) | .letGo conn | .abandoned conn | .lost conn => some conn
  | _ => none

/-- Where a connection can be. -/
inductive Place where
  /-- In the slot. -/
  | slot
  /-- Out of the slot and not yet closed, in the hands of the task that has the lock or of the
  teardown. -/
  | hand
  /-- Closing it has begun. -/
  | closing
  /-- Forgotten, since the channel had reported it closed. -/
  | letGo
  /-- Left behind by a proxy that was dropped outside a runtime. -/
  | abandoned
  /-- Gone with the task that had it in hand when the runtime ended. -/
  | lost
  deriving DecidableEq

/-- Whether the channel is called, or a connection given up without a call. -/
def Happening.isAct : Happening → Bool
  | .callStarted _ | .letGo _ | .abandoned _ | .lost _ => true
  | _ => false

namespace Proxy

variable {p q : Proxy} {t : TaskId} {s s' : Stage} {es : List Happening} {conn : ConnId}

/-- The connections in the hands of tasks. -/
def inHand (p : Proxy) : List ConnId := p.tasks.filterMap Stage.inHand

/-- The connections disposed of so far. -/
def disposed (p : Proxy) : List ConnId := p.happenings.filterMap Happening.disposed

/-- Every connection, once for each way in which it is accounted for. -/
def held (p : Proxy) : List ConnId := p.slot.handle.toList ++ (p.inHand ++ p.disposed)

/-- The conservation law. -/
def Accounted (p : Proxy) : Prop := p.held.Perm (List.range p.connections.length)

theorem accounted_iff :
    p.Accounted ↔ ∀ c, p.slot.handle.toList.count c + p.inHand.count c + p.disposed.count c =
      (List.range p.connections.length).count c := by
  simp only [Accounted, List.perm_iff_count, held, List.count_append, Nat.add_assoc]

theorem count_filterMap_set {α : Type} [DecidableEq α] (f : Stage → Option α) (a : α)
    {l : List Stage} {i : Nat} (h : l[i]? = some s) (s' : Stage) :
    ((l.set i s').filterMap f).count a + (f s).toList.count a =
      (l.filterMap f).count a + (f s').toList.count a := by
  induction l generalizing i with
  | nil => simp at h
  | cons x l ih =>
    cases i with
    | zero =>
      obtain rfl : x = s := by simpa using h
      cases hs : f x <;> cases hs' : f s' <;> simp [hs, hs', List.count_cons]
      omega
    | succ i =>
      have hi := ih (i := i) (by simpa using h)
      cases hx : f x <;> simp [hx, List.count_cons] <;> omega

theorem CloseEnds.disposed {d : Option Nat} {ending : Happening} {r : Except ChannelError Unit}
    (h : p.CloseEnds d ending r) : ending.disposed = none := by
  cases h <;> rfl

theorem AttemptFails.disposed {d : Option Nat} {ending : Happening} {e : ChannelError}
    (h : p.AttemptFails d ending e) : ending.disposed = none := by
  cases h <;> rfl

theorem Leaves.disposed {o : Opener} {result : Except ConnectionError OpenOutcome} {l : Lock}
    (h : p.Leaves t o result s es l) : es.filterMap Happening.disposed = [] ∧ s.inHand = none := by
  cases h <;> exact ⟨rfl, rfl⟩

/-- A turn moves connections from place to place, and a new one goes into the slot or in hand. -/
theorem Turn.balance (h : p.Turn t s s' es q) (hf : s.Fits p.slot) (c : ConnId) :
    q.slot.handle.toList.count c + s'.inHand.toList.count c +
        (es.filterMap Happening.disposed).count c + (List.range p.connections.length).count c =
      p.slot.handle.toList.count c + s.inHand.toList.count c +
        (List.range q.connections.length).count c := by
  have hn : ∀ n, Happening.disposed (.noted n) = none := fun _ => rfl
  cases h with
  | foundOpen hl hc hq hx =>
    obtain ⟨hes, hs⟩ := hx.disposed
    simp only [List.filterMap_append, hes, hs]
    simp [hc, Stage.inHand, Happening.disposed, List.filterMap_cons]
  | connected hc hx =>
    obtain ⟨hes, hs⟩ := hx.disposed
    simp only [List.filterMap_append, List.filterMap_cons, (noted_installNotes p _).filterMap hn,
      hes, hs]
    simp [hc, Stage.inHand, Happening.disposed, List.range_succ]
    omega
  | connectedOver hc =>
    simp [hc, Stage.inHand, Happening.disposed, List.filterMap_cons, List.range_succ]
    omega
  | replaced he hcc hx =>
    obtain ⟨hes, hs⟩ := hx.disposed
    have hfit : p.slot.handle = none := hf
    simp only [List.filterMap_append, List.filterMap_cons, (noted_installNotes p _).filterMap hn,
      (noted_staleNotes p _).filterMap hn, hcc.noted.filterMap hn, he.disposed, hes, hs]
    simp [hfit, Stage.inHand, Happening.disposed]
  | connectFailed hf' hx =>
    obtain ⟨hes, hs⟩ := hx.disposed
    simp only [List.filterMap_append, hes, hs]
    simp [Stage.inHand, Happening.disposed, List.filterMap_cons]
  | connectPaused | connectBackedOff =>
    simp only [List.filterMap_append, List.filterMap_cons,
      (noted_willReopenNotes p _ _).filterMap hn]
    simp [Stage.inHand, Happening.disposed]
  | drained he hcc =>
    simp only [List.filterMap_append, List.filterMap_cons, (noted_stopNotes p _ _).filterMap hn,
      hcc.noted.filterMap hn, he.disposed]
    simp [Stage.inHand, Happening.disposed]
  | teardownAborted he =>
    simp only [List.filterMap_append, List.filterMap_cons,
      (noted_teardownAbortNotes p _).filterMap hn, he.disposed]
    simp [Stage.inHand, Happening.disposed]
  | teardownClosed he | failedForGood he =>
    simp only [List.filterMap_cons, he.disposed]
    simp [Stage.inHand, Happening.disposed]
  | lostConnection he | backedOff he =>
    simp only [List.filterMap_append, List.filterMap_cons,
      (noted_willRetryNotes p _ _).filterMap hn, he.disposed]
    simp [Stage.inHand, Happening.disposed]
  | foundClosed hl hc | stoppedClosed hl hc | closeStarted hl hc | foundFaulted hl hc
  | foundEmpty hl hc | stoppedEmpty hl hc | abortStarted hl hc | aborted hc | abortedEmpty hc =>
    simp [hc, Stage.inHand, Happening.disposed, List.filterMap_cons]
  | _ => simp [Stage.inHand, Happening.disposed, List.filterMap_cons]

theorem Accounted.turn (h : p.Accounted) (hs : p.Settled) (ht : p.At t s)
    (hturn : p.Turn t s s' es q) : (q.goOn t s' es).Accounted := by
  rw [accounted_iff] at h ⊢
  intro c
  have hb := hturn.balance (hs.fits t s ht) c
  have hset := count_filterMap_set Stage.inHand c ht s'
  have hold := h c
  have hd : (q.goOn t s' es).disposed.count c =
      (es.filterMap Happening.disposed).count c + p.disposed.count c := by
    rw [disposed, hturn.happenings, List.filterMap_append, List.count_append, disposed]
  rw [hd, goOn_slot, goOn_connections]
  simp only [inHand, goOn_tasks, hturn.frame.tasks] at hold ⊢
  omega

theorem Accounted.dropping (h : p.Accounted) (hdrop : p.Dropping q) : q.Accounted := by
  rw [accounted_iff] at h ⊢
  intro c
  have hold := h c
  cases hdrop with
  | empty hc => exact hold
  | closed hc | outside hc =>
    simp [hc, inHand, disposed, happenings, Happening.disposed, List.filterMap_cons,
      List.count_cons] at hold ⊢
    omega
  | running hc =>
    simp [hc, inHand, disposed, happenings, Happening.disposed, List.filterMap_cons, Stage.inHand]
      at hold ⊢
    omega

/-- What the runtime's end takes out of the hands of tasks is lost. -/
theorem Accounted.cutOff (h : p.Accounted) : p.cutOff.Accounted := by
  rw [accounted_iff] at h ⊢
  intro c
  have hold := h c
  have hhand : p.cutOff.inHand = [] := by
    rw [inHand, List.filterMap_eq_nil_iff]
    intro s hs
    obtain ⟨t, ht⟩ := List.getElem?_of_mem hs
    have hf : s.isFinished = true := isFinished_of_cutOff ht
    cases s <;> first | rfl | exact nomatch hf
  have hlost : p.cutOff.disposed = p.inHand ++ p.disposed := by
    simp [disposed, happenings, Proxy.cutOff, inHand, List.filterMap_map, Function.comp_def,
      Happening.disposed]
  rw [hhand, hlost, List.count_append]
  simp only [Proxy.cutOff, List.count_nil] at hold ⊢
  omega

theorem Accounted.of_fresh (h : p.Fresh) : p.Accounted := by
  simp [Accounted, held, inHand, disposed, happenings, h.slot, h.tasks, h.history, h.connections]

theorem Accounted.reaping (h : p.Accounted) (hq : p.Reaping q) : q.Accounted := by
  cases hq with
  | kept => exact h
  | dropped _ _ hdrop => exact h.dropping hdrop

theorem Accounted.stretch (h : p.Accounted) (hset : p.Settled) (hs : p.Stretch q) :
    q.Accounted := by
  cases hs with
  | turned ht hturn => exact h.turn hset ht hturn
  | dropped _ _ hdrop => exact h.dropping hdrop
  | halted hq => exact (h.cutOff.reaping hq).cutOff
  | observed _ _ hc =>
    rw [accounted_iff] at h ⊢
    simpa [hc, inHand, disposed, happenings, Happening.disposed, List.filterMap_cons] using h
  | observedEmpty _ _ hc =>
    rw [accounted_iff] at h ⊢
    simpa [hc, inHand, disposed, happenings, Happening.disposed, List.filterMap_cons] using h
  | observedBusy =>
    rw [accounted_iff] at h ⊢
    simpa [inHand, disposed, happenings, Happening.disposed, List.filterMap_cons] using h
  | submitted =>
    rw [accounted_iff] at h ⊢
    simpa [inHand, disposed, happenings, Happening.disposed, List.filterMap_cons, Stage.inHand]
      using h
  | drifted =>
    rw [accounted_iff] at h ⊢
    simpa [inHand, disposed, happenings] using h
  | ticked | disowned => exact h

/-- The conservation law holds in every reachable state. -/
theorem Reachable.accounted (h : p.Reachable) : p.Accounted :=
  h.induct_settled (fun _ hq => .of_fresh hq) fun _ _ _ hset hi hs => hi.stretch hset hs

/-- The acts among what happens in a turn from stage `s`: calls that start, and connections that are
let go of. -/
inductive Acts (p : Proxy) (s : Stage) (es : List Happening) : List Happening → Prop where
  | nothing : Acts p s es []
  | calls {call : ChannelCall}
      (h : ∀ c, call = .abort c → p.slot.handle = some c ∨ s.inHand = some c) :
    Acts p s es [.callStarted call]
  | letsGo {c : ConnId} {as bs : List Happening}
      (h : es = as ++ .letGo c :: .queried c .closed :: bs) : Acts p s es [.letGo c]
  | reconnects {c : ConnId} {as bs : List Happening}
      (h : es = as ++ .letGo c :: .queried c .closed :: bs) :
    Acts p s es [.callStarted .connect, .letGo c]

theorem CloseEnds.isAct {d : Option Nat} {ending : Happening} {r : Except ChannelError Unit}
    (h : p.CloseEnds d ending r) : ending.isAct = false := by
  cases h <;> rfl

theorem AttemptFails.isAct {d : Option Nat} {ending : Happening} {e : ChannelError}
    (h : p.AttemptFails d ending e) : ending.isAct = false := by
  cases h <;> rfl

theorem Leaves.filter_isAct {o : Opener} {result : Except ConnectionError OpenOutcome} {l : Lock}
    (h : p.Leaves t o result s es l) : es.filter Happening.isAct = [] := by
  cases h <;> rfl

theorem Turn.acts (h : p.Turn t s s' es q) : p.Acts s es (es.filter Happening.isAct) := by
  have hn : ∀ n, Happening.isAct (.noted n) = false := fun _ => rfl
  cases h with
  | foundOpen hl hc hq hx =>
    rw [List.filter_append, hx.filter_isAct]
    exact .nothing
  | connected hc hx =>
    simp only [List.filter_append, List.filter_cons, hx.filter_isAct,
      (noted_installNotes p _).filter hn]
    exact .nothing
  | replaced he hcc hx =>
    simp only [List.filter_append, List.filter_cons, hx.filter_isAct, he.isAct,
      (noted_installNotes p _).filter hn, (noted_staleNotes p _).filter hn, hcc.noted.filter hn]
    exact .nothing
  | connectFailed hf hx =>
    rw [List.filter_append, hx.filter_isAct]
    exact .nothing
  | connectPaused | connectBackedOff =>
    simp only [List.filter_append, List.filter_cons, (noted_willReopenNotes p _ _).filter hn]
    exact .nothing
  | drained he hcc =>
    simp only [List.filter_append, List.filter_cons, (noted_stopNotes p _ _).filter hn,
      hcc.noted.filter hn, he.isAct]
    exact .nothing
  | teardownAborted he =>
    simp only [List.filter_append, List.filter_cons, (noted_teardownAbortNotes p _).filter hn,
      he.isAct]
    exact .calls nofun
  | teardownClosed he | failedForGood he =>
    simp only [List.filter_cons, he.isAct]
    exact .nothing
  | lostConnection he | backedOff he =>
    simp only [List.filter_append, List.filter_cons, (noted_willRetryNotes p _ _).filter hn,
      he.isAct]
    exact .nothing
  | foundClosed hl hc hq => exact @Acts.reconnects p _ _ _ [_] _ rfl
  | stoppedClosed hl hc hq => exact @Acts.letsGo p _ _ _ [_, _] _ rfl
  | abortStarted hl hc hq =>
    refine .calls fun c hcall => .inl ?_
    cases hcall
    exact hc
  | teardownAborts =>
    refine .calls fun c hcall => .inr ?_
    cases hcall
    rfl
  | foundFaulted | foundEmpty | connectedOver | connectAgain | closeStarted | aborted
  | attemptSent | teardownCloses => exact .calls nofun
  | _ => exact .nothing

theorem Turn.letGo (h : p.Turn t s s' es q) (hc : .letGo conn ∈ es) :
    ∃ as bs, es = as ++ .letGo conn :: .queried conn .closed :: bs := by
  have hm : .letGo conn ∈ es.filter Happening.isAct := List.mem_filter.mpr ⟨hc, rfl⟩
  have hacts := h.acts
  generalize es.filter Happening.isAct = acts at hacts hm
  cases hacts with
  | nothing | calls => simp at hm
  | letsGo heq | reconnects heq =>
    obtain rfl := by simpa using hm
    exact ⟨_, _, heq⟩

/-- Within a turn, no connection is given up without a report of the channel. -/
theorem Turn.not_mem {x : Happening} (h : p.Turn t s s' es q)
    (hx : x = .abandoned conn ∨ x = .lost conn) : x ∉ es := by
  intro hmem
  have hm : x ∈ es.filter Happening.isAct := by
    rw [List.mem_filter]
    obtain rfl | rfl := hx <;> exact ⟨hmem, rfl⟩
  have hacts := h.acts
  generalize es.filter Happening.isAct = acts at hacts hm
  obtain rfl | rfl := hx <;> cases hacts <;> simp at hm

/-- A turn that aborts a connection finds it in the slot or in hand, and has not closed it. -/
theorem Turn.abort {l₁ l₂ : List Happening} (h : p.Turn t s s' es q)
    (hes : es = l₁ ++ .callStarted (.abort conn) :: l₂) :
    .callStarted (.close conn) ∉ l₂ ∧ (p.slot.handle = some conn ∨ s.inHand = some conn) := by
  have hfilter : es.filter Happening.isAct = l₁.filter Happening.isAct ++
      .callStarted (.abort conn) :: l₂.filter Happening.isAct := by
    rw [hes, List.filter_append, List.filter_cons]
    rfl
  have hm : .callStarted (.abort conn) ∈ es.filter Happening.isAct := by simp [hfilter]
  have hacts := h.acts
  generalize es.filter Happening.isAct = acts at hacts hfilter hm
  cases hacts with
  | nothing | letsGo | reconnects => simp at hm
  | calls hcall =>
    obtain rfl : ChannelCall.abort conn = _ := by simpa using hm
    refine ⟨fun hclose => ?_, hcall conn rfl⟩
    have hlast : l₂.filter Happening.isAct = [] := by
      have hlen := congrArg List.length hfilter
      simp only [List.length_append, List.length_cons, List.length_nil] at hlen
      exact List.length_eq_zero_iff.mp (by omega)
    have hmem : .callStarted (.close conn) ∈ l₂.filter Happening.isAct :=
      List.mem_filter.mpr ⟨hclose, rfl⟩
    simp [hlast] at hmem

/-- What the history tells about connections is true. -/
structure Traced (p : Proxy) : Prop where
  /-- A connection was let go of right after the channel had reported it closed. -/
  letGo : ∀ c, .letGo c ∈ p.happenings → ∃ l₁ l₂ time task, p.history =
    l₁ ++ ⟨time, task, .letGo c⟩ :: ⟨time, task, .queried c .closed⟩ :: l₂
  abandoned : ∀ c, .abandoned c ∈ p.happenings → p.dropped = true ∧ p.running = false
  lost : ∀ c, .lost c ∈ p.happenings → ∃ t, p.At t (.finished .vanished)
  /-- No connection was aborted after closing it had begun. -/
  aborted : ∀ l₁ l₂ c, p.happenings = l₁ ++ .callStarted (.abort c) :: l₂ →
    .callStarted (.close c) ∉ l₂

/-- The history stays true if what is added to it is. -/
theorem Traced.extend (h : p.Traced) (new : List Event) (hh : q.history = new ++ p.history)
    (hd : p.dropped = true → q.dropped = true) (hr : p.running = false → q.running = false)
    (hv : ∀ t, p.At t (.finished .vanished) → q.At t (.finished .vanished))
    (hletGo : ∀ c, .letGo c ∈ new.map (·.what) → ∃ l₁ l₂ time task, new =
      l₁ ++ ⟨time, task, .letGo c⟩ :: ⟨time, task, .queried c .closed⟩ :: l₂)
    (habandoned : ∀ c, .abandoned c ∈ new.map (·.what) → q.dropped = true ∧ q.running = false)
    (hlost : ∀ c, .lost c ∈ new.map (·.what) → ∃ t, q.At t (.finished .vanished))
    (haborted : ∀ l₁ l₂ c, new.map (·.what) = l₁ ++ .callStarted (.abort c) :: l₂ →
      .callStarted (.close c) ∉ l₂ ∧ .callStarted (.close c) ∉ p.happenings) : q.Traced := by
  have hhap : q.happenings = new.map (·.what) ++ p.happenings := by
    simp [happenings, hh]
  refine ⟨fun c hc => ?_, fun c hc => ?_, fun c hc => ?_, fun l₁ l₂ c hl => ?_⟩
  · rw [hhap, List.mem_append] at hc
    cases hc with
    | inl hc =>
      obtain ⟨l₁, l₂, time, task, hl⟩ := hletGo c hc
      exact ⟨l₁, l₂ ++ p.history, time, task, by simp [hh, hl]⟩
    | inr hc =>
      obtain ⟨l₁, l₂, time, task, hl⟩ := h.letGo c hc
      exact ⟨new ++ l₁, l₂, time, task, by simp [hh, hl]⟩
  · rw [hhap, List.mem_append] at hc
    cases hc with
    | inl hc => exact habandoned c hc
    | inr hc => exact ⟨hd (h.abandoned c hc).1, hr (h.abandoned c hc).2⟩
  · rw [hhap, List.mem_append] at hc
    cases hc with
    | inl hc => exact hlost c hc
    | inr hc =>
      obtain ⟨t, ht⟩ := h.lost c hc
      exact ⟨t, hv t ht⟩
  · rw [hhap] at hl
    -- the abort is either among what is new, or among what was there
    obtain ⟨as, -, hold⟩ | ⟨as, hnew, rfl⟩ := cases_of_append hl
    · exact h.aborted as l₂ c hold
    · obtain ⟨hnew, hold⟩ := haborted l₁ as c hnew
      rw [List.mem_append, not_or]
      exact ⟨hnew, hold⟩

/-- A connection that is in the slot or in hand has not been disposed of. -/
theorem Accounted.not_disposed (h : p.Accounted)
    (hc : p.slot.handle = some conn ∨ conn ∈ p.inHand) : conn ∉ p.disposed := by
  have hnd : p.held.Nodup := h.nodup_iff.mpr List.nodup_range
  intro hmem
  simp only [held] at hnd
  rw [List.nodup_append] at hnd
  obtain ⟨-, hrest, hslot⟩ := hnd
  rw [List.nodup_append] at hrest
  cases hc with
  | inl hc => exact hslot conn (by simp [hc]) conn (by simp [hmem]) rfl
  | inr hc => exact hrest.2.2 conn hc conn hmem rfl

theorem mem_disposed {x : Happening} (h : x ∈ p.happenings) (hx : x.disposed = some conn) :
    conn ∈ p.disposed :=
  List.mem_filterMap.mpr ⟨x, h, hx⟩

theorem Traced.turn (h : p.Traced) (ha : p.Accounted) (ht : p.At t s)
    (hturn : p.Turn t s s' es q) : (q.goOn t s' es).Traced := by
  have hf := hturn.frame
  have hmap : (es.map (⟨q.now, some t, ·⟩ : Happening → Event)).map (·.what) = es := by
    simp [Function.comp_def]
  refine h.extend _ (by rw [goOn_history, hf.history])
    (fun hd => by rw [goOn_dropped, hf.dropped, hd])
    (fun hr => by rw [goOn_running, hf.running, hr]) (fun u hu => ?_) (fun c hc => ?_)
    (fun c hc => ?_) (fun c hc => ?_) fun l₁ l₂ c hl => ?_
  · refine (at_goOn ht hf.tasks).mpr (.inr ⟨?_, hu⟩)
    rintro rfl
    have hs := hturn.unfinished
    rw [ht.unique hu] at hs
    exact nomatch hs
  · rw [hmap] at hc
    obtain ⟨as, bs, heq⟩ := hturn.letGo hc
    exact ⟨as.map (⟨q.now, some t, ·⟩), bs.map (⟨q.now, some t, ·⟩), q.now, some t, by simp [heq]⟩
  · rw [hmap] at hc
    exact absurd hc (hturn.not_mem (.inl rfl))
  · rw [hmap] at hc
    exact absurd hc (hturn.not_mem (.inr rfl))
  · rw [hmap] at hl
    obtain ⟨hnew, hwhere⟩ := hturn.abort hl
    refine ⟨hnew, fun hmem => ?_⟩
    refine ha.not_disposed (hwhere.imp_right fun hs => ?_) (mem_disposed hmem rfl)
    exact List.mem_filterMap.mpr ⟨s, ht.mem, hs⟩

theorem ne_split {x : Happening} {l l₁ l₂ : List Happening} (h : x ∉ l) : l ≠ l₁ ++ x :: l₂ := by
  rintro rfl
  simp at h

theorem Traced.dropping (h : p.Traced) (hdrop : p.Dropping q) : q.Traced := by
  cases hdrop with
  | empty hc => exact ⟨h.letGo, fun c hm => ⟨rfl, (h.abandoned c hm).2⟩, h.lost, h.aborted⟩
  | @closed conn hc hs =>
    refine h.extend [_, _] rfl (fun _ => rfl) id (fun _ => id) (fun c hm => ?_) (by simp)
      (by simp) fun _ _ _ hl => absurd hl (ne_split (by simp))
    obtain rfl : c = conn := by simpa using hm
    exact ⟨[], [], p.now, none, rfl⟩
  | running hc hs hr =>
    exact h.extend [_] rfl (fun _ => rfl) id (fun t ht => ht.append rfl) (by simp)
      (by simp) (by simp) fun _ _ _ hl => absurd hl (ne_split (by simp))
  | outside hc hs hr =>
    exact h.extend [_, _, _] rfl (fun _ => rfl) id (fun _ => id) (by simp)
      (fun _ _ => ⟨rfl, hr⟩) (by simp) fun _ _ _ hl => absurd hl (ne_split (by simp))

theorem Traced.cutOff (h : p.Traced) : p.cutOff.Traced := by
  have hmap : ((p.tasks.filterMap Stage.inHand).map fun c =>
      (⟨p.now, none, .lost c⟩ : Event)).map (·.what) = p.inHand.map .lost := by
    simp [inHand, Function.comp_def]
  refine h.extend _ rfl id id (fun t ht => ht.cutOff) (fun c hm => ?_) (fun c hm => ?_)
    (fun c hm => ?_) fun l₁ l₂ c hl => ?_
  · rw [hmap] at hm
    simp at hm
  · rw [hmap] at hm
    simp at hm
  · rw [hmap] at hm
    obtain ⟨s, hs, hhand⟩ : ∃ s ∈ p.tasks, s.inHand = some c := by simpa [inHand] using hm
    obtain ⟨t, ht⟩ := List.getElem?_of_mem hs
    have hcut := At.cutOff (p := p) ht
    have hf : s.isFinished = false := by
      cases s <;> first | rfl | exact nomatch hhand
    rw [hf] at hcut
    exact ⟨t, hcut⟩
  · rw [hmap] at hl
    exact absurd hl (ne_split (by simp))

theorem Traced.reaping (h : p.Traced) (hq : p.Reaping q) : q.Traced := by
  cases hq with
  | kept => exact h
  | dropped _ _ hdrop => exact h.dropping hdrop

theorem Traced.stretch (h : p.Traced) (ha : p.Accounted) (hs : p.Stretch q) : q.Traced := by
  cases hs with
  | turned ht hturn => exact h.turn ha ht hturn
  | dropped _ _ hdrop => exact h.dropping hdrop
  | halted hq =>
    have hc := (h.cutOff.reaping hq).cutOff
    exact ⟨hc.letGo, fun c hm => ⟨(hc.abandoned c hm).1, rfl⟩, hc.lost, hc.aborted⟩
  | submitted =>
    exact h.extend [_] rfl id id (fun t ht => ht.append rfl) (by simp) (by simp) (by simp)
      fun _ _ _ hl => absurd hl (ne_split (by simp))
  | observed =>
    exact h.extend [_, _] rfl id id (fun _ => id) (by simp) (by simp) (by simp)
      fun _ _ _ hl => absurd hl (ne_split (by simp))
  | observedEmpty | observedBusy =>
    exact h.extend [_] rfl id id (fun _ => id) (by simp) (by simp) (by simp)
      fun _ _ _ hl => absurd hl (ne_split (by simp))
  | drifted | ticked | disowned => exact ⟨h.letGo, h.abandoned, h.lost, h.aborted⟩

theorem Reachable.traced (h : p.Reachable) : p.Traced := by
  have hboth : p.Accounted ∧ p.Traced :=
    h.induct_settled (I := fun q => q.Accounted ∧ q.Traced)
      (fun q hq => ⟨.of_fresh hq, by constructor <;> simp [happenings, hq.history]⟩)
      fun q q' _ hset ⟨ha, ht⟩ hs => ⟨ha.stretch hset hs, ht.stretch ha hs⟩
  exact hboth.2

theorem Stretch.running_of_lost (hs : p.Stretch q)
    (h : ∀ c, .lost c ∈ p.happenings → p.running = false) (c : ConnId)
    (hm : .lost c ∈ q.happenings) : q.running = false := by
  cases hs with
  | halted => rfl
  | turned _ hturn =>
    rw [hturn.happenings, List.mem_append] at hm
    rw [goOn_running, hturn.frame.running]
    exact h c (hm.resolve_left (hturn.not_mem (.inr rfl)))
  | dropped _ _ hdrop =>
    cases hdrop with
    | empty | closed | running | outside => exact h c (by simpa [happenings] using hm)
  | _ => exact h c (by simpa [happenings] using hm)

/-- Connections are lost only at the end of the runtime. -/
theorem Reachable.running_of_lost (h : p.Reachable) :
    ∀ c, .lost c ∈ p.happenings → p.running = false :=
  h.induct (fun q hq c hm => by simp [happenings, hq.history] at hm)
    fun _ _ hi hs => hs.running_of_lost hi

/-- How often a connection is accounted for at a place. -/
def tally (p : Proxy) (c : ConnId) : Place → Nat
  | .slot => p.slot.handle.toList.count c
  | .hand => p.inHand.count c
  | .closing => p.happenings.count (.callStarted (.close c))
  | .letGo => p.happenings.count (.letGo c)
  | .abandoned => p.happenings.count (.abandoned c)
  | .lost => p.happenings.count (.lost c)

/-- Connection `c` is at a place. -/
def Has (p : Proxy) (c : ConnId) : Place → Prop
  | .slot => p.slot.handle = some c
  | .hand =>
    (∃ t o r stale d, p.lock.owner = some t ∧ p.At t (.replacing o r c stale d)) ∨
      (p.dropped = true ∧
        ∃ t, p.At t (.teardownAborting c) ∨ ∃ s, p.At t (.teardownQueued c s))
  | .closing => p.happenings.count (.callStarted (.close c)) = 1 ∧ p.slot.handle ≠ some c
  | .letGo => ∃ l₁ l₂ time task, p.history =
      l₁ ++ ⟨time, task, .letGo c⟩ :: ⟨time, task, .queried c .closed⟩ :: l₂
  | .abandoned => .abandoned c ∈ p.happenings ∧ p.dropped = true ∧ p.running = false
  | .lost => .lost c ∈ p.happenings ∧ p.running = false ∧ ∃ t, p.At t (.finished .vanished)

/-- A connection that nobody has begun to release. -/
def Unreleased (p : Proxy) (c : ConnId) : Prop := p.Has c .slot ∨ p.Has c .hand

theorem count_disposed (l : List Happening) (c : ConnId) :
    (l.filterMap Happening.disposed).count c =
      l.count (.callStarted (.close c)) + l.count (.letGo c) + l.count (.abandoned c) +
        l.count (.lost c) := by
  induction l with
  | nil => rfl
  | cons x l ih =>
    cases x with
    | callStarted call =>
      cases call <;> simp [Happening.disposed, List.filterMap_cons, List.count_cons, ih]
      omega
    | letGo | abandoned | lost =>
      simp [Happening.disposed, List.count_cons, ih]
      omega
    | _ => simp [Happening.disposed, List.filterMap_cons, ih]

theorem Accounted.tally_eq (h : p.Accounted) (c : ConnId) :
    p.tally c .slot + p.tally c .hand + (p.tally c .closing + p.tally c .letGo +
      p.tally c .abandoned + p.tally c .lost) = (List.range p.connections.length).count c := by
  have hc := accounted_iff.mp h c
  rw [disposed, count_disposed] at hc
  exact hc

/-- A connection in hand is with the task that has the lock, or with the teardown. -/
theorem has_hand_iff (ho : p.InOrder) (hset : p.Settled) (c : ConnId) :
    p.Has c .hand ↔ c ∈ p.inHand := by
  rw [inHand, List.mem_filterMap]
  constructor
  · rintro (⟨t, o, r, stale, d, -, ht⟩ | ⟨-, t, ht | ⟨s, ht⟩⟩) <;> exact ⟨_, ht.mem, rfl⟩
  · rintro ⟨s, hs, hhand⟩
    obtain ⟨t, ht⟩ := List.getElem?_of_mem hs
    have ht : p.At t s := ht
    have hdrop : s.tearsDown = true → p.dropped = true := fun htear => by
      by_contra hd
      simp [hset.untorn (by simpa using hd) t s ht] at htear
    cases s with
    | replacing o r fresh stale d =>
      cases hhand
      exact .inl ⟨t, o, r, stale, d, Orderly.holder ho t ht.grip, ht⟩
    | teardownQueued conn cs =>
      cases hhand
      exact .inr ⟨hdrop rfl, t, .inr ⟨cs, ht⟩⟩
    | teardownAborting conn =>
      cases hhand
      exact .inr ⟨hdrop rfl, t, .inl ht⟩
    | _ => exact nomatch hhand

theorem has_iff (h : p.Reachable) {c : ConnId} (hc : c < p.connections.length) (place : Place) :
    p.Has c place ↔ p.tally c place = 1 := by
  have hsum := h.accounted.tally_eq c
  have hone : (List.range p.connections.length).count c = 1 := by
    simp [List.count_range, hc]
  have hslot : p.Has c .slot ↔ p.tally c .slot = 1 := by
    simp only [Has, tally]
    cases p.slot.handle with
    | none => simp
    | some conn => simp [List.count_cons]
  have happened : ∀ x, x ∈ p.happenings ↔ 0 < p.happenings.count x := fun x =>
    List.count_pos_iff.symm
  cases place with
  | slot => exact hslot
  | hand =>
    rw [has_hand_iff h.inOrder h.settled, ← List.count_pos_iff]
    simp only [tally] at hsum ⊢
    omega
  | closing =>
    refine ⟨fun hcl => hcl.1, fun hcl => ⟨hcl, fun hs => ?_⟩⟩
    have := hslot.mp hs
    omega
  | letGo =>
    simp only [tally] at hsum ⊢
    constructor
    · rintro ⟨l₁, l₂, time, task, hl⟩
      have hm : 0 < p.happenings.count (.letGo c) := (happened _).mp (by simp [happenings, hl])
      omega
    · intro hcl
      exact h.traced.letGo c ((happened _).mpr (by omega))
  | abandoned =>
    simp only [tally] at hsum ⊢
    constructor
    · rintro ⟨hm, -⟩
      have hpos := (happened _).mp hm
      omega
    · intro hcl
      have hm : .abandoned c ∈ p.happenings := (happened _).mpr (by omega)
      exact ⟨hm, h.traced.abandoned c hm⟩
  | lost =>
    simp only [tally] at hsum ⊢
    constructor
    · rintro ⟨hm, -⟩
      have hpos := (happened _).mp hm
      omega
    · intro hcl
      have hm : .lost c ∈ p.happenings := (happened _).mpr (by omega)
      exact ⟨hm, h.running_of_lost c hm, h.traced.lost c hm⟩

theorem existsUnique_place (h : p.Reachable) {c : ConnId} (hc : c < p.connections.length) :
    ∃! place, p.Has c place := by
  have hsum := h.accounted.tally_eq c
  have hone : (List.range p.connections.length).count c = 1 := by
    simp [List.count_range, hc]
  have hsome : ∃ place, p.tally c place = 1 := by
    by_contra hnone
    have hne : ∀ place, p.tally c place ≠ 1 := fun place hp => hnone ⟨place, hp⟩
    have := hne .slot
    have := hne .hand
    have := hne .closing
    have := hne .letGo
    have := hne .abandoned
    have := hne .lost
    omega
  obtain ⟨place, hplace⟩ := hsome
  refine ⟨place, (has_iff h hc place).mpr hplace, fun other hother => ?_⟩
  have hother := (has_iff h hc other).mp hother
  cases place <;> cases other <;> first | rfl | (exfalso; omega)

theorem count_close_le_one (h : p.Reachable) (c : ConnId) :
    p.happenings.count (.callStarted (.close c)) ≤ 1 := by
  have hsum := h.accounted.tally_eq c
  have hone : (List.range p.connections.length).count c ≤ 1 :=
    List.nodup_iff_count.mp List.nodup_range c
  simp only [tally] at hsum
  omega

/-- While no task is at work under the lock, the teardown is the only task with a connection in
hand, and then the slot is empty. -/
theorem unreleased_unique (h : p.Reachable) (hg : ∀ t, p.grip t ≠ .holding) {c d : ConnId}
    (hc : p.Unreleased c) (hd : p.Unreleased d) : c = d := by
  have hset := h.settled
  have hand : ∀ e, p.Has e .hand →
      p.dropped = true ∧ ∃ t s, p.At t s ∧ s.tearsDown = true ∧ s.inHand = some e := by
    rintro e (⟨t, o, r, stale, dl, -, ht⟩ | ⟨hdrop, t, ht | ⟨s, ht⟩⟩)
    · exact absurd ht.grip (hg t)
    · exact ⟨hdrop, t, _, ht, rfl, rfl⟩
    · exact ⟨hdrop, t, _, ht, rfl, rfl⟩
  have slot : ∀ e, p.Has e .slot → p.dropped = false := fun e he => by
    by_contra hdrop
    have hnone : p.slot.handle = none := hset.emptied (by simpa using hdrop)
    exact absurd (hnone.symm.trans he) (by simp)
  cases hc with
  | inl hc =>
    cases hd with
    | inl hd => exact Option.some.inj (hc.symm.trans hd)
    | inr hd =>
      obtain ⟨hdrop, -⟩ := hand d hd
      simp [slot c hc] at hdrop
  | inr hc =>
    obtain ⟨hdrop, t, s, ht, hs, hhand⟩ := hand c hc
    cases hd with
    | inl hd => simp [slot d hd] at hdrop
    | inr hd =>
      obtain ⟨-, u, s', hu, hs', hhand'⟩ := hand d hd
      obtain rfl : t = u := hset.tornByOne t u s s' ht hu hs hs'
      obtain rfl := ht.unique hu
      exact Option.some.inj (hhand.symm.trans hhand')

/-- Every connection that the channel ever established is in exactly one place. Closing it begins
at most once and aborting it never begins after that, and while no task is at work under the lock,
at most one connection is unreleased. -/
theorem connection_in_one_place (h : p.Reachable) :
    (∀ c < p.connections.length, ∃! place, p.Has c place) ∧
    (∀ c, p.happenings.count (.callStarted (.close c)) ≤ 1) ∧
    (∀ c later earlier, p.happenings = later ++ .callStarted (.abort c) :: earlier →
      .callStarted (.close c) ∉ earlier) ∧
    ((∀ t, p.grip t ≠ .holding) → ∀ c d, p.Unreleased c → p.Unreleased d → c = d) :=
  ⟨fun _ hc => existsUnique_place h hc, count_close_le_one h,
    fun c later earlier hl => h.traced.aborted later earlier c hl,
    fun hg _ _ hc hd => unreleased_unique h hg hc hd⟩

/-- While a faulted connection is replaced there are two: the one that is being closed, and the one
in the hands of the task that has the lock. -/
theorem connection_in_one_place_while_replacing :
    let p := (ofDefaults ⟨"svc", by decide⟩ []).run [.submit .connect, .resume 0 .turn,
      .resume 0 (.reply (.connected .opened)), .drift 0 .faulted, .submit .connect,
      .resume 1 .turn, .resume 1 (.reply (.connected .opened))]
    (∃! place, p.Has 0 place) ∧ p.Has 0 .closing ∧ (∃! place, p.Has 1 place) ∧ p.Has 1 .hand := by
  intro p
  have h := connection_in_one_place (p := p) (reachable_ofDefaults _ _ _)
  refine ⟨h.1 0 (by decide), ⟨by decide, by decide⟩, h.1 1 (by decide), .inl ?_⟩
  exact ⟨1, .owner, .start 5, 0, none, by decide, by decide⟩

end Proxy

end ResilientProxy
