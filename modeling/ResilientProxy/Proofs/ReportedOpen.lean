import ResilientProxy.Proofs.Unchanged

/-!
# When a connection that is reported open is open

An opening that succeeds says that the proxy is open, and publishes it. If it found nothing faulted
in the slot, the connection there is open at that moment. If it did, it closes that one first, and
does not look at the new one again; so the new one can have broken by then.
-/

namespace ResilientProxy

namespace Proxy

variable {p q r m : Proxy} {t : TaskId} {o : Opener} {s s' : Stage} {ws es : List Happening}
  {outcome : OpenOutcome}

/-- The channel handed out only connections that it reported open at that moment. -/
def HandsOutOpen (p : Proxy) : Prop :=
  ∀ e ∈ p.history, ∀ cs, e.what = .callEnded (.connected cs) → cs = .opened

/-- Whenever the opening that begins when the proxy is `p` succeeds, the channel reports the
connection in the slot open at that moment, whatever happened meanwhile. -/
def EndsOpen (p : Proxy) (t : TaskId) (o : Opener) : Prop :=
  ∀ (m : Proxy) (s : Stage) (ws : List Happening) (outcome : OpenOutcome),
    p.Operates t (.connect o) m s ws → .openingEnded (.ok outcome) ∈ ws → m.HandsOutOpen →
      m.currentState = .opened

theorem HandsOutOpen.goOn (h : p.HandsOutOpen) (hf : p.Frame q)
    (hes : ∀ cs, .callEnded (.connected cs) ∈ es → cs = .opened) :
    (q.goOn t s es).HandsOutOpen := by
  intro e he cs hcs
  rw [goOn_history, hf.history, List.mem_append, List.mem_map] at he
  obtain ⟨what, hmem, rfl⟩ | he := he
  · exact hes cs (hcs ▸ hmem)
  · exact h e he cs hcs

theorem HandsOutOpen.mem (h : (q.goOn t s es).HandsOutOpen) {cs : ConnState}
    (hcs : .callEnded (.connected cs) ∈ es) : cs = .opened :=
  h ⟨q.now, some t, .callEnded (.connected cs)⟩
    (by simpa [goOn_history] using Or.inl hcs) cs rfl

theorem HandsOutOpen.of_stretches (h : p.HandsOutOpen) (hq : q.Stretches p) : q.HandsOutOpen := by
  obtain ⟨-, new, hnew, -⟩ := hq.continues
  exact fun e he => h e (by rw [hnew]; exact List.mem_append_right _ he)

/-- With the turn in which an opening succeeds, the slot holds a connection as open: one that it
found open, one that it has just got, or one that it got before it closed another. -/
theorem Turn.opens (h : p.Turn t s s' es q) (hx : .openingEnded (.ok outcome) ∈ es) :
    ∃ conn, q.slot = ⟨some conn, .opened⟩ ∧
      (p.query conn = .opened ∧ q.connections = p.connections ∨
        (∃ cs, .callEnded (.connected cs) ∈ es ∧ conn = p.connections.length ∧
          q.connections = p.connections ++ [cs]) ∨
        ∃ o r stale d, s = .replacing o r conn stale d) := by
  obtain ⟨hg, o, ho⟩ := h.openingEnded hx
  cases h with
  | @foundOpen _ conn _ _ _ _ _ hq => exact ⟨conn, rfl, .inl ⟨hq, rfl⟩⟩
  | @connected _ _ cs => exact ⟨_, rfl, .inr (.inl ⟨cs, by simp, rfl, rfl⟩)⟩
  | @replaced o r conn stale d => exact ⟨conn, rfl, .inr (.inr ⟨o, r, stale, d, rfl⟩)⟩
  | connectFailed _ hx' => cases hx' <;> simp at hx
  | foundFaulted | foundClosed | foundEmpty | connectedOver | connectPaused | connectBackedOff
  | connectAgain => exact absurd rfl hg
  | @closeStarted stop | @stoppedClosed stop | @stoppedEmpty stop | @drained stop =>
    cases stop <;> cases ho
  | _ => cases ho

/-- A connection is replaced when another one is there, by a task that has just got that. -/
theorem Turn.replaces {l : RetryLoop} {fresh stale : ConnId} {d : Option Nat}
    (h : p.Turn t s (.replacing o l fresh stale d) es q) :
    s = .connecting o l ∧ p.slot.handle = some stale := by
  generalize hs' : Stage.replacing o l fresh stale d = s' at h
  cases h with
  | foundOpen _ _ _ hx | connected _ hx | replaced _ _ hx | connectFailed _ hx =>
    cases hx <;> cases hs'
  | connectedOver hc =>
    cases hs'
    exact ⟨rfl, hc⟩
  | _ => cases hs'

/-- An opening replaces only the faulted connection that it found. -/
theorem Operates.replaces {o' : Opener} {l : RetryLoop} {fresh stale : ConnId} {d : Option Nat}
    (h : q.Operates t (.connect o) m (.replacing o' l fresh stale d) ws) :
    q.finding.stale = some stale := by
  generalize hs : Stage.replacing o' l fresh stale d = s at h
  revert hs
  refine h.induct (I := fun _ s _ => Stage.replacing o' l fresh stale d = s →
    q.finding.stale = some stale) (fun r s es hturn hs => ?_)
    fun p r s s' ws es ho _ _ hturn hs => ?_
  · subst hs
    cases hturn.replaces.1
  · subst hs
    obtain ⟨rfl, hc⟩ := hturn.replaces
    obtain ⟨hopen, hslot, -⟩ := ho.spares (.inl rfl)
    rw [hslot] at hc
    generalize q.finding = found at hopen hc
    match found with
    | none | some (_, .closed) => cases hc
    | some (conn, .faulted) => exact hc
    | some (conn, .opened) => cases hopen

/-- An opening reports a success in its last turn. It has replaced a connection before that only if
it found a faulted one. -/
theorem Operates.lastTurn (h : q.Operates t (.connect o) m s ws)
    (hx : .openingEnded (.ok outcome) ∈ ws) :
    ∃ (p r : Proxy) (s₀ : Stage) (es : List Happening), p.Turn t s₀ s es r ∧ m = r.goOn t s es ∧
      .openingEnded (.ok outcome) ∈ es ∧
      ∀ o l fresh stale d, s₀ = .replacing o l fresh stale d → q.finding.stale = some stale := by
  cases h with
  | begins _ _ hturn =>
    exact ⟨_, _, _, _, hturn, rfl, List.mem_append_left _ (List.mem_reverse.mp hx), by simp⟩
  | waits h hg => exact absurd hx (h.openingEnded_not_mem hg _)
  | @goesOn p r s₀ s ws es h hg hturn =>
    have hes : .openingEnded (.ok outcome) ∈ es := by
      simpa [h.openingEnded_not_mem hg] using hx
    refine ⟨p, r, s₀, es, hturn, rfl, hes, ?_⟩
    rintro o l fresh stale d rfl
    exact h.replaces

theorem Operates.publishes (h : q.Operates t (.connect o) m s ws)
    (hx : .openingEnded (.ok outcome) ∈ ws) : m.publishedState = .opened := by
  obtain ⟨p, r, s₀, es, hturn, rfl, hes, -⟩ := h.lastTurn hx
  obtain ⟨conn, hslot, -⟩ := hturn.opens hes
  rw [h.published, goOn_slot, hslot]

/-- An opening that found nothing faulted in the slot ends with an open connection there. -/
theorem endsOpen_of_not_stale (h : p.finding.stale = none) : p.EndsOpen t o := by
  intro m s ws outcome ho hx hopen
  obtain ⟨q, r, s₀, es, hturn, rfl, hes, hstale⟩ := ho.lastTurn hx
  obtain ⟨conn, hslot, ⟨hq, hconns⟩ | ⟨cs, hcs, rfl, hconns⟩ | ⟨o', l, stale, d, hs⟩⟩ :=
    hturn.opens hes
  · simpa [currentState, hslot, query, hconns] using hq
  · obtain rfl := hopen.mem hcs
    simp [currentState, hslot, query, hconns]
  · simp [hstale o' l conn stale d hs] at h

theorem exists_leaves (p : Proxy) (t : TaskId) (o : Opener) :
    ∃ s es l, p.Leaves t o (.ok .opened) s es l := by
  cases o with
  | owner => exact ⟨_, _, _, .owner⟩
  | call c => exact ⟨_, _, _, .reopened⟩

theorem stale_of_finding {conn : ConnId} (h : p.finding.stale = some conn) :
    p.slot.handle = some conn ∧ p.query conn = .faulted := by
  cases hc : p.slot.handle with
  | none => simp [finding, hc, Finding.stale] at h
  | some conn' =>
    cases hq : p.query conn' with
    | faulted =>
      obtain rfl : conn' = conn := by simpa [finding, hc, hq, Finding.stale] using h
      exact ⟨rfl, hq⟩
    | _ => simp [finding, hc, hq, Finding.stale] at h

/-- While the connection in the slot is faulted, an opening may get another one that is open. -/
theorem Operates.gets_open {l : RetryLoop} {stale : ConnId}
    (h : q.Operates t (.connect o) m (.connecting o l) ws) (hopen : m.HandsOutOpen)
    (hc : m.slot.handle = some stale) :
    ∃ (m' : Proxy) (d : Option Nat) (ws' : List Happening),
      q.Operates t (.connect o) m' (.replacing o l m.connections.length stale d) ws' ∧
        m'.HandsOutOpen ∧ m'.connections = m.connections ++ [.opened] := by
  have hgot : m.Turn t (.connecting o l) _ _ _ := @Turn.connectedOver m t o l .opened stale hc
  exact ⟨_, _, _, h.goesOn rfl hgot, hopen.goOn hgot.frame (by simp), rfl⟩

/-- While the faulted connection is being closed, the new one may break. It is reported open all the
same. -/
theorem Operates.reports_broken {l : RetryLoop} {fresh stale : ConnId} {d : Option Nat}
    (h : q.Operates t (.connect o) m (.replacing o l fresh stale d) ws) (hopen : m.HandsOutOpen)
    (hfresh : fresh < m.connections.length) :
    ∃ (m' : Proxy) (s : Stage) (ws' : List Happening), q.Operates t (.connect o) m' s ws' ∧
      .openingEnded (.ok .opened) ∈ ws' ∧ m'.HandsOutOpen ∧ m'.currentState = .faulted := by
  have hbreaks := h.waits rfl (@Stretch.drifted m fresh .faulted) h.attainable.2 rfl
  generalize hb : { m with connections := m.connections.set fresh .faulted } = b at hbreaks
  have hb' : b.HandsOutOpen := by subst hb; exact hopen
  obtain ⟨s, es, lock, hx⟩ := b.exists_leaves t o
  have hdone : b.Turn t (.replacing o l fresh stale d) s _ _ := .replaced .done .ok hx
  refine ⟨_, _, _, hbreaks.goesOn rfl hdone, by simp, hb'.goOn hdone.frame ?_, ?_⟩
  · have hinstall : ∀ cs, .callEnded (.connected cs) ∉ b.installNotes l := fun cs =>
      (b.noted_installNotes l).not_mem (by simp)
    cases hx <;> simp [hinstall, staleNotes]
  · subst hb
    simp [currentState, query, hfresh]

/-- If an opening finds a faulted connection, the one that replaces it may have broken when it is
reported open. -/
theorem not_endsOpen_of_stale (hp : p.Attainable) (hopen : p.HandsOutOpen)
    (ht : p.At t (.awaitingLock (.connect o))) (howns : p.lock.owner = some t) {stale : ConnId}
    (hstale : p.finding.stale = some stale) : ¬ p.EndsOpen t o := by
  intro hends
  obtain ⟨hc, hq⟩ := stale_of_finding hstale
  have hfound : p.Turn t _ _ ([.callStarted .connect, .queried stale .faulted] ++
      [.lockTaken (.connect o)]) _ := .foundFaulted howns hc hq
  obtain ⟨m, d, ws, ho, hm, hconns⟩ :=
    (Operates.begins hp ht hfound).gets_open (hopen.goOn hfound.frame (by simp)) rfl
  obtain ⟨m', s, ws', ho', hx, hm', hfaulted⟩ := ho.reports_broken hm (by simp [hconns])
  exact nomatch hfaulted.symm.trans (hends m' s ws' .opened ho' hx hm')

/-- Every success that an opening reports goes back to one that took the lock. The proxy is then
published open, and the connection in the slot is open unless the opening found a faulted one there.
That is exact: an opening that begins ends with an open connection in all runs if and only if it
finds no faulted one. -/
theorem reported_open_is_open_iff (hp : p.Attainable) (hopen : p.HandsOutOpen) :
    (∀ t time outcome, ⟨time, some t, .openingEnded (.ok outcome)⟩ ∈ p.history →
      ∃ (q m : Proxy) (o : Opener) (s : Stage) (ws : List Happening),
        q.Operates t (.connect o) m s ws ∧ .openingEnded (.ok outcome) ∈ ws ∧ m.now = time ∧
          m.Stretches p ∧ m.publishedState = .opened ∧
          (q.finding.stale = none → m.currentState = .opened)) ∧
    ∀ t o, p.At t (.awaitingLock (.connect o)) → p.lock.owner = some t →
      (p.EndsOpen t o ↔ p.finding.stale = none) := by
  constructor
  · intro t time outcome hx
    obtain ⟨q, m, o, s, ws, ho, -, hws, hnow, hm⟩ := hp.exists_openingEnded hx
    refine ⟨q, m, o, s, ws, ho, hws, hnow, hm, ho.publishes hws, fun hstale => ?_⟩
    exact endsOpen_of_not_stale hstale m s ws outcome ho hws (hopen.of_stretches hm)
  · intro t o ht howns
    refine ⟨fun hends => ?_, endsOpen_of_not_stale⟩
    cases hstale : p.finding.stale with
    | none => rfl
    | some stale => exact absurd hends (not_endsOpen_of_stale hp hopen ht howns hstale)

theorem handsOutOpen_of_not_mem (h : ∀ e ∈ p.history,
    e.what ∉ [.callEnded (.connected .faulted), .callEnded (.connected .closed)]) :
    p.HandsOutOpen := by
  intro e he cs hcs
  have hno := h e he
  rw [hcs] at hno
  cases cs <;> simp at hno ⊢

/-- Of two openings in line, the first has succeeded; the second ends with an open connection. -/
theorem reported_open_is_open_iff_of_two :
    let p := (ofDefaults ⟨"svc", by decide⟩ []).run [.submit .connect, .submit .connect,
      .resume 0 .turn, .resume 1 .turn, .resume 0 (.reply (.connected .opened))]
    p.Attainable ∧ p.HandsOutOpen ∧
      (∃ (q m : Proxy) (o : Opener) (s : Stage) (ws : List Happening),
        q.Operates 0 (.connect o) m s ws ∧ m.Stretches p ∧ m.publishedState = .opened) ∧
      p.EndsOpen 1 .owner := by
  intro p
  have hreach : p.Reachable := reachable_ofDefaults _ _ _
  have hp : p.Attainable := hreach.attainable
  have hopen : p.HandsOutOpen := handsOutOpen_of_not_mem (by decide +kernel)
  obtain ⟨hended, hends⟩ := reported_open_is_open_iff hp hopen
  refine ⟨hp, hopen, ?_, ?_⟩
  · have hx : ⟨0, some 0, .openingEnded (.ok .opened)⟩ ∈ p.history := by decide +kernel
    obtain ⟨q, m, o, s, ws, ho, -, -, hm, hpublished, -⟩ := hended 0 0 .opened hx
    exact ⟨q, m, o, s, ws, ho, hm, hpublished⟩
  · exact (hends 1 .owner (by decide +kernel) (by decide +kernel)).mpr (by decide +kernel)

/-- A connection breaks while the faulted one that it replaces is being closed. The opening returns
and the proxy is published open; the channel reports the connection in the slot faulted. -/
theorem broken_connection_reported_open :
    let p := (ofDefaults ⟨"svc", by decide⟩ []).run [.submit .connect, .resume 0 .turn,
      .resume 0 (.reply (.connected .opened)), .drift 0 .faulted, .submit .connect,
      .resume 1 .turn, .resume 1 (.reply (.connected .opened)), .drift 1 .faulted,
      .resume 1 (.reply .done)]
    p.Reachable ∧ p.HandsOutOpen ∧
      p.history.head? = some ⟨0, some 1, .returned (.connected (.ok .opened))⟩ ∧
      p.publishedState = .opened ∧ p.currentState = .faulted := by
  intro p
  have hp : p.Reachable := reachable_ofDefaults _ _ _
  exact ⟨hp, handsOutOpen_of_not_mem (by decide +kernel), by decide +kernel, by decide +kernel,
    by decide +kernel⟩

end Proxy

end ResilientProxy
