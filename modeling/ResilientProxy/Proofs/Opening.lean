import Mathlib.Data.List.Basic
import Mathlib.Order.Bounds.Defs
import ResilientProxy.Proofs.Stretch

/-!
# The reference loop of an opening

What an opening does is a function of what it finds in the slot, of what the channel answers to its
attempts, of the jitter draws that it gets, of how the connection that it replaces can be closed,
and of what the machine's clock reads meanwhile.
-/

namespace ResilientProxy

/-- The connection that an opening finds in the slot, and the state that the channel reports it
in. -/
abbrev Finding := Option (ConnId × ConnState)

namespace Finding

def isOpen (f : Finding) : Bool := f.any fun x => x.2 == .opened

/-- The connection that a new one replaces. -/
def stale (f : Finding) : Option ConnId := (f.filter fun x => x.2 == .faulted).map (·.1)

/-- What happens while the slot is looked at. -/
def look : Finding → List Happening
  | none => []
  | some (conn, .closed) => [.queried conn .closed, .letGo conn]
  | some (conn, s) => [.queried conn s]

end Finding

/-- An attempt to open that failed, with the jitter draw for the wait before the next one. -/
structure Setback where
  error : ChannelError
  /-- It counts only if the wait is a backoff. -/
  unit : Binary64

namespace Setback

variable (y : Setback) (config : Config) (address : Address) (j : Nat)

/-- The wait after the attempt with index `j`: fixed if the endpoint cannot be reached, and
exponential backoff otherwise. -/
def wait : Duration :=
  match y.error.recovery with
  | .reconnect => config.reconnectWait
  | _ => (Backoff.mk config.retryTimeSlot).delay (.ofNat j) y.unit

def draws : List Happening :=
  match y.error.recovery with
  | .reconnect => []
  | _ => [.drawn y.unit]

/-- What happens, in order, when the attempt with index `j` fails and another one follows. -/
def happenings : List Happening :=
  [.callStarted .connect, .callEnded (.failed y.error)] ++
    (if j = 0 then [.noted (.openWillRetry address config.maxOpenRetries y.error)] else []) ++
    y.draws ++
    [.noted (.waitingToOpen address (.ofNat j) (.ofNat (y.wait config j).millis)),
      .waiting (y.wait config j)]

end Setback

def Happening.delay : Happening → Option Duration
  | .waiting d => some d
  | _ => none

def Happening.notice : Happening → Option Notice
  | .noted n => some n
  | _ => none

/-- All that an opening depends on. -/
structure Opening where
  config : Config
  address : Address
  found : Finding
  /-- What the channel answers to the attempt with index `j`. -/
  answers : Nat → Except ChannelError ConnState
  /-- The jitter draw for the wait after the attempt with index `j`, if that takes one. -/
  units : Nat → Binary64
  /-- How closing the replaced connection ends; without an answer it is given up at its limit. -/
  closing : Option (Except ChannelError Unit)
  /-- What the machine's clock reads when the loop starts. -/
  started : Nat
  /-- What it reads when the new connection is put into the slot. -/
  installed : Nat

namespace Opening

section

variable (x : Opening)

def maxRetries : Nat := x.config.maxOpenRetries.toNat

/-- Whether the attempt with index `j` succeeds, or fails in a way that no retry can mend. -/
def settles (j : Nat) : Bool :=
  match x.answers j with
  | .ok _ => true
  | .error e => e.recovery == .giveUp

/-- The index of the last attempt: the first that settles the matter, or the last there may be. -/
def last : Nat := ((List.range x.maxRetries).find? x.settles).getD x.maxRetries

/-- The attempt with index `j` where another one follows. -/
def repeated (j : Nat) : List Happening :=
  match x.answers j with
  | .ok _ => []
  | .error e => Setback.happenings ⟨e, x.units j⟩ x.config x.address j

/-- What is noted when closing the replaced connection failed. -/
def closingNotes : ChannelError → List Happening
  | .invalidOperation detail => [.noted (.closedWithError x.address detail)]
  | e => [.noted (.staleNotReleased x.address (.closing x.address e))]

/-- How closing the replaced connection ends. -/
def closingEnds : List Happening :=
  match x.closing with
  | some (.ok ()) => [.callEnded .done]
  | some (.error e) => .callEnded (.failed e) :: x.closingNotes e
  | none => .callGivenUp :: x.closingNotes (Proxy.timedOut x.config.closeTimeout)

/-- What happens to the connection that is replaced, if there is one. -/
def closes : List Happening :=
  match x.found.stale with
  | none => []
  | some conn => .callStarted (.close conn) :: x.closingEnds

/-- What is reported about the number of attempts, and the time that they took. -/
def attemptsReport : List Notice :=
  if 0 < x.last then
    [.openedAfterRetrying x.address (.ofNat (x.last + 1)) (.between x.started x.installed)]
  else []

/-- The last attempt. -/
def final : List Happening :=
  match x.answers x.last with
  | .ok s => [.callStarted .connect, .callEnded (.connected s)] ++ x.closes ++
      x.attemptsReport.map .noted
  | .error e => [.callStarted .connect, .callEnded (.failed e)]

def result : Except ConnectionError OpenOutcome :=
  if x.found.isOpen then .ok .alreadyOpen
  else
    match x.answers x.last with
    | .ok _ => .ok .opened
    | .error e => .error (.opening x.address (.ofNat (x.last + 1)) e)

/-- All that happens, in order, from when the lock is taken until it is given back. -/
def events : List Happening :=
  x.found.look ++
    (if x.found.isOpen then [] else (List.range x.last).flatMap x.repeated ++ x.final) ++
    [.openingEnded x.result, .lockReleased]

/-! ## What the loop amounts to -/

theorem last_le : x.last ≤ x.maxRetries := by
  rw [last]
  cases hf : (List.range x.maxRetries).find? x.settles with
  | none => exact Nat.le_refl _
  | some j => exact Nat.le_of_lt (List.mem_range.mp (List.mem_of_find?_eq_some hf))

/-- The last attempt settles the matter, or uses up the last retry. -/
theorem settles_last : x.settles x.last = true ∨ x.last = x.maxRetries := by
  rw [last]
  cases hf : (List.range x.maxRetries).find? x.settles with
  | none => exact .inr rfl
  | some j => exact .inl (List.find?_some hf)

theorem not_settles_of_lt {j : Nat} (hj : j < x.last) : x.settles j = false := by
  rw [last] at hj
  cases hf : (List.range x.maxRetries).find? x.settles with
  | none =>
    rw [hf] at hj
    exact Bool.eq_false_iff.mpr (List.find?_eq_none.mp hf j (List.mem_range.mpr hj))
  | some i =>
    rw [hf] at hj
    have hbefore := (List.find?_range_eq_some.mp hf).2.2 j hj
    simpa using hbefore

/-- No attempt before the last could have been the last. -/
theorem isLeast_last : IsLeast {j | x.settles j = true ∨ j = x.maxRetries} x.last := by
  refine ⟨x.settles_last, fun j hj => Nat.not_lt.mp fun hlt => ?_⟩
  obtain hj | rfl := hj
  · simp [x.not_settles_of_lt hlt] at hj
  · exact Nat.not_lt.mpr x.last_le hlt

theorem last_eq {j : Nat} (hbefore : ∀ i < j, x.settles i = false) (hj : j ≤ x.maxRetries)
    (hstop : x.settles j = true ∨ j = x.maxRetries) : x.last = j := by
  refine Nat.le_antisymm (x.isLeast_last.2 hstop) (Nat.not_lt.mp fun hlt => ?_)
  obtain hlast | hlast := x.settles_last
  · simp [hbefore _ hlt] at hlast
  · exact Nat.not_lt.mpr hj (hlast ▸ hlt)

theorem exists_error {j : Nat} (hj : j < x.last) :
    ∃ e, x.answers j = .error e ∧ e.recovery ≠ .giveUp := by
  have hsettles := x.not_settles_of_lt hj
  rw [settles] at hsettles
  cases ha : x.answers j with
  | ok s => simp [ha] at hsettles
  | error e => exact ⟨e, rfl, by simpa [ha] using hsettles⟩

/-- The wait after the attempt with index `j`. -/
def wait (j : Nat) : Duration :=
  match x.answers j with
  | .ok _ => .zero
  | .error e => Setback.wait ⟨e, x.units j⟩ x.config j

def waitNotice (j : Nat) : Notice :=
  .waitingToOpen x.address (.ofNat j) (.ofNat (x.wait j).millis)

/-- The warning that there will be another attempt. -/
def warning : List Notice :=
  match x.answers 0 with
  | .ok _ => []
  | .error e => if 0 < x.last then [.openWillRetry x.address x.config.maxOpenRetries e] else []

/-- What is reported about closing the connection that is replaced. -/
def closingReport : List Notice := x.closes.filterMap Happening.notice

/-- What the loop amounts to: how many attempts there are, which calls of the channel are started,
how long the waits are, and what is logged. -/
structure Account : Prop where
  last : IsLeast {j | x.settles j = true ∨ j = x.maxRetries} x.last
  calls : x.events.filterMap Happening.started =
    if x.found.isOpen then []
    else .replicate (x.last + 1) .connect ++
      if x.result = .ok .opened then x.found.stale.toList.map .close else []
  waits : x.events.filterMap Happening.delay =
    if x.found.isOpen then [] else (List.range x.last).map x.wait
  notices : x.events.filterMap Happening.notice =
    if x.found.isOpen then []
    else x.warning ++ (List.range x.last).map x.waitNotice ++
      if x.result = .ok .opened then x.closingReport ++ x.attemptsReport else []

theorem repeated_eq {j : Nat} {e : ChannelError} (ha : x.answers j = .error e) :
    x.repeated j = [.callStarted .connect, .callEnded (.failed e)] ++
      (if j = 0 then [.noted (.openWillRetry x.address x.config.maxOpenRetries e)] else []) ++
      Setback.draws ⟨e, x.units j⟩ ++ [.noted (x.waitNotice j), .waiting (x.wait j)] := by
  simp only [repeated, waitNotice, wait, ha]
  rfl

theorem result_of_open (h : x.found.isOpen = true) : x.result = .ok .alreadyOpen := by
  rw [result, if_pos h]

theorem result_of_ok (h : x.found.isOpen = false) {s : ConnState}
    (ha : x.answers x.last = .ok s) : x.result = .ok .opened := by
  simp [result, h, ha]

theorem result_of_error (h : x.found.isOpen = false) {e : ChannelError}
    (ha : x.answers x.last = .error e) :
    x.result = .error (.opening x.address (.ofNat (x.last + 1)) e) := by
  simp [result, h, ha]

section

variable {α : Type} {f : Happening → Option α}

theorem filterMap_draws (hf : ∀ u, f (.drawn u) = none) (y : Setback) :
    y.draws.filterMap f = [] := by
  rw [Setback.draws]
  split
  · rfl
  · rw [List.filterMap_cons, hf]
    rfl

/-- What is picked from the events of an opening comes from its attempts. -/
theorem filterMap_events (hquery : ∀ conn s, f (.queried conn s) = none)
    (hletGo : ∀ conn, f (.letGo conn) = none)
    (hended : ∀ result, f (.openingEnded result) = none) (hreleased : f .lockReleased = none)
    {g : Nat → List α} (hrepeated : ∀ j < x.last, (x.repeated j).filterMap f = g j) :
    x.events.filterMap f =
      if x.found.isOpen then [] else (List.range x.last).flatMap g ++ x.final.filterMap f := by
  have hlook : x.found.look.filterMap f = [] := by
    simp only [Finding.look]
    split <;> simp [hquery, hletGo]
  have hall : ((List.range x.last).flatMap x.repeated).filterMap f =
      (List.range x.last).flatMap g := by
    rw [List.filterMap_flatMap]
    exact List.flatMap_congr fun j hj => hrepeated j (List.mem_range.mp hj)
  rw [events, List.filterMap_append, List.filterMap_append, hlook]
  split <;> simp [hall, hended, hreleased]

end

/-- Nothing but the end of a call and reports happen when the replaced connection is closed. -/
theorem filterMap_closingEnds {α : Type} {f : Happening → Option α}
    (hended : ∀ r, f (.callEnded r) = none) (hgivenUp : f .callGivenUp = none)
    (hnoted : ∀ n, f (.noted n) = none) : x.closingEnds.filterMap f = [] := by
  have hnotes : ∀ e, (x.closingNotes e).filterMap f = [] := by
    intro e
    cases e <;> simp [closingNotes, hnoted]
  simp only [closingEnds]
  split <;> simp [hended, hgivenUp, hnotes]

theorem started_closes :
    x.closes.filterMap Happening.started = x.found.stale.toList.map .close := by
  have hends := x.filterMap_closingEnds (f := Happening.started) (fun _ => rfl) rfl fun _ => rfl
  rw [closes]
  cases x.found.stale with
  | none => rfl
  | some conn => simp [Happening.started, hends]

theorem delay_closes : x.closes.filterMap Happening.delay = [] := by
  have hends := x.filterMap_closingEnds (f := Happening.delay) (fun _ => rfl) rfl fun _ => rfl
  rw [closes]
  cases x.found.stale with
  | none => rfl
  | some conn => rw [List.filterMap_cons_none rfl, hends]

theorem started_events : x.events.filterMap Happening.started =
    if x.found.isOpen then []
    else .replicate (x.last + 1) .connect ++
      if x.result = .ok .opened then x.found.stale.toList.map .close else [] := by
  have hrepeated : ∀ j < x.last, (x.repeated j).filterMap Happening.started = [.connect] := by
    intro j hj
    obtain ⟨e, he, -⟩ := x.exists_error hj
    have hdraws := filterMap_draws (f := Happening.started) (fun _ => rfl) ⟨e, x.units j⟩
    rw [x.repeated_eq he]
    split <;> simp [List.filterMap_cons, Happening.started, hdraws]
  have hall : (List.range x.last).flatMap (fun _ => [ChannelCall.connect]) =
      .replicate x.last .connect := by
    simp [List.flatMap_def]
  rw [x.filterMap_events (fun _ _ => rfl) (fun _ => rfl) (fun _ => rfl) rfl hrepeated, hall,
    List.replicate_succ']
  cases hopen : x.found.isOpen with
  | true => rfl
  | false =>
    rw [final]
    cases ha : x.answers x.last with
    | ok s =>
      rw [x.result_of_ok hopen ha]
      split <;> simp [List.filterMap_cons, Happening.started, x.started_closes]
    | error e => simp [x.result_of_error hopen ha, Happening.started]

theorem delay_events : x.events.filterMap Happening.delay =
    if x.found.isOpen then [] else (List.range x.last).map x.wait := by
  have hrepeated : ∀ j < x.last, (x.repeated j).filterMap Happening.delay = [x.wait j] := by
    intro j hj
    obtain ⟨e, he, -⟩ := x.exists_error hj
    have hdraws := filterMap_draws (f := Happening.delay) (fun _ => rfl) ⟨e, x.units j⟩
    rw [x.repeated_eq he]
    split <;> simp [List.filterMap_cons, Happening.delay, hdraws]
  have hall : (List.range x.last).flatMap (fun j => [x.wait j]) = (List.range x.last).map x.wait :=
    (List.map_eq_flatMap ..).symm
  have hfinal : x.final.filterMap Happening.delay = [] := by
    rw [final]
    split
    · simp [List.filterMap_cons, Happening.delay, x.delay_closes]
    · rfl
  rw [x.filterMap_events (fun _ _ => rfl) (fun _ => rfl) (fun _ => rfl) rfl hrepeated, hall, hfinal,
    List.append_nil]

theorem notice_repeated {j : Nat} (hj : j < x.last) : (x.repeated j).filterMap Happening.notice =
    if j = 0 then x.warning ++ [x.waitNotice 0] else [x.waitNotice j] := by
  obtain ⟨e, he, -⟩ := x.exists_error hj
  have hdraws := filterMap_draws (f := Happening.notice) (fun _ => rfl) ⟨e, x.units j⟩
  rw [x.repeated_eq he]
  split
  · subst j
    simp [List.filterMap_cons, Happening.notice, hdraws, warning, he, hj]
  · simp [List.filterMap_cons, Happening.notice, hdraws]

theorem notice_attempts : (List.range x.last).flatMap
      (fun j => if j = 0 then x.warning ++ [x.waitNotice 0] else [x.waitNotice j]) =
    x.warning ++ (List.range x.last).map x.waitNotice := by
  cases hlast : x.last with
  | zero =>
    rw [warning]
    split <;> simp [hlast]
  | succ n =>
    rw [List.range_succ_eq_map, List.flatMap_cons, List.map_cons, List.flatMap_map, List.map_map]
    simp [← List.map_eq_flatMap, Function.comp_def]

theorem notice_events : x.events.filterMap Happening.notice =
    if x.found.isOpen then []
    else x.warning ++ (List.range x.last).map x.waitNotice ++
      if x.result = .ok .opened then x.closingReport ++ x.attemptsReport else [] := by
  rw [x.filterMap_events (fun _ _ => rfl) (fun _ => rfl) (fun _ => rfl) rfl
    fun j hj => x.notice_repeated hj, notice_attempts]
  cases hopen : x.found.isOpen with
  | true => rfl
  | false =>
    rw [final]
    cases ha : x.answers x.last with
    | ok s =>
      rw [x.result_of_ok hopen ha, closingReport, attemptsReport]
      by_cases hretried : 0 < x.last <;>
        simp [hretried, List.filterMap_cons, Happening.notice]
    | error e => simp [x.result_of_error hopen ha, Happening.notice]

/-- The reference loop makes attempts up to the first that settles the matter, with a wait and a
report after each of the others, and closes what it replaces. -/
theorem account : x.Account where
  last := x.isLeast_last
  calls := x.started_events
  waits := x.delay_events
  notices := x.notice_events

end

/-! ## An opening so far -/

/-- What happens, in order, in attempts that fail and are followed by another one. -/
def repeats (config : Config) (address : Address) (ys : List Setback) : List Happening :=
  (ys.mapIdx fun j y => y.happenings config address j).flatten

/-- The attempts so far may all have been followed by another one. -/
structure Pending (config : Config) (ys : List Setback) : Prop where
  retriable : ∀ y ∈ ys, y.error.recovery ≠ .giveUp
  length_le : ys.length ≤ config.maxOpenRetries.toNat

/-- The opening that has these setbacks and then gets this answer, and that the machine's clock
takes from `m` to `n`. -/
def after (config : Config) (address : Address) (found : Finding) (ys : List Setback)
    (answer : Except ChannelError ConnState) (closing : Option (Except ChannelError Unit))
    (m n : Nat) : Opening where
  config := config
  address := address
  found := found
  answers j := (ys[j]?).elim answer fun y => .error y.error
  units j := (ys[j]?).elim (.finite (1 / 2)) (·.unit)
  closing := closing
  started := m
  installed := n

section

variable {config : Config} {address : Address} {found : Finding} {ys : List Setback}
  {answer : Except ChannelError ConnState} {closing : Option (Except ChannelError Unit)}
  {m n : Nat}

theorem repeats_concat (y : Setback) : repeats config address (ys ++ [y]) =
    repeats config address ys ++ y.happenings config address ys.length := by
  simp [repeats, List.mapIdx_append]

theorem pending_nil : Pending config [] := ⟨by simp, Nat.zero_le _⟩

theorem Pending.concat (h : Pending config ys) {y : Setback} (hy : y.error.recovery ≠ .giveUp)
    (hlt : ys.length < config.maxOpenRetries.toNat) : Pending config (ys ++ [y]) where
  retriable z hz := by
    obtain hz | hz := List.mem_append.mp hz
    · exact h.retriable z hz
    · rwa [List.mem_singleton.mp hz]
  length_le := by simpa using Nat.succ_le_of_lt hlt

theorem answers_after : (after config address found ys answer closing m n).answers ys.length =
    answer := by
  simp [after]

theorem last_after (h : Pending config ys)
    (hstop : (after config address found ys answer closing m n).settles ys.length = true ∨
      ys.length = config.maxOpenRetries.toNat) :
    (after config address found ys answer closing m n).last = ys.length := by
  refine last_eq _ (fun i hi => ?_) h.length_le hstop
  have hy := h.retriable _ (List.getElem_mem hi)
  simp [settles, after, hi, hy]

theorem flatMap_repeated_after : (List.range ys.length).flatMap
    (after config address found ys answer closing m n).repeated = repeats config address ys := by
  rw [repeats, List.flatMap_def]
  congr 1
  refine List.ext_getElem (by simp) fun j hj hj' => ?_
  have hlt : j < ys.length := by simpa using hj
  simp [repeated, after, hlt]

theorem stop_of_ok {s : ConnState} :
    (after config address found ys (.ok s) closing m n).settles ys.length = true := by
  simp [settles, after]

theorem stop_of_error {e : ChannelError} (he : e.recovery = .giveUp) :
    (after config address found ys (.error e) closing m n).settles ys.length = true := by
  simp [settles, after, he]

theorem events_after (hopen : found.isOpen = false) (h : Pending config ys)
    (hstop : (after config address found ys answer closing m n).settles ys.length = true ∨
      ys.length = config.maxOpenRetries.toNat) :
    (after config address found ys answer closing m n).events = found.look ++
      (repeats config address ys ++ (after config address found ys answer closing m n).final) ++
      [.openingEnded (after config address found ys answer closing m n).result, .lockReleased] := by
  have hfound : (after config address found ys answer closing m n).found = found := rfl
  rw [events, hfound, hopen, last_after h hstop, flatMap_repeated_after]
  rfl

theorem result_after_ok {s : ConnState} (hopen : found.isOpen = false) (h : Pending config ys) :
    (after config address found ys (.ok s) closing m n).result = .ok .opened := by
  have hlast : (after config address found ys (.ok s) closing m n).last = ys.length :=
    last_after h (.inl stop_of_ok)
  exact result_of_ok _ hopen (by rw [hlast, answers_after])

/-- An opening that succeeds at last. -/
theorem events_after_ok {s : ConnState} (hopen : found.isOpen = false) (h : Pending config ys) :
    (after config address found ys (.ok s) closing m n).events = found.look ++
      (repeats config address ys ++ ([.callStarted .connect, .callEnded (.connected s)] ++
        (after config address found ys (.ok s) closing m n).closes ++
        if 0 < ys.length then
          [.noted (.openedAfterRetrying address (.ofNat (ys.length + 1)) (.between m n))]
        else [])) ++
      [.openingEnded (.ok .opened), .lockReleased] := by
  have hlast : (after config address found ys (.ok s) closing m n).last = ys.length :=
    last_after h (.inl stop_of_ok)
  have hreport :
      (after config address found ys (.ok s) closing m n).attemptsReport.map Happening.noted =
      if 0 < ys.length then
        [.noted (.openedAfterRetrying address (.ofNat (ys.length + 1)) (.between m n))]
      else [] := by
    rw [attemptsReport, hlast]
    split <;> rfl
  rw [events_after hopen h (.inl stop_of_ok), result_after_ok hopen h, final, hlast, answers_after,
    ← hreport]

theorem result_after_error {e : ChannelError} (hopen : found.isOpen = false)
    (h : Pending config ys)
    (he : e.recovery = .giveUp ∨ ys.length = config.maxOpenRetries.toNat) :
    (after config address found ys (.error e) closing m n).result =
      .error (.opening address (.ofNat (ys.length + 1)) e) := by
  have hlast : (after config address found ys (.error e) closing m n).last = ys.length :=
    last_after h (he.imp_left stop_of_error)
  rw [result_of_error _ hopen (by rw [hlast, answers_after]), hlast]
  rfl

/-- An opening that fails for good. -/
theorem events_after_error {e : ChannelError} (hopen : found.isOpen = false)
    (h : Pending config ys)
    (he : e.recovery = .giveUp ∨ ys.length = config.maxOpenRetries.toNat) :
    (after config address found ys (.error e) closing m n).events = found.look ++
      (repeats config address ys ++ [.callStarted .connect, .callEnded (.failed e)]) ++
      [.openingEnded (.error (.opening address (.ofNat (ys.length + 1)) e)), .lockReleased] := by
  have hstop : (after config address found ys (.error e) closing m n).settles ys.length = true ∨
      ys.length = config.maxOpenRetries.toNat := he.imp_left stop_of_error
  rw [events_after hopen h hstop, result_after_error hopen h he, final, last_after h hstop,
    answers_after]

end

end Opening

end ResilientProxy
