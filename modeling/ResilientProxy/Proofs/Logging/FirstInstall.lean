import ResilientProxy.Logging.Install
import ResilientProxy.Proofs.Logging.DirectiveText

/-!
# The first installation decides

What log a process ends up with depends on the first request alone that can install one: a request
whose filter can be read, or one that has to succeed somehow. All others leave the process as it is,
and those that ask for an answer are told why.
-/

namespace ResilientProxy.Logging

/-- The filter that lets everything through up to level info. -/
def plainFilter : Filter := [⟨none, none, none, .info⟩]

/-- Whether the filter that a configuration asks for can be read. -/
def Config.isReadable (c : Config) : Bool := (Filter.ofText? c.directives).isOk

namespace Host

namespace Request

def config : Request → Config
  | checked c | quiet c => c

def isQuiet : Request → Bool
  | checked _ => false
  | quiet _ => true

/-- Whether the request installs a log where there is none. -/
def canInstall (r : Request) : Bool := r.isQuiet || r.config.isReadable

/-- The log that the request installs where there is none: the one it asks for, or the plain one in
the same form if the filter cannot be read. -/
def subscriber (r : Request) : Subscriber :=
  ⟨(Filter.ofText? r.config.directives).toOption.getD plainFilter, r.config.json⟩

end Request

/-- What is answered when the log that `c` asks for is to be installed in a process that stands at
`h`. -/
structure Answers (h : Host) (c : Config) (result : Except LoggingError Unit) : Prop where
  refused : ∀ fault, result = .error (.badFilter c.directives fault) ↔
    Filter.ofText? c.directives = .error fault
  installed : result = .ok () ↔ c.isReadable = true ∧ h = none
  occupied : result = .error .alreadyInstalled ↔ c.isReadable = true ∧ h ≠ none

variable {h : Host} {c : Config}

theorem tryInstall_of_error {fault : FilterFault}
    (hc : Filter.ofText? c.directives = .error fault) :
    h.tryInstall c = (.error (.badFilter c.directives fault), h) := by
  rw [tryInstall, hc]

theorem tryInstall_of_ok {f : Filter} (hc : Filter.ofText? c.directives = .ok f) :
    h.tryInstall c =
      (if h = none then .ok () else .error .alreadyInstalled, h.or (some ⟨f, c.json⟩)) := by
  rw [tryInstall, hc]
  cases h <;> rfl

theorem answers_tryInstall (h : Host) (c : Config) : h.Answers c (h.tryInstall c).1 := by
  cases hc : Filter.ofText? c.directives with
  | error fault =>
    have hread : c.isReadable = false := by rw [Config.isReadable, hc]; rfl
    rw [tryInstall_of_error hc]
    exact ⟨by simp [hc], by simp [hread], by simp [hread]⟩
  | ok f =>
    have hread : c.isReadable = true := by rw [Config.isReadable, hc]; rfl
    rw [tryInstall_of_ok hc]
    exact ⟨by cases h <;> simp [hc], by cases h <;> simp [hread], by cases h <;> simp [hread]⟩

/-- What a configuration falls back to can always be read. -/
theorem ofText?_fallback (c : Config) :
    Filter.ofText? (fallback c).directives = .ok plainFilter := by
  have hnamed : WellNamed "info" [] :=
    ⟨by decide +kernel, by simp, by simp, by simp, List.nodup_nil⟩
  have hlisted : listedFilter "info" [] = plainFilter := by decide +kernel
  rw [Config.directives_eq, ← hlisted]
  exact hnamed.ofText?_listing

/-- A request does nothing to a process that has a log already. -/
theorem perform_snd (h : Host) (r : Request) :
    (h.perform r).2 = h.or (if r.canInstall then some r.subscriber else none) := by
  cases r with
  | checked c =>
    cases hc : Filter.ofText? c.directives with
    | error fault =>
      have hcan : (Request.checked c).canInstall = false := by
        simp [Request.canInstall, Request.isQuiet, Request.config, Config.isReadable, hc,
          Except.isOk, Except.toBool]
      simp [perform, tryInstall_of_error hc, hcan]
    | ok f =>
      have hcan : (Request.checked c).canInstall = true := by
        simp [Request.canInstall, Request.config, Config.isReadable, hc, Except.isOk,
          Except.toBool]
      simp [perform, tryInstall_of_ok hc, hcan, Request.subscriber, Request.config, hc,
        Except.toOption]
  | quiet c =>
    have hcan : (Request.quiet c).canInstall = true := rfl
    cases hc : Filter.ofText? c.directives with
    | error fault =>
      -- the fallback finds the process as it was
      have hjson : (fallback c).json = c.json := rfl
      simp [perform, install, tryInstall_of_error hc, tryInstall_of_ok (ofText?_fallback c), hcan,
        Request.subscriber, Request.config, hc, Except.toOption, hjson]
    | ok f =>
      cases h with
      | none =>
        simp [perform, install, tryInstall_of_ok hc, hcan, Request.subscriber, Request.config, hc,
          Except.toOption]
      | some s =>
        simp [perform, install, tryInstall_of_ok hc, tryInstall_of_ok (ofText?_fallback c)]

theorem performAll_cons (h : Host) (r : Request) (rs : List Request) :
    h.performAll (r :: rs) =
      ((h.perform r).1 :: ((h.perform r).2.performAll rs).1, ((h.perform r).2.performAll rs).2) :=
  rfl

theorem performAll_append (h : Host) (rs rs' : List Request) :
    h.performAll (rs ++ rs') = ((h.performAll rs).1 ++ ((h.performAll rs).2.performAll rs').1,
      ((h.performAll rs).2.performAll rs').2) := by
  induction rs generalizing h with
  | nil => rfl
  | cons r rs ih => simp [performAll_cons, ih]

theorem length_performAll (h : Host) (rs : List Request) :
    (h.performAll rs).1.length = rs.length := by
  induction rs generalizing h with
  | nil => rfl
  | cons r rs ih => simp [performAll_cons, ih]

theorem performAll_snd (h : Host) (rs : List Request) :
    (h.performAll rs).2 = h.or ((rs.find? Request.canInstall).map Request.subscriber) := by
  induction rs generalizing h with
  | nil => simp [performAll]
  | cons r rs ih =>
    rw [performAll_cons, ih, perform_snd, Option.or_assoc, List.find?_cons]
    cases r.canInstall <;> simp

/-- The answer to a request is the one it gets where the requests before it have led. -/
theorem performAll_fst (h : Host) (before after : List Request) (r : Request) :
    (h.performAll (before ++ r :: after)).1[before.length]? =
      some ((h.performAll before).2.perform r).1 := by
  rw [performAll_append, performAll_cons]
  simp [length_performAll]

/-- In whatever order logs are asked for, the first request that can install one decides which log
the process has, and no later one changes it. A request that asks for an answer is refused exactly
if its own filter cannot be read, and otherwise succeeds exactly if there was no log before it. -/
theorem first_installation_decides (rs : List Request) :
    (fresh.performAll rs).2 = (rs.find? Request.canInstall).map Request.subscriber ∧
    (fresh.performAll rs).1.length = rs.length ∧
    ∀ before after, rs = before ++ after →
      (∀ s, (fresh.performAll before).2 = some s → (fresh.performAll rs).2 = some s) ∧
      (∀ c rest, after = .quiet c :: rest →
        (fresh.performAll rs).1[before.length]? = some none) ∧
      ∀ c rest, after = .checked c :: rest →
        ∃ result, (fresh.performAll rs).1[before.length]? = some (some result) ∧
          (fresh.performAll before).2.Answers c result := by
  have hlast : ∀ rs, (fresh.performAll rs).2 =
      (rs.find? Request.canInstall).map Request.subscriber := fun rs => by
    rw [performAll_snd]
    rfl
  refine ⟨hlast rs, length_performAll fresh rs, ?_⟩
  rintro before after rfl
  refine ⟨fun s hs => ?_, ?_, ?_⟩
  · rw [performAll_append, hs, performAll_snd]
    rfl
  · rintro c rest rfl
    exact performAll_fst fresh before rest (.quiet c)
  · rintro c rest rfl
    exact ⟨_, performAll_fst fresh before rest (.checked c), answers_tryInstall _ c⟩

/-- A request that is refused leaves the process to the next one, which falls back to the plain
filter; what follows comes too late. -/
theorem first_installation_decides_after_refusal :
    let bad : Config := ⟨"info,proxy=loud", .empty, true⟩
    let rs : List Request := [.checked bad, .quiet bad, .checked .default]
    (fresh.performAll rs).2 = some ⟨plainFilter, true⟩ ∧
      (∃ result, (fresh.performAll rs).1[0]? = some (some result) ∧ Answers none bad result) ∧
      (fresh.performAll rs).1[1]? = some none ∧
      ∃ result, (fresh.performAll rs).1[2]? = some (some result) ∧
        Answers (some ⟨plainFilter, true⟩) .default result := by
  intro bad rs
  have hskip : (Request.checked bad).canInstall = false := by decide +kernel
  have hplain : (Request.quiet bad).subscriber = ⟨plainFilter, true⟩ := by decide +kernel
  have hfirst : ∀ rest, (fresh.performAll (.checked bad :: .quiet bad :: rest)).2 =
      some ⟨plainFilter, true⟩ := fun rest => by
    rw [(first_installation_decides _).1, List.find?_cons, hskip]
    simp [Request.canInstall, Request.isQuiet, hplain]
  obtain ⟨-, -, hall⟩ := first_installation_decides rs
  obtain ⟨-, -, hrefused⟩ := hall [] rs rfl
  obtain ⟨-, hquiet, -⟩ := hall [.checked bad] [.quiet bad, .checked .default] rfl
  obtain ⟨-, -, hlate⟩ := hall [.checked bad, .quiet bad] [.checked .default] rfl
  obtain ⟨result, hresult, hanswer⟩ := hlate .default [] rfl
  rw [hfirst []] at hanswer
  exact ⟨hfirst _, hrefused bad _ rfl, hquiet bad _ rfl, result, hresult, hanswer⟩

end Host

end ResilientProxy.Logging
