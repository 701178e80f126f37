import Mathlib.Data.List.Nodup
import ResilientProxy.Logging.Install
import ResilientProxy.Proofs.Logging.DirectiveText

/-!
# Directives mean what the configuration says

A configuration gives a level to all targets and levels to components, and a target goes by the
longest component that it starts with. The filter that is made of the configuration gives every
target the same level, in whatever order the components are listed.
-/

namespace ResilientProxy.Logging

/-! ## The directive that decides -/

namespace Directive

theorem reach_le_of_outranks {d e : Directive} (h : d.outranks e = true) : e.reach ≤ d.reach := by
  simp only [outranks, Bool.or_eq_true, Bool.and_eq_true, decide_eq_true_eq, beq_iff_eq] at h
  omega

theorem reach_le_of_not_outranks {d e : Directive} (h : d.outranks e = false) :
    d.reach ≤ e.reach := by
  simp only [outranks, Bool.or_eq_false_iff, decide_eq_false_iff_not] at h
  omega

end Directive

namespace Filter

/-- None of the directives reaches further than the one that decides. -/
theorem foldl_prefer (ds : List Directive) (b : Directive) :
    ∃ d ∈ b :: ds, ds.foldl prefer (some b) = some d ∧ ∀ d' ∈ b :: ds, d'.reach ≤ d.reach := by
  induction ds generalizing b with
  | nil => exact ⟨b, List.mem_cons_self .., rfl, by simp⟩
  | cons e ds ih =>
    rw [List.foldl_cons, prefer]
    cases hrank : b.outranks e with
    | true =>
      have hbe := Directive.reach_le_of_outranks hrank
      obtain ⟨d, hd, hfold, hreach⟩ := ih b
      rw [List.forall_mem_cons] at hreach
      refine ⟨d, ?_, hfold, ?_⟩
      · rw [List.mem_cons] at hd ⊢
        exact hd.imp_right (List.mem_cons_of_mem e)
      · rw [List.forall_mem_cons, List.forall_mem_cons]
        exact ⟨hreach.1, Nat.le_trans hbe hreach.1, hreach.2⟩
    | false =>
      have hbe := Directive.reach_le_of_not_outranks hrank
      obtain ⟨d, hd, hfold, hreach⟩ := ih e
      refine ⟨d, List.mem_cons_of_mem b hd, hfold, ?_⟩
      rw [List.forall_mem_cons]
      exact ⟨Nat.le_trans hbe (hreach e (List.mem_cons_self ..)), hreach⟩

end Filter

/-! ## The meaning of a configuration -/

/-- What a configuration says of a target: the level of the longest component that the target starts
with, or the level for all targets if it starts with none. -/
inductive Means (level : String) (entries : List (String × String)) (target : String) :
    Level → Prop where
  | general {l : Level} (named : Level.named? level = some l)
      (none_starts : ∀ e ∈ entries, ¬(Config.targetName e.1).toList <+: target.toList) :
      Means level entries target l
  | component {e : String × String} {l : Level} (listed : e ∈ entries)
      (named : Level.named? e.2 = some l)
      (starts : (Config.targetName e.1).toList <+: target.toList)
      (longest : ∀ e' ∈ entries, (Config.targetName e'.1).toList <+: target.toList →
        (Config.targetName e'.1).length ≤ (Config.targetName e.1).length) :
      Means level entries target l

namespace WellNamed

variable {level target : String} {entries entries' : List (String × String)} {l l' : Level}

theorem perm (h : WellNamed level entries) (hp : entries'.Perm entries) :
    WellNamed level entries' where
  level := h.level
  levels e he := h.levels e (hp.mem_iff.mp he)
  nonempty e he := h.nonempty e (hp.mem_iff.mp he)
  names e he := h.names e (hp.mem_iff.mp he)
  distinct := (hp.map _).nodup_iff.mpr h.distinct

/-- Of components that a target starts with, two of the same length are the same. -/
theorem eq_of_starts (h : WellNamed level entries) {e e' : String × String} (he : e ∈ entries)
    (he' : e' ∈ entries) (hs : (Config.targetName e.1).toList <+: target.toList)
    (hs' : (Config.targetName e'.1).toList <+: target.toList)
    (hlength : (Config.targetName e.1).length = (Config.targetName e'.1).length) : e = e' := by
  rw [← String.length_toList, ← String.length_toList] at hlength
  have hlist : (Config.targetName e.1).toList = (Config.targetName e'.1).toList :=
    (List.prefix_of_prefix_length_le hs hs' (Nat.le_of_eq hlength)).eq_of_length hlength
  exact List.inj_on_of_nodup_map h.distinct he he' (String.toList_inj.mp hlist)

/-- A configuration says one thing of a target. -/
theorem means_unique (h : WellNamed level entries) (hl : Means level entries target l)
    (hl' : Means level entries target l') : l = l' := by
  cases hl with
  | general hnamed hnone =>
    cases hl' with
    | general hnamed' _ => exact Option.some.inj (hnamed.symm.trans hnamed')
    | component he' _ hs' _ => exact absurd hs' (hnone _ he')
  | component he hnamed hs hlong =>
    cases hl' with
    | general _ hnone' => exact absurd hs (hnone' _ he)
    | component he' hnamed' hs' hlong' =>
      have hsame := h.eq_of_starts he he' hs hs'
        (Nat.le_antisymm (hlong' _ he hs) (hlong _ he' hs'))
      subst hsame
      exact Option.some.inj (hnamed.symm.trans hnamed')

/-- The directives that are about a target are the one for all targets, and those of the components
that the target starts with. -/
theorem filter_covers (level : String) (entries : List (String × String)) (target : String)
    (fields : Option (List String)) :
    (listedFilter level entries).filter (·.covers target fields) =
      ⟨none, none, none, levelNamed level⟩ ::
        (entries.filter fun e => (Config.targetName e.1).toList.isPrefixOf target.toList).map
          entryDirective := by
  have hgeneral : (⟨none, none, none, levelNamed level⟩ : Directive).covers target fields = true :=
    rfl
  have hentry : ∀ e, (entryDirective e).covers target fields =
      (Config.targetName e.1).toList.isPrefixOf target.toList := by
    intro e
    simp [Directive.covers, Directive.isStatic, entryDirective]
  rw [listedFilter, List.filter_cons, if_pos hgeneral, List.filter_map]
  simp only [Function.comp_def, hentry]

/-- The filter gives a target the level that the configuration says. -/
theorem means_levelFor (h : WellNamed level entries) (target : String)
    (fields : Option (List String)) :
    Means level entries target ((listedFilter level entries).levelFor target fields) := by
  have hmem : ∀ e, e ∈ entries.filter
      (fun e => (Config.targetName e.1).toList.isPrefixOf target.toList) ↔
      e ∈ entries ∧ (Config.targetName e.1).toList <+: target.toList := by simp
  have hreach : ∀ e, (entryDirective e).reach = (Config.targetName e.1).length + 1 := fun _ => rfl
  rw [Filter.levelFor, filter_covers, List.foldl_cons, Filter.prefer]
  obtain ⟨d, hd, hfold, hfar⟩ := Filter.foldl_prefer
    ((entries.filter fun e => (Config.targetName e.1).toList.isPrefixOf target.toList).map
      entryDirective) ⟨none, none, none, levelNamed level⟩
  rw [List.forall_mem_cons, List.forall_mem_map] at hfar
  rw [hfold]
  rw [List.mem_cons, List.mem_map] at hd
  obtain rfl | ⟨e, he, rfl⟩ := hd
  · refine .general (named?_eq h.level) fun e he hs => ?_
    -- a component reaches further than no target at all
    have hle := hfar.2 e ((hmem e).mpr ⟨he, hs⟩)
    rw [hreach] at hle
    exact Nat.not_succ_le_zero _ hle
  · obtain ⟨he, hs⟩ := (hmem e).mp he
    refine .component he (named?_eq (h.levels e he)) hs fun e' he' hs' => ?_
    have hle := hfar.2 e' ((hmem e').mpr ⟨he', hs'⟩)
    rw [hreach, hreach] at hle
    exact Nat.le_of_succ_le_succ hle

theorem levelFor_eq_iff (h : WellNamed level entries) (fields : Option (List String)) :
    (listedFilter level entries).levelFor target fields = l ↔ Means level entries target l :=
  ⟨fun heq => heq ▸ h.means_levelFor target fields,
    fun hl => h.means_unique (h.means_levelFor target fields) hl⟩

end WellNamed

theorem Means.perm {level target : String} {entries entries' : List (String × String)} {l : Level}
    (hp : entries'.Perm entries) (hl : Means level entries target l) :
    Means level entries' target l := by
  cases hl with
  | general hnamed hnone => exact .general hnamed fun e he => hnone e (hp.mem_iff.mp he)
  | component he hnamed hs hlong =>
    exact .component (hp.mem_iff.mpr he) hnamed hs fun e' he' => hlong e' (hp.mem_iff.mp he')

/-- A configuration whose levels and components go by proper names is accepted, and its filter gives
every target the level that the configuration says. The order in which components are listed makes
no difference: neither to the configuration, nor to what the text of a filter with them means. -/
theorem Config.directives_mean (c : Config) (h : WellNamed c.level c.components.entries) :
    ∃ f, Filter.ofText? c.directives = .ok f ∧
      Host.fresh.tryInstall c = (.ok (), some ⟨f, c.json⟩) ∧
      (∀ target fields l, f.levelFor target fields = l ↔
        Means c.level c.components.entries target l) ∧
      ∀ es : List (String × String), es.Perm c.components.entries →
        Components.ofList es = c.components ∧
        ∃ f', Filter.ofText? (listing c.level es) = .ok f' ∧
          ∀ target fields, f'.levelFor target fields = f.levelFor target fields := by
  have hread : Filter.ofText? c.directives = .ok (listedFilter c.level c.components.entries) := by
    rw [Config.directives_eq, h.ofText?_listing]
  refine ⟨_, hread, ?_, fun target fields l => h.levelFor_eq_iff fields, fun es hp => ?_⟩
  · rw [Host.tryInstall, hread, Host.fresh]
  · have hes := h.perm hp
    refine ⟨Components.ofList_of_perm hp, _, hes.ofText?_listing, fun target fields => ?_⟩
    rw [hes.levelFor_eq_iff]
    exact (h.means_levelFor target fields).perm hp

/-- A component within another has its own level, and what is in neither has the level of all. -/
theorem Config.directives_mean_nested :
    let entries := [("svcproxy-core", "debug"), ("svcproxy-core::lifecycle", "TRACE")]
    let c : Config := ⟨"warn", .ofList entries, false⟩
    WellNamed c.level c.components.entries ∧
      ∃ f, Filter.ofText? c.directives = .ok f ∧
        f.levelOf "svcproxy_core::lifecycle::open" = .trace ∧
        f.levelOf "svcproxy_core::policy" = .debug ∧ f.levelOf "svcproxy" = .warn := by
  intro entries c
  have hentries : c.components.entries = entries := by decide +kernel
  have hnames : entries.all (fun e => e.1.toList.all fun c =>
      isAlphanumeric c || c == '-' || c == '_' || c == ':') = true := by decide +kernel
  have hnamed : WellNamed c.level c.components.entries := by
    rw [hentries]
    refine ⟨by decide +kernel, by decide +kernel, by decide +kernel, fun e he c hc => ?_,
      by decide +kernel⟩
    have hchar := List.all_eq_true.mp (List.all_eq_true.mp hnames e he) c hc
    simpa [or_assoc] using hchar
  obtain ⟨f, hread, -, hlevel, -⟩ := Config.directives_mean c hnamed
  refine ⟨hnamed, f, hread, ?_, ?_, ?_⟩
  · rw [Filter.levelOf, hlevel, hentries]
    exact .component (e := ("svcproxy-core::lifecycle", "TRACE")) (by decide +kernel)
      (by decide +kernel) (by decide +kernel) (by decide +kernel)
  · rw [Filter.levelOf, hlevel, hentries]
    exact .component (e := ("svcproxy-core", "debug")) (by decide +kernel)
      (by decide +kernel) (by decide +kernel) (by decide +kernel)
  · rw [Filter.levelOf, hlevel, hentries]
    exact .general (by decide +kernel) (by decide +kernel)

end ResilientProxy.Logging
