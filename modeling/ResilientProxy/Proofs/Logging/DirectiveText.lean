import Mathlib
import ResilientProxy.Logging.Config
import ResilientProxy.Logging.Filter

/-!
# Directives are read back

The text of a filter that is put together from words is taken apart into the same words again. Words
hold nothing that a filter gives a meaning to: no commas, no equals signs, no brackets and no
blanks. Names of levels and names of components are words.
-/

namespace ResilientProxy.Logging

/-- Whether nothing in a text but what a target may start with. -/
def IsWord (cs : List Char) : Prop := ∀ c ∈ cs, Directive.startsTarget c = true

/-- The code points of all that parts a filter: blanks, the comma, the equals sign, the bracket. -/
def separators : List Nat := blankCodePoints ++ [0x2C, 0x3D, 0x5B]

theorem separators_not_alphanumeric :
    (separators.all fun n => !alphanumericRanges.any fun r => Nat.ble r.1 n && Nat.ble n r.2) =
      true := by
  decide +kernel

theorem startsTarget_eq_false {c : Char} (h : c.toNat ∈ separators) :
    Directive.startsTarget c = false := by
  have halnum : isAlphanumeric c = false := by
    have hall := List.all_eq_true.mp separators_not_alphanumeric _ h
    simpa [isAlphanumeric, liesIn, Nat.ble_eq, Bool.eq_false_iff] using hall
  have hother : c ≠ '-' ∧ c ≠ ':' ∧ c ≠ '_' := by
    refine ⟨?_, ?_, ?_⟩ <;> rintro rfl <;> exact absurd h (by decide)
  simp [Directive.startsTarget, halnum, hother]

namespace IsWord

variable {cs ds : List Char} {c : Char}

theorem append (h : IsWord cs) (h' : IsWord ds) : IsWord (cs ++ ds) :=
  List.forall_mem_append.mpr ⟨h, h'⟩

theorem ne (h : IsWord cs) (hc : c ∈ cs) {d : Char} (hd : d.toNat ∈ separators) : c ≠ d := by
  rintro rfl
  exact absurd (h c hc) (by simp [startsTarget_eq_false hd])

theorem not_blank (h : IsWord cs) (hc : c ∈ cs) : isBlankChar c = false := by
  cases hb : isBlankChar c with
  | false => rfl
  | true =>
    have hmem : c.toNat ∈ separators := List.mem_append_left _ (by simpa [isBlankChar] using hb)
    exact absurd (h c hc) (by simp [startsTarget_eq_false hmem])

end IsWord

/-! ## Names of levels -/

namespace Level

/-- The level with the given name, in letters of either case. -/
def named? (s : String) : Option Level := all.find? fun l => l.text == s.map Char.toLower

theorem isDigit_of_isAlpha {c : Char} (h : c.isAlpha = true) : c.isDigit = false := by
  simp only [Char.isAlpha, Char.isUpper, Char.isLower, Char.isDigit, Bool.or_eq_true,
    Bool.and_eq_true, decide_eq_true_eq, ge_iff_le, UInt32.le_iff_toNat_le, Bool.and_eq_false_iff,
    decide_eq_false_iff_not] at h ⊢
  have : 'A'.val.toNat = 65 := rfl
  have : 'a'.val.toNat = 97 := rfl
  have : '9'.val.toNat = 57 := rfl
  omega

variable {s : String} {l : Level}

theorem toLower_of_named? (h : named? s = some l) : s.toList.map Char.toLower = l.text.toList := by
  have heq := List.find?_some h
  rw [beq_iff_eq] at heq
  rw [heq, String.toList_map]

theorem isAlpha_of_named? (h : named? s = some l) : ∀ c ∈ s.toList, c.isAlpha = true := by
  intro c hc
  have hmem : c.toLower ∈ l.text.toList := toLower_of_named? h ▸ List.mem_map_of_mem hc
  have hlower : l.text.toList.all Char.isLower = true := by cases l <;> decide
  rw [← Char.isLower_toLower_eq_isAlpha]
  exact List.all_eq_true.mp hlower _ hmem

theorem ne_nil_of_named? (h : named? s = some l) : s.toList ≠ [] := by
  intro hnil
  have heq := toLower_of_named? h
  rw [hnil] at heq
  cases l <;> exact absurd heq (by decide)

theorem isWord_of_named? (h : named? s = some l) : IsWord s.toList := by
  intro c hc
  have halnum : c.isAlphanum = true := by simp [Char.isAlphanum, isAlpha_of_named? h c hc]
  simp [Directive.startsTarget, isAlphanumeric_of_isAlphanum halnum]

/-- The name of a level is no number. -/
theorem ofText?_of_named? (h : named? s = some l) : ofText? s = some l := by
  have hdigit : ∀ c ∈ s.toList, c.isDigit = false := fun c hc =>
    isDigit_of_isAlpha (isAlpha_of_named? h c hc)
  have hnumber : number? s.toList = none := by
    cases hs : s.toList with
    | nil => exact absurd hs (ne_nil_of_named? h)
    | cons c cs =>
      have hplus : c ≠ '+' := by
        rintro rfl
        have halpha := isAlpha_of_named? h '+' (by simp [hs])
        exact absurd halpha (by decide)
      have hfirst := hdigit c (by simp [hs])
      simp [number?, hplus, hfirst]
  rw [ofText?, hnumber]
  exact h

end Level

/-! ## Directives -/

namespace Directive

variable {cs name level : List Char}

theorem splitBytes_width (cs rest : List Char) :
    splitBytes (width cs) (cs ++ rest) = (cs, rest) := by
  induction cs with
  | nil => cases rest <;> rfl
  | cons c cs ih =>
    obtain ⟨n, hn⟩ := Nat.exists_eq_add_one_of_ne_zero (Nat.ne_of_gt c.utf8Size_pos)
    have hwidth : width (c :: cs) = n + width cs + 1 := by
      rw [width, hn]
      omega
    have hrest : n + width cs + 1 - c.utf8Size = width cs := by omega
    rw [hwidth, List.cons_append, splitBytes, hrest, ih]

theorem trimmed_eq_self (h : ∀ c ∈ cs, isBlankChar c = false) : trimmed cs = cs := by
  have hdrop : ∀ ds : List Char, (∀ c ∈ ds, isBlankChar c = false) →
      ds.dropWhile isBlankChar = ds := by
    intro ds hds
    cases ds with
    | nil => rfl
    | cons d ds => rw [List.dropWhile_cons_of_neg (by simp [hds d])]
  rw [trimmed, hdrop cs h, hdrop cs.reverse (by simpa using h), List.reverse_reverse]

/-- A word has no mark to be cut at. -/
theorem cut_of_isWord (h : IsWord cs) :
    Cursor.cut ⟨cs, cs⟩ (fun c => c == '=' || c == '[') = none := by
  have htake : cs.takeWhile (fun c => !(c == '=' || c == '[')) = cs :=
    List.takeWhile_eq_self_iff.mpr fun c hc => by
      simp [h.ne hc (d := '=') (by decide), h.ne hc (d := '[') (by decide)]
  simp only [Cursor.cut, htake, List.drop_length]

theorem cut_at_equals (h : IsWord name) (rest : List Char) :
    Cursor.cut ⟨name ++ '=' :: rest, name ++ '=' :: rest⟩ (fun c => c == '=' || c == '[') =
      some (name, '=', ⟨rest, rest⟩) := by
  have htake : (name ++ '=' :: rest).takeWhile (fun c => !(c == '=' || c == '[')) = name := by
    rw [List.takeWhile_append_of_pos fun c hc => by
      simp [h.ne hc (d := '=') (by decide), h.ne hc (d := '[') (by decide)]]
    simp
  have hequals : splitBytes ('=').utf8Size ('=' :: rest) = (['='], rest) :=
    splitBytes_width ['='] rest
  simp only [Cursor.cut, htake, splitBytes_width, List.drop_left, hequals]

/-- A word by itself is a level or a target. -/
theorem ofText?_word (h : IsWord cs) (hne : cs ≠ []) : ofText? cs = .ok (ofWord cs) := by
  have htrim : trimmed cs = cs := trimmed_eq_self fun c hc => h.not_blank hc
  cases cs with
  | nil => exact absurd rfl hne
  | cons c cs =>
    have hbracket : c ≠ '[' := h.ne (List.mem_cons_self ..) (by decide)
    have hstart : startsTarget c = true := h c (List.mem_cons_self ..)
    simp only [ofText?, htrim, cut_of_isWord h, if_pos hstart]

/-- A word, an equals sign and a word set the level of a target. -/
theorem ofText?_assignment (hn : IsWord name) (hne : name ≠ []) (hl : IsWord level) :
    ofText? (name ++ '=' :: level) =
      (levelOf level).map fun l => ⟨some (String.ofList name), none, none, l⟩ := by
  have htrim : trimmed (name ++ '=' :: level) = name ++ '=' :: level := by
    refine trimmed_eq_self ?_
    rw [List.forall_mem_append, List.forall_mem_cons]
    exact ⟨fun c hc => hn.not_blank hc, by decide, fun c hc => hl.not_blank hc⟩
  cases name with
  | nil => exact absurd rfl hne
  | cons c name =>
    have hbracket : c ≠ '[' := hn.ne (List.mem_cons_self ..) (by decide)
    have hstart : startsTarget c = true := hn c (List.mem_cons_self ..)
    have hcut := cut_at_equals hn level
    rw [List.cons_append] at htrim hcut ⊢
    simp only [ofText?, htrim, hcut, if_pos hstart]

end Directive

/-! ## Filters -/

namespace Filter

theorem parts_of_isWord {cs : List Char} (h : ',' ∉ cs) : parts cs = [cs] := by
  induction cs with
  | nil => rfl
  | cons c cs ih =>
    rw [List.mem_cons, not_or] at h
    rw [parts, if_neg (Ne.symm h.1), ih h.2]

theorem parts_append_comma {cs : List Char} (h : ',' ∉ cs) (rest : List Char) :
    parts (cs ++ ',' :: rest) = cs :: parts rest := by
  induction cs with
  | nil => rw [List.nil_append, parts, if_pos rfl]
  | cons c cs ih =>
    rw [List.mem_cons, not_or] at h
    rw [List.cons_append, parts, if_neg (Ne.symm h.1), ih h.2]

/-- Texts without commas are told apart by the commas between them. -/
theorem parts_flatMap {p : List Char} {ps : List (List Char)} (hp : ',' ∉ p)
    (hps : ∀ q ∈ ps, ',' ∉ q) : parts (p ++ ps.flatMap (',' :: ·)) = p :: ps := by
  induction ps generalizing p with
  | nil => rw [List.flatMap_nil, List.append_nil, parts_of_isWord hp]
  | cons q ps ih =>
    rw [List.forall_mem_cons] at hps
    rw [List.flatMap_cons, List.cons_append, parts_append_comma hp, ih hps.1 hps.2]

theorem directives_map {α : Type} {text : α → List Char} {directive : α → Directive} {as : List α}
    (h : ∀ a ∈ as, Directive.ofText? (text a) = .ok (directive a)) :
    directives (as.map text) = .ok (as.map directive) := by
  induction as with
  | nil => rfl
  | cons a as ih =>
    rw [List.forall_mem_cons] at h
    simp only [List.map_cons, directives, h.1, ih h.2]

end Filter

/-! ## Configurations -/

/-- The filter with a level for all targets and levels for some, in the order in which they are
listed. -/
def listing (level : String) (entries : List (String × String)) : String :=
  entries.foldl (fun acc e => acc ++ "," ++ Config.targetName e.1 ++ "=" ++ e.2) level

theorem Config.directives_eq (c : Config) :
    c.directives = listing c.level c.components.entries :=
  rfl

/-- Levels go by the names of levels, and components by names of letters, digits, hyphens,
underscores and colons, which stay different as names of targets. -/
structure WellNamed (level : String) (entries : List (String × String)) : Prop where
  level : (Level.named? level).isSome = true
  levels : ∀ e ∈ entries, (Level.named? e.2).isSome = true
  nonempty : ∀ e ∈ entries, e.1 ≠ ""
  names : ∀ e ∈ entries, ∀ c ∈ e.1.toList,
    isAlphanumeric c = true ∨ c = '-' ∨ c = '_' ∨ c = ':'
  distinct : (entries.map fun e => Config.targetName e.1).Nodup

/-- The level that a text names. -/
def levelNamed (s : String) : Level := (Level.named? s).getD .off

/-- What an entry of a configuration comes to in the filter. -/
def entryDirective (e : String × String) : Directive :=
  ⟨some (Config.targetName e.1), none, none, levelNamed e.2⟩

/-- What a configuration comes to as a filter. -/
def listedFilter (level : String) (entries : List (String × String)) : Filter :=
  ⟨none, none, none, levelNamed level⟩ :: entries.map entryDirective

section

variable {level : String} {entries : List (String × String)} {e : String × String}

theorem named?_eq {s : String} (h : (Level.named? s).isSome = true) :
    Level.named? s = some (levelNamed s) := by
  obtain ⟨l, hl⟩ := Option.isSome_iff_exists.mp h
  rw [levelNamed, hl, Option.getD_some]

/-- An entry as it stands in the filter. -/
def entryText (e : String × String) : List Char :=
  (Config.targetName e.1).toList ++ '=' :: e.2.toList

theorem toList_listing (level : String) (entries : List (String × String)) :
    (listing level entries).toList =
      level.toList ++ (entries.map entryText).flatMap (',' :: ·) := by
  induction entries generalizing level with
  | nil => simp [listing]
  | cons e entries ih =>
    rw [listing, List.foldl_cons, ← listing, ih]
    simp [entryText]

theorem toList_targetName (name : String) :
    (Config.targetName name).toList = name.toList.map fun c => if c = '-' then '_' else c := by
  simp [Config.targetName]

namespace WellNamed

theorem isWord_level (h : WellNamed level entries) : IsWord level.toList :=
  Level.isWord_of_named? (named?_eq h.level)

theorem isWord_entry (h : WellNamed level entries) (he : e ∈ entries) : IsWord e.2.toList :=
  Level.isWord_of_named? (named?_eq (h.levels e he))

theorem isWord_target (h : WellNamed level entries) (he : e ∈ entries) :
    IsWord (Config.targetName e.1).toList := by
  rw [toList_targetName, IsWord, List.forall_mem_map]
  intro c hc
  split
  · simp [Directive.startsTarget]
  · obtain halnum | rfl | rfl | rfl := h.names e he c hc
    · simp [Directive.startsTarget, halnum]
    all_goals simp [Directive.startsTarget]

theorem target_ne_nil (h : WellNamed level entries) (he : e ∈ entries) :
    (Config.targetName e.1).toList ≠ [] := by
  rw [toList_targetName, ne_eq, List.map_eq_nil_iff, String.toList_eq_nil_iff]
  exact h.nonempty e he

theorem comma_not_mem {cs : List Char} (h : IsWord cs) : ',' ∉ cs :=
  fun hc => h.ne hc (d := ',') (by decide) rfl

theorem comma_not_mem_entryText (h : WellNamed level entries) (he : e ∈ entries) :
    ',' ∉ entryText e := by
  simp [entryText, comma_not_mem (h.isWord_target he), comma_not_mem (h.isWord_entry he)]

theorem ofText?_level (h : WellNamed level entries) :
    Directive.ofText? level.toList = .ok ⟨none, none, none, levelNamed level⟩ := by
  have hlevel := named?_eq h.level
  rw [Directive.ofText?_word h.isWord_level (Level.ne_nil_of_named? hlevel), Directive.ofWord,
    String.ofList_toList, Level.ofText?_of_named? hlevel]

theorem ofText?_entry (h : WellNamed level entries) (he : e ∈ entries) :
    Directive.ofText? (entryText e) = .ok (entryDirective e) := by
  have hlevel := named?_eq (h.levels e he)
  have hread : Directive.levelOf e.2.toList = .ok (levelNamed e.2) := by
    rw [Directive.levelOf, if_neg (by simpa using Level.ne_nil_of_named? hlevel),
      String.ofList_toList, Level.ofText?_of_named? hlevel]
  rw [entryText, Directive.ofText?_assignment (h.isWord_target he) (h.target_ne_nil he)
    (h.isWord_entry he), hread, String.ofList_toList]
  rfl

/-- The filter of a well named configuration is read entry by entry. -/
theorem ofText?_listing (h : WellNamed level entries) :
    Filter.ofText? (listing level entries) = .ok (listedFilter level entries) := by
  have hparts : Filter.parts (listing level entries).toList =
      level.toList :: entries.map entryText := by
    rw [toList_listing, Filter.parts_flatMap (comma_not_mem h.isWord_level)]
    rw [List.forall_mem_map]
    exact fun e he => h.comma_not_mem_entryText he
  have hfull : (level.toList :: entries.map entryText).filter (!·.isEmpty) =
      level.toList :: entries.map entryText := by
    rw [List.filter_eq_self, List.forall_mem_cons, List.forall_mem_map]
    exact ⟨by simpa using Level.ne_nil_of_named? (named?_eq h.level), fun e _ => by
      simp [entryText]⟩
  have hentries := Filter.directives_map fun e he => h.ofText?_entry he
  rw [Filter.ofText?, hparts, hfull]
  simp only [Filter.directives, h.ofText?_level, hentries]
  rfl

end WellNamed

end

end ResilientProxy.Logging
