import ResilientProxy.Json.Grammar
import ResilientProxy.Json.Skip

/-!
# Whatever has the form of a value is skipped

From a text that starts with a value, the skipping reader gets to what stands behind the value, to
any depth of lists and objects in it. The one thing that must not follow is what would make a number
longer. The induction is on the grammar; twice the length of a phrase is depth enough for it.
-/

namespace ResilientProxy.Json

/-- What may stand behind a number: nothing that goes on with it. -/
structure Detached (rest : List Char) : Prop where
  digit : startsWithDigit rest = false
  float : startsFloat rest = false

section

variable {c d : Char} {cs ds w rest : List Char}

theorem skipBlanks_append (hw : IsBlanks w) (cs : List Char) :
    skipBlanks (w ++ cs) = skipBlanks cs :=
  List.dropWhile_append_of_pos hw

theorem skipBlanks_cons (hc : isBlank c = false) : skipBlanks (c :: cs) = c :: cs := by
  simp [skipBlanks, hc]

theorem detached_comma (cs : List Char) : Detached (',' :: cs) := ⟨rfl, rfl⟩

theorem detached_bracket (cs : List Char) : Detached (']' :: cs) := ⟨rfl, rfl⟩

theorem detached_brace (cs : List Char) : Detached ('\x7d' :: cs) := ⟨rfl, rfl⟩

theorem detached_blank (hc : isBlank c = true) : Detached (c :: cs) := by
  simp only [isBlank, Bool.or_eq_true, beq_iff_eq] at hc
  obtain ((rfl | rfl) | rfl) | rfl := hc <;> exact ⟨rfl, rfl⟩

/-- Blanks may stand behind a number. -/
theorem Detached.append (h : Detached rest) (hw : IsBlanks w) : Detached (w ++ rest) := by
  cases w with
  | nil => exact h
  | cons c w => exact detached_blank (hw c (by simp))

theorem dropDigits_append (hds : ∀ d ∈ ds, d.isDigit = true) (hrest : startsWithDigit rest = false) :
    dropDigits (ds ++ rest) = rest := by
  rw [dropDigits, List.dropWhile_append_of_pos hds]
  cases rest with
  | nil => rfl
  | cons c rest =>
    have hc : c.isDigit = false := hrest
    simp [hc]

theorem IsDigits.exists_cons (h : IsDigits ds) : ∃ d ds', ds = d :: ds' ∧ d.isDigit = true := by
  cases ds with
  | nil => exact absurd rfl h.ne_nil
  | cons d ds => exact ⟨d, ds, rfl, h.isDigit d (by simp)⟩

theorem takeSign_of_isDigit (hd : d.isDigit = true) : takeSign (d :: cs) = (false, d :: cs) := by
  unfold takeSign
  split
  · rename_i heq
    obtain ⟨rfl, -⟩ := List.cons.inj heq
    exact absurd hd (by decide)
  · rename_i heq
    obtain ⟨rfl, -⟩ := List.cons.inj heq
    exact absurd hd (by decide)
  · rfl

/-- A sign in front of digits is taken off. -/
theorem takeSign_append {sign : List Char} (hsign : sign = [] ∨ sign = ['+'] ∨ sign = ['-'])
    (hds : IsDigits ds) (rest : List Char) : (takeSign (sign ++ (ds ++ rest))).2 = ds ++ rest := by
  obtain rfl | rfl | rfl := hsign
  · obtain ⟨d, ds, rfl, hd⟩ := hds.exists_cons
    exact congrArg Prod.snd (takeSign_of_isDigit hd)
  · rfl
  · rfl

theorem skipScale_append (h : IsExponent cs) (hrest : Detached rest) :
    skipScale (cs ++ rest) = .ok rest := by
  cases h with
  | none =>
    cases rest with
    | nil => rfl
    | cons c rest =>
      have hc := hrest.float
      simp only [startsFloat, Bool.or_eq_false_iff, beq_eq_false_iff_ne] at hc
      simp [skipScale, hc.1.2, hc.2]
  | @digits e sign ds he hsign hds =>
    have hskip : skipExponent (sign ++ ds ++ rest) = .ok rest := by
      obtain ⟨d, ds', rfl, hd⟩ := hds.exists_cons
      have hsigned := takeSign_append hsign hds rest
      have hstarts : startsWithDigit (d :: ds' ++ rest) = true := hd
      rw [List.append_assoc, skipExponent, hsigned]
      simp only [hstarts, if_true, dropDigits_append hds.isDigit hrest.digit]
    obtain rfl | rfl := he
    · exact hskip
    · exact hskip

theorem IsExponent.startsWithDigit (h : IsExponent cs) (hrest : Detached rest) :
    startsWithDigit (cs ++ rest) = false := by
  cases h with
  | none => exact hrest.digit
  | digits he => obtain rfl | rfl := he <;> rfl

theorem skipFraction_append {exponent : List Char} (h : IsFraction cs) (he : IsExponent exponent)
    (hrest : Detached rest) : skipFraction (cs ++ (exponent ++ rest)) = .ok rest := by
  have hscale := skipScale_append he hrest
  cases h with
  | none =>
    -- neither an exponent nor what stands behind a number starts with a point
    have hpoint : ∀ tail, exponent ++ rest ≠ '.' :: tail := by
      intro tail heq
      cases he with
      | none =>
        have hfloat := hrest.float
        rw [List.nil_append] at heq
        simp [heq, startsFloat] at hfloat
      | digits he => obtain rfl | rfl := he <;> simp at heq
    rw [List.nil_append, skipFraction.eq_2 _ (fun tail => hpoint tail), hscale]
  | @digits ds hds =>
    obtain ⟨d, ds', rfl, hd⟩ := hds.exists_cons
    have hstarts : startsWithDigit (d :: ds' ++ (exponent ++ rest)) = true := hd
    rw [List.cons_append, skipFraction]
    simp only [hstarts, if_true, dropDigits_append hds.isDigit (he.startsWithDigit hrest), hscale]

theorem IsFraction.startsWithDigit {exponent : List Char} (h : IsFraction cs)
    (he : IsExponent exponent) (hrest : Detached rest) :
    startsWithDigit (cs ++ (exponent ++ rest)) = false := by
  cases h with
  | none => exact he.startsWithDigit hrest
  | digits => rfl

theorem skipNumber_append (h : IsMagnitude cs) (hrest : Detached rest) :
    skipNumber (cs ++ rest) = .ok rest := by
  obtain @⟨whole, fraction, exponent, hwhole, hfraction, hexponent⟩ := h
  have hskip := skipFraction_append hfraction hexponent hrest
  have hstarts := hfraction.startsWithDigit hexponent hrest
  rw [List.append_assoc, List.append_assoc]
  cases hwhole with
  | zero => simp [skipNumber, hstarts, hskip]
  | @digits d ds hd hds =>
    have hdigit : d.isDigit = true := hds.isDigit d (by simp)
    have hmore : ∀ d ∈ ds, d.isDigit = true := fun d hd => hds.isDigit d (by simp [hd])
    simp [skipNumber, hd, hdigit, dropDigits_append hmore hstarts, hskip]

theorem IsMagnitude.exists_cons (h : IsMagnitude cs) :
    ∃ d ds, cs = d :: ds ∧ d.isDigit = true := by
  obtain ⟨hwhole, -, -⟩ := h
  cases hwhole with
  | zero => exact ⟨'0', _, rfl, rfl⟩
  | digits hd hds => exact ⟨_, _, rfl, hds.isDigit _ (by simp)⟩

theorem skipString_escape {cs' : List Char} (he : skipEscape cs = .ok cs') :
    skipString ('\\' :: cs) = skipString cs' := by
  rw [skipString, if_neg (by decide), if_pos rfl]
  split
  · rename_i hf
    cases hf.symm.trans he
  · rename_i hd
    obtain rfl := Except.ok.inj (hd.symm.trans he)
    rfl

/-- A string is skipped up to its closing quote. -/
theorem skipString_append (h : IsStringBody cs) (rest : List Char) :
    skipString (cs ++ '"' :: rest) = .ok rest := by
  induction h with
  | nil => simp [skipString]
  | @plain c cs hc _ ih =>
    have hprints : ¬ c.toNat < 0x20 := Nat.not_lt.mpr hc.2.2
    rw [List.cons_append, skipString, if_neg hc.1, if_neg hc.2.1, if_neg hprints, ih]
  | @escape e cs he _ ih =>
    have hu : e ≠ 'u' := by
      rintro rfl
      exact absurd he (by decide)
    have hescape : skipEscape (e :: (cs ++ '"' :: rest)) = .ok (cs ++ '"' :: rest) := by
      rw [skipEscape, if_neg hu, if_pos he]
    exact (skipString_escape hescape).trans ih
  | @codePoint a b c d cs hn _ ih =>
    obtain ⟨n, hn⟩ := Option.isSome_iff_exists.mp hn
    have hescape : skipEscape ('u' :: a :: b :: c :: d :: (cs ++ '"' :: rest)) =
        .ok (cs ++ '"' :: rest) := by
      simp [skipEscape, readHex4, hn]
    exact (skipString_escape hescape).trans ih

theorem ne_of_isDigit (hc : c.isDigit = true) (hd : d.isDigit = false) : c ≠ d := by
  rintro rfl
  simp [hd] at hc

theorem isBlank_of_isDigit (hd : d.isDigit = true) : isBlank d = false := by
  cases hblank : isBlank d with
  | false => rfl
  | true =>
    have hdigit : d.isDigit = false := (@detached_blank d [] hblank).digit
    exact absurd hd (by simp [hdigit])

/-- A value starts with a character that is neither blank nor the end of a list. -/
theorem Derives.exists_cons (h : Derives .value cs) :
    ∃ c cs', cs = c :: cs' ∧ isBlank c = false ∧ c ≠ ']' := by
  cases h with
  | literal h =>
    simp only [literals, List.mem_cons, List.not_mem_nil, or_false] at h
    obtain rfl | rfl | rfl := h <;> exact ⟨_, _, rfl, rfl, by decide⟩
  | positive h =>
    obtain ⟨d, ds, rfl, hd⟩ := h.exists_cons
    refine ⟨d, ds, rfl, isBlank_of_isDigit hd, ?_⟩
    rintro rfl
    exact absurd hd (by decide)
  | _ => exact ⟨_, _, rfl, rfl, by decide⟩

theorem skipValueWithin_append (hw : IsBlanks w) (depth : Nat) (cs : List Char) :
    skipValueWithin (depth + 1) (w ++ cs) = skipValueWithin (depth + 1) cs := by
  rw [skipValueWithin, skipValueWithin, skipBlanks_append hw]

theorem skipElementsWithin_append (hw : IsBlanks w) (depth : Nat) (cs : List Char) :
    skipElementsWithin (depth + 2) (w ++ cs) = skipElementsWithin (depth + 2) cs := by
  rw [skipElementsWithin, skipElementsWithin, skipValueWithin_append hw]

theorem skipMembersWithin_append (hw : IsBlanks w) (depth : Nat) (cs : List Char) :
    skipMembersWithin (depth + 1) (w ++ cs) = skipMembersWithin (depth + 1) cs := by
  rw [skipMembersWithin, skipMembersWithin, skipBlanks_append hw]

theorem skipColon_append (hw : IsBlanks w) (cs : List Char) :
    skipColon (w ++ ':' :: cs) = .ok cs := by
  rw [skipColon, skipBlanks_append hw, skipBlanks_cons rfl]
  rfl

/-- Behind an element comes the next one or the end of the list. -/
theorem skipElementsWithin_step {depth : Nat} (h : skipValueWithin depth cs = .ok (w ++ c :: rest))
    (hw : IsBlanks w) (hc : isBlank c = false) :
    skipElementsWithin (depth + 1) cs =
      if c = ',' then skipElementsWithin depth rest
      else if c = ']' then .ok rest
      else .error (.here .expectedCommaOrBracket (c :: rest)) := by
  simp only [skipElementsWithin, h, skipBlanks_append hw, skipBlanks_cons hc]

/-- Behind a member comes the next one or the end of the object. -/
theorem skipMembersWithin_step {depth : Nat} {m : MemberText} (hm : m.IsSpaced)
    (hk : IsStringBody m.key)
    (h : skipValueWithin (depth + 1) (m.value ++ (m.behind ++ c :: rest)) =
      .ok (m.behind ++ c :: rest)) (hc : isBlank c = false) :
    skipMembersWithin (depth + 2) (m.text ++ c :: rest) =
      if c = ',' then skipMembersWithin (depth + 1) rest
      else if c = '\x7d' then .ok rest
      else .error (.here .expectedCommaOrBrace (c :: rest)) := by
  have htext : m.text ++ c :: rest = m.before ++ '"' :: (m.key ++ '"' :: (m.beforeColon ++
      ':' :: (m.beforeValue ++ (m.value ++ (m.behind ++ c :: rest))))) := by
    simp [MemberText.text, MemberText.fromKey]
  rw [htext, skipMembersWithin, skipBlanks_append hm.before, skipBlanks_cons rfl]
  simp only [if_true, skipString_append hk, skipColon_append hm.beforeColon,
    skipValueWithin_append hm.beforeValue, h, skipBlanks_append hm.behind, skipBlanks_cons hc]

/-- The reader for a phrase gets to what stands behind it, if it may go to this depth. -/
def Skips : Phrase → List Char → Prop
  | .value, cs => ∀ rest depth, Detached rest → 2 * cs.length < depth →
      skipValueWithin depth (cs ++ rest) = .ok rest
  | .elements, cs => ∀ rest depth, 2 * cs.length + 1 < depth →
      skipElementsWithin depth (cs ++ ']' :: rest) = .ok rest
  | .members, cs => ∀ rest depth, 2 * cs.length + 1 < depth →
      skipMembersWithin depth (cs ++ '\x7d' :: rest) = .ok rest

/-- Most values need no depth at all. -/
theorem Skips.of_succ (h : ∀ rest depth, Detached rest →
    skipValueWithin (depth + 1) (cs ++ rest) = .ok rest) : Skips .value cs := by
  intro rest depth hrest hdepth
  obtain ⟨depth, rfl⟩ := Nat.exists_eq_add_of_le' (Nat.one_le_of_lt hdepth)
  exact h rest depth hrest

theorem Skips.element {w' : List Char} (hw : IsBlanks w) (h : Skips .value cs) (hw' : IsBlanks w') :
    Skips .elements (w ++ (cs ++ w')) := by
  intro rest depth hdepth
  simp only [List.length_append] at hdepth
  obtain ⟨depth, rfl⟩ := Nat.exists_eq_add_of_le' (show 2 ≤ depth by omega)
  have hvalue := h (w' ++ ']' :: rest) (depth + 1) ((detached_bracket rest).append hw') (by omega)
  rw [← skipValueWithin_append hw] at hvalue
  simp only [List.append_assoc]
  rw [skipElementsWithin_step hvalue hw' rfl]
  rfl

theorem Skips.elements {w' es : List Char} (hw : IsBlanks w) (h : Skips .value cs)
    (hw' : IsBlanks w') (hs : Skips .elements es) :
    Skips .elements (w ++ (cs ++ (w' ++ ',' :: es))) := by
  intro rest depth hdepth
  simp only [List.length_append, List.length_cons] at hdepth
  obtain ⟨depth, rfl⟩ := Nat.exists_eq_add_of_le' (show 2 ≤ depth by omega)
  have hvalue := h (w' ++ ',' :: (es ++ ']' :: rest)) (depth + 1)
    ((detached_comma _).append hw') (by omega)
  rw [← skipValueWithin_append hw] at hvalue
  simp only [List.append_assoc, List.cons_append]
  rw [skipElementsWithin_step hvalue hw' rfl, if_pos rfl]
  exact hs rest (depth + 1) (by omega)

theorem MemberText.length_value_le (m : MemberText) : m.value.length + 3 ≤ m.text.length := by
  simp only [text, fromKey, List.length_append, List.length_cons]
  omega

theorem Skips.member {m : MemberText} (hm : m.IsSpaced) (hk : IsStringBody m.key)
    (h : Skips .value m.value) : Skips .members m.text := by
  intro rest depth hdepth
  have hlength := m.length_value_le
  obtain ⟨depth, rfl⟩ := Nat.exists_eq_add_of_le' (show 2 ≤ depth by omega)
  have hvalue := h (m.behind ++ '\x7d' :: rest) (depth + 1)
    ((detached_brace rest).append hm.behind) (by omega)
  rw [skipMembersWithin_step hm hk hvalue rfl]
  rfl

theorem Skips.members {m : MemberText} {ms : List Char} (hm : m.IsSpaced) (hk : IsStringBody m.key)
    (h : Skips .value m.value) (hs : Skips .members ms) : Skips .members (m.text ++ ',' :: ms) := by
  intro rest depth hdepth
  have hlength := m.length_value_le
  simp only [List.length_append, List.length_cons] at hdepth
  obtain ⟨depth, rfl⟩ := Nat.exists_eq_add_of_le' (show 2 ≤ depth by omega)
  have hvalue := h (m.behind ++ ',' :: (ms ++ '\x7d' :: rest)) (depth + 1)
    ((detached_comma _).append hm.behind) (by omega)
  simp only [List.append_assoc, List.cons_append]
  rw [skipMembersWithin_step hm hk hvalue rfl, if_pos rfl]
  exact hs rest (depth + 1) (by omega)

/-- The inside of a list starts with blanks and what does not end the list. -/
theorem Derives.exists_element (h : Derives .elements cs) :
    ∃ w c cs', cs = w ++ c :: cs' ∧ IsBlanks w ∧ isBlank c = false ∧ c ≠ ']' := by
  cases h with
  | element hw h _ =>
    obtain ⟨c, cs', rfl, hc, hne⟩ := h.exists_cons
    exact ⟨_, c, _, rfl, hw, hc, hne⟩
  | elements hw h _ _ =>
    obtain ⟨c, cs', rfl, hc, hne⟩ := h.exists_cons
    exact ⟨_, c, _, rfl, hw, hc, hne⟩

/-- The inside of an object starts with blanks and a quote. -/
theorem Derives.exists_key (h : Derives .members cs) :
    ∃ w cs', cs = w ++ '"' :: cs' ∧ IsBlanks w := by
  cases h with
  | @member m hm _ _ => exact ⟨m.before, _, rfl, hm.before⟩
  | @members m ms hm _ _ _ => exact ⟨m.before, _, List.append_assoc _ _ _, hm.before⟩

theorem Skips.list (h : Derives .elements cs) (hs : Skips .elements cs) :
    Skips .value ('[' :: (cs ++ [']'])) := by
  intro rest depth _ hdepth
  simp only [List.length_append, List.length_cons] at hdepth
  obtain ⟨depth, rfl⟩ := Nat.exists_eq_add_of_le' (show 3 ≤ depth by omega)
  have hskip := hs rest (depth + 2) (by omega)
  obtain ⟨w, c, cs, rfl, hw, hc, hne⟩ := h.exists_element
  rw [List.append_assoc, skipElementsWithin_append hw, List.cons_append] at hskip
  rw [skipValueWithin, List.cons_append, skipBlanks_cons rfl]
  simp only [List.append_assoc, List.singleton_append, skipBlanks_append hw]
  simp [skipBlanks_cons hc, hne, hskip]

theorem Skips.object (h : Derives .members cs) (hs : Skips .members cs) :
    Skips .value ('\x7b' :: (cs ++ ['\x7d'])) := by
  intro rest depth _ hdepth
  simp only [List.length_append, List.length_cons] at hdepth
  obtain ⟨depth, rfl⟩ := Nat.exists_eq_add_of_le' (show 3 ≤ depth by omega)
  have hskip := hs rest (depth + 2) (by omega)
  obtain ⟨w, cs, rfl, hw⟩ := h.exists_key
  rw [List.append_assoc, skipMembersWithin_append hw, List.cons_append] at hskip
  rw [skipValueWithin, List.cons_append, skipBlanks_cons rfl]
  simp only [List.append_assoc, List.singleton_append, skipBlanks_append hw]
  simp [skipBlanks_cons, isBlank, hskip]

theorem skips_of_derives {p : Phrase} (h : Derives p cs) : Skips p cs := by
  induction h with
  | literal h =>
    refine .of_succ fun rest depth _ => ?_
    simp only [literals, List.mem_cons, List.not_mem_nil, or_false] at h
    obtain rfl | rfl | rfl := h <;> simp [skipValueWithin, skipBlanks, isBlank, skipLiteral]
  | positive h =>
    refine .of_succ fun rest depth hrest => ?_
    have hskip := skipNumber_append h hrest
    obtain ⟨d, ds, rfl, hd⟩ := h.exists_cons
    rw [List.cons_append] at hskip ⊢
    rw [skipValueWithin, skipBlanks_cons (isBlank_of_isDigit hd)]
    simp [ne_of_isDigit hd, hd, hskip]
  | negative h =>
    refine .of_succ fun rest depth hrest => ?_
    simp [skipValueWithin, skipBlanks, isBlank, skipNumber_append h hrest]
  | string h =>
    refine .of_succ fun rest depth _ => ?_
    simp [skipValueWithin, skipBlanks, isBlank, skipString_append h]
  | emptyList hw =>
    refine .of_succ fun rest depth _ => ?_
    rw [skipValueWithin, List.cons_append, skipBlanks_cons rfl, List.append_assoc]
    simp [skipBlanks_append hw, skipBlanks_cons, isBlank]
  | list h ih => exact .list h ih
  | emptyObject hw =>
    refine .of_succ fun rest depth _ => ?_
    rw [skipValueWithin, List.cons_append, skipBlanks_cons rfl, List.append_assoc]
    simp [skipBlanks_append hw, skipBlanks_cons, isBlank]
  | object h ih => exact .object h ih
  | element hw h hw' ih => exact .element hw ih hw'
  | elements hw h hw' hs ih ihs => exact .elements hw ih hw' ihs
  | member hm hk h ih => exact .member hm hk ih
  | members hm hk h hs ih ihs => exact .members hm hk ih ihs

/-- A value is skipped whatever stands behind it, unless that would make a number longer. -/
theorem skipValue_append (hw : IsBlanks w) (h : Derives .value cs) (hrest : Detached rest) :
    skipValue (w ++ (cs ++ rest)) = .ok rest := by
  rw [skipValue, skipValueWithin_append hw]
  refine skips_of_derives h rest _ hrest ?_
  simp only [List.length_append]
  omega

end

end ResilientProxy.Json
