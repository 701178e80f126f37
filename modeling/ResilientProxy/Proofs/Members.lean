import ResilientProxy.Json.Record
import ResilientProxy.Proofs.Skipping

/-!
# Members of an object

How a member is taken wherever blanks stand in it and however its key is spelled. The key is read
for the text that it spells. The member of a field sets the field, unless the field has come before;
a member of another name is skipped.
-/

namespace ResilientProxy.Json

/-- Wherever the text `v` stands, reading it gives `a` and stops behind it. -/
def Accepts {α : Type} (read : Reader α) (v : List Char) (a : α) : Prop :=
  ∀ w rest, IsBlanks w → Detached rest → read (w ++ (v ++ rest)) = .ok (a, rest)

section

variable {c : Char} {cs ds rest : List Char}

theorem readString_escape {cs' : List Char} (he : readEscape cs = .ok (c, cs'))
    (h : readString cs' = .ok (ds, rest)) : readString ('\\' :: cs) = .ok (c :: ds, rest) := by
  rw [readString, if_neg (by decide), if_pos rfl]
  split
  · rename_i f hf
    cases hf.symm.trans he
  · rename_i d rest' hd
    obtain ⟨rfl, rfl⟩ : d = c ∧ rest' = cs' := by simpa using hd.symm.trans he
    simp [h]

/-- What spells a text has the form of a string. -/
theorem Spells.isStringBody (h : Spells ds cs) : IsStringBody cs := by
  induction h with
  | nil => exact .nil
  | plain hc _ ih => exact .plain hc ih
  | escape he _ ih => exact .escape (by simp [he]) ih
  | codePoint hn _ _ _ ih => exact .codePoint (by simp [hn]) ih
  | surrogates hh _ hl _ _ ih => exact .codePoint (by simp [hh]) (.codePoint (by simp [hl]) ih)

/-- A string is read up to its closing quote, however its text is spelled. -/
theorem readString_append (h : Spells ds cs) (rest : List Char) :
    readString (cs ++ '"' :: rest) = .ok (ds, rest) := by
  induction h with
  | nil => rw [List.nil_append, readString, if_pos rfl]
  | @plain c ds cs hc _ ih =>
    have hprints : ¬ c.toNat < 0x20 := Nat.not_lt.mpr hc.2.2
    rw [List.cons_append, readString, if_neg hc.1, if_neg hc.2.1, if_neg hprints, ih]
  | @escape e c ds cs he _ ih =>
    have hu : e ≠ 'u' := by
      rintro rfl
      cases he
    have hread : readEscape (e :: (cs ++ '"' :: rest)) = .ok (c, cs ++ '"' :: rest) := by
      rw [readEscape, if_neg hu, he]
    exact readString_escape hread ih
  | codePoint hn hlow hhigh _ ih =>
    exact readString_escape (by simp [readEscape, readHex4, hn, hlow, hhigh]) ih
  | @surrogates _ _ _ _ _ _ _ _ high _ _ _ hh hhigh hl hlow _ ih =>
    have hnotlow : isLowSurrogate high = false := by
      simp only [isHighSurrogate, Bool.and_eq_true, decide_eq_true_eq] at hhigh
      simp only [isLowSurrogate, Bool.and_eq_false_iff, decide_eq_false_iff_not]
      omega
    refine readString_escape ?_ ih
    simp [readEscape, readHex4, hh, hhigh, hnotlow, readLowSurrogate, hl, hlow]

end

/-- What may stand between the last member, or the opening brace, and the next key. -/
inductive Leads : Bool → List Char → Prop where
  | first : Leads true []
  | comma {w : List Char} (hw : IsBlanks w) : Leads false (w ++ [','])

section

variable {first : Bool} {lead name rest : List Char} {m : MemberText}

theorem readKey_end (first : Bool) (rest : List Char) :
    readKey first ('\x7d' :: rest) = .ok (.none, rest) := by
  simp [readKey, skipBlanks, isBlank]

theorem readKey_append {w : List Char} (hw : IsBlanks w) (first : Bool) (cs : List Char) :
    readKey first (w ++ cs) = readKey first cs := by
  rw [readKey, readKey, skipBlanks_append hw]

theorem readKey_member (hlead : Leads first lead) (hm : m.IsSpaced) (hkey : Spells name m.key)
    (rest : List Char) :
    readKey first (lead ++ (m.text ++ rest)) =
      .ok (.key (String.ofList name), m.fromKey ++ rest) := by
  have hstring := readString_append hkey (m.fromKey ++ rest)
  have hblanks : skipBlanks (m.text ++ rest) = '"' :: (m.key ++ '"' :: (m.fromKey ++ rest)) := by
    simp only [MemberText.text, List.append_assoc, List.cons_append]
    rw [skipBlanks_append hm.before, skipBlanks_cons rfl]
  cases hlead with
  | first => simp [readKey, hblanks, hstring]
  | comma hw =>
    rw [List.append_assoc, readKey_append hw, List.singleton_append, readKey, skipBlanks_cons rfl]
    simp [hblanks, hstring]

theorem skipColon_fromKey (hm : m.IsSpaced) (rest : List Char) :
    skipColon (m.fromKey ++ rest) = .ok (m.beforeValue ++ (m.value ++ (m.behind ++ rest))) := by
  simp only [MemberText.fromKey, List.append_assoc, List.cons_append]
  exact skipColon_append hm.beforeColon _

namespace RecordType

variable {δ α : Type} {t : RecordType δ} {seen : List String} {d : δ} {key : String}

theorem putMember_field {read : Reader α} {set : δ → α → δ} {a : α}
    (hfind : t.fields.find? (·.name == key) = some (.of key read set))
    (hseen : seen.contains key = false) (hm : m.IsSpaced) (hvalue : Accepts read m.value a)
    (hrest : Detached rest) :
    t.putMember (seen, d) key (m.fromKey ++ rest) =
      .ok ((key :: seen, set d a), m.behind ++ rest) := by
  have hread := hvalue m.beforeValue (m.behind ++ rest) hm.beforeValue (hrest.append hm.behind)
  simp only [putMember, hfind, hseen, skipColon_fromKey hm]
  simp [Field.of, hread]

/-- A field that comes again is a fault before its value is looked at. -/
theorem putMember_again {field : Field δ} (hfind : t.fields.find? (·.name == key) = some field)
    (hseen : seen.contains key = true) (cs : List Char) :
    t.putMember (seen, d) key cs =
      .error (.before (.duplicateField key) (behindBrace cs)) := by
  simp only [putMember, hfind, hseen, if_true]

theorem putMember_other (hfind : t.fields.find? (·.name == key) = none) (hm : m.IsSpaced)
    (hvalue : Derives .value m.value) (hrest : Detached rest) :
    t.putMember (seen, d) key (m.fromKey ++ rest) = .ok ((seen, d), m.behind ++ rest) := by
  have hskip := skipValue_append hm.beforeValue hvalue (hrest.append hm.behind)
  simp only [putMember, hfind, skipColon_fromKey hm, hskip]

end RecordType

end

end ResilientProxy.Json
