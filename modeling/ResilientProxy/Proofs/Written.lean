import ResilientProxy.Json.Writer
import ResilientProxy.Proofs.Members

/-!
# Written JSON is read back

A number, a string and an object that were written are read back to what they were written from, and
the reader stops right behind them. For an object this says how one member after the other goes into
what is read so far.
-/

namespace ResilientProxy.Json

/-- Whether a character may stand behind a value in an object. -/
def endsMember (c : Char) : Bool := c == ',' || c == '\x7d'

/-- Wherever the text `v` stands in an object, reading it gives `a` and stops behind it. -/
def ReadsBack {α : Type} (read : Reader α) (v : List Char) (a : α) : Prop :=
  ∀ c rest, endsMember c = true → read (v ++ c :: rest) = .ok (a, c :: rest)

section

variable {n : Nat} {c : Char} {cs ds rest : List Char}

theorem detached_of_endsMember (h : endsMember c = true) : Detached (c :: cs) := by
  obtain rfl | rfl : c = ',' ∨ c = '\x7d' := by simpa [endsMember] using h
  · exact detached_comma cs
  · exact detached_brace cs

theorem Accepts.readsBack {α : Type} {read : Reader α} {v : List Char} {a : α}
    (h : Accepts read v a) : ReadsBack read v a :=
  fun _ _ hc => h [] _ isBlanks_nil (detached_of_endsMember hc)

/-- Digits taken onto a number do not make it smaller. -/
theorem le_ofDigitChars (ds : List Char) (n : Nat) : n ≤ Nat.ofDigitChars 10 ds n := by
  induction ds generalizing n with
  | nil => simp
  | cons d ds ih =>
    rw [Nat.ofDigitChars_cons]
    have h := ih (10 * n + (d.toNat - '0'.toNat))
    omega

theorem takeDigits_append (limit : Nat) (hds : ∀ d ∈ ds, d.isDigit = true)
    (hlimit : Nat.ofDigitChars 10 ds n < limit) (hrest : startsWithDigit rest = false) :
    takeDigits limit n (ds ++ rest) = (Nat.ofDigitChars 10 ds n, rest) := by
  induction ds generalizing n with
  | nil =>
    cases rest with
    | nil => rfl
    | cons c rest =>
      have hc : c.isDigit = false := hrest
      simp [takeDigits, hc]
  | cons d ds ih =>
    rw [List.forall_mem_cons] at hds
    rw [Nat.ofDigitChars_cons] at hlimit ⊢
    have hvalue : n * 10 + digitValue d = 10 * n + (d.toNat - '0'.toNat) := by
      rw [digitValue, Nat.mul_comm]
    have hle := le_ofDigitChars ds (10 * n + (d.toNat - '0'.toNat))
    rw [List.cons_append, takeDigits, hvalue, if_pos ⟨hds.1, by omega⟩]
    exact ih hds.2 hlimit

theorem isDigit_of_mem_writeNat (h : c ∈ writeNat n) : c.isDigit = true :=
  Nat.isDigit_of_mem_toDigits (by decide) (by decide) h

/-- Only zero is written with a zero in front. -/
theorem exists_writeNat_eq_cons (h : 0 < n) : ∃ c ds, writeNat n = c :: ds ∧ c ≠ '0' := by
  have hdigit : ∀ m < 10, 0 < m → m.digitChar ≠ '0' := by decide
  induction n using Nat.strongRecOn with
  | ind n ih =>
    by_cases hn : n < 10
    · exact ⟨n.digitChar, [], Nat.toDigits_of_lt_base hn, hdigit n hn h⟩
    · obtain ⟨c, ds, hds, hc⟩ := ih (n / 10) (by omega) (by omega)
      refine ⟨c, ds ++ [(n % 10).digitChar], ?_, hc⟩
      rw [writeNat] at hds
      rw [writeNat, Nat.toDigits_of_base_le (by decide) (by omega), hds, List.cons_append]

theorem readNumber_writeNat (hn : n < UInt64.size) (hrest : Detached rest) :
    readNumber false (writeNat n ++ rest) = .ok (.natural (.ofNat n), rest) := by
  obtain ⟨hdigit, hfloat⟩ := hrest
  by_cases h0 : n = 0
  · subst h0
    simp [writeNat, readNumber, hdigit, hfloat, integer]
  · obtain ⟨c, ds, hds, hc⟩ := exists_writeNat_eq_cons (Nat.pos_of_ne_zero h0)
    have hdigits : ∀ d ∈ writeNat n, d.isDigit = true := fun _ => isDigit_of_mem_writeNat
    have hvalue : Nat.ofDigitChars 10 (writeNat n) 0 = n := Nat.ofDigitChars_ten_toDigits
    have htake : takeDigits significandLimit 0 (writeNat n ++ rest) = (n, rest) := by
      have h := takeDigits_append significandLimit (n := 0) hdigits
        (by rwa [hvalue]) hdigit
      rwa [hvalue] at h
    rw [hds, List.cons_append] at htake ⊢
    have hcd : c.isDigit = true := hdigits c (by simp [hds])
    simp [readNumber, hc, hcd, htake, hdigit, hfloat, integer]

/-- A number starts with a digit, so no blanks are skipped in front of it. -/
theorem exists_writeNat_append (n : Nat) (rest : List Char) :
    ∃ c cs, writeNat n ++ rest = c :: cs ∧ c.isDigit = true ∧ skipBlanks (c :: cs) = c :: cs := by
  cases hn : writeNat n with
  | nil => exact absurd hn Nat.toDigits_ne_nil
  | cons c ds =>
    have hc : c.isDigit = true := isDigit_of_mem_writeNat (n := n) (by simp [hn])
    exact ⟨c, ds ++ rest, rfl, hc, skipBlanks_cons (isBlank_of_isDigit hc)⟩

theorem accepts_unsigned (expected : String) {limit : Nat} (hn : n < limit)
    (hlimit : limit ≤ UInt64.size) :
    Accepts (readUnsigned expected limit) (writeNat n) (.ofNat n) := by
  intro w rest hw hrest
  have hsize : n < UInt64.size := Nat.lt_of_lt_of_le hn hlimit
  have hnumber := readNumber_writeNat hsize hrest
  obtain ⟨d, ds, hds, hd, hskip⟩ := exists_writeNat_append n rest
  rw [hds] at hnumber ⊢
  have hvalue : (UInt64.ofNat n).toNat = n := UInt64.toNat_ofNat_of_lt' hsize
  simp [readUnsigned, skipBlanks_append hw, hskip, ne_of_isDigit hd, hd, hnumber, hvalue, hn]

/-- A number is not taken for null. -/
theorem Accepts.optional {α : Type} {read : Reader α} {a : α} (h : Accepts read (writeNat n) a) :
    Accepts (readOptional read) (writeNat n) (some a) := by
  intro w rest hw hrest
  have hread : read (writeNat n ++ rest) = .ok (a, rest) := h [] rest isBlanks_nil hrest
  obtain ⟨d, ds, hds, hd, hskip⟩ := exists_writeNat_append n rest
  rw [hds] at hread ⊢
  simp [readOptional, skipBlanks_append hw, hskip, ne_of_isDigit hd, hread]

theorem accepts_null {α : Type} (read : Reader α) :
    Accepts (readOptional read) ['n', 'u', 'l', 'l'] none := by
  intro w rest hw _
  simp [readOptional, skipBlanks_append hw, skipBlanks_cons, isBlank, skipLiteral]

theorem hexValue4?_control (h : n < 0x20) :
    hexValue4? '0' '0' (Nat.digitChar (n / 16)) (Nat.digitChar (n % 16)) = some n := by
  have hall : ∀ m < 0x20,
      hexValue4? '0' '0' (Nat.digitChar (m / 16)) (Nat.digitChar (m % 16)) = some m := by decide
  exact hall n h

/-- A character is spelled as it is written. -/
theorem spells_writeChar (c : Char) (h : Spells ds cs) : Spells (c :: ds) (writeChar c ++ cs) := by
  rw [writeChar]
  split
  · rename_i hc
    exact .escape (by rw [simpleEscape?, if_pos (hc.elim .inl fun hc => .inr (.inl hc))]) h
  · rename_i hplain
    -- the control characters with a letter of their own
    split
    · exact .escape (‹c = _› ▸ rfl) h
    split
    · exact .escape (‹c = _› ▸ rfl) h
    split
    · exact .escape (‹c = _› ▸ rfl) h
    split
    · exact .escape (‹c = _› ▸ rfl) h
    split
    · exact .escape (‹c = _› ▸ rfl) h
    split
    · rename_i hc
      have hlow : isLowSurrogate c.toNat = false := by
        simp only [isLowSurrogate, Bool.and_eq_false_iff, decide_eq_false_iff_not]
        omega
      have hhigh : isHighSurrogate c.toNat = false := by
        simp only [isHighSurrogate, Bool.and_eq_false_iff, decide_eq_false_iff_not]
        omega
      have hspelled := Spells.codePoint (hexValue4?_control hc) hlow hhigh h
      rwa [Char.ofNat_toNat] at hspelled
    · obtain ⟨hq, hb⟩ := not_or.mp hplain
      exact .plain ⟨hq, hb, Nat.not_lt.mp ‹_›⟩ h

theorem spells_written (cs : List Char) : Spells cs (cs.flatMap writeChar) := by
  induction cs with
  | nil => exact .nil
  | cons c cs ih =>
    rw [List.flatMap_cons]
    exact spells_writeChar c ih

theorem readsBack_text (s : String) : ReadsBack readText (writeText s) s := by
  intro c rest _
  have h := readString_append (spells_written s.toList) (c :: rest)
  simp [writeText, readText, skipBlanks, isBlank, h]

theorem readsBack_boolean (b : Bool) : ReadsBack readBoolean (writeBoolean b) b := by
  intro c rest _
  cases b <;> simp [writeBoolean, readBoolean, skipBlanks, isBlank, skipLiteral]

end

/-- The written members of an object behind the first. -/
def writeRest (ms : List (String × List Char)) : List Char :=
  ms.flatMap fun m => ',' :: writeMember m

/-- Reading the member `m` takes what is read so far from `acc` to `acc'`. -/
def Takes {α : Type} (put : α → String → Reader α) (acc : α) (m : String × List Char)
    (acc' : α) : Prop :=
  ReadsBack (put acc m.1) (':' :: m.2) acc'

/-- Reading the members one after the other takes what is read so far from `acc` to `acc'`. -/
inductive TakesAll {α : Type} (put : α → String → Reader α) :
    α → List (String × List Char) → α → Prop where
  | nil {acc : α} : TakesAll put acc [] acc
  | cons {acc acc' acc'' : α} {m : String × List Char} {ms : List (String × List Char)}
      (h : Takes put acc m acc') (hs : TakesAll put acc' ms acc'') :
    TakesAll put acc (m :: ms) acc''

section

variable {α : Type} {put : α → String → Reader α} {acc acc' acc'' : α} {m : String × List Char}
  {ms ms' : List (String × List Char)}

theorem TakesAll.append (h : TakesAll put acc ms acc') (h' : TakesAll put acc' ms' acc'') :
    TakesAll put acc (ms ++ ms') acc'' := by
  induction h with
  | nil => exact h'
  | cons hm _ ih => exact .cons hm (ih h')

theorem writeObject_cons (m : String × List Char) (ms : List (String × List Char)) :
    writeObject (m :: ms) = '\x7b' :: (writeMember m ++ (writeRest ms ++ ['\x7d'])) := by
  have hall : (((m :: ms).map writeMember).intersperse [',']).flatten =
      writeMember m ++ writeRest ms := by
    induction ms generalizing m with
    | nil => simp [writeRest]
    | cons m' ms ih =>
      have h := ih m'
      simp only [List.map_cons] at h ⊢
      simp [List.intersperse, h, writeRest]
  rw [writeObject, hall, List.append_assoc]

theorem readKey_written {first : Bool} {lead : List Char} (hlead : Leads first lead)
    (m : String × List Char) (rest : List Char) :
    readKey first (lead ++ (writeMember m ++ rest)) = .ok (.key m.1, ':' :: m.2 ++ rest) := by
  have hspaced : MemberText.IsSpaced ⟨[], m.1.toList.flatMap writeChar, [], [], m.2, []⟩ :=
    ⟨isBlanks_nil, isBlanks_nil, isBlanks_nil, isBlanks_nil⟩
  have h := readKey_member hlead hspaced (spells_written m.1.toList) rest
  simpa [MemberText.text, MemberText.fromKey, writeMember, writeText] using h

theorem readKey_first (m : String × List Char) (rest : List Char) :
    readKey true (writeMember m ++ rest) = .ok (.key m.1, ':' :: m.2 ++ rest) :=
  readKey_written .first m rest

theorem readKey_next (m : String × List Char) (rest : List Char) :
    readKey false (',' :: writeMember m ++ rest) = .ok (.key m.1, ':' :: m.2 ++ rest) :=
  readKey_written (.comma isBlanks_nil) m rest

/-- Behind a member comes the next one or the end of the object. -/
theorem Takes.put_eq (h : Takes put acc m acc') (ms : List (String × List Char))
    (rest : List Char) :
    put acc m.1 (':' :: m.2 ++ (writeRest ms ++ '\x7d' :: rest)) =
      .ok (acc', writeRest ms ++ '\x7d' :: rest) := by
  cases ms with
  | nil => exact h '\x7d' rest rfl
  | cons m' ms =>
    have hnext : writeRest (m' :: ms) ++ '\x7d' :: rest =
        ',' :: (writeMember m' ++ (writeRest ms ++ '\x7d' :: rest)) := by simp [writeRest]
    rw [hnext]
    exact h ',' _ rfl

theorem TakesAll.readMembersWithin (h : TakesAll put acc ms acc') {count : Nat}
    (hcount : ms.length < count) (rest : List Char) :
    readMembersWithin put count false acc (writeRest ms ++ '\x7d' :: rest) = .ok (acc', rest) := by
  induction h generalizing count with
  | nil =>
    obtain ⟨count, rfl⟩ := Nat.exists_eq_add_one_of_ne_zero (Nat.ne_zero_of_lt hcount)
    simp [writeRest, Json.readMembersWithin, readKey_end]
  | @cons acc acc' acc'' m ms hm _ ih =>
    obtain ⟨count, rfl⟩ := Nat.exists_eq_add_one_of_ne_zero (Nat.ne_zero_of_lt hcount)
    have hnext : writeRest (m :: ms) ++ '\x7d' :: rest =
        ',' :: writeMember m ++ (writeRest ms ++ '\x7d' :: rest) := by simp [writeRest]
    rw [hnext, Json.readMembersWithin, readKey_next]
    simp only [hm.put_eq ms rest]
    exact ih (by simpa using hcount)

theorem length_le_length_writeRest (ms : List (String × List Char)) :
    ms.length ≤ (writeRest ms).length := by
  induction ms with
  | nil => simp
  | cons m ms ih =>
    simp only [writeRest, List.flatMap_cons, List.length_cons, List.length_append] at ih ⊢
    omega

/-- From a written object all its members are read, whatever stands behind it. -/
theorem TakesAll.readMembers (h : TakesAll put acc ms acc') :
    ∃ cs, writeObject ms = '\x7b' :: cs ∧
      ∀ rest, readMembers put acc (cs ++ rest) = .ok (acc', rest) := by
  cases h with
  | nil =>
    refine ⟨['\x7d'], rfl, fun rest => ?_⟩
    simp [Json.readMembers, Json.readMembersWithin, readKey_end]
  | @cons _ _ _ m ms hm hs =>
    refine ⟨_, writeObject_cons m ms, fun rest => ?_⟩
    have hlen := length_le_length_writeRest ms
    simp only [List.append_assoc, List.singleton_append]
    rw [Json.readMembers, Json.readMembersWithin, readKey_first]
    simp only [hm.put_eq ms rest]
    refine hs.readMembersWithin ?_ rest
    simp only [List.length_append, List.length_cons]
    omega

end

namespace RecordType

variable {δ α : Type} {t : RecordType δ}

/-- The written member of a field sets the field, unless it has come before. -/
theorem takes_field {name : String} {read : Reader α} {set : δ → α → δ} {seen : List String}
    {d : δ} {v : List Char} {a : α}
    (hfind : t.fields.find? (·.name == name) = some (.of name read set))
    (hseen : seen.contains name = false) (hread : ReadsBack read v a) :
    Takes t.putMember (seen, d) (name, v) (name :: seen, set d a) := by
  intro c rest hc
  have h := hread c rest hc
  have hcolon : skipColon (':' :: v ++ c :: rest) = .ok (v ++ c :: rest) := by
    simp [skipColon, skipBlanks, isBlank]
  simp only [putMember, hfind, hseen, hcolon]
  simp [Field.of, h]

/-- If its members take the default to `d`, the text of an object is the record `d`. -/
theorem parse_writeObject {ms : List (String × List Char)} {seen : List String} {d : δ}
    (h : TakesAll t.putMember ([], t.default) ms (seen, d)) :
    t.parse (String.ofList (writeObject ms)) = .ok d := by
  obtain ⟨cs, hcs, hmembers⟩ := h.readMembers
  have hblank : skipBlanks ('\x7b' :: cs) = '\x7b' :: cs := by simp [skipBlanks, isBlank]
  have hall := hmembers []
  rw [List.append_nil] at hall
  have hread : t.read ('\x7b' :: cs) = .ok (d, []) := by
    simp only [read, hblank, if_pos, hall]
  simp [parse, hcs, hread, skipBlanks]

end RecordType

end ResilientProxy.Json
