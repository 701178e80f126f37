import Mathlib.Data.List.Duplicate
import ResilientProxy.Proofs.ConfigRoundTrip
import ResilientProxy.Proofs.Members

/-!
# Which configuration a text gives

A text gives a configuration by the fields that it sets, and by nothing else: not by their order,
the blanks around them, or members of other names. A text that sets a field twice gives none. The
induction is on the members of the text; what is set so far is all that one member leaves behind
for the next.
-/

namespace ResilientProxy.Config

open Json

/-- The fields of a configuration. -/
inductive FieldName where
  | maxOpenRetries
  | maxCallRetries
  | reconnectWaitSecs
  | retryTimeSlotMs
  | callArenaSize
  | callTimeoutMs
  | closeTimeoutMs
  deriving DecidableEq, Repr

namespace FieldName

def key : FieldName → String
  | maxOpenRetries => "max_open_retries"
  | maxCallRetries => "max_call_retries"
  | reconnectWaitSecs => "reconnect_wait_secs"
  | retryTimeSlotMs => "retry_time_slot_ms"
  | callArenaSize => "call_arena_size"
  | callTimeoutMs => "call_timeout_ms"
  | closeTimeoutMs => "close_timeout_ms"

def Value : FieldName → Type
  | maxOpenRetries | maxCallRetries => UInt32
  | reconnectWaitSecs | retryTimeSlotMs | callArenaSize => UInt64
  | callTimeoutMs | closeTimeoutMs => Option UInt64

def get : (f : FieldName) → Config → f.Value
  | maxOpenRetries, c => c.maxOpenRetries
  | maxCallRetries, c => c.maxCallRetries
  | reconnectWaitSecs, c => c.reconnectWaitSecs
  | retryTimeSlotMs, c => c.retryTimeSlotMs
  | callArenaSize, c => c.callArenaSize
  | callTimeoutMs, c => c.callTimeoutMs
  | closeTimeoutMs, c => c.closeTimeoutMs

def set : (f : FieldName) → Config → f.Value → Config
  | maxOpenRetries, c, a => { c with maxOpenRetries := a }
  | maxCallRetries, c, a => { c with maxCallRetries := a }
  | reconnectWaitSecs, c, a => { c with reconnectWaitSecs := a }
  | retryTimeSlotMs, c, a => { c with retryTimeSlotMs := a }
  | callArenaSize, c, a => { c with callArenaSize := a }
  | callTimeoutMs, c, a => { c with callTimeoutMs := a }
  | closeTimeoutMs, c, a => { c with closeTimeoutMs := a }

def optionalText : Option UInt64 → List Char
  | none => ['n', 'u', 'l', 'l']
  | some a => writeNat a.toNat

/-- The text of a value: a decimal integer, or null for a timeout that is not set. Zero has this one
text, since `-0` is read as floating point. -/
def text : (f : FieldName) → f.Value → List Char
  | maxOpenRetries, a | maxCallRetries, a => writeNat (UInt32.toNat a)
  | reconnectWaitSecs, a | retryTimeSlotMs, a | callArenaSize, a => writeNat (UInt64.toNat a)
  | callTimeoutMs, a | closeTimeoutMs, a => optionalText a

def reader : (f : FieldName) → Reader f.Value
  | maxOpenRetries | maxCallRetries => unsigned32
  | reconnectWaitSecs | retryTimeSlotMs => unsigned64
  | callArenaSize => byteSize
  | callTimeoutMs | closeTimeoutMs => readOptional unsigned64

def all : List FieldName :=
  [maxOpenRetries, maxCallRetries, reconnectWaitSecs, retryTimeSlotMs, callArenaSize,
    callTimeoutMs, closeTimeoutMs]

def field (f : FieldName) : Json.Field Config := .of f.key f.reader f.set

variable {f g : FieldName}

@[simp] theorem get_set (c : Config) (a : f.Value) : f.get (f.set c a) = a := by
  cases f <;> rfl

theorem get_set_of_ne (h : g ≠ f) (c : Config) (a : f.Value) : g.get (f.set c a) = g.get c := by
  cases f <;> cases g <;> first | rfl | exact absurd rfl h

theorem ext_get {c c' : Config} (h : ∀ f : FieldName, f.get c = f.get c') : c = c' := by
  cases c
  cases c'
  rw [Config.mk.injEq]
  exact ⟨h maxOpenRetries, h maxCallRetries, h reconnectWaitSecs, h retryTimeSlotMs,
    h callArenaSize, h callTimeoutMs, h closeTimeoutMs⟩

theorem key_injective : Function.Injective key := by
  intro f g h
  cases f <;> cases g <;> first | rfl | exact absurd h (by decide)

theorem fields_eq : recordType.fields = all.map field := rfl

theorem find?_key (f : FieldName) :
    recordType.fields.find? (·.name == f.key) = some f.field := by
  cases f <;> rfl

theorem find?_eq_none {name : String} (h : ∀ f : FieldName, f.key ≠ name) :
    recordType.fields.find? (·.name == name) = none := by
  rw [fields_eq, List.find?_eq_none]
  intro field hfield
  obtain ⟨f, -, rfl⟩ := List.mem_map.mp hfield
  simpa [FieldName.field, Json.Field.of] using h f

theorem spells_key (f : FieldName) : Spells f.key.toList f.key.toList := by
  cases f <;> exact spells_written (key _).toList

theorem accepts_optionalText (a : Option UInt64) :
    Accepts (readOptional unsigned64) (optionalText a) a := by
  cases a with
  | none => exact accepts_null _
  | some a => exact (accepts_word "u64" a).optional

theorem accepts_text (f : FieldName) (a : f.Value) : Accepts f.reader (f.text a) a := by
  cases f with
  | maxOpenRetries | maxCallRetries => exact accepts_unsigned32 a
  | reconnectWaitSecs | retryTimeSlotMs | callArenaSize => exact accepts_word _ a
  | callTimeoutMs | closeTimeoutMs => exact accepts_optionalText a

end FieldName

/-- What a member of a text says: the value of a field, or something under another name. -/
inductive Entry where
  | setting (f : FieldName) (a : f.Value)
  | other (name : String)

/-- The texts of an entry. A key may be spelled with escapes, and what stands under another name
may be any value. -/
inductive Writes : Entry → MemberText → Prop where
  | setting {f : FieldName} {a : f.Value} {m : MemberText} (hm : m.IsSpaced)
      (hkey : Spells f.key.toList m.key) (hvalue : m.value = f.text a) : Writes (.setting f a) m
  | other {name : String} {m : MemberText} (hm : m.IsSpaced) (hname : ∀ f : FieldName, f.key ≠ name)
      (hkey : Spells name.toList m.key) (hvalue : Derives .value m.value) : Writes (.other name) m

inductive Lists : List Entry → List Char → Prop where
  | one {e : Entry} {m : MemberText} (h : Writes e m) : Lists [e] m.text
  | cons {e : Entry} {m : MemberText} {es : List Entry} {cs : List Char} (h : Writes e m)
      (hs : Lists es cs) : Lists (e :: es) (m.text ++ ',' :: cs)

/-- The texts that are one object with these entries in this order. -/
inductive IsObject : List Entry → List Char → Prop where
  | empty {before inside behind : List Char} (hbefore : IsBlanks before) (hinside : IsBlanks inside)
      (hbehind : IsBlanks behind) : IsObject [] (before ++ '\x7b' :: (inside ++ '\x7d' :: behind))
  | members {before behind cs : List Char} {es : List Entry} (hbefore : IsBlanks before)
      (hbehind : IsBlanks behind) (h : Lists es cs) :
      IsObject es (before ++ '\x7b' :: (cs ++ '\x7d' :: behind))

def Entry.field? : Entry → Option FieldName
  | .setting f _ => some f
  | .other _ => none

/-- The fields that are set, as often as they are. -/
def fieldsSet (es : List Entry) : List FieldName := es.filterMap Entry.field?

/-- Whether `c` has the values that are set, and the default for every other field. -/
structure Describes (es : List Entry) (c : Config) : Prop where
  set : ∀ f a, .setting f a ∈ es → f.get c = a
  unset : ∀ f, f ∉ fieldsSet es → f.get c = f.get default

section

variable {es : List Entry} {e : Entry} {f : FieldName} {c c' : Config}
  {cs : List Char}

@[simp] theorem fieldsSet_setting (f : FieldName) (a : f.Value) (es : List Entry) :
    fieldsSet (.setting f a :: es) = f :: fieldsSet es := rfl

@[simp] theorem fieldsSet_other (name : String) (es : List Entry) :
    fieldsSet (.other name :: es) = fieldsSet es := rfl

theorem mem_fieldsSet : f ∈ fieldsSet es ↔ ∃ a, Entry.setting f a ∈ es := by
  rw [fieldsSet, List.mem_filterMap]
  constructor
  · rintro ⟨e, he, hf⟩
    cases e with
    | setting g a =>
      obtain rfl : g = f := Option.some.inj hf
      exact ⟨a, he⟩
    | other name => exact nomatch hf
  · rintro ⟨a, ha⟩
    exact ⟨_, ha, rfl⟩

theorem Describes.unique (h : Describes es c) (h' : Describes es c') : c = c' := by
  refine FieldName.ext_get fun f => ?_
  by_cases hf : f ∈ fieldsSet es
  · obtain ⟨a, ha⟩ := mem_fieldsSet.mp hf
    rw [h.set f a ha, h'.set f a ha]
  · rw [h.unset f hf, h'.unset f hf]

/-- Takes an entry into a configuration, of which the fields in the list are set already. A field
that comes again is in the way. -/
def Entry.take (acc : List FieldName × Config) : Entry → Except FieldName (List FieldName × Config)
  | .setting f a => if f ∈ acc.1 then .error f else .ok (f :: acc.1, f.set acc.2 a)
  | .other _ => .ok acc

def takeAll (acc : List FieldName × Config) :
    List Entry → Except FieldName (List FieldName × Config)
  | [] => .ok acc
  | e :: es =>
    match e.take acc with
    | .error f => .error f
    | .ok acc => takeAll acc es

theorem takeAll_setting (f : FieldName) (a : f.Value) (acc : List FieldName × Config)
    (es : List Entry) :
    takeAll acc (.setting f a :: es) =
      if f ∈ acc.1 then .error f else takeAll (f :: acc.1, f.set acc.2 a) es := by
  by_cases hf : f ∈ acc.1 <;> simp [takeAll, Entry.take, hf]

/-- Where all entries are taken, each field is set once, and what is not set is left as it is. -/
theorem nodup_of_takeAll {acc acc' : List FieldName × Config} (h : takeAll acc es = .ok acc') :
    (fieldsSet es).Nodup ∧ (∀ f ∈ acc.1, f ∉ fieldsSet es) ∧
      (∀ f a, .setting f a ∈ es → f.get acc'.2 = a) ∧
      ∀ f, f ∉ fieldsSet es → f.get acc'.2 = f.get acc.2 := by
  induction es generalizing acc with
  | nil =>
    cases h
    simp [fieldsSet]
  | cons e es ih =>
    cases e with
    | other name =>
      simpa using ih h
    | setting g b =>
      rw [takeAll_setting] at h
      split at h
      · exact nomatch h
      rename_i hg
      obtain ⟨hnodup, hseen, hset, hleft⟩ := ih h
      have hnot : g ∉ fieldsSet es := hseen g (by simp)
      rw [fieldsSet_setting]
      refine ⟨List.nodup_cons.mpr ⟨hnot, hnodup⟩, fun f hf => ?_, fun f a ha => ?_, fun f hf => ?_⟩
      · have hne : f ≠ g := fun heq => hg (heq ▸ hf)
        simp [hne, hseen f (List.mem_cons_of_mem _ hf)]
      · obtain heq | ha := List.mem_cons.mp ha
        · cases heq
          rw [hleft g hnot]
          simp
        · exact hset f a ha
      · obtain ⟨hne, hf⟩ := not_or.mp (mt List.mem_cons.mpr hf)
        rw [hleft f hf]
        exact FieldName.get_set_of_ne hne _ _

theorem duplicate_of_takeAll {acc : List FieldName × Config} (h : takeAll acc es = .error f) :
    f ∈ acc.1 ∧ f ∈ fieldsSet es ∨ List.Duplicate f (fieldsSet es) := by
  induction es generalizing acc with
  | nil => cases h
  | cons e es ih =>
    cases e with
    | other name => exact ih h
    | setting g b =>
      rw [takeAll_setting] at h
      rw [fieldsSet_setting]
      split at h
      · obtain rfl : g = f := Except.error.inj h
        exact .inl ⟨‹_›, by simp⟩
      · obtain ⟨hf, hmem⟩ | hdup := ih h
        · obtain rfl | hf := List.mem_cons.mp hf
          · exact .inr (.cons_mem hmem)
          · exact .inl ⟨hf, List.mem_cons_of_mem _ hmem⟩
        · exact .inr (hdup.cons_duplicate)

/-- What the reader keeps of the fields that are set and the configuration so far. -/
def kept (acc : List FieldName × Config) : List String × Config := (acc.1.map FieldName.key, acc.2)

/-- The answer of a reader that takes entries and gets to `rest`. -/
def Answers (rest : List Char) (r : Except Fault ((List String × Config) × List Char)) :
    Except FieldName (List FieldName × Config) → Prop
  | .ok acc => r = .ok (kept acc, rest)
  | .error f => ∃ tail, r = .error (.before (.duplicateField f.key) tail)

def Entry.key : Entry → String
  | .setting f _ => f.key
  | .other name => name

theorem writes_setting {w : List Char} (hw : IsBlanks w) (f : FieldName) (a : f.Value) :
    Writes (.setting f a) ⟨w, f.key.toList, [], [], f.text a, []⟩ :=
  .setting ⟨hw, isBlanks_nil, isBlanks_nil, isBlanks_nil⟩ f.spells_key rfl

theorem Writes.isSpaced {m : MemberText} (h : Writes e m) : m.IsSpaced := by
  cases h with
  | setting hm => exact hm
  | other hm => exact hm

theorem Writes.spells {m : MemberText} (h : Writes e m) : Spells e.key.toList m.key := by
  cases h with
  | setting _ hkey => exact hkey
  | other _ _ hkey => exact hkey

theorem contains_map_key (f : FieldName) (seen : List FieldName) :
    (seen.map FieldName.key).contains f.key = decide (f ∈ seen) := by
  simp [List.mem_map_of_injective FieldName.key_injective]

/-- One member is taken as its entry is. -/
theorem Writes.putMember {m : MemberText} {rest : List Char} (h : Writes e m)
    (hrest : Detached rest) (acc : List FieldName × Config) :
    Answers (m.behind ++ rest)
      (recordType.putMember (kept acc) e.key (m.fromKey ++ rest)) (e.take acc) := by
  cases h with
  | @setting f a _ hm hkey hvalue =>
    have haccepts : Accepts f.reader m.value a := hvalue ▸ f.accepts_text a
    have hcontains := contains_map_key f acc.1
    rw [Entry.take]
    split
    · rename_i hf
      rw [decide_eq_true hf] at hcontains
      exact ⟨_, RecordType.putMember_again f.find?_key hcontains _⟩
    · rename_i hf
      rw [decide_eq_false hf] at hcontains
      exact RecordType.putMember_field f.find?_key hcontains hm haccepts hrest
  | other hm hname hkey hvalue =>
    exact RecordType.putMember_other (FieldName.find?_eq_none hname) hm hvalue hrest

/-- A member is either in the way or the reader goes on behind it. -/
theorem Writes.readMembersWithin {m : MemberText} {first : Bool} {lead rest : List Char}
    (h : Writes e m) (hlead : Leads first lead) (hrest : Detached rest)
    (acc : List FieldName × Config) (count : Nat) :
    let r := Json.readMembersWithin recordType.putMember (count + 1) first (kept acc)
      (lead ++ (m.text ++ rest))
    (∃ f tail, e.take acc = .error f ∧ r = .error (.before (.duplicateField f.key) tail)) ∨
    ∃ acc', e.take acc = .ok acc' ∧
      r = Json.readMembersWithin recordType.putMember count false (kept acc') (m.behind ++ rest) := by
  have hkey := readKey_member hlead h.isSpaced h.spells rest
  have hput := h.putMember hrest acc
  rw [String.ofList_toList] at hkey
  cases htake : e.take acc with
  | error f =>
    rw [htake] at hput
    obtain ⟨tail, hput⟩ := hput
    refine .inl ⟨f, tail, rfl, ?_⟩
    simp only [Json.readMembersWithin, hkey, hput]
  | ok acc' =>
    rw [htake] at hput
    have hput : recordType.putMember (kept acc) e.key (m.fromKey ++ rest) =
        .ok (kept acc', m.behind ++ rest) := hput
    refine .inr ⟨acc', rfl, ?_⟩
    simp only [Json.readMembersWithin, hkey, hput]

theorem Lists.readMembersWithin {first : Bool} {lead : List Char} {count : Nat} (h : Lists es cs)
    (hlead : Leads first lead) (hcount : es.length < count) (acc : List FieldName × Config)
    (rest : List Char) :
    Answers rest (Json.readMembersWithin recordType.putMember count first (kept acc)
      (lead ++ (cs ++ '\x7d' :: rest))) (takeAll acc es) := by
  induction h generalizing first lead count acc with
  | @one e m h =>
    obtain ⟨count, rfl⟩ := Nat.exists_eq_add_of_le' (show 2 ≤ count from hcount)
    rw [takeAll]
    obtain ⟨f, tail, htake, hread⟩ | ⟨acc', htake, hread⟩ :=
      h.readMembersWithin hlead (detached_brace rest) acc (count + 1)
    · rw [htake, hread]
      exact ⟨tail, rfl⟩
    · rw [htake, hread, Json.readMembersWithin, readKey_append h.isSpaced.behind, readKey_end]
      rfl
  | @cons e m es cs h hs ih =>
    obtain ⟨count, rfl⟩ := Nat.exists_eq_add_one_of_ne_zero (Nat.ne_zero_of_lt hcount)
    rw [takeAll, List.append_assoc, List.cons_append]
    obtain ⟨f, tail, htake, hread⟩ | ⟨acc', htake, hread⟩ :=
      h.readMembersWithin hlead (detached_comma (cs ++ '\x7d' :: rest)) acc count
    · rw [htake, hread]
      exact ⟨tail, rfl⟩
    · have hnext := ih (.comma h.isSpaced.behind) (Nat.lt_of_succ_lt_succ hcount) acc'
      rw [List.append_assoc] at hnext
      rw [htake, hread]
      exact hnext

theorem Lists.length_le (h : Lists es cs) : es.length ≤ cs.length := by
  induction h with
  | @one e m h =>
    have hm := m.length_value_le
    simp only [List.length_singleton]
    omega
  | @cons e m es cs h hs ih =>
    simp only [List.length_cons, List.length_append]
    omega

/-- Behind blanks and a brace, the members of the text are taken as its entries are. -/
theorem IsObject.readMembers (h : IsObject es cs) :
    ∃ before inside behind, cs = before ++ '\x7b' :: inside ∧ IsBlanks before ∧ IsBlanks behind ∧
      Answers behind (Json.readMembers recordType.putMember ([], recordType.default) inside)
        (takeAll ([], default) es) := by
  cases h with
  | @empty before inside behind hbefore hinside hbehind =>
    refine ⟨before, _, behind, rfl, hbefore, hbehind, ?_⟩
    rw [Json.readMembers, Json.readMembersWithin, readKey_append hinside, readKey_end]
    rfl
  | @members before behind cs _ hbefore hbehind h =>
    refine ⟨before, _, behind, rfl, hbefore, hbehind, ?_⟩
    have hlength := h.length_le
    refine h.readMembersWithin .first ?_ ([], default) behind
    simp only [List.length_append, List.length_cons]
    omega

/-- The record of a text is what its entries make of the default. -/
theorem IsObject.parse {text : String} (h : IsObject es text.toList) :
    match takeAll ([], default) es with
    | .ok acc => recordType.parse text = .ok acc.2
    | .error f => ∃ tail, recordType.parse text = .error (.before (.duplicateField f.key) tail) := by
  obtain ⟨before, inside, behind, htext, hbefore, hbehind, hread⟩ := h.readMembers
  have hblanks : skipBlanks text.toList = '\x7b' :: inside := by
    rw [htext, skipBlanks_append hbefore, skipBlanks_cons rfl]
  have hend : skipBlanks behind = [] := by
    have happend := skipBlanks_append hbehind []
    rwa [List.append_nil] at happend
  cases htake : takeAll ([], default) es with
  | error f =>
    rw [htake] at hread
    obtain ⟨tail, hread⟩ := hread
    exact ⟨tail, by simp [RecordType.parse, RecordType.read, hblanks, hread]⟩
  | ok acc =>
    rw [htake] at hread
    have hread : Json.readMembers recordType.putMember ([], recordType.default) inside =
        .ok ((acc.1.map FieldName.key, acc.2), behind) := hread
    simp [RecordType.parse, RecordType.read, hblanks, hread, hend]

theorem exists_describes (hnodup : (fieldsSet es).Nodup) :
    ∃ acc, takeAll ([], default) es = .ok acc ∧ Describes es acc.2 := by
  cases htake : takeAll ([], default) es with
  | error f =>
    obtain ⟨hf, -⟩ | hdup := duplicate_of_takeAll htake
    · exact nomatch hf
    · exact absurd hnodup (List.exists_duplicate_iff_not_nodup.mp ⟨f, hdup⟩)
  | ok acc =>
    obtain ⟨-, -, hset, hleft⟩ := nodup_of_takeAll htake
    exact ⟨acc, rfl, hset, hleft⟩

/-- The configuration that the entries of a text describe is the one that its check answers for. -/
theorem ofJson_of_describes {text : String} (h : IsObject es text.toList)
    (hnodup : (fieldsSet es).Nodup) (hc : Describes es c) :
    ofJson text =
      match c.check with
      | .ok () => .ok c
      | .error e => .error e := by
  obtain ⟨acc, htake, hacc⟩ := exists_describes hnodup
  have hparse := h.parse
  simp only [htake, hacc.unique hc] at hparse
  rw [ofJson, hparse]
  dsimp only
  cases c.check <;> rfl

theorem ofJson_of_not_nodup {text : String} (h : IsObject es text.toList)
    (hnodup : ¬ (fieldsSet es).Nodup) :
    ∃ (f : FieldName) (fault : Fault), List.Duplicate f (fieldsSet es) ∧
      fault.complaint = .duplicateField f.key ∧
      ofJson text = .error (.unparsable (fault.message text.toList)) := by
  have hparse := h.parse
  cases htake : takeAll ([], default) es with
  | error f =>
    rw [htake] at hparse
    obtain ⟨tail, hparse⟩ := hparse
    obtain ⟨hf, -⟩ | hdup := duplicate_of_takeAll htake
    · exact nomatch hf
    · exact ⟨f, _, hdup, rfl, by rw [ofJson, hparse]⟩
  | ok acc => exact absurd (nodup_of_takeAll htake).1 hnodup

/-- A text that is an object gives the configuration that its entries describe, as its check answers
for it, if no field is set twice; if one is, the text cannot be read. -/
theorem text_read_by_fields :
    (∀ (es : List Entry) (text : String), IsObject es text.toList → (fieldsSet es).Nodup →
      ∃ c, Describes es c ∧ (∀ c', Describes es c' → c' = c) ∧
        (.callTimeoutMs ∉ fieldsSet es ∨ .setting .callTimeoutMs none ∈ es →
          c.callTimeoutMs = none) ∧
        (.closeTimeoutMs ∉ fieldsSet es ∨ .setting .closeTimeoutMs none ∈ es →
          c.closeTimeoutMs = none) ∧
        ofJson text =
          match c.check with
          | .ok () => .ok c
          | .error e => .error e) ∧
    (∀ (es : List Entry) (text : String), IsObject es text.toList → ¬ (fieldsSet es).Nodup →
      ∃ (f : FieldName) (fault : Fault), List.Duplicate f (fieldsSet es) ∧
        fault.complaint = .duplicateField f.key ∧
        ofJson text = .error (.unparsable (fault.message text.toList))) ∧
    (∀ (es es' : List Entry) (text text' : String), IsObject es text.toList →
      IsObject es' text'.toList → (fieldsSet es).Nodup → (fieldsSet es').Nodup →
      (∀ f a, .setting f a ∈ es ↔ .setting f a ∈ es') → ofJson text = ofJson text') := by
  refine ⟨fun es text h hnodup => ?_, fun es text => ofJson_of_not_nodup,
    fun es es' text text' h h' hnodup hnodup' hsame => ?_⟩
  · obtain ⟨⟨_, c⟩, _, hc⟩ := exists_describes hnodup
    refine ⟨c, hc, fun c' hc' => hc'.unique hc, fun hcall => ?_, fun hclose => ?_,
      ofJson_of_describes h hnodup hc⟩
    · exact hcall.elim (hc.unset .callTimeoutMs) (hc.set .callTimeoutMs none)
    · exact hclose.elim (hc.unset .closeTimeoutMs) (hc.set .closeTimeoutMs none)
  · obtain ⟨⟨_, c⟩, _, hc⟩ := exists_describes hnodup
    have hc' : Describes es' c := by
      refine ⟨fun f a ha => hc.set f a ((hsame f a).mpr ha), fun f hf => hc.unset f ?_⟩
      rw [mem_fieldsSet] at hf ⊢
      simpa only [hsame] using hf
    rw [ofJson_of_describes h hnodup hc, ofJson_of_describes h' hnodup' hc']

/-- What stands in the member of another name is no setting, and a key may be spelled with an
escape. -/
theorem text_read_by_fields_beside_other_member :
    let text := "\x7b\"note\" : \x7b\"max_call_retries\":[-9]\x7d ,\n\"call_timeout_ms\":null," ++
      "\"max_call_retries\":2\x7d"
    let text' := "\x7b\"max\\u005fcall_retries\":2,\"call_timeout_ms\":null\x7d"
    let text'' := "\x7b\"call_timeout_ms\":null,\"call_timeout_ms\":null\x7d"
    ofJson text = .ok { default with maxCallRetries := 2 } ∧ ofJson text' = ofJson text ∧
      ∃ fault : Fault, fault.complaint = .duplicateField "call_timeout_ms" ∧
        ofJson text'' = .error (.unparsable (fault.message text''.toList)) := by
  intro text text' text''
  let note : MemberText :=
    ⟨[], "note".toList, [' '], [' '], "\x7b\"max_call_retries\":[-9]\x7d".toList, [' ']⟩
  let inner : MemberText := ⟨[], "max_call_retries".toList, [], [], "[-9]".toList, []⟩
  let escaped : MemberText := ⟨[], "max\\u005fcall_retries".toList, [], [], ['2'], []⟩
  have hnine : Derives .value ['-', '9'] :=
    .negative (@IsMagnitude.mk ['9'] [] [] (.digits (by decide) ⟨by decide, by simp⟩) .none .none)
  have hinner : Derives .members inner.text :=
    .member ⟨by decide, by decide, by decide, by decide⟩
      (spells_written "max_call_retries".toList).isStringBody
      (.list (.element isBlanks_nil hnine isBlanks_nil))
  have hnote : Writes (.other "note") note :=
    .other ⟨by decide, by decide, by decide, by decide⟩ (fun f => by cases f <;> decide)
      (spells_written "note".toList) (.object hinner)
  have hescaped : Writes (.setting .maxCallRetries (2 : UInt32)) escaped :=
    .setting ⟨by decide, by decide, by decide, by decide⟩
      (.plain (by decide) (.plain (by decide) (.plain (by decide)
        (.codePoint (n := 0x5f) rfl rfl rfl (spells_written "call_retries".toList))))) rfl
  have hnull {w : List Char} (hw : IsBlanks w) := writes_setting hw .callTimeoutMs none
  have htwo := writes_setting isBlanks_nil .maxCallRetries (2 : UInt32)
  have htext : IsObject [.other "note", .setting .callTimeoutMs none,
      .setting .maxCallRetries (2 : UInt32)] text.toList := by
    rw [String.toList_append]
    exact .members isBlanks_nil isBlanks_nil
      (.cons hnote (.cons (hnull (w := ['\n']) (by decide)) (.one htwo)))
  have htext' : IsObject [.setting .maxCallRetries (2 : UInt32), .setting .callTimeoutMs none]
      text'.toList := by
    simp only [text']
    exact .members isBlanks_nil isBlanks_nil (.cons hescaped (.one (hnull isBlanks_nil)))
  have htext'' : IsObject [.setting .callTimeoutMs none, .setting .callTimeoutMs none]
      text''.toList := by
    simp only [text'']
    exact .members isBlanks_nil isBlanks_nil
      (.cons (hnull isBlanks_nil) (.one (hnull isBlanks_nil)))
  obtain ⟨hread, htwice, hsame⟩ := text_read_by_fields
  refine ⟨?_, ?_, ?_⟩
  · obtain ⟨c, hc, -, -, -, hjson⟩ := hread _ text htext (by decide)
    have hconfig : { default with maxCallRetries := 2 } = c := by
      refine Describes.unique ⟨fun f a ha => ?_, fun f hf => ?_⟩ hc
      · simp only [List.mem_cons, List.not_mem_nil, or_false] at ha
        obtain h | h | h := ha <;> cases h <;> rfl
      · cases f <;> first | rfl | exact absurd (by decide) hf
    rw [hjson, ← hconfig]
    rfl
  · exact hsame _ _ text' text htext' htext (by decide) (by decide) (fun f a => by simp [or_comm])
  · obtain ⟨f, fault, hdup, hfault, hjson⟩ := htwice _ text'' htext'' (by decide)
    have hf : f ∈ [FieldName.callTimeoutMs, .callTimeoutMs] := hdup.mem
    obtain rfl : f = .callTimeoutMs := by simpa using hf
    exact ⟨fault, hfault, hjson⟩

end

end ResilientProxy.Config
