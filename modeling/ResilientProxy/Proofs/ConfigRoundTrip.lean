import ResilientProxy.Config.Json
import ResilientProxy.Proofs.Written

/-!
# The written form of a configuration

Reading the text of a configuration gives that configuration, number for number, and then the check
decides: leaving an unset timeout out and giving a missing one its default are the same thing.
-/

namespace ResilientProxy.Config

open Json

/-- Whether all that a check complains about are values of fields. -/
def BlamesField (r : Except ConfigError Unit) : Prop :=
  ∀ e, r = .error e → ∃ field reason, e = .invalid field reason

theorem BlamesField.bind {r r' : Except ConfigError Unit} (h : BlamesField r)
    (h' : BlamesField r') : BlamesField (r >>= fun _ => r') := by
  cases r with
  | ok => exact h'
  | error => exact h

theorem blamesField_ite {p : Prop} [Decidable p] (field reason : String) :
    BlamesField (if p then .error (.invalid field reason) else .ok ()) := by
  intro e he
  split at he
  · exact ⟨field, reason, (Except.error.inj he).symm⟩
  · exact nomatch he

theorem blamesField_check (c : Config) : BlamesField c.check :=
  (blamesField_ite _ _).bind <| (blamesField_ite _ _).bind <| (blamesField_ite _ _).bind <|
    (blamesField_ite _ _).bind <| (blamesField_ite _ _).bind <| blamesField_ite _ _

theorem accepts_unsigned32 (n : UInt32) : Accepts unsigned32 (writeNat n.toNat) n := by
  intro w rest hw hrest
  have h := accepts_unsigned "u32" n.toNat_lt_size (by decide) w rest hw hrest
  have hvalue : (UInt64.ofNat n.toNat).toUInt32 = n := by simp
  simp only [unsigned32, h, hvalue]

/-- A number of 64 bits, all of which count. -/
theorem accepts_word (expected : String) (n : UInt64) :
    Accepts (readUnsigned expected UInt64.size) (writeNat n.toNat) n := by
  have h := accepts_unsigned expected n.toNat_lt_size (Nat.le_refl _)
  rwa [UInt64.ofNat_toNat] at h

/-- A timeout that is not set is not written, and stays at its default. -/
theorem takesAll_optionalMember {name : String} {set : Config → Option UInt64 → Config}
    (seen : List String) (c : Config) (n : Option UInt64)
    (hfind : recordType.fields.find? (·.name == name) =
      some (.of name (readOptional unsigned64) set))
    (hseen : seen.contains name = false) (hset : set c none = c) :
    ∃ seen', (∀ other, other ≠ name → seen'.contains other = seen.contains other) ∧
      TakesAll recordType.putMember (seen, c) (optionalMember name n) (seen', set c n) := by
  cases n with
  | none =>
    rw [hset]
    exact ⟨seen, fun _ _ => rfl, .nil⟩
  | some n =>
    have hread := (accepts_word "u64" n).optional.readsBack
    exact ⟨name :: seen, fun other hne => by simp [hne],
      .cons (RecordType.takes_field hfind hseen hread) .nil⟩

/-- The fields that are always written, the last first. -/
def writtenFields : List String :=
  ["call_arena_size", "retry_time_slot_ms", "reconnect_wait_secs", "max_call_retries",
    "max_open_retries"]

theorem exists_takesAll_members (c : Config) :
    ∃ seen, TakesAll recordType.putMember ([], recordType.default) c.members (seen, c) := by
  obtain ⟨seen, hseen, hcall⟩ := @takesAll_optionalMember "call_timeout_ms" _ writtenFields
    { c with callTimeoutMs := none, closeTimeoutMs := none } c.callTimeoutMs rfl rfl rfl
  obtain ⟨seen', -, hclose⟩ := @takesAll_optionalMember "close_timeout_ms" _ seen
    { c with closeTimeoutMs := none } c.closeTimeoutMs rfl (hseen _ (by decide)) rfl
  refine ⟨seen', .append (.append ?_ hcall) hclose⟩
  refine .cons (RecordType.takes_field rfl rfl (accepts_unsigned32 _).readsBack) ?_
  refine .cons (RecordType.takes_field rfl rfl (accepts_unsigned32 _).readsBack) ?_
  refine .cons (RecordType.takes_field rfl rfl (accepts_word _ _).readsBack) ?_
  refine .cons (RecordType.takes_field rfl rfl (accepts_word _ _).readsBack) ?_
  exact .cons (RecordType.takes_field rfl rfl (accepts_word _ _).readsBack) .nil

theorem parse_toJson (c : Config) : recordType.parse c.toJson = .ok c := by
  obtain ⟨seen, h⟩ := exists_takesAll_members c
  exact RecordType.parse_writeObject h

/-- A configuration is read back from its written form, and refused just as its own check refuses
it; so no two configurations are written the same. -/
theorem json_round_trip :
    (∀ c : Config, recordType.parse c.toJson = .ok c ∧
      ofJson c.toJson =
        match c.check with
        | .ok () => .ok c
        | .error e => .error e) ∧
    (∀ (c : Config) (e : ConfigError), c.check = .error e →
      ∃ field reason, e = .invalid field reason) ∧
    Function.Injective toJson := by
  refine ⟨fun c => ⟨parse_toJson c, ?_⟩, blamesField_check, fun c c' h => ?_⟩
  · rw [ofJson, parse_toJson]
    dsimp only
    cases c.check <;> rfl
  · have hc := parse_toJson c
    rw [h, parse_toJson] at hc
    exact (Except.ok.inj hc).symm

/-- The check refuses a configuration that was read back to its last digit. -/
theorem json_round_trip_of_refused :
    let c : Config := { default with maxOpenRetries := 33, callArenaSize := 18446744073709551615 }
    let e : ConfigError := .invalid "max_open_retries" "33 exceeds the limit of 32"
    c.check = .error e ∧ recordType.parse c.toJson = .ok c ∧ ofJson c.toJson = .error e ∧
      (∃ field reason, e = .invalid field reason) ∧ c.toJson ≠ default.toJson := by
  intro c e
  have hcheck : c.check = .error e := by cbv
  obtain ⟨hread, hblames, hinjective⟩ := json_round_trip
  obtain ⟨hparse, hchecked⟩ := hread c
  rw [hcheck] at hchecked
  exact ⟨hcheck, hparse, hchecked, hblames c e hcheck, fun h => absurd (hinjective h) (by decide)⟩

/-- What is written, with an unset timeout beside one that is set. -/
example : { default with closeTimeoutMs := some 250 : Config }.toJson =
    "\x7b\"max_open_retries\":5,\"max_call_retries\":5,\"reconnect_wait_secs\":30," ++
      "\"retry_time_slot_ms\":100,\"call_arena_size\":65536,\"close_timeout_ms\":250\x7d" := by
  cbv

end ResilientProxy.Config
