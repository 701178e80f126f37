import ResilientProxy.Config
import ResilientProxy.Json.Record
import ResilientProxy.Json.Writer

/-!
# Configurations as JSON

The written form of a configuration: one member per field, in the order of the fields, and none for
a timeout that is not set. Reading takes the members in any order, gives a missing field its
default, and checks the result.
-/

namespace ResilientProxy.Config

open Json

def unsigned32 : Reader UInt32 := fun cs =>
  match readUnsigned "u32" UInt32.size cs with
  | .error f => .error f
  | .ok (n, rest) => .ok (n.toUInt32, rest)

def unsigned64 : Reader UInt64 := readUnsigned "u64" UInt64.size

/-- A number of bytes. -/
def byteSize : Reader UInt64 := readUnsigned "usize" UInt64.size

/-- The fields of a configuration in their order. -/
def recordType : RecordType Config where
  name := "ProxyConfig"
  fields := [
    .of "max_open_retries" unsigned32 fun c n => { c with maxOpenRetries := n },
    .of "max_call_retries" unsigned32 fun c n => { c with maxCallRetries := n },
    .of "reconnect_wait_secs" unsigned64 fun c n => { c with reconnectWaitSecs := n },
    .of "retry_time_slot_ms" unsigned64 fun c n => { c with retryTimeSlotMs := n },
    .of "call_arena_size" byteSize fun c n => { c with callArenaSize := n },
    .of "call_timeout_ms" (readOptional unsigned64) fun c n => { c with callTimeoutMs := n },
    .of "close_timeout_ms" (readOptional unsigned64) fun c n => { c with closeTimeoutMs := n }]
  default := default

/-- The configuration that a text describes, if the retry loops can work with it. -/
def ofJson (text : String) : Except ConfigError Config :=
  match recordType.parse text with
  | .error f => .error (.unparsable (f.message text.toList))
  | .ok c =>
    match c.check with
    | .error e => .error e
    | .ok () => .ok c

def optionalMember (name : String) (n : Option UInt64) : List (String × List Char) :=
  n.toList.map fun n => (name, writeNat n.toNat)

/-- The written members of a configuration. -/
def members (c : Config) : List (String × List Char) :=
  [("max_open_retries", writeNat c.maxOpenRetries.toNat),
    ("max_call_retries", writeNat c.maxCallRetries.toNat),
    ("reconnect_wait_secs", writeNat c.reconnectWaitSecs.toNat),
    ("retry_time_slot_ms", writeNat c.retryTimeSlotMs.toNat),
    ("call_arena_size", writeNat c.callArenaSize.toNat)]
  ++ optionalMember "call_timeout_ms" c.callTimeoutMs
  ++ optionalMember "close_timeout_ms" c.closeTimeoutMs

def toJson (c : Config) : String := String.ofList (writeObject c.members)

end ResilientProxy.Config
