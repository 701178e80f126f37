import ResilientProxy.Error

/-!
# Proxy configuration

The retry and timeout policy of a proxy. `Config.check` refuses what the retry loops cannot work
with and names the first field at fault.
-/

namespace ResilientProxy

/-- More retries than this make `2 ^ n` backoff ceilings meaningless. -/
def maxRetriesLimit : UInt32 := 32

structure Config where
  /-- Retries after the first failed attempt to open the connection. -/
  maxOpenRetries : UInt32
  /-- Retries after the first failed attempt of an invocation. -/
  maxCallRetries : UInt32
  /-- The fixed wait when a reconnect finds the proxy open already, and between attempts to open
  an endpoint that cannot be reached. -/
  reconnectWaitSecs : UInt64
  /-- The time slot of exponential backoff. -/
  retryTimeSlotMs : UInt64
  /-- Arena bytes of a call that asks for no particular size. -/
  callArenaSize : UInt64
  /-- The time limit of one call attempt; without one an attempt may take any time. -/
  callTimeoutMs : Option UInt64
  /-- The time limit of a graceful close. -/
  closeTimeoutMs : Option UInt64
  deriving DecidableEq, Repr

namespace Config

def default : Config where
  maxOpenRetries := 5
  maxCallRetries := 5
  reconnectWaitSecs := 30
  retryTimeSlotMs := 100
  callArenaSize := 65536
  callTimeoutMs := none
  closeTimeoutMs := none

instance : Inhabited Config := ⟨default⟩

def reconnectWait (c : Config) : Duration := .ofSeconds c.reconnectWaitSecs

def retryTimeSlot (c : Config) : Duration := .ofMillis c.retryTimeSlotMs

def callTimeout (c : Config) : Option Duration := c.callTimeoutMs.map .ofMillis

def closeTimeout (c : Config) : Option Duration := c.closeTimeoutMs.map .ofMillis

def checkRetries (field : String) (n : UInt32) : Except ConfigError Unit :=
  if maxRetriesLimit < n then
    .error (.invalid field
      (toString n.toNat ++ " exceeds the limit of " ++ toString maxRetriesLimit.toNat))
  else .ok ()

def checkPositive (field : String) (n : UInt64) : Except ConfigError Unit :=
  if n = 0 then .error (.invalid field "must be greater than zero") else .ok ()

def checkTimeout (field : String) (limit : Option UInt64) : Except ConfigError Unit :=
  if limit = some 0 then .error (.invalid field "must be greater than zero when set") else .ok ()

/-- Whether the retry loops can work with `c`; the first field at fault is reported. -/
def check (c : Config) : Except ConfigError Unit := do
  checkRetries "max_open_retries" c.maxOpenRetries
  checkRetries "max_call_retries" c.maxCallRetries
  checkPositive "retry_time_slot_ms" c.retryTimeSlotMs
  checkPositive "call_arena_size" c.callArenaSize
  checkTimeout "call_timeout_ms" c.callTimeoutMs
  checkTimeout "close_timeout_ms" c.closeTimeoutMs

end Config

end ResilientProxy
