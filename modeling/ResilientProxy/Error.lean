import ResilientProxy.Address
import ResilientProxy.ChannelError
import ResilientProxy.Duration.Seconds
import ResilientProxy.Text.Decimal

/-!
# Errors of a proxy

Three families: the connection could not be opened, closed or aborted; an invocation failed for
good; the configuration or the address was refused. Each error holds its cause as data, and one
function per family gives its wording.
-/

namespace ResilientProxy

/-- The proxy could not open, close or abort its connection. -/
inductive ConnectionError where
  | opening (address : Address) (attempts : UInt32) (source : ChannelError)
  | closing (address : Address) (source : ChannelError)
  | aborting (address : Address) (source : ChannelError)
  deriving DecidableEq, Repr

namespace ConnectionError

/-- The channel's error behind this one. -/
def source : ConnectionError → ChannelError
  | opening _ _ s | closing _ s | aborting _ s => s

def address : ConnectionError → Address
  | opening a _ _ | closing a _ | aborting a _ => a

def message : ConnectionError → String
  | opening a attempts s =>
    "failed to open proxy for service at '" ++ a.text ++ "' after " ++ toString attempts.toNat
      ++ " attempt(s): " ++ s.message
  | closing a s => "failed to close proxy for service at '" ++ a.text ++ "': " ++ s.message
  | aborting a s => "failed to abort proxy for service at '" ++ a.text ++ "': " ++ s.message

end ConnectionError

/-- An invocation failed for good: a fatal failure, or no retries left. -/
structure CallError where
  operation : String
  /-- Attempts made, the first one included. -/
  attempts : UInt32
  elapsed : Duration
  /-- What the last attempt failed with. -/
  source : ChannelError
  deriving DecidableEq, Repr

namespace CallError

/-- Whether the call was given up without regard to the retries left. -/
def wasFatal (e : CallError) : Bool := e.source.isFatal

/-- Seconds with three places, rounded from their floating-point value. -/
def secondsText (d : Duration) : String :=
  match d.inSeconds with
  | .finite q => fixedText 3 q
  | _ => fixedText 3 d.seconds

def message (e : CallError) : String :=
  e.operation ++ " failed after " ++ toString e.attempts.toNat ++ " attempt(s) in "
    ++ secondsText e.elapsed ++ " second(s): " ++ e.source.message

end CallError

/-- An address or a configuration was refused. -/
inductive ConfigError where
  | blankAddress
  | invalid (field reason : String)
  /-- The text is not a configuration. -/
  | unparsable (reason : String)
  /-- The file could not be read. -/
  | unreadable (path reason : String)
  deriving DecidableEq, Repr

namespace ConfigError

def message : ConfigError → String
  | blankAddress => "endpoint address must not be empty"
  | invalid field reason => "invalid value for `" ++ field ++ "`: " ++ reason
  | unparsable reason => "failed to parse proxy configuration: " ++ reason
  | unreadable path reason =>
    "failed to read proxy configuration from '" ++ path ++ "': " ++ reason

end ConfigError

/-- Any failure that a proxy reports. -/
inductive ProxyError where
  | connection (error : ConnectionError)
  | call (error : CallError)
  | config (error : ConfigError)
  /-- The task of a detached call ended without an outcome. -/
  | detached (operation reason : String)
  deriving DecidableEq, Repr

namespace ProxyError

/-- The channel's error behind this one, if there is one. -/
def channelError : ProxyError → Option ChannelError
  | connection e => some e.source
  | call e => some e.source
  | config _ | detached _ _ => none

def message : ProxyError → String
  | connection e => e.message
  | call e => e.message
  | config e => e.message
  | detached operation reason =>
    "detached call to " ++ operation ++ " did not complete: " ++ reason

/-- The messages of the errors behind this one, nearest first. -/
def causes (e : ProxyError) : List String := e.channelError.toList.map ChannelError.message

end ProxyError

end ResilientProxy
