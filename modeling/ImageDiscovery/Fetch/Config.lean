import ImageDiscovery.Log

/-!
# Fetch configuration — how pages are fetched

How long to wait for a connection, whether to follow redirects, and as whom to ask.  The wait comes
from the environment if that holds a positive number; what is no number at all is worth a warning.
-/

namespace ImageDiscovery

/-- What may be relaxed while fetching, as a number of which the lowest two bits count. -/
structure Allowance where
  bits : Nat := 0
deriving DecidableEq

namespace Allowance

/-- The allowance of a number; a negative one is taken from the next power of two above it. -/
def ofInt : Int → Allowance
  | .ofNat n => ⟨n⟩
  | .negSucc n =>
    if n < 4 then ⟨3 - n⟩ else ⟨1 <<< (Nat.log2 (n + 1) + 1) - (n + 1)⟩

/-- Servers need not prove who they are. -/
def unverified (a : Allowance) : Bool := a.bits.testBit 0

/-- What HTTPS does not give may be asked for in plain text. -/
def plaintext (a : Allowance) : Bool := a.bits.testBit 1

def none : Allowance := ⟨0⟩

def all : Allowance := ⟨3⟩

end Allowance

namespace Fetch

def logger : Text := "acdiscovery.discovery.http"

/-- Seconds to wait for a connection, unless the environment says otherwise. -/
def defaultDialTimeout : Binary64 := .ofRatio 5 1

def defaultUserAgent : Text := "acdiscovery"

/-- The seconds to wait for a connection, and the warnings on the way to them. -/
def dialTimeout (env : Environment) : Binary64 × List Log.Record :=
  match (env.get? Environment.dialTimeout).filter (!·.isEmpty) with
  | none => (defaultDialTimeout, [])
  | some given =>
    match Binary64.ofText? given with
    | none =>
      (defaultDialTimeout, [{
        severity := .warning
        logger
        event := "acdiscovery.config.invalid_dial_timeout"
        fields := [("value", .text given), ("default", .float defaultDialTimeout)] }])
    | some seconds => (if seconds.isPositive then seconds else defaultDialTimeout, [])

structure Config where
  /-- Seconds to wait for a connection; there is no limit on reading. -/
  dialTimeout : Binary64
  followRedirects : Bool := true
  userAgent : Text := defaultUserAgent

def Config.ofEnvironment (env : Environment) : Config × List Log.Record :=
  let (seconds, warnings) := Fetch.dialTimeout env
  ({ dialTimeout := seconds }, warnings)

end Fetch

end ImageDiscovery
