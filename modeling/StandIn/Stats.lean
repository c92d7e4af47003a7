set_option autoImplicit false

namespace StandIn

/-- What a controller has done so far. -/
structure Stats where
  /-- Commands begun, also those that failed. -/
  commands : Nat := 0
  /-- Handshakes that opened a session. -/
  handshakes : Nat := 0
  /-- Heartbeats that reached the peer. -/
  heartbeats : Nat := 0
  /-- Polite disconnects that the peer agreed to. -/
  disconnects : Nat := 0
  /-- Handshakes forced by a heartbeat timeout, also those that failed. -/
  recoveries : Nat := 0
deriving DecidableEq

end StandIn
