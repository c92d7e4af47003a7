import StandIn.Fault

/-!
Where the peer is, where its replies are awaited, and the session that a Start reply opens. A
session holds ports, so a number outside 0 to 65535 never gets into one.
-/

set_option autoImplicit false

namespace StandIn

abbrev Port := UInt16

structure Endpoint where
  peerHost : String
  /-- The port of the peer that every Hello goes to. -/
  peerPort : Port
  /-- The port on which replies are awaited. -/
  listenPort : Port
deriving DecidableEq

structure Session where
  endpoint : Endpoint
  statePort : Port
  heartbeatPort : Port
deriving DecidableEq

namespace Session

/-- The number as a port, under the name that the peer gave it. -/
def checkedPort (label : String) (number : Int) : Except Fault Port :=
  if 0 ≤ number ∧ number < 65536 then .ok (UInt16.ofNat number.toNat)
  else .error (.configuration (label ++ " " ++ Text.ofInt number ++ " not sensible"))

/-- The session for two announced numbers; of two bad ones the state port is reported. -/
def ofPorts (endpoint : Endpoint) (statePort heartbeatPort : Int) : Except Fault Session := do
  let statePort ← checkedPort "StatePort" statePort
  let heartbeatPort ← checkedPort "HeartbeatPort" heartbeatPort
  return ⟨endpoint, statePort, heartbeatPort⟩

theorem checked_port_to_nat {label : String} {number : Int} {port : Port}
    (checked : checkedPort label number = .ok port) : (port.toNat : Int) = number := by
  unfold checkedPort at checked
  split at checked
  · next range =>
    obtain ⟨lower, upper⟩ := range
    cases checked
    rw [UInt16.toNat_ofNat']
    omega
  · cases checked

end Session
end StandIn
