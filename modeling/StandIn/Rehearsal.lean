import StandIn.Negotiation
import StandIn.Wire

/-!
Surroundings with prepared answers. Each kind of call has a queue of its own; a call takes the
first entry of its queue, and where there is none, or an empty one, the call succeeds. Everything
that is told or called is noted in order, calls before their outcome.
-/

set_option autoImplicit false

namespace StandIn

/-- What is said to the attempts of one negotiation, in order. -/
abbrev Replies := List (Except Fault String)

def Negotiation.noMoreReplies : Fault :=
  .io (.reported .unexpectedEof (some "no more replies"))

/-- Gives each attempt the next prepared reply, and fails when there is none left. -/
def Negotiation.rehearsed : Behaviour Negotiation.Answer Replies
  | .attempt _, [] => (.error noMoreReplies, [])
  | .attempt _, reply :: others => (reply.map Reply.ofText, others)
  | .narrate _, replies => ((), replies)
  | .wait _, replies => ((), replies)

def Negotiation.narrated : List (Exchange Negotiation.Answer) → List Narration
  | [] => []
  | ⟨.narrate line, _⟩ :: rest => line :: narrated rest
  | _ :: rest => narrated rest

def Negotiation.attempts : List (Exchange Negotiation.Answer) → List UInt32
  | [] => []
  | ⟨.attempt number, _⟩ :: rest => number :: attempts rest
  | _ :: rest => attempts rest

inductive Farewell where
  | failing (fault : Fault)
  | negotiated (policy : RetryPolicy) (replies : Replies)

inductive Note where
  | told (line : Narration)
  | called (request : Wire)

structure Rehearsal where
  handshakes : List (Option (Except Fault (Int × Int))) := []
  heartbeats : List (Option Fault) := []
  disconnects : List (Option Farewell) := []
  /-- How many handshakes have been asked for. -/
  asked : Nat := 0
  /-- What has been noted, the newest first. -/
  notes : List Note := []

namespace Rehearsal

def note (rehearsal : Rehearsal) (entry : Note) : Rehearsal :=
  { rehearsal with notes := entry :: rehearsal.notes }

/-- The ports of a handshake for which nothing is prepared; each handshake gets fresh ones. -/
def freshPorts (asked : Nat) : Int × Int :=
  (4000 + 2 * asked, 4001 + 2 * asked)

def handshakeOutcome (rehearsal : Rehearsal) (endpoint : Endpoint) : Except Fault Session :=
  match rehearsal.handshakes.head?.join with
  | some (.error fault) => .error fault
  | some (.ok ports) => Session.ofPorts endpoint ports.1 ports.2
  | none =>
    let ports := freshPorts rehearsal.asked
    Session.ofPorts endpoint ports.1 ports.2

def failing : Option Fault → Except Fault Unit
  | some fault => .error fault
  | none => .ok ()

def disconnectOutcome : Option Farewell → Except Fault Unit × List Narration
  | none => (.ok (), [])
  | some (.failing fault) => (.error fault, [])
  | some (.negotiated policy replies) =>
    let finished := (Negotiation.negotiate policy).run Negotiation.rehearsed replies
    (finished.value.map fun _ => (), Negotiation.narrated finished.trace)

def answer : Behaviour Wire.Answer Rehearsal
  | .narrate line, rehearsal => ((), rehearsal.note (.told line))
  | .handshake endpoint devices, rehearsal =>
    (rehearsal.handshakeOutcome endpoint,
      { rehearsal.note (.called (.handshake endpoint devices)) with
        handshakes := rehearsal.handshakes.tail
        asked := rehearsal.asked + 1 })
  | .heartbeat session, rehearsal =>
    (failing rehearsal.heartbeats.head?.join,
      { rehearsal.note (.called (.heartbeat session)) with
        heartbeats := rehearsal.heartbeats.tail })
  | .disconnect session, rehearsal =>
    let (outcome, lines) := disconnectOutcome rehearsal.disconnects.head?.join
    let noted := rehearsal.note (.called (.disconnect session))
    (outcome,
      { noted with
        disconnects := rehearsal.disconnects.tail
        notes := lines.reverse.map Note.told ++ noted.notes })
  | .pause seconds, rehearsal => ((), rehearsal.note (.called (.pause seconds)))

end Rehearsal
end StandIn
