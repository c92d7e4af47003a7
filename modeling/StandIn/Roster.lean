import StandIn.Fault

/-!
The devices that are enabled, in the order in which they were enabled. Equal devices may be enabled
several times; each then counts on its own and has to be disabled as often.
-/

set_option autoImplicit false

namespace StandIn

structure Roster where
  devices : List Device := []
deriving DecidableEq

namespace Roster

def empty : Roster := {}

def enable (roster : Roster) (device : Device) : Roster :=
  ⟨roster.devices ++ [device]⟩

/-- Takes the first device equal to the wanted one out of a list, with the others in order. -/
def takeFirst (wanted : Device) : List Device → Option (Device × List Device)
  | [] => none
  | device :: rest =>
    if device = wanted then some (device, rest)
    else (takeFirst wanted rest).map fun (found, others) => (found, device :: others)

/-- Removes the oldest device equal to the given one, and returns what it removed. -/
def disable (roster : Roster) (device : Device) : Except Fault (Device × Roster) :=
  match takeFirst device roster.devices with
  | some (found, others) => .ok (found, ⟨others⟩)
  | none => .error (.notEnabled device)

theorem take_first_eq_erase (wanted : Device) (devices : List Device) :
    takeFirst wanted devices =
      if wanted ∈ devices then some (wanted, devices.erase wanted) else none := by
  induction devices with
  | nil => rfl
  | cons device rest rest_eq =>
    by_cases same : device = wanted
    · subst same
      simp [takeFirst]
    · have other : ¬ wanted = device := fun equal => same equal.symm
      by_cases member : wanted ∈ rest <;> simp [takeFirst, same, other, rest_eq, member]

theorem disable_eq_error_iff {roster : Roster} {device : Device} {fault : Fault} :
    roster.disable device = .error fault ↔ device ∉ roster.devices ∧ fault = .notEnabled device := by
  unfold disable
  rw [take_first_eq_erase]
  by_cases member : device ∈ roster.devices
  · simp [member]
  · simp [member, eq_comm]

theorem enable_devices (roster : Roster) (device : Device) :
    (roster.enable device).devices = roster.devices ++ [device] := rfl

end Roster
end StandIn
