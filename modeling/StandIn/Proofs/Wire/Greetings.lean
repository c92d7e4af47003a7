import StandIn.Hello
import StandIn.Proofs.Wire.Chronicle
import StandIn.Proofs.Wire.Tally

/-!
The handshakes in a trace that came to an answer of the peer, whether or not the answer has opened a
session, and the Hellos that the peer must have received for them.
-/

set_option autoImplicit false

namespace StandIn.Wire

def isAnswered (call : Exchange Wire.Answer) : Bool :=
  isOpening call || isMisanswered call

/-- What came of a handshake that was answered. -/
def offered? (call : Exchange Wire.Answer) : Option (Except Fault Session) :=
  if isAnswered call then (announcement? call).map Announcement.outcome else none

/-- The roster after an exchange: only the telling of a command changes it. -/
def rosterNext (roster : Roster) (exchange : Exchange Wire.Answer) : Roster :=
  ((command? exchange).map (Command.applied roster)).getD roster

/-- For each handshake that was answered the Hello with the roster of that moment. -/
def answeredHellos (listenPort : Port) : Roster → Trace → List Hello
  | _, [] => []
  | roster, exchange :: rest =>
    let others := answeredHellos listenPort (rosterNext roster exchange) rest
    if isAnswered exchange then ⟨listenPort, roster.devices⟩ :: others else others

theorem answered_hellos_cons (listenPort : Port) (roster : Roster) (exchange : Exchange Wire.Answer)
    (rest : Trace) : answeredHellos listenPort roster (exchange :: rest) =
      answeredHellos listenPort roster [exchange] ++
        answeredHellos listenPort (rosterNext roster exchange) rest := by
  simp only [answeredHellos]
  cases isAnswered exchange <;> rfl

theorem opening_answered {call : Exchange Wire.Answer} (opening : isOpening call = true) :
    isMisanswered call = false := by
  obtain ⟨request, answer⟩ := call
  cases request with
  | handshake endpoint devices =>
      cases answer with
      | ok session => rfl
      | error fault => cases opening
  | _ => cases opening

theorem count_answered (trace : Trace) :
    trace.countP isAnswered = trace.countP isOpening + trace.countP isMisanswered := by
  induction trace with
  | nil => rfl
  | cons exchange rest induction =>
      by_cases opening : isOpening exchange = true
      · have answered : isAnswered exchange = true := by simp [isAnswered, opening]
        have other : ¬ isMisanswered exchange = true := by simp [opening_answered opening]
        rw [List.countP_cons_of_pos answered, List.countP_cons_of_pos opening,
          List.countP_cons_of_neg other, induction]
        omega
      · have same : isAnswered exchange = isMisanswered exchange := by simp [isAnswered, opening]
        rw [List.countP_cons_of_neg opening, List.countP_cons, List.countP_cons, same, induction]
        omega

theorem answered_hellos_length (listenPort : Port) (roster : Roster) (trace : Trace) :
    (answeredHellos listenPort roster trace).length = trace.countP isAnswered := by
  induction trace generalizing roster with
  | nil => rfl
  | cons exchange rest induction =>
      have others := induction (rosterNext roster exchange)
      unfold answeredHellos
      cases answered : isAnswered exchange with
      | true => rw [if_pos rfl, List.length_cons, List.countP_cons_of_pos answered, others]
      | false => simpa [List.countP_cons, answered] using others

theorem offered_length (trace : Trace) :
    (trace.filterMap offered?).length = trace.countP isAnswered := by
  rw [List.length_filterMap_eq_countP]
  apply List.countP_congr
  rintro ⟨request, answer⟩ _
  cases request with
  | handshake endpoint devices =>
      unfold offered?
      cases isAnswered ⟨.handshake endpoint devices, answer⟩ <;> simp [announcement?]
  | _ => exact Iff.rfl

theorem Current.next {endpoint : Endpoint} {roster : Roster} {exchange : Exchange Wire.Answer}
    {rest : Trace} (current : Current endpoint roster (exchange :: rest)) :
    Current endpoint (rosterNext roster exchange) rest := by
  intro earlier there devices outcome later split
  have here := current (exchange :: earlier) there devices outcome later (congrArg _ split)
  have replayed : roster.replay (commands (exchange :: earlier)) =
      (rosterNext roster exchange).replay (commands earlier) := by
    unfold rosterNext commands
    cases told : command? exchange with
    | none => rw [List.filterMap_cons_none told]; rfl
    | some command => rw [List.filterMap_cons_some told]; rfl
  rwa [replayed] at here

/-- A handshake at the beginning announces the roster of the beginning. -/
theorem Current.now {endpoint there : Endpoint} {roster : Roster} {devices : List Device}
    {outcome : Except Fault Session} {rest : Trace}
    (current : Current endpoint roster (⟨.handshake there devices, outcome⟩ :: rest)) :
    there = endpoint ∧ devices = roster.devices :=
  current [] there devices outcome rest rfl

end StandIn.Wire
