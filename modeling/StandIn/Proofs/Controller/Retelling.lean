import StandIn.Proofs.Command.Writing
import StandIn.Proofs.Controller.Chronicle
import StandIn.Proofs.Controller.Orders
import StandIn.Rehearsal

/-!
A script told again. A controller tells each command before it begins with it, in the words of a
script line. If these lines are made a script of their own, the run of that script is the run in
which they were told, unless that one came to a line that is no command.
-/

set_option autoImplicit false

namespace StandIn

/-- The command that a line of the controller tells, as text: what stands behind the words with which
the processing of a command is announced. -/
def Narration.order? (line : Narration) : Option String :=
  if line.speaker = "fdc_sim::driver" then
    ("Processing command ".toList.isPrefixOf? line.message.toList).map String.ofList
  else none

section Narration

variable {line : Narration}

theorem Narration.order_of_message (speaker : line.speaker = "fdc_sim::driver") (text : String)
    (message : line.message = text) :
    line.order? = ("Processing command ".toList.isPrefixOf? text.toList).map String.ofList := by
  rw [order?, if_pos speaker, message]

theorem Narration.order_of_other (speaker : line.speaker ≠ "fdc_sim::driver") :
    line.order? = none :=
  if_neg speaker

theorem Narration.order_processing (command : Command) :
    (processing command).order? = some command.text := by
  have behind : "Processing command ".toList.isPrefixOf?
      ("Processing command " ++ command.text).toList = some command.text.toList := by
    rw [List.isPrefixOf?_eq_some_iff_append_eq, String.toList_append]
  rw [order_of_message rfl ("Processing command " ++ command.text) rfl, behind, Option.map_some,
    String.ofList_toList]

/-- Nothing else that the controller tells begins in this way, not even with the same letter. -/
theorem Narration.order_unannounced (speaker : line.speaker = "fdc_sim::driver") (text : String)
    (message : line.message = text) (other : text.toList.head? ≠ some 'P') :
    line.order? = none := by
  have unlike : "Processing command ".toList.isPrefixOf? text.toList = none := by
    cases characters : text.toList with
    | nil => simp [List.isPrefixOf?]
    | cons first rest =>
        have different : ¬ 'P' = first := by
          rintro rfl
          simp [characters] at other
        simp [List.isPrefixOf?, different]
  rw [order_of_message speaker text message, unlike, Option.map_none]

end Narration

namespace Wire

def order? : Exchange Wire.Answer → Option String
  | ⟨.narrate line, _⟩ => line.order?
  | _ => none

/-- The commands that were told to be processed, as the lines of a script. -/
def orders (trace : Trace) : List String := trace.filterMap order?

theorem order_eq (exchange : Exchange Wire.Answer) :
    order? exchange = (command? exchange).map Command.text := by
  obtain ⟨request, answer⟩ := exchange
  cases request with
  | narrate line =>
      cases line with
      | processing command => exact Narration.order_processing command
      | dying seconds =>
          apply Narration.order_unannounced rfl ("Dying horribly for " ++ Text.ofNat seconds ++ "s") rfl
          simp
      | tick number =>
          apply Narration.order_unannounced rfl ("Sleep " ++ Text.ofNat number) rfl
          simp
      | lost fault =>
          apply Narration.order_unannounced rfl "Timeout from DGI, sending a new Hello" rfl
          simp
      | leftOpen statePort =>
          apply Narration.order_unannounced rfl "Script finished with the session still open" rfl
          simp
      | _ => exact Narration.order_of_other (by simp [Narration.speaker])
  | _ => rfl

theorem orders_eq (trace : Trace) : orders trace = (commands trace).map Command.text := by
  have each : order? = fun exchange => (command? exchange).map Command.text := funext order_eq
  rw [orders, commands, each, List.map_filterMap]

end Wire

namespace Controller

variable {State : Type} {behaviour : Behaviour Wire.Answer State} {controller : Controller}
  {start : State}

/-- The script comes to a line that cannot be read as a command, whatever is wrong with it. -/
def StopsUnread (behaviour : Behaviour Wire.Answer State) (lines : List String)
    (controller : Controller) (start : State) : Prop :=
  ∃ earlier line later fault, lines = earlier ++ line :: later ∧
    (enact behaviour (follow 1 earlier) controller start).value.1 = .ok () ∧
      Command.ofLine (earlier.length + 1) line = .error fault

theorem stops_unread_iff {lines : List String} :
    StopsUnread behaviour lines controller start ↔
      (enact behaviour (executeAll (Script.read 1 lines).commands) controller start).value.1 =
        .ok () ∧ ∃ fault, (Script.read 1 lines).ending = .error fault := by
  constructor
  · rintro ⟨earlier, line, later, fault, rfl, followed, unreadable⟩
    obtain ⟨executed, ending⟩ := follow_succeeds_iff.mp followed
    rw [Nat.add_comm] at unreadable
    rw [Script.read_append, Script.read_cons_error unreadable, Script.append, ending]
    simp only [List.append_nil]
    exact ⟨executed, fault, rfl⟩
  · rintro ⟨executed, fault, ended⟩
    obtain ⟨earlier, line, later, split, unreadable, same⟩ := Script.read_ending_error ended
    rw [Nat.add_comm] at unreadable
    refine ⟨earlier, line, later, fault, split, ?_, unreadable⟩
    rw [follow_succeeds_iff, same]
    exact ⟨executed, rfl⟩

/-! ## What is told of commands -/

theorem execute_told (command : Command) (controller : Controller) (start : State) :
    Wire.commands (enact behaviour (execute command) controller start).trace = [command] := by
  have outcome := enact_outcome behaviour (execute command) controller start
  exact (executing outcome).chronicle.told

/-- The commands that were told are those that were begun, so to execute just these is the same. -/
theorem enact_told (commands : List Command) (controller : Controller) (start : State) :
    let ended := enact behaviour (executeAll commands) controller start
    enact behaviour (executeAll (Wire.commands ended.trace)) controller start = ended := by
  induction commands generalizing controller start with
  | nil => rfl
  | cons command rest induction =>
      have begun : Wire.commands (enact behaviour (execute command) controller start).trace =
          [command] := execute_told command controller start
      simp only [executeAll]
      cases executed : (enact behaviour (execute command) controller start).value.1 with
      | error fault =>
          rw [enact_bind_error _ executed, begun]
          exact enact_bind_error _ executed
      | ok =>
          have later := induction
            (enact behaviour (execute command) controller start).value.2
            (enact behaviour (execute command) controller start).state
          simp only [enact_bind_ok _ executed, Wire.commands_append, begun, List.singleton_append,
            executeAll, later]

/-- Actions that come to the same go on to the same. -/
theorem enact_bind_same {Value Result : Type} {first second : Action Value}
    (same : enact behaviour first controller start = enact behaviour second controller start)
    (next : Value → Action Result) :
    enact behaviour (first >>= next) controller start =
      enact behaviour (second >>= next) controller start := by
  unfold enact at same ⊢
  rw [run_bind, run_bind, Program.run_bind, Program.run_bind, same]

/-- The end of a script tells of no command. -/
theorem run_told (lines : List String) :
    Wire.commands (enact behaviour (run lines) controller start).trace =
      Wire.commands (enact behaviour (follow 1 lines) controller start).trace := by
  cases followed : (enact behaviour (follow 1 lines) controller start).value.1 with
  | error fault => rw [run, enact_bind_error _ followed]
  | ok =>
      have ended : ∀ there state, Wire.commands (enact behaviour
          (do finish; return (← get).stats : Action Stats) there state).trace = [] := by
        intro there state
        have finished : Wire.commands (enact behaviour finish there state).trace = [] :=
          (finishing (enact_outcome behaviour finish there state)).chronicle.told
        cases succeeded : (enact behaviour finish there state).value.1 with
        | error fault =>
            rw [enact_bind_error _ succeeded]
            exact finished
        | ok =>
            rw [enact_bind_ok _ succeeded]
            simp only [Wire.commands_append, finished, List.nil_append]
            rfl
      rw [run, enact_bind_ok _ followed]
      simp only [Wire.commands_append, ended, List.append_nil]

theorem run_writable (lines : List String) :
    ∀ command ∈ Wire.commands (enact behaviour (run lines) controller start).trace,
      command.Writable := by
  have outcome := enact_outcome behaviour (run lines) controller start
  obtain ⟨commands, chronicle, scripted⟩ := (running outcome).chronicle
  rw [chronicle.told]
  intro command member
  obtain ⟨number, line, read⟩ := scripted command member
  exact Command.of_line_writable read

/-- A script that comes to no unreadable line is no more than its commands. -/
theorem follow_readable {lines : List String}
    (readable : ¬ StopsUnread behaviour lines controller start) :
    enact behaviour (follow 1 lines) controller start =
      enact behaviour (executeAll (Script.read 1 lines).commands) controller start := by
  rw [enact_follow]
  simp only
  cases executed : (enact behaviour (executeAll (Script.read 1 lines).commands) controller
    start).value.1 with
  | error fault => simp only [Except.bind, ← executed]
  | ok =>
      cases ending : (Script.read 1 lines).ending with
      | error fault => exact absurd (stops_unread_iff.mpr ⟨executed, fault, ending⟩) readable
      | ok => simp only [Except.bind, ← executed]

theorem run_retold {lines : List String}
    (readable : ¬ StopsUnread behaviour lines controller start) :
    let ran := enact behaviour (run lines) controller start
    enact behaviour (run (Wire.orders ran.trace)) controller start = ran := by
  intro ran
  have writable : ∀ command ∈ Wire.commands ran.trace, command.Writable := run_writable lines
  have read : Script.read 1 (Wire.orders ran.trace) = ⟨Wire.commands ran.trace, .ok ()⟩ := by
    rw [Wire.orders_eq]
    exact Script.read_texts 1 writable
  have told : Wire.commands ran.trace = Wire.commands (enact behaviour (executeAll
      (Script.read 1 lines).commands) controller start).trace := by
    rw [← follow_readable readable]
    exact run_told lines
  have followed : enact behaviour (follow 1 (Wire.orders ran.trace)) controller start =
      enact behaviour (follow 1 lines) controller start := by
    rw [enact_follow_readable (by rw [read]), read, follow_readable readable]
    simp only [told]
    exact enact_told (Script.read 1 lines).commands controller start
  exact enact_bind_same followed _

/-- The text of every command that a line can give is read as that command, on whatever line, and
what is read off a line is such a command. So the commands that were told in the course of a script
make a script that does the same: against the same peer it leaves the same exchanges, the same
controller and the same result. -/
theorem told_commands_replay (behaviour : Behaviour Wire.Answer State) (controller : Controller)
    (start : State) :
    (∀ command number, command.Writable →
      Command.ofLine number command.text = .ok (some command)) ∧
    (∀ line number command, Command.ofLine number line = .ok (some command) →
      command.Writable ∧ ∀ place, Command.ofLine place command.text = .ok (some command)) ∧
    ∀ lines, ¬ StopsUnread behaviour lines controller start →
      let ran := enact behaviour (run lines) controller start
      enact behaviour (run (Wire.orders ran.trace)) controller start = ran := by
  constructor
  · intro command number writable
    exact Command.of_line_text writable number
  constructor
  · intro line number command read
    have writable := Command.of_line_writable read
    exact ⟨writable, Command.of_line_text writable⟩
  · intro lines readable
    exact run_retold readable

/-- A script with a comment, a device that looks like one and a number with a sign. It stops at its
second command, before the line that is none. -/
theorem told_commands_replay_refused :
    let lines := ["# a day", "  enable  #1  sleep", "sleep +02", "wake L1"]
    let refusing : Rehearsal := { heartbeats := [none, some (.io (.system .connectionRefused))] }
    let controller := fresh ⟨"localhost", 1870, 5001⟩ {}
    let ran := enact Rehearsal.answer (run lines) controller refusing
    ¬ StopsUnread Rehearsal.answer lines controller refusing ∧
      enact Rehearsal.answer (run (Wire.orders ran.trace)) controller refusing = ran := by
  intro lines refusing controller ran
  have readable : ¬ StopsUnread Rehearsal.answer lines controller refusing := by
    intro stops
    have succeeded := (stops_unread_iff.mp stops).1
    have commands : (Script.read 1 lines).commands = [.enable ⟨"#1", "sleep"⟩, .sleep 2] := by
      decide +kernel
    have failed : (enact Rehearsal.answer (executeAll [.enable ⟨"#1", "sleep"⟩, .sleep 2]) controller
        refusing).value.1 = .error (.io (.system .connectionRefused)) := by
      decide +kernel
    rw [commands, failed] at succeeded
    cases succeeded
  have replayed := told_commands_replay Rehearsal.answer controller refusing
  exact ⟨readable, replayed.2.2 lines readable⟩

end Controller
end StandIn
