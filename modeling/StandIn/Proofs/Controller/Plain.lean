import StandIn.Proofs.Controller.Chronicle
import StandIn.Proofs.Hello.Reading

/-!
A controller that is driven by scripts alone has only plain devices, since a script line names a
device by two of its words. So every Hello that it sends can be read back.
-/

set_option autoImplicit false

namespace StandIn

open Text (IsWord)

/-- Only what is enabled has to be plain; a device to disable is one that was enabled. -/
def Command.Plain : Command → Prop
  | .enable device => device.Plain
  | _ => True

def Roster.Plain (roster : Roster) : Prop :=
  ∀ device ∈ roster.devices, device.Plain

/-! ## Commands of script lines -/

namespace Command

theorem map_ok {Value Result : Type} {given : Except Fault Value} {change : Value → Result}
    {result : Result} (changed : given.map change = .ok result) : ∃ value, change value = result := by
  cases given with
  | error fault => cases changed
  | ok value =>
      cases changed
      exact ⟨value, rfl⟩

theorem of_words_plain {number : Nat} {words : List String} {command : Command}
    (isWords : ∀ word ∈ words, IsWord word.toList)
    (read : ofWords number words = .ok (some command)) : command.Plain := by
  unfold ofWords at read
  split at read
  · cases read
  · next kind name =>
    cases read
    exact ⟨isWords kind (by simp), isWords name (by simp)⟩
  · cases read
    trivial
  · obtain ⟨value, same⟩ := map_ok read
    cases same
    trivial
  · obtain ⟨value, same⟩ := map_ok read
    cases same
    trivial
  · split at read
    · cases read
    · split at read
      · cases read
      · cases read

theorem of_line_plain {number : Nat} {line : String} {command : Command}
    (read : ofLine number line = .ok (some command)) : command.Plain := by
  unfold ofLine at read
  split at read
  · cases read
  · exact of_words_plain (Text.words_are_words line) read

end Command

/-! ## Rosters -/

theorem Roster.Plain.enable {roster : Roster} {device : Device} (plain : roster.Plain)
    (added : device.Plain) : (roster.enable device).Plain := by
  intro other member
  rw [Roster.enable_devices, List.mem_append] at member
  rcases member with early | late
  · exact plain other early
  · rw [List.mem_singleton.mp late]
    exact added

theorem Roster.Plain.disable {roster others : Roster} {device found : Device} (plain : roster.Plain)
    (removed : roster.disable device = .ok (found, others)) : others.Plain := by
  intro other member
  apply plain other
  unfold Roster.disable at removed
  rw [Roster.take_first_eq_erase] at removed
  split at removed
  · next taken =>
    split at taken
    · cases taken
      cases removed
      exact List.mem_of_mem_erase member
    · cases taken
  · cases removed

theorem Roster.Plain.applied {roster : Roster} {command : Command} (plain : roster.Plain)
    (ordered : command.Plain) : (command.applied roster).Plain := by
  cases command with
  | enable device => exact plain.enable ordered
  | disable device =>
      simp only [Command.applied]
      cases removed : roster.disable device with
      | error fault => exact plain
      | ok taken => exact plain.disable removed
  | dieHorribly seconds => exact plain
  | sleep seconds => exact plain

theorem Roster.Plain.replay {roster : Roster} {commands : List Command} (plain : roster.Plain)
    (ordered : ∀ command ∈ commands, command.Plain) : (roster.replay commands).Plain := by
  induction commands generalizing roster with
  | nil => exact plain
  | cons command rest induction =>
      have first := plain.applied (ordered command List.mem_cons_self)
      exact induction first fun other member => ordered other (List.mem_cons_of_mem command member)

namespace Controller

theorem scripted_plain {command : Command} (scripted : Scripted command) : command.Plain := by
  obtain ⟨number, line, read⟩ := scripted
  exact Command.of_line_plain read

/-- From a chronicle of plain commands and without devices at first, all devices are plain. -/
theorem Chronicle.plain {before after : Controller} {commands : List Command} {trace : Wire.Trace}
    (chronicle : Chronicle before commands trace after) (initially : before.roster.Plain)
    (ordered : ∀ command ∈ commands, command.Plain) :
    after.roster.Plain ∧ ∀ there devices outcome, ⟨.handshake there devices, outcome⟩ ∈ trace →
      ∀ device ∈ devices, device.Plain := by
  constructor
  · rw [chronicle.replayed]
    exact initially.replay ordered
  · intro there devices outcome member
    obtain ⟨earlier, later, rfl⟩ := List.append_of_mem member
    obtain ⟨_, rfl⟩ := chronicle.current earlier there devices outcome later rfl
    apply initially.replay
    intro command begun
    apply ordered
    rw [← chronicle.told, Wire.commands_append]
    exact List.mem_append_left _ begun

variable {State : Type} (behaviour : Behaviour Wire.Answer State) (start : State)

/-- Whatever lines a controller was given, and whatever came of them: its devices are plain, and so
are those of every Hello on the way. A Hello of plain devices has two line ends on end nowhere but
at its end, it is read back as what it was, and no other such Hello has the same text. -/
theorem hellos_decodable (endpoint : Endpoint) (options : Options) (scripts : List (List String)) :
    let finished :=
      ((fresh endpoint options).converseAll (scripts.map Step.run)).run behaviour start
    finished.value.2.roster.Plain ∧
      (∀ there devices outcome, ⟨.handshake there devices, outcome⟩ ∈ finished.trace →
        Hello.Plain ⟨there.listenPort, devices⟩) ∧
      (∀ hello : Hello, hello.Plain →
        (∃ front, hello.text = front ++ "\r\n\r\n") ∧
          (∀ front rest, hello.text = front ++ "\r\n\r\n" ++ rest → rest = "") ∧
          Hello.ofText? hello.text = some hello) ∧
      ∀ first second : Hello, first.Plain → second.Plain → first.text = second.text →
        first = second := by
  intro finished
  obtain ⟨commands, chronicle, scripted⟩ :=
    history_chronicle behaviour start (fresh endpoint options) (scripts.map Step.run)
  have ordered : ∀ command ∈ commands, command.Plain := by
    intro command member
    refine scripted_plain (scripted ?_ command member)
    intro step listed
    obtain ⟨lines, _, rfl⟩ := List.mem_map.mp listed
    exact ⟨lines, rfl⟩
  have initially : (fresh endpoint options).roster.Plain := by
    intro device member
    cases member
  obtain ⟨rosterPlain, hellosPlain⟩ := chronicle.plain initially ordered
  refine ⟨rosterPlain, hellosPlain, ?_, ?_⟩
  · intro hello plain
    exact ⟨hello.text_end, fun front rest split => Hello.text_end_is_last plain split,
      Hello.read_text plain⟩
  · intro first second firstPlain secondPlain same
    have read := Hello.read_text firstPlain
    rw [same, Hello.read_text secondPlain] at read
    exact (Option.some.inj read).symm

/-- A name that no script can give makes one device look like two. -/
example :
    Hello.text ⟨5001, [⟨"light", "L1\r\nsst S1"⟩]⟩ =
      Hello.text ⟨5001, [⟨"light", "L1"⟩, ⟨"sst", "S1"⟩]⟩ := by
  decide +kernel

end Controller
end StandIn
