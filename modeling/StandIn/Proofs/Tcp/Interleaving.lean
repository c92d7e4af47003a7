import StandIn.Proofs.Tcp.Footprint

/-!
The answers of the peer among the steps of the controller. A course of events is any interleaving of
what the controller does with the connections of the peer to the listen port. Each connection comes in
answer to a message that was delivered, and at any moment after that. One that comes while its
message is awaited finds the port taken, and is the one that is accepted if any is.
-/

set_option autoImplicit false

namespace StandIn.Tcp

open Socket (Trace)
open Phase (Along Next)

/-! ## The door of the controller -/

/-- Steps of the controller and visits of the peer, in the order in which they happen. A visit is a
connection to the listen port, in answer to the message of that number; messages are numbered in the
order of their delivery, from zero. -/
inductive Occurrence where
  | own (step : Exchange Socket.Answer)
  | visit (message : Nat)

/-- Who has connected to the listen port. -/
inductive Visitor where
  | peer (message : Nat)
  | controller
deriving DecidableEq

structure Door where
  bound : Option Port := none
  /-- The connections that were not accepted yet, the oldest first. -/
  waiting : List Visitor := []
  delivered : Nat := 0
  visited : List Nat := []

namespace Door

/-- A connection is refused where the port is not taken, and waits otherwise. Only a message that was
written is delivered. A listener that is gone takes the connections along that were not accepted. -/
def after (port : Port) (door : Door) : Occurrence → Door
  | .own ⟨.listen number, .ok ()⟩ => { door with bound := some number, waiting := [] }
  | .own ⟨.release, _⟩ => { door with bound := none, waiting := [] }
  | .own ⟨.send _, .ok ()⟩ => { door with delivered := door.delivered + 1 }
  | .own ⟨.connect _ number _, .ok ()⟩ =>
    if door.bound = some number then { door with waiting := door.waiting ++ [.controller] } else door
  | .own ⟨.accept, .ok ()⟩ => { door with waiting := door.waiting.tail }
  | .own _ => door
  | .visit message =>
    { door with
      waiting := if door.bound = some port then door.waiting ++ [.peer message] else door.waiting
      visited := message :: door.visited }

def along (port : Port) (course : List Occurrence) : Door :=
  course.foldl (after port) {}

/-- A connection is accepted only if one waits, and the peer connects only in answer to a message that
has been delivered, once to each. -/
def Possible (door : Door) : Occurrence → Prop
  | .own ⟨.accept, .ok ()⟩ => door.waiting ≠ []
  | .own _ => True
  | .visit message => message < door.delivered ∧ message ∉ door.visited

theorem along_concat (port : Port) (course : List Occurrence) (occurrence : Occurrence) :
    along port (course ++ [occurrence]) = (along port course).after port occurrence :=
  List.foldl_append

end Door

/-- The steps of the controller in a course of events. -/
def ownSteps (course : List Occurrence) : Trace :=
  course.filterMap fun
    | .own step => some step
    | .visit _ => none

def isDelivery : Exchange Socket.Answer → Bool
  | ⟨.send _, .ok ()⟩ => true
  | _ => false

def deliveries (trace : Trace) : Nat := trace.countP isDelivery

/-- The message of this number was delivered, and the answer to it has not been accepted yet, nor has
the waiting for it failed. -/
def Awaited (course : List Occurrence) (message : Nat) : Prop :=
  ∃ before text between, ownSteps course = before ++ ⟨.send text, .ok ()⟩ :: between ∧
    deliveries before = message ∧ acceptances between = []

/-- Whatever happens is possible when it happens. -/
def Lawful (port : Port) : Door → List Occurrence → Prop
  | _, [] => True
  | door, occurrence :: rest =>
    door.Possible occurrence ∧ Lawful port (door.after port occurrence) rest

/-- The peer answers each message while its answer is awaited, or never. -/
def Prompt (course : List Occurrence) : Prop :=
  ∀ earlier message later, course = earlier ++ .visit message :: later → Awaited earlier message

/-- The controller does not connect to its own listen port. -/
def Elsewhere (port : Port) (trace : Trace) : Prop :=
  ∀ address number limit outcome, ⟨.connect address number limit, outcome⟩ ∈ trace → number ≠ port

variable {port : Port} {phase after : Phase} {course earlier first second : List Occurrence}
  {step : Exchange Socket.Answer} {message : Nat} {trace : Trace}

@[simp]
theorem own_steps_append (first second : List Occurrence) :
    ownSteps (first ++ second) = ownSteps first ++ ownSteps second :=
  List.filterMap_append

@[simp]
theorem own_steps_own (step : Exchange Socket.Answer) (rest : List Occurrence) :
    ownSteps (.own step :: rest) = step :: ownSteps rest := rfl

@[simp]
theorem own_steps_visit (message : Nat) (rest : List Occurrence) :
    ownSteps (.visit message :: rest) = ownSteps rest := rfl

@[simp]
theorem own_steps_nil : ownSteps [] = [] := rfl

theorem deliveries_append (first second : Trace) :
    deliveries (first ++ second) = deliveries first + deliveries second :=
  List.countP_append

/-! ## Courses up to some moment -/

theorem lawful_append (door : Door) (first second : List Occurrence) :
    Lawful port door (first ++ second) ↔
      Lawful port door first ∧ Lawful port (first.foldl (Door.after port) door) second := by
  induction first generalizing door with
  | nil => simp [Lawful]
  | cons occurrence rest induction => simp [Lawful, induction, and_assoc]

theorem Lawful.before (lawful : Lawful port {} (first ++ second)) : Lawful port {} first :=
  ((lawful_append {} first second).mp lawful).1

theorem Lawful.next {occurrence : Occurrence}
    (lawful : Lawful port {} (first ++ occurrence :: second)) :
    (Door.along port first).Possible occurrence :=
  ((lawful_append {} first (occurrence :: second)).mp lawful).2.1

theorem Prompt.before (prompt : Prompt (first ++ second)) : Prompt first := by
  intro earlier message later split
  apply prompt earlier message (later ++ second)
  rw [split]
  simp

theorem Prompt.last (prompt : Prompt (course ++ [.visit message])) : Awaited course message :=
  prompt course message [] rfl

/-- A place in a course that goes on by one occurrence is a place in the course, or its end. -/
theorem place_concat {last occurrence : Occurrence} {later : List Occurrence}
    (split : course ++ [last] = earlier ++ occurrence :: later) :
    (earlier = course ∧ occurrence = last) ∨ ∃ others, course = earlier ++ occurrence :: others := by
  rcases List.eq_nil_or_concat later with rfl | ⟨others, final, rfl⟩
  · obtain ⟨same, single⟩ := List.append_inj' split rfl
    cases single
    exact .inl ⟨same.symm, rfl⟩
  · have longer : course ++ [last] = (earlier ++ occurrence :: others) ++ [final] := by
      rw [split, List.append_assoc, List.cons_append, List.concat_eq_append]
    exact .inr ⟨others, (List.append_inj' longer rfl).1⟩

theorem Prompt.own (prompt : Prompt course) (step : Exchange Socket.Answer) :
    Prompt (course ++ [.own step]) := by
  intro earlier message later split
  rcases place_concat split with ⟨_, same⟩ | ⟨others, before⟩
  · cases same
  · exact prompt earlier message others before

theorem Prompt.visit (prompt : Prompt course) (awaited : Awaited course message) :
    Prompt (course ++ [.visit message]) := by
  intro earlier other later split
  rcases place_concat split with ⟨rfl, same⟩ | ⟨others, before⟩
  · cases same
    exact awaited
  · exact prompt earlier other others before

theorem Elsewhere.before {first second : Trace} (elsewhere : Elsewhere port (first ++ second)) :
    Elsewhere port first := by
  intro address number limit outcome member
  exact elsewhere address number limit outcome (List.mem_append_left _ member)

/-! ## What the steps of the controller say of the door -/

theorem Door.after_connect (port : Port) (door : Door) (address : Address) (number : Port)
    (limit : Option Nat) :
    door.after port (.own ⟨.connect address number limit, .ok ()⟩) =
      if door.bound = some number then { door with waiting := door.waiting ++ [.controller] }
      else door := rfl

/-- A step of the controller changes which port is taken and how many messages were delivered, and
not who has visited. -/
theorem Door.after_own (port : Port) (door : Door) (step : Exchange Socket.Answer) :
    (door.after port (.own step)).bound = boundNext door.bound step ∧
      (door.after port (.own step)).delivered = door.delivered + deliveries [step] ∧
      (door.after port (.own step)).visited = door.visited := by
  obtain ⟨request, answer⟩ := step
  cases request with
  | listen number => cases answer <;> exact ⟨rfl, rfl, rfl⟩
  | send text => cases answer <;> exact ⟨rfl, rfl, rfl⟩
  | accept => cases answer <;> exact ⟨rfl, rfl, rfl⟩
  | connect address number limit =>
      cases answer with
      | error fault => exact ⟨rfl, rfl, rfl⟩
      | ok =>
          rw [Door.after_connect]
          split <;> exact ⟨rfl, rfl, rfl⟩
  | _ => exact ⟨rfl, rfl, rfl⟩

theorem Door.along_own (port : Port) (course : List Occurrence) :
    (Door.along port course).bound = boundAfter (ownSteps course) ∧
      (Door.along port course).delivered = deliveries (ownSteps course) := by
  induction course using List.reverseRecOn with
  | nil => exact ⟨rfl, rfl⟩
  | append_singleton course occurrence induction =>
      rw [Door.along_concat]
      cases occurrence with
      | own step =>
          obtain ⟨bound, delivered, _⟩ := (Door.along port course).after_own port step
          rw [bound, delivered, induction.1, induction.2]
          simp [boundAfter, deliveries]
      | visit message =>
          rw [own_steps_append, own_steps_visit, own_steps_nil, List.append_nil]
          exact induction

/-! ## Messages awaited -/

theorem quiet_undelivered (quiet : isQuiet step = true) : isDelivery step = false := by
  obtain ⟨request, answer⟩ := step
  cases request with
  | send text => cases quiet
  | _ => rfl

/-- While an answer is awaited, nothing is sent. -/
theorem along_awaiting (along : Along port .awaiting trace phase) (silent : acceptances trace = []) :
    phase = .awaiting ∧ deliveries trace = 0 := by
  induction trace with
  | nil =>
      cases along
      exact ⟨rfl, rfl⟩
  | cons step rest induction =>
      rw [acceptances_cons, List.append_eq_nil_iff] at silent
      cases along with
      | cons next along =>
          cases next with
          | quiet _ quiet =>
              obtain ⟨same, none⟩ := induction along silent.2
              refine ⟨same, ?_⟩
              rw [deliveries, List.countP_cons_of_neg (by simp [quiet_undelivered quiet])]
              exact none
          | answered outcome => simp [acceptance?] at silent

theorem Awaited.now (awaited : Awaited course message)
    (along : Along port .free (ownSteps course) phase) :
    phase = .awaiting ∧ message + 1 = deliveries (ownSteps course) := by
  obtain ⟨before, text, between, split, rfl, silent⟩ := awaited
  rw [split] at along ⊢
  obtain ⟨middle, _, late⟩ := Phase.along_append along
  cases late with
  | cons next rest =>
      cases next with
      | quiet _ quiet => cases quiet
      | delivered =>
          obtain ⟨same, none⟩ := along_awaiting rest silent
          refine ⟨same, ?_⟩
          rw [deliveries_append, ← List.singleton_append, deliveries_append, none]
          rfl

theorem awaited_latest (along : Along port .free (ownSteps course) .awaiting) :
    ∃ latest, Awaited course latest ∧ latest + 1 = deliveries (ownSteps course) := by
  obtain ⟨before, text, between, split, quiet⟩ := along.reached.2
  have awaited : Awaited course (deliveries before) :=
    ⟨before, text, between, split, rfl, quiet.acceptances⟩
  exact ⟨deliveries before, awaited, (awaited.now along).2⟩

/-! ## Who waits at the door -/

/-- Who waits in each phase. No one waits before the message has gone out, and while its answer is
awaited no one waits but the peer with that answer. -/
def Watched (door : Door) : Phase → Prop
  | .free => door.waiting = []
  | .taken => door.waiting = []
  | .awaiting => door.waiting = [] ∨ ∃ latest, latest + 1 = door.delivered ∧
      door.waiting = [.peer latest] ∧ latest ∈ door.visited
  | .spent => True

theorem Door.after_quiet {door : Door} (bound : door.bound = phase.bound port)
    (quiet : isQuiet step = true) (elsewhere : Elsewhere port [step]) :
    door.after port (.own step) = door := by
  obtain ⟨request, answer⟩ := step
  cases request with
  | connect address number limit =>
      cases answer with
      | error fault => rfl
      | ok =>
          have other : number ≠ port :=
            elsewhere address number limit (.ok ()) (List.mem_singleton.mpr rfl)
          rw [Door.after_connect, if_neg]
          rw [bound]
          cases phase with
          | free => exact fun same => nomatch same
          | _ => exact fun same => other (Option.some.inj same).symm
  | listen number => cases quiet
  | send text => cases quiet
  | release => cases quiet
  | accept => cases quiet
  | receive capacity => cases quiet
  | _ => rfl

theorem Watched.own {door : Door} (watched : Watched door phase) (next : Next port phase step after)
    (bound : door.bound = phase.bound port) (elsewhere : Elsewhere port [step]) :
    Watched (door.after port (.own step)) after := by
  cases next with
  | quiet _ quiet =>
      rw [Door.after_quiet bound quiet elsewhere]
      exact watched
  | busy fault => exact watched
  | taken => rfl
  | delivered text => exact .inl watched
  | undelivered text fault => trivial
  | answered outcome => trivial
  | abandoned => rfl
  | released => rfl
  | received capacity outcome => exact watched

theorem Watched.visit {door : Door} (watched : Watched door .awaiting)
    (bound : door.bound = some port) (latest : message + 1 = door.delivered)
    (anew : message ∉ door.visited) : Watched (door.after port (.visit message)) .awaiting := by
  have waiting : door.waiting = [] := by
    rcases watched with none | ⟨other, same, _, visited⟩
    · exact none
    · have equal : other = message := by omega
      exact absurd (equal ▸ visited) anew
  right
  refine ⟨message, latest, ?_, List.mem_cons_self⟩
  simp [Door.after, bound, waiting]

theorem watched (lawful : Lawful port {} course) (prompt : Prompt course)
    (elsewhere : Elsewhere port (ownSteps course))
    (along : Along port .free (ownSteps course) phase) : Watched (Door.along port course) phase := by
  induction course using List.reverseRecOn generalizing phase with
  | nil =>
      cases along
      rfl
  | append_singleton course occurrence induction =>
      rw [own_steps_append] at elsewhere along
      obtain ⟨middle, early, late⟩ := Phase.along_append along
      have before : Watched (Door.along port course) middle :=
        induction lawful.before prompt.before elsewhere.before early
      have bound : (Door.along port course).bound = middle.bound port :=
        (Door.along_own port course).1.trans early.reached.1
      rw [Door.along_concat]
      cases occurrence with
      | own step =>
          apply before.own (Phase.along_single late) bound
          intro address number limit outcome member
          exact elsewhere address number limit outcome (List.mem_append_right _ member)
      | visit message =>
          obtain ⟨rfl, latest⟩ := prompt.last.now early
          cases late
          apply before.visit bound
          · rw [(Door.along_own port course).2]
            exact latest
          · exact lawful.next.2

/-- Every message has had its visit, but for one that is awaited still. -/
def Settled (door : Door) (phase : Phase) : Prop :=
  ∀ message < door.delivered,
    message ∈ door.visited ∨ phase = .awaiting ∧ message + 1 = door.delivered

/-- If someone waits while an answer is awaited, it is the peer, and so the message is settled too. -/
theorem Settled.waited {door : Door} (settled : Settled door .awaiting)
    (watched : Watched door .awaiting) (someone : door.waiting ≠ []) :
    ∀ message < door.delivered, message ∈ door.visited := by
  intro message early
  rcases watched with none | ⟨latest, last, _, answered⟩
  · exact absurd none someone
  · rcases settled message early with visited | ⟨_, awaited⟩
    · exact visited
    · have same : message = latest := by omega
      rw [same]
      exact answered

theorem Settled.own {door : Door} (settled : Settled door phase) (watched : Watched door phase)
    (next : Next port phase step after) (possible : door.Possible (.own step)) (met : Met [step]) :
    Settled (door.after port (.own step)) after := by
  obtain ⟨_, delivered, visited⟩ := door.after_own port step
  have kept : deliveries [step] = 0 → (∀ message < door.delivered, message ∈ door.visited) →
      Settled (door.after port (.own step)) after := by
    intro none all message early
    rw [delivered, none] at early
    rw [visited]
    exact .inl (all message early)
  have others : phase ≠ .awaiting → ∀ message < door.delivered, message ∈ door.visited :=
    fun other message early => (settled message early).resolve_right fun awaited => other awaited.1
  cases next with
  | quiet _ quiet =>
      have none : deliveries [step] = 0 := by simp [deliveries, quiet_undelivered quiet]
      intro message early
      rw [delivered, none] at early ⊢
      rw [visited]
      exact settled message early
  | delivered text =>
      intro message early
      have one : deliveries [⟨.send text, .ok ()⟩] = 1 := rfl
      rw [delivered, one] at early ⊢
      rw [visited]
      by_cases latest : message + 1 = door.delivered + 1
      · exact .inr ⟨rfl, latest⟩
      · exact .inl (others (by simp) message (by omega))
  | answered outcome =>
      have came : outcome = .ok () := met outcome (by simp [acceptance?])
      subst came
      exact kept rfl (settled.waited watched possible)
  | busy fault => exact kept rfl (others (by simp))
  | taken => exact kept rfl (others (by simp))
  | undelivered text fault => exact kept rfl (others (by simp))
  | abandoned => exact kept rfl (others (by simp))
  | released => exact kept rfl (others (by simp))
  | received capacity outcome => exact kept rfl (others (by simp))

theorem Settled.visit {door : Door} (settled : Settled door phase) :
    Settled (door.after port (.visit message)) phase := by
  intro other early
  rcases settled other early with visited | awaited
  · exact .inl (List.mem_cons_of_mem _ visited)
  · exact .inr awaited

/-- Where every answer that was awaited has come, the peer has had no occasion to be late. -/
theorem prompt_of_met (lawful : Lawful port {} course) (elsewhere : Elsewhere port (ownSteps course))
    (along : Along port .free (ownSteps course) phase) (met : Met (ownSteps course)) :
    Prompt course ∧ Settled (Door.along port course) phase := by
  induction course using List.reverseRecOn generalizing phase with
  | nil =>
      constructor
      · intro earlier message later split
        simp at split
      · intro message early
        cases early
  | append_singleton course occurrence induction =>
      rw [own_steps_append] at elsewhere along met
      obtain ⟨middle, early, late⟩ := Phase.along_append along
      obtain ⟨metBefore, metLast⟩ := met_append.mp met
      obtain ⟨prompt, settled⟩ := induction lawful.before elsewhere.before early metBefore
      rw [Door.along_concat]
      cases occurrence with
      | own step =>
          have waiting := watched lawful.before prompt elsewhere.before early
          exact ⟨prompt.own step, settled.own waiting (Phase.along_single late) lawful.next metLast⟩
      | visit message =>
          cases late
          obtain ⟨sent, anew⟩ := lawful.next
          obtain ⟨rfl, latest⟩ := (settled message sent).resolve_left anew
          obtain ⟨other, awaited, same⟩ := awaited_latest early
          rw [← (Door.along_own port course).2, ← latest] at same
          cases same
          exact ⟨prompt.visit awaited, settled.visit⟩

/-! ## The reply and the listener -/

/-- A visit in answer to an awaited message finds the port taken. -/
theorem awaited_bound (awaited : Awaited course message)
    (along : Along port .free (ownSteps course) phase) :
    (Door.along port course).bound = some port := by
  obtain ⟨rfl, _⟩ := awaited.now along
  rw [(Door.along_own port course).1]
  exact along.reached.1

/-- When a connection is accepted, the one with the answer awaited is the only one that waits. -/
theorem accepted_awaited {later : List Occurrence} {last : Phase}
    (lawful : Lawful port {} (course ++ .own ⟨.accept, .ok ()⟩ :: later))
    (elsewhere : Elsewhere port (ownSteps course))
    (along : Along port .free (ownSteps (course ++ .own ⟨.accept, .ok ()⟩ :: later)) last)
    (timely : Met (ownSteps course) ∨ Prompt course) :
    ∃ message, Awaited course message ∧ (Door.along port course).waiting = [.peer message] := by
  rw [own_steps_append, own_steps_own] at along
  obtain ⟨phase, early, late⟩ := Phase.along_append along
  have awaiting : phase = .awaiting := by
    cases late with
    | cons next rest =>
        cases next with
        | quiet _ quiet => cases quiet
        | answered => rfl
  subst awaiting
  have prompt : Prompt course := by
    rcases timely with met | prompt
    · exact (prompt_of_met lawful.before elsewhere early met).1
    · exact prompt
  have someone : (Door.along port course).waiting ≠ [] := lawful.next
  rcases watched lawful.before prompt elsewhere early with none | ⟨latest, last, alone, _⟩
  · exact absurd none someone
  · obtain ⟨message, awaited, same⟩ := awaited_latest early
    rw [← (Door.along_own port course).2, ← last] at same
    cases same
    exact ⟨latest, awaited, alone⟩

/-- An answer that is awaited after another has come was not the last one awaited. -/
theorem Steady.met {first second : Trace} {outcome : Except IoFault Unit}
    (steady : Steady (first ++ ⟨.accept, outcome⟩ :: second)) : Met first := by
  intro early member
  apply steady
  rw [acceptances_append, acceptances_cons]
  have later : (acceptance? ⟨.accept, outcome⟩).toList ++ acceptances second ≠ [] := by
    simp [acceptance?]
  rw [List.dropLast_append_of_ne_nil later]
  exact List.mem_append_left _ member

/-- For every network, timing and retry policy. A handshake and a request to be let go begin by taking
the listen port; if that fails nothing is sent or done, and the fault is that of the port. They accept
one connection at most, and whatever comes of them the port is free when they are over. So over a
whole history of a controller the port is only taken when nothing is, a message only goes out under
the port that its own exchange has taken, and in the end nothing is taken. In every course of events
in which the peer's connections fall among the steps of the controller, one in answer to an awaited
message finds the port taken; and if the controller does not connect to its own port, each connection
that it accepts is the only one that waits and comes in answer to the message awaited. That is so in
every single script, and in a longer history as long as no answer was awaited in vain before, or the
peer comes while it is awaited or not at all. -/
theorem listener_covers_exchange {State : Type} (network : Behaviour Socket.Answer State)
    (timing : HeartbeatTiming) (policy : RetryPolicy) :
    (∀ endpoint devices start,
      let ended := (handshake endpoint devices).run.run network start
      Guarded endpoint.listenPort ended.trace ended.value) ∧
    (∀ session number start,
      let ended := (askToLeave session number).run.run network start
      Guarded session.endpoint.listenPort ended.trace ended.value) ∧
    ∀ endpoint options steps start,
      let port := endpoint.listenPort
      let trace := footprint network timing policy endpoint options start steps
      Sheltered port trace ∧
      ∀ course, ownSteps course = trace →
        (∀ earlier message later, course = earlier ++ .visit message :: later →
          Awaited earlier message → (Door.along port earlier).bound = some port) ∧
        (Lawful port {} course → Elsewhere port trace →
          ∀ earlier later, course = earlier ++ .own ⟨.accept, .ok ()⟩ :: later →
            (∃ lines, steps = [.run lines]) ∨ Met (ownSteps earlier) ∨ Prompt earlier →
              ∃ message, Awaited earlier message ∧
                (Door.along port earlier).waiting = [.peer message]) := by
  refine ⟨?_, ?_, ?_⟩
  · intro endpoint devices start ended
    exact (handshaking (Program.run_yields network (handshake endpoint devices).run start)).guarded
  · intro session number start ended
    exact (asking (Program.run_yields network (askToLeave session number).run start)).guarded
  · intro endpoint options steps start port trace
    have along : Along port .free trace .free :=
      history_along network timing policy endpoint options start steps
    refine ⟨along.sheltered, ?_⟩
    intro course own
    rw [← own] at along
    constructor
    · intro earlier message later split awaited
      rw [split, own_steps_append] at along
      obtain ⟨phase, early, _⟩ := Phase.along_append along
      exact awaited_bound awaited early
    · intro lawful elsewhere earlier later split timely
      have steps_split : trace = ownSteps earlier ++ ⟨.accept, .ok ()⟩ :: ownSteps later := by
        rw [← own, split, own_steps_append, own_steps_own]
      rw [steps_split] at elsewhere
      subst split
      apply accepted_awaited lawful elsewhere.before along
      rcases timely with ⟨lines, rfl⟩ | timely
      · have steady : Steady trace :=
          script_steady network timing policy endpoint options start lines
        rw [steps_split] at steady
        exact .inl steady.met
      · exact timely

/-- A network on which everything goes well until an answer is to be read. -/
def speechless : Behaviour Socket.Answer Unit
  | .narrate _, _ => ((), ())
  | .listen _, _ => (.ok (), ())
  | .release, _ => ((), ())
  | .resolve _, _ => (.ok [.v4 127 0 0 1], ())
  | .connect _ _ _, _ => (.ok (), ())
  | .send _, _ => (.ok (), ())
  | .hangUp, _ => ((), ())
  | .accept, _ => (.ok (), ())
  | .receive _, _ => (.error (.system .connectionReset), ())
  | .wait _, _ => ((), ())

/-- The peer connects as soon as the Hello is written, before the controller has hung up. -/
theorem listener_covers_exchange_prompt :
    let hello := Hello.text ⟨4002, [⟨"sst", "S1"⟩]⟩
    let earlier : List Occurrence :=
      [.own ⟨.narrate (.processing (.enable ⟨"sst", "S1"⟩)), ()⟩, .own ⟨.listen 4002, .ok ()⟩,
        .own ⟨.resolve "dgi", .ok [.v4 127 0 0 1]⟩,
        .own ⟨.connect (.v4 127 0 0 1) 4001 none, .ok ()⟩, .own ⟨.send hello, .ok ()⟩]
    let between : List Occurrence :=
      [.own ⟨.hangUp, ()⟩, .own ⟨.narrate (.helloSent hello), ()⟩]
    let later : List Occurrence :=
      [.own ⟨.release, ()⟩, .own ⟨.receive 64, .error (.system .connectionReset)⟩]
    let door := Door.along 4002
    ownSteps (earlier ++ .visit 0 :: (between ++ .own ⟨.accept, .ok ()⟩ :: later)) =
        footprint speechless {} {} ⟨"dgi", 4001, 4002⟩ {} () [.run ["enable sst S1"]] ∧
      (door earlier).bound = some 4002 ∧
        ∃ message, (door (earlier ++ .visit 0 :: between)).waiting = [.peer message] := by
  intro hello earlier between later door
  have own : ownSteps (earlier ++ .visit 0 :: (between ++ .own ⟨.accept, .ok ()⟩ :: later)) =
      footprint speechless {} {} ⟨"dgi", 4001, 4002⟩ {} () [.run ["enable sst S1"]] := rfl
  have covered := (listener_covers_exchange speechless {} {}).2.2 ⟨"dgi", 4001, 4002⟩ {}
    [.run ["enable sst S1"]] ()
  obtain ⟨found, accepted⟩ := covered.2 _ own
  refine ⟨own, ?_, ?_⟩
  · apply found earlier 0 _ rfl
    exact ⟨(ownSteps earlier).dropLast, hello, [], rfl, rfl, rfl⟩
  · have lawful : Lawful 4002 {}
        (earlier ++ .visit 0 :: (between ++ .own ⟨.accept, .ok ()⟩ :: later)) := by
      simp [earlier, between, later, Lawful, Door.Possible, Door.after]
    have elsewhere : Elsewhere 4002
        (footprint speechless {} {} ⟨"dgi", 4001, 4002⟩ {} () [.run ["enable sst S1"]]) := by
      rw [← own]
      intro address number limit outcome member
      simp [earlier, between, later] at member
      rw [member.1.2.1]
      decide
    obtain ⟨message, _, alone⟩ := accepted lawful elsewhere (earlier ++ .visit 0 :: between) later
      (by simp) (.inl ⟨_, rfl⟩)
    exact ⟨message, alone⟩

end StandIn.Tcp
