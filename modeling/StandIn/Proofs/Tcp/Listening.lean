import Mathlib.Data.List.Induction
import StandIn.Proofs.Tcp.Outcome

/-!
Where the listen port is taken and given back. `Sheltered` says of the places in a trace that a
message goes out, and an answer is awaited, only while the port is taken. `Phase` says it by a monitor
that follows an exchange from the taking of the port to its release. Every exchange leads the monitor
from a free port back to a free port, and every trace that does so is sheltered.
-/

set_option autoImplicit false

namespace StandIn.Tcp

open Socket (Trace)

/-! ## The port that is taken -/

/-- The port that is taken after a step, from the one that was taken before it. -/
def boundNext (bound : Option Port) : Exchange Socket.Answer → Option Port
  | ⟨.listen port, .ok ()⟩ => some port
  | ⟨.release, _⟩ => none
  | _ => bound

def boundAfter (trace : Trace) : Option Port :=
  trace.foldl boundNext none

/-- Steps that have nothing to do with the listen port or a message. -/
def isQuiet : Exchange Socket.Answer → Bool
  | ⟨.narrate _, _⟩ => true
  | ⟨.resolve _, _⟩ => true
  | ⟨.connect _ _ _, _⟩ => true
  | ⟨.hangUp, _⟩ => true
  | ⟨.wait _, _⟩ => true
  | _ => false

def Quiet (trace : Trace) : Prop :=
  ∀ step ∈ trace, isQuiet step = true

@[simp]
theorem quiet_nil : Quiet [] := by
  simp [Quiet]

@[simp]
theorem quiet_cons (step : Exchange Socket.Answer) (rest : Trace) :
    Quiet (step :: rest) ↔ isQuiet step = true ∧ Quiet rest :=
  List.forall_mem_cons

@[simp]
theorem quiet_append (first second : Trace) :
    Quiet (first ++ second) ↔ Quiet first ∧ Quiet second :=
  List.forall_mem_append

/-- What came of the waiting for answers, in order. -/
def acceptance? : Exchange Socket.Answer → Option (Except IoFault Unit)
  | ⟨.accept, outcome⟩ => some outcome
  | _ => none

def acceptances (trace : Trace) : List (Except IoFault Unit) :=
  trace.filterMap acceptance?

structure Sheltered (port : Port) (trace : Trace) : Prop where
  /-- The port is taken when nothing is. -/
  taken : ∀ earlier number outcome later, trace = earlier ++ ⟨.listen number, outcome⟩ :: later →
    number = port ∧ boundAfter earlier = none
  /-- A message goes out only in an exchange that has taken the port before and holds it still. -/
  sent : ∀ earlier message outcome later, trace = earlier ++ ⟨.send message, outcome⟩ :: later →
    boundAfter earlier = some port ∧
      ∃ before between, earlier = before ++ ⟨.listen port, .ok ()⟩ :: between ∧ Quiet between
  /-- An answer is awaited only to a message that went out, and with the port still taken. -/
  awaited : ∀ earlier outcome later, trace = earlier ++ ⟨.accept, outcome⟩ :: later →
    boundAfter earlier = some port ∧
      ∃ before message between, earlier = before ++ ⟨.send message, .ok ()⟩ :: between ∧
        Quiet between
  freed : boundAfter trace = none

/-! ## The monitor -/

/-- How far an exchange has come: the port is free or taken, a message has gone out whose answer is
awaited, or there is nothing left to do but to give the port back. -/
inductive Phase where
  | free
  | taken
  | awaiting
  | spent
deriving DecidableEq

namespace Phase

/-- The steps that may come in a phase, and the phases that they lead to. -/
inductive Next (port : Port) : Phase → Exchange Socket.Answer → Phase → Prop where
  | quiet (phase : Phase) {step : Exchange Socket.Answer} (quiet : isQuiet step = true) :
      Next port phase step phase
  | busy (fault : IoFault) : Next port free ⟨.listen port, .error fault⟩ free
  | taken : Next port free ⟨.listen port, .ok ()⟩ taken
  | delivered (message : String) : Next port taken ⟨.send message, .ok ()⟩ awaiting
  | undelivered (message : String) (fault : IoFault) :
      Next port taken ⟨.send message, .error fault⟩ spent
  | answered (outcome : Except IoFault Unit) : Next port awaiting ⟨.accept, outcome⟩ spent
  | abandoned : Next port taken ⟨.release, ()⟩ free
  | released : Next port spent ⟨.release, ()⟩ free
  | received (capacity : Nat) (outcome : Except IoFault (List UInt8)) :
      Next port free ⟨.receive capacity, outcome⟩ free

inductive Along (port : Port) : Phase → Trace → Phase → Prop where
  | nil (phase : Phase) : Along port phase [] phase
  | cons {phase middle after : Phase} {step : Exchange Socket.Answer} {rest : Trace}
      (next : Next port phase step middle) (along : Along port middle rest after) :
      Along port phase (step :: rest) after

/-- The port that is taken in a phase. -/
def bound (port : Port) : Phase → Option Port
  | free => none
  | _ => some port

variable {port : Port} {phase middle after : Phase} {first second trace : Trace}
  {step : Exchange Socket.Answer}

theorem Next.along (next : Next port phase step after) : Along port phase [step] after :=
  .cons next (.nil after)

theorem Along.append (early : Along port phase first middle) (late : Along port middle second after) :
    Along port phase (first ++ second) after := by
  induction early with
  | nil => exact late
  | cons next _ induction => exact .cons next (induction late)

theorem along_append (along : Along port phase (first ++ second) after) :
    ∃ middle, Along port phase first middle ∧ Along port middle second after := by
  induction first generalizing phase with
  | nil => exact ⟨phase, .nil phase, along⟩
  | cons step rest induction =>
      cases along with
      | cons next along =>
          obtain ⟨middle, early, late⟩ := induction along
          exact ⟨middle, .cons next early, late⟩

theorem along_single (along : Along port phase [step] after) : Next port phase step after := by
  cases along with
  | cons next rest =>
      cases rest
      exact next

theorem along_quiet (quiet : Quiet trace) : Along port phase trace phase := by
  induction trace with
  | nil => exact .nil phase
  | cons step rest induction =>
      rw [quiet_cons] at quiet
      exact .cons (.quiet phase quiet.1) (induction quiet.2)

/-- The port that is taken changes with the phase. -/
theorem Next.bound (next : Next port phase step after) :
    boundNext (phase.bound port) step = after.bound port := by
  cases next with
  | @quiet phase step quiet =>
      obtain ⟨request, answer⟩ := step
      cases request with
      | narrate line => rfl
      | resolve host => rfl
      | connect address number limit => rfl
      | hangUp => rfl
      | wait milliseconds => rfl
      | _ => cases quiet
  | _ => rfl

/-- What lies behind a phase in which the port is taken, back to the step that has led there. -/
def Reached (port : Port) (trace : Trace) : Phase → Prop
  | taken => ∃ before between, trace = before ++ ⟨.listen port, .ok ()⟩ :: between ∧ Quiet between
  | awaiting => ∃ before message between,
      trace = before ++ ⟨.send message, .ok ()⟩ :: between ∧ Quiet between
  | _ => True

theorem Reached.quiet (reached : Reached port trace phase) (quiet : isQuiet step = true) :
    Reached port (trace ++ [step]) phase := by
  cases phase with
  | taken =>
      obtain ⟨before, between, rfl, early⟩ := reached
      exact ⟨before, between ++ [step], by simp, by simp [early, quiet]⟩
  | awaiting =>
      obtain ⟨before, message, between, rfl, early⟩ := reached
      exact ⟨before, message, between ++ [step], by simp, by simp [early, quiet]⟩
  | _ => trivial

theorem Along.reached (along : Along port free trace phase) :
    boundAfter trace = phase.bound port ∧ Reached port trace phase := by
  -- On the trace from its end: what a phase goes back to is found among the latest steps.
  induction trace using List.reverseRecOn generalizing phase with
  | nil =>
      cases along
      exact ⟨rfl, trivial⟩
  | append_singleton trace step induction =>
      obtain ⟨middle, early, late⟩ := along_append along
      have next : Next port middle step phase := along_single late
      obtain ⟨bound, reached⟩ := induction early
      constructor
      · rw [boundAfter, List.foldl_append, List.foldl_cons, List.foldl_nil, ← next.bound, ← bound]
        rfl
      · cases next with
        | quiet _ quiet => exact reached.quiet quiet
        | taken => exact ⟨trace, [], rfl, quiet_nil⟩
        | delivered message => exact ⟨trace, message, [], rfl, quiet_nil⟩
        | _ => trivial

/-- A trace that the monitor follows from a free port back to a free port is sheltered. -/
theorem Along.sheltered (along : Along port free trace free) : Sheltered port trace where
  taken earlier number outcome later split := by
    subst split
    obtain ⟨phase, early, late⟩ := along_append along
    have bound := early.reached.1
    cases late with
    | cons next rest =>
        cases next with
        | quiet _ quiet => cases quiet
        | busy fault => exact ⟨rfl, bound⟩
        | taken => exact ⟨rfl, bound⟩
  sent earlier message outcome later split := by
    subst split
    obtain ⟨phase, early, late⟩ := along_append along
    have reached := early.reached
    cases late with
    | cons next rest =>
        cases next with
        | quiet _ quiet => cases quiet
        | delivered => exact reached
        | undelivered => exact reached
  awaited earlier outcome later split := by
    subst split
    obtain ⟨phase, early, late⟩ := along_append along
    have reached := early.reached
    cases late with
    | cons next rest =>
        cases next with
        | quiet _ quiet => cases quiet
        | answered => exact reached
  freed := along.reached.1

end Phase

/-! ## Every exchange from its beginning to its end -/

open Phase (Along Next)

variable {Value : Type} {host what : String} {port listenPort : Port} {message : String}
  {before after : List Narration} {capacity : Nat} {trace : Trace}

@[simp]
theorem quiet_told (lines : List Narration) : Quiet (told lines) := by
  intro step member
  obtain ⟨line, _, rfl⟩ := List.mem_map.mp member
  rfl

theorem Connecting.quiet {limit : Option Nat} {fault : IoFault} {addresses : List Address}
    {result : Except IoFault Unit}
    (connecting : Connecting port limit fault addresses trace result) : Quiet trace := by
  induction connecting with
  | exhausted => exact quiet_nil
  | connected => simp [isQuiet]
  | failed fault address next _ induction => simp [isQuiet, induction]

theorem Delivering.delivered_along (delivering : Delivering host port message trace (.ok ())) :
    Along listenPort .taken trace .awaiting := by
  cases delivering with
  | delivered addresses connecting =>
      apply Along.cons (.quiet _ rfl)
      apply (Phase.along_quiet connecting.quiet).append
      exact .cons (.delivered message) (.cons (.quiet _ rfl) (.nil _))

/-- A message that was not delivered leaves nothing to do but to give the port back. -/
theorem Delivering.failed_along {fault : Fault}
    (delivering : Delivering host port message trace (.error fault)) :
    Along listenPort .taken (trace ++ [⟨.release, ()⟩]) .free := by
  cases delivering with
  | unresolved fault => exact .cons (.quiet _ rfl) (Next.abandoned).along
  | unconnected addresses fault connecting =>
      apply Along.cons (.quiet _ rfl)
      exact (Phase.along_quiet connecting.quiet).append Next.abandoned.along
  | unsent addresses fault connecting =>
      apply Along.cons (.quiet _ rfl)
      rw [List.append_eq, List.append_assoc]
      apply (Phase.along_quiet connecting.quiet).append
      exact .cons (.undelivered message fault) (.cons (.quiet _ rfl) Next.released.along)

theorem Contacting.along {result : Except Fault Unit}
    (contacting : Contacting host port message before after trace result) :
    Along listenPort .taken (trace ++ [⟨.release, ()⟩]) .free := by
  have silent : ∀ phase lines, Along listenPort phase (told lines) phase :=
    fun phase lines => Phase.along_quiet (quiet_told lines)
  cases contacting with
  | undelivered delivering =>
      rw [List.append_assoc]
      exact (silent _ before).append delivering.failed_along
  | unaccepted delivering fault =>
      simp only [List.append_assoc]
      apply (silent _ before).append
      apply delivering.delivered_along.append
      apply (silent _ after).append
      exact .cons (.answered _) Next.released.along
  | accepted delivering =>
      simp only [List.append_assoc]
      apply (silent _ before).append
      apply delivering.delivered_along.append
      apply (silent _ after).append
      exact .cons (.answered _) Next.released.along

theorem Exchanging.along {result : Except Fault String}
    (exchanging : Exchanging listenPort host port message before after capacity what trace result) :
    Along listenPort .free trace .free := by
  cases exchanging with
  | busy fault => exact (Next.busy fault).along
  | missed contacting => exact .cons .taken contacting.along
  | @unread trace contacting fault =>
      have whole : Along listenPort .taken (trace ++ [⟨.release, ()⟩] ++
          [⟨.receive capacity, .error fault⟩]) .free :=
        contacting.along.append (Next.received capacity _).along
      rw [List.append_assoc] at whole
      exact .cons .taken whole
  | @read trace contacting bytes =>
      have whole : Along listenPort .taken (trace ++ [⟨.release, ()⟩] ++
          (⟨.receive capacity, .ok bytes⟩ :: told (truncation capacity what bytes))) .free := by
        apply contacting.along.append
        exact .cons (.received capacity _) (Phase.along_quiet (quiet_told _))
      rw [List.append_assoc] at whole
      exact .cons .taken whole

theorem Handshaking.along {endpoint : Endpoint} {devices : List Device}
    {result : Except Fault Session} (handshaking : Handshaking endpoint devices trace result) :
    Along endpoint.listenPort .free trace .free := by
  cases handshaking with
  | failed greeting => exact Exchanging.along greeting
  | answered greeting =>
      exact (Exchanging.along greeting).append (Phase.along_quiet (quiet_told _))

theorem Asking.along {session : Session} {number : UInt32} {result : Except Fault Reply}
    (asking : Asking session number trace result) :
    Along session.endpoint.listenPort .free trace .free := by
  cases asking with
  | failed requesting => exact Exchanging.along requesting
  | answered requesting => exact Exchanging.along requesting

theorem quiet_pausing (policy : RetryPolicy) : Quiet (pausing policy) := by
  unfold pausing
  split <;> simp [isQuiet]

theorem Negotiating.along {policy : RetryPolicy} {session : Session} {left : Nat} {number : UInt32}
    {result : Except Fault UInt32}
    (negotiating : Negotiating policy session left number trace result) :
    Along session.endpoint.listenPort .free trace .free := by
  induction negotiating with
  | failed left asking => exact asking.along
  | accepted left asking => exact asking.along.append (Phase.along_quiet (quiet_told _))
  | senseless left reason asking => exact asking.along
  | refused left asking => exact asking.along.append (Phase.along_quiet (quiet_told _))
  | overflowed asking =>
      apply asking.along.append
      exact (Phase.along_quiet (quiet_told _)).append (Phase.along_quiet (quiet_pausing policy))
  | again asking allowed _ induction =>
      apply asking.along.append
      apply (Phase.along_quiet (quiet_told _)).append
      exact (Phase.along_quiet (quiet_pausing policy)).append induction

theorem Pulsing.quiet {timing : HeartbeatTiming} {session : Session} {result : Except Fault Unit}
    (pulsing : Pulsing timing session trace result) : Quiet trace := by
  cases pulsing with
  | unresolved fault => simp [isQuiet]
  | nowhere => simp [isQuiet]
  | missed known connecting => simp [isQuiet, connecting.quiet]
  | felt connecting => simp [isQuiet, connecting.quiet]

/-! ## Answers that were awaited -/

@[simp]
theorem acceptances_nil : acceptances [] = [] := rfl

@[simp]
theorem acceptances_append (first second : Trace) :
    acceptances (first ++ second) = acceptances first ++ acceptances second :=
  List.filterMap_append

theorem Quiet.acceptances (quiet : Quiet trace) : acceptances trace = [] := by
  unfold Tcp.acceptances
  rw [List.filterMap_eq_nil_iff]
  intro step member
  have silent := quiet step member
  obtain ⟨request, answer⟩ := step
  cases request with
  | accept => cases silent
  | _ => rfl

@[simp]
theorem acceptances_cons (step : Exchange Socket.Answer) (rest : Trace) :
    acceptances (step :: rest) = (acceptance? step).toList ++ acceptances rest := by
  unfold acceptances
  cases found : acceptance? step <;> simp [found]

theorem Delivering.acceptances {result : Except Fault Unit}
    (delivering : Delivering host port message trace result) : acceptances trace = [] := by
  cases delivering with
  | unresolved fault => rfl
  | unconnected addresses fault connecting =>
      simp [acceptance?, connecting.quiet.acceptances]
  | unsent addresses fault connecting => simp [acceptance?, connecting.quiet.acceptances]
  | delivered addresses connecting => simp [acceptance?, connecting.quiet.acceptances]

theorem Contacting.acceptances {result : Except Fault Unit}
    (contacting : Contacting host port message before after trace result) :
    (acceptances trace).length ≤ 1 ∧ (result = .ok () → acceptances trace = [.ok ()]) := by
  cases contacting with
  | undelivered delivering => simp [delivering.acceptances, (quiet_told before).acceptances]
  | unaccepted delivering fault =>
      simp [delivering.acceptances, (quiet_told _).acceptances, acceptance?]
  | accepted delivering => simp [delivering.acceptances, (quiet_told _).acceptances, acceptance?]

/-- An exchange awaits one answer at most, and just one if it succeeds. -/
theorem Exchanging.acceptances {result : Except Fault String}
    (exchanging : Exchanging listenPort host port message before after capacity what trace result) :
    (acceptances trace).length ≤ 1 ∧ (result.isOk = true → acceptances trace = [.ok ()]) := by
  cases exchanging with
  | busy fault => simp [acceptance?, Except.isOk, Except.toBool]
  | missed contacting =>
      simp [acceptance?, contacting.acceptances.1, Except.isOk, Except.toBool]
  | unread contacting fault =>
      simp [acceptance?, contacting.acceptances.2 rfl, Except.isOk, Except.toBool]
  | read contacting bytes =>
      simp [acceptance?, contacting.acceptances.2 rfl, (quiet_told _).acceptances]

/-- Every answer that was awaited has come. -/
def Met (trace : Trace) : Prop :=
  ∀ outcome ∈ acceptances trace, outcome = .ok ()

/-- Every answer that was awaited has come, but for the last one perhaps. -/
def Steady (trace : Trace) : Prop :=
  ∀ outcome ∈ (acceptances trace).dropLast, outcome = .ok ()

theorem met_append {first second : Trace} : Met (first ++ second) ↔ Met first ∧ Met second := by
  unfold Met
  rw [acceptances_append]
  exact List.forall_mem_append

theorem Met.steady {first second : Trace} (early : Met first) (late : Steady second) :
    Steady (first ++ second) := by
  intro outcome member
  rw [acceptances_append, List.dropLast_append] at member
  split at member
  · exact early outcome (List.dropLast_subset _ member)
  · exact (List.mem_append.mp member).elim (early outcome) (late outcome)

theorem steady_short (short : (acceptances trace).length ≤ 1) : Steady trace := by
  have none : (acceptances trace).dropLast = [] := by
    rw [← List.length_eq_zero_iff, List.length_dropLast]
    omega
  simp [Steady, none]

theorem Quiet.met (quiet : Quiet trace) : Met trace := by
  simp [Met, quiet.acceptances]

/-- Of the answers awaited, only the last can have failed to come, and none where all went well. -/
structure Patient (trace : Trace) (result : Except Fault Value) : Prop where
  steady : Steady trace
  met : result.isOk = true → Met trace

theorem patient_single {result : Except Fault Value} (short : (acceptances trace).length ≤ 1)
    (answered : result.isOk = true → acceptances trace = [.ok ()]) : Patient trace result where
  steady := steady_short short
  met succeeded := by simp [Met, answered succeeded]

theorem Patient.behind {first second : Trace} {result : Except Fault Value}
    (early : Met first) (late : Patient second result) : Patient (first ++ second) result where
  steady := early.steady late.steady
  met succeeded := met_append.mpr ⟨early, late.met succeeded⟩

theorem Handshaking.acceptances {endpoint : Endpoint} {devices : List Device}
    {result : Except Fault Session} (handshaking : Handshaking endpoint devices trace result) :
    (acceptances trace).length ≤ 1 ∧ (result.isOk = true → acceptances trace = [.ok ()]) := by
  cases handshaking with
  | failed greeting =>
      exact ⟨(Exchanging.acceptances greeting).1, fun succeeded => by cases succeeded⟩
  | answered greeting =>
      simp [(Exchanging.acceptances greeting).2 rfl, (quiet_told _).acceptances]

theorem Asking.acceptances {session : Session} {number : UInt32} {result : Except Fault Reply}
    (asking : Asking session number trace result) :
    (acceptances trace).length ≤ 1 ∧ (result.isOk = true → acceptances trace = [.ok ()]) := by
  cases asking with
  | failed requesting =>
      exact ⟨(Exchanging.acceptances requesting).1, fun succeeded => by cases succeeded⟩
  | answered requesting => exact ⟨(Exchanging.acceptances requesting).1, fun _ =>
      (Exchanging.acceptances requesting).2 rfl⟩

theorem Handshaking.patient {endpoint : Endpoint} {devices : List Device}
    {result : Except Fault Session} (handshaking : Handshaking endpoint devices trace result) :
    Patient trace result :=
  patient_single handshaking.acceptances.1 handshaking.acceptances.2

theorem Asking.patient {session : Session} {number : UInt32} {result : Except Fault Reply}
    (asking : Asking session number trace result) : Patient trace result :=
  patient_single asking.acceptances.1 asking.acceptances.2

theorem Quiet.patient {result : Except Fault Value} (quiet : Quiet trace) : Patient trace result where
  steady := steady_short (by simp [quiet.acceptances])
  met _ := quiet.met

theorem Negotiating.patient {policy : RetryPolicy} {session : Session} {left : Nat}
    {number : UInt32} {result : Except Fault UInt32}
    (negotiating : Negotiating policy session left number trace result) : Patient trace result := by
  have answered : ∀ {trace : Trace} {reply : Reply} {number : UInt32},
      Asking session number trace (.ok reply) → Met trace := fun asking => asking.patient.met rfl
  induction negotiating with
  | failed left asking => exact ⟨asking.patient.steady, fun succeeded => by cases succeeded⟩
  | accepted left asking => exact (quiet_told _).patient.behind (answered asking)
  | senseless left reason asking =>
      exact ⟨asking.patient.steady, fun succeeded => by cases succeeded⟩
  | refused left asking => exact (quiet_told _).patient.behind (answered asking)
  | overflowed asking =>
      apply Patient.behind (answered asking)
      exact Quiet.patient (by simp [quiet_pausing])
  | again asking allowed _ induction =>
      apply Patient.behind (answered asking)
      apply Patient.behind (quiet_told _).met
      exact induction.behind (quiet_pausing _).met

/-! ## One exchange over any network -/

/-- How an exchange with an answer goes about the listen port: it begins by taking the port, and if
that fails there is nothing else to it; the message goes out and the answer is awaited under the
port, at most one connection is accepted, and in the end the port is free. -/
structure Guarded (port : Port) (trace : Trace) (result : Except Fault Value) : Prop where
  begun : (∃ rest, trace = ⟨.listen port, .ok ()⟩ :: rest) ∨
    ∃ fault, trace = [⟨.listen port, .error fault⟩] ∧ result = .error (.io fault)
  sheltered : Sheltered port trace
  single : (acceptances trace).length ≤ 1

theorem Exchanging.begun {result : Except Fault String}
    (exchanging : Exchanging listenPort host port message before after capacity what trace result) :
    (∃ rest, trace = ⟨.listen listenPort, .ok ()⟩ :: rest) ∨
      ∃ fault, trace = [⟨.listen listenPort, .error fault⟩] ∧ result = .error (.io fault) := by
  cases exchanging with
  | busy fault => exact .inr ⟨fault, rfl, rfl⟩
  | missed contacting => exact .inl ⟨_, rfl⟩
  | unread contacting fault => exact .inl ⟨_, rfl⟩
  | read contacting bytes => exact .inl ⟨_, rfl⟩

theorem Handshaking.guarded {endpoint : Endpoint} {devices : List Device}
    {result : Except Fault Session} (handshaking : Handshaking endpoint devices trace result) :
    Guarded endpoint.listenPort trace result where
  begun := by
    cases handshaking with
    | failed greeting =>
        rcases Exchanging.begun greeting with taken | ⟨fault, split, same⟩
        · exact .inl taken
        · cases same
          exact .inr ⟨fault, split, rfl⟩
    | answered greeting =>
        rcases Exchanging.begun greeting with ⟨rest, rfl⟩ | ⟨fault, split, same⟩
        · exact .inl ⟨_, rfl⟩
        · cases same
  sheltered := handshaking.along.sheltered
  single := handshaking.acceptances.1

theorem Asking.guarded {session : Session} {number : UInt32} {result : Except Fault Reply}
    (asking : Asking session number trace result) :
    Guarded session.endpoint.listenPort trace result where
  begun := by
    cases asking with
    | failed requesting =>
        rcases Exchanging.begun requesting with taken | ⟨fault, split, same⟩
        · exact .inl taken
        · cases same
          exact .inr ⟨fault, split, rfl⟩
    | answered requesting =>
        rcases Exchanging.begun requesting with taken | ⟨fault, split, same⟩
        · exact .inl taken
        · cases same
  sheltered := asking.along.sheltered
  single := asking.acceptances.1

end StandIn.Tcp
