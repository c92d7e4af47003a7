import StandIn.Proofs.Tcp.Outcome
import StandIn.Rehearsal
import StandIn.Simulation.Network

/-!
Replies that are read once, and no more of them than fits. What an exchange makes of its replies and
what it tells depend on the part that was read; as long as it does not warn that is all there was, so
it makes of them what it would make of whole texts.
-/

set_option autoImplicit false

namespace StandIn.Tcp

open Socket (Trace)
open Simulation (narrated)

/-! ## What a trace shows of replies -/

def isListen : Exchange Socket.Answer → Bool
  | ⟨.listen _, _⟩ => true
  | _ => false

/-- The bytes that were read from an answer. -/
def read? : Exchange Socket.Answer → Option (List UInt8)
  | ⟨.receive _, .ok bytes⟩ => some bytes
  | _ => none

def reads (trace : Trace) : List (List UInt8) := trace.filterMap read?

theorem reads_append (first second : Trace) : reads (first ++ second) = reads first ++ reads second :=
  List.filterMap_append

theorem narrated_append (first second : Trace) :
    narrated (first ++ second) = narrated first ++ narrated second := by
  induction first with
  | nil => rfl
  | cons exchange rest induction =>
      obtain ⟨request, answer⟩ := exchange
      cases request with
      | narrate line => exact congrArg (List.cons line) induction
      | _ => exact induction

/-- So many exchanges were begun, these replies were read in them, and these lines were told. -/
structure Recorded (trace : Trace) (begun : Nat) (replies : List (List UInt8))
    (lines : List Narration) : Prop where
  begun : trace.countP isListen = begun
  replies : reads trace = replies
  lines : narrated trace = lines

theorem Recorded.append {first second : Trace} {begun others : Nat}
    {replies more : List (List UInt8)} {lines later : List Narration}
    (early : Recorded first begun replies lines) (late : Recorded second others more later) :
    Recorded (first ++ second) (begun + others) (replies ++ more) (lines ++ later) where
  begun := by rw [List.countP_append, early.begun, late.begun]
  replies := by rw [reads_append, early.replies, late.replies]
  lines := by rw [narrated_append, early.lines, late.lines]

theorem recorded_told (lines : List Narration) : Recorded (told lines) 0 [] lines := by
  induction lines with
  | nil => exact ⟨rfl, rfl, rfl⟩
  | cons line rest induction =>
      have first : Recorded [⟨.narrate line, ()⟩] 0 [] [line] := ⟨rfl, rfl, rfl⟩
      exact first.append induction

theorem Connecting.recorded {port : Port} {limit : Option Nat} {fault : IoFault}
    {addresses : List Address} {trace : Trace} {result : Except IoFault Unit}
    (connecting : Connecting port limit fault addresses trace result) : Recorded trace 0 [] [] := by
  induction connecting with
  | exhausted => exact ⟨rfl, rfl, rfl⟩
  | connected => exact ⟨rfl, rfl, rfl⟩
  | failed fault address next _ induction =>
      have first : Recorded [⟨.connect address port limit, .error next⟩] 0 [] [] := ⟨rfl, rfl, rfl⟩
      exact first.append induction

variable {host : String} {port : Port} {message : String} {before after : List Narration}

theorem Delivering.recorded {trace : Trace} {result : Except Fault Unit}
    (delivering : Delivering host port message trace result) : Recorded trace 0 [] [] := by
  have resolved : ∀ found, Recorded [⟨.resolve host, found⟩] 0 [] [] := fun _ => ⟨rfl, rfl, rfl⟩
  have sent : ∀ outcome, Recorded [⟨.send message, outcome⟩, ⟨.hangUp, ()⟩] 0 [] [] :=
    fun _ => ⟨rfl, rfl, rfl⟩
  cases delivering with
  | unresolved fault => exact resolved _
  | unconnected addresses fault connecting => exact (resolved _).append connecting.recorded
  | unsent addresses fault connecting =>
      exact (resolved _).append (connecting.recorded.append (sent _))
  | delivered addresses connecting =>
      exact (resolved _).append (connecting.recorded.append (sent _))

theorem Contacting.recorded {trace : Trace} {result : Except Fault Unit}
    (contacting : Contacting host port message before after trace result) :
    ∃ lines, Recorded trace 0 [] lines ∧ (result = .ok () → lines = before ++ after) := by
  have accepted : ∀ outcome, Recorded [⟨.accept, outcome⟩] 0 [] [] := fun _ => ⟨rfl, rfl, rfl⟩
  cases contacting with
  | undelivered delivering =>
      exact ⟨_, (recorded_told before).append delivering.recorded, fun success => nomatch success⟩
  | unaccepted delivering fault =>
      refine ⟨_, (recorded_told before).append (delivering.recorded.append
        ((recorded_told after).append (accepted _))), fun success => nomatch success⟩
  | accepted delivering =>
      refine ⟨_, (recorded_told before).append (delivering.recorded.append
        ((recorded_told after).append (accepted _))), fun _ => ?_⟩
      rw [List.nil_append, List.append_nil]

variable {listenPort : Port} {capacity : Nat} {what : String}

/-- An exchange that has failed has read nothing. -/
theorem Exchanging.recorded_error {trace : Trace} {fault : Fault}
    (exchanging :
      Exchanging listenPort host port message before after capacity what trace (.error fault)) :
    ∃ lines, Recorded trace 1 [] lines := by
  have listened : ∀ outcome, Recorded [⟨.listen listenPort, outcome⟩] 1 [] [] :=
    fun _ => ⟨rfl, rfl, rfl⟩
  cases exchanging with
  | busy fault => exact ⟨_, listened _⟩
  | missed contacting =>
      have released : Recorded [⟨.release, ()⟩] 0 [] [] := ⟨rfl, rfl, rfl⟩
      obtain ⟨lines, recorded, _⟩ := contacting.recorded
      exact ⟨_, (listened _).append (recorded.append released)⟩
  | unread contacting fault =>
      have unread : Recorded [⟨.release, ()⟩, ⟨.receive capacity, .error fault⟩] 0 [] [] :=
        ⟨rfl, rfl, rfl⟩
      obtain ⟨lines, recorded, _⟩ := contacting.recorded
      exact ⟨_, (listened _).append (recorded.append unread)⟩

theorem recorded_read (listenPort : Port) (capacity : Nat) (what : String) {trace : Trace}
    (contacting : Contacting host port message before after trace (.ok ())) (bytes : List UInt8) :
    Recorded (⟨.listen listenPort, .ok ()⟩ :: (trace ++ ⟨.release, ()⟩ ::
      ⟨.receive capacity, .ok bytes⟩ :: told (truncation capacity what bytes))) 1 [bytes]
      (before ++ after ++ truncation capacity what bytes) := by
  have listened : Recorded [⟨.listen listenPort, .ok ()⟩] 1 [] [] := ⟨rfl, rfl, rfl⟩
  have received : Recorded [⟨.release, ()⟩, ⟨.receive capacity, .ok bytes⟩] 0 [bytes] [] :=
    ⟨rfl, rfl, rfl⟩
  obtain ⟨lines, recorded, same⟩ := contacting.recorded
  cases same rfl
  exact listened.append (recorded.append (received.append (recorded_told _)))

/-- An exchange that has succeeded has read one reply, and makes a text of what it has read. -/
theorem Exchanging.recorded_ok {trace : Trace} {text : String}
    (exchanging :
      Exchanging listenPort host port message before after capacity what trace (.ok text)) :
    ∃ bytes, text = Text.decodeLossy bytes ∧
      Recorded trace 1 [bytes] (before ++ after ++ truncation capacity what bytes) := by
  cases exchanging with
  | read contacting bytes => exact ⟨bytes, rfl, recorded_read _ _ _ contacting bytes⟩

/-! ## What is made of what was read -/

/-- Where every exchange has come to its reading, the value is one that the texts read can have, the
lines are a function of the bytes read, and one of them warns of each reading that has filled its
room. -/
structure Understood {Value : Type} (capacity : Nat) (what : String)
    (Means : List String → Value → Prop) (lines : List (List UInt8) → List Narration)
    (trace : Trace) (result : Value) : Prop where
  fewer : (reads trace).length ≤ trace.countP isListen
  value : (reads trace).length = trace.countP isListen →
    Means ((reads trace).map Text.decodeLossy) result
  lines : (reads trace).length = trace.countP isListen → narrated trace = lines (reads trace)
  warned : (reads trace).length = trace.countP isListen →
    (narrated trace).count (.truncated what capacity) =
      (reads trace).countP fun bytes => bytes.length = capacity

theorem count_truncation (capacity : Nat) (what : String) (bytes : List UInt8) :
    (truncation capacity what bytes).count (.truncated what capacity) =
      [bytes].countP fun bytes => bytes.length = capacity := by
  by_cases full : bytes.length = capacity <;> simp [truncation, full]

/-- An exchange that has not come to its reading has nothing to be understood. -/
theorem Recorded.not_understood {Value : Type} {trace : Trace} {told : List Narration}
    (recorded : Recorded trace 1 [] told) (Means : List String → Value → Prop)
    (lines : List (List UInt8) → List Narration) (result : Value) :
    Understood capacity what Means lines trace result := by
  have short : ¬ (reads trace).length = trace.countP isListen := by
    simp [recorded.replies, recorded.begun]
  refine ⟨?_, fun full => absurd full short, fun full => absurd full short,
    fun full => absurd full short⟩
  simp [recorded.replies]

/-! ## One exchange -/

/-- What an answer to a Hello means for the controller. -/
def Opens (endpoint : Endpoint) (texts : List String) (result : Except Fault Session) : Prop :=
  ∃ text, texts = [text] ∧ result = openSession endpoint (Reply.ofText text)

def greetingLines (endpoint : Endpoint) (devices : List Device) (replies : List (List UInt8)) :
    List Narration :=
  .helloSent (Hello.text ⟨endpoint.listenPort, devices⟩) :: replies.flatMap fun bytes =>
    truncation startCapacity "Start" bytes ++ startLines endpoint (Text.decodeLossy bytes)

theorem Handshaking.understood {endpoint : Endpoint} {devices : List Device} {trace : Trace}
    {result : Except Fault Session} (handshaking : Handshaking endpoint devices trace result) :
    Understood startCapacity "Start" (Opens endpoint) (greetingLines endpoint devices) trace
      result := by
  cases handshaking with
  | failed greeting =>
      obtain ⟨lines, recorded⟩ := Exchanging.recorded_error greeting
      exact recorded.not_understood _ _ _
  | answered greeting =>
      obtain ⟨bytes, rfl, early⟩ := Exchanging.recorded_ok greeting
      have recorded := early.append (recorded_told (startLines endpoint (Text.decodeLossy bytes)))
      have silent : (startLines endpoint (Text.decodeLossy bytes)).count
          (.truncated "Start" startCapacity) = 0 := by
        unfold startLines
        cases openSession endpoint (Reply.ofText (Text.decodeLossy bytes)) <;> simp
      refine ⟨?_, ?_, ?_, ?_⟩
      · simp [recorded.replies, recorded.begun]
      · intro _
        exact ⟨_, by rw [recorded.replies]; rfl, rfl⟩
      · simp [recorded.replies, recorded.lines, greetingLines]
      · intro _
        rw [recorded.lines, recorded.replies, List.count_append, List.count_append, silent,
          count_truncation]
        simp

/-- What an answer to a disconnect request means for the controller. -/
def Answers (texts : List String) (result : Except Fault Reply) : Prop :=
  ∃ text, texts = [text] ∧ result = .ok (Reply.ofText text)

def requestLines (number : UInt32) (replies : List (List UInt8)) : List Narration :=
  .askingToLeave number :: replies.flatMap (truncation disconnectCapacity "disconnect")

theorem Asking.recorded_error {session : Session} {number : UInt32} {trace : Trace} {fault : Fault}
    (asking : Asking session number trace (.error fault)) :
    ∃ lines, Recorded trace 1 [] lines := by
  cases asking with
  | failed requesting => exact Exchanging.recorded_error requesting

theorem Asking.recorded_ok {session : Session} {number : UInt32} {trace : Trace} {reply : Reply}
    (asking : Asking session number trace (.ok reply)) :
    ∃ bytes, reply = Reply.ofText (Text.decodeLossy bytes) ∧
      Recorded trace 1 [bytes] (requestLines number [bytes]) := by
  cases asking with
  | answered requesting =>
      obtain ⟨bytes, rfl, recorded⟩ := Exchanging.recorded_ok requesting
      exact ⟨bytes, rfl, by simpa [requestLines] using recorded⟩

theorem count_request_lines (number : UInt32) (bytes : List UInt8) :
    (requestLines number [bytes]).count (.truncated "disconnect" disconnectCapacity) =
      [bytes].countP fun bytes => bytes.length = disconnectCapacity := by
  rw [← count_truncation disconnectCapacity "disconnect"]
  simp [requestLines]

theorem Asking.understood {session : Session} {number : UInt32} {trace : Trace}
    {result : Except Fault Reply} (asking : Asking session number trace result) :
    Understood disconnectCapacity "disconnect" Answers (requestLines number) trace result := by
  cases result with
  | error fault =>
      obtain ⟨lines, recorded⟩ := asking.recorded_error
      exact recorded.not_understood _ _ _
  | ok reply =>
      obtain ⟨bytes, rfl, recorded⟩ := asking.recorded_ok
      refine ⟨?_, ?_, ?_, ?_⟩
      · simp [recorded.replies, recorded.begun]
      · intro _
        exact ⟨_, by rw [recorded.replies]; rfl, rfl⟩
      · simp [recorded.replies, recorded.lines]
      · intro _
        rw [recorded.lines, recorded.replies, count_request_lines]

/-! ## A negotiation -/

/-- The talk when each attempt gets the next of these answers. -/
def rehearsal {Value : Type} (talk : Negotiation.Talk Value) (texts : List String) :
    Finished Negotiation.Answer Replies Value :=
  talk.run Negotiation.rehearsed (texts.map .ok)

/-- The lines of a negotiation: those of its attempts, and in between its own. -/
def negotiationLines : List (Exchange Negotiation.Answer) → List (List UInt8) → List Narration
  | [], _ => []
  | ⟨.attempt number, _⟩ :: rest, replies =>
    requestLines number (replies.take 1) ++ negotiationLines rest (replies.drop 1)
  | ⟨.narrate line, _⟩ :: rest, replies => line :: negotiationLines rest replies
  | ⟨.wait _, _⟩ :: rest, replies => negotiationLines rest replies

def Follows {Value : Type} (talk : Negotiation.Talk Value) (trace : Trace) (result : Value) : Prop :=
  Understood disconnectCapacity "disconnect"
    (fun texts value => value = (rehearsal talk texts).value)
    (fun replies => negotiationLines (rehearsal talk (replies.map Text.decodeLossy)).trace replies)
    trace result

/-- A talk that leaves it to its attempts to warn of replies that were cut. -/
inductive Unwarning {Value : Type} : Negotiation.Talk Value → Prop where
  | done (value : Value) : Unwarning (.done value)
  | ask (request : Negotiation) (next : request.Answer → Negotiation.Talk Value)
      (other : request ≠ .narrate (.truncated "disconnect" disconnectCapacity))
      (unwarning : ∀ answer, Unwarning (next answer)) : Unwarning (.ask request next)

variable {Value : Type} {policy : RetryPolicy} {session : Session}

/-- An attempt that has not come to its reading leaves nothing to be followed. -/
theorem follows_failed {talk rest : Negotiation.Talk Value} {first others : Trace}
    {lines : List Narration} {result : Value} (recorded : Recorded first 1 [] lines)
    (follows : Follows rest others result) : Follows talk (first ++ others) result := by
  have short : ¬ (reads (first ++ others)).length = (first ++ others).countP isListen := by
    have fewer := follows.fewer
    simp only [reads_append, recorded.replies, List.countP_append, recorded.begun, List.nil_append]
    omega
  refine ⟨?_, fun full => absurd full short, fun full => absurd full short,
    fun full => absurd full short⟩
  have fewer := follows.fewer
  simp only [reads_append, recorded.replies, List.countP_append, recorded.begun, List.nil_append]
  omega

theorem follows_answered {number : UInt32} {next : Except Fault Reply → Negotiation.Talk Value}
    {first others : Trace} {bytes : List UInt8} {result : Value}
    (recorded : Recorded first 1 [bytes] (requestLines number [bytes]))
    (follows : Follows (next (.ok (Reply.ofText (Text.decodeLossy bytes)))) others result) :
    Follows (.ask (.attempt number) next) (first ++ others) result := by
  have all : (reads (first ++ others)).length = (first ++ others).countP isListen →
      (reads others).length = others.countP isListen := by
    simp only [reads_append, recorded.replies, List.countP_append, recorded.begun,
      List.singleton_append, List.length_cons]
    omega
  have replies : reads (first ++ others) = bytes :: reads others := by
    rw [reads_append, recorded.replies, List.singleton_append]
  refine ⟨?_, ?_, ?_, ?_⟩
  · have fewer := follows.fewer
    simp only [replies, List.countP_append, recorded.begun, List.length_cons]
    omega
  · intro full
    rw [replies]
    exact follows.value (all full)
  · intro full
    rw [replies, narrated_append, recorded.lines, follows.lines (all full)]
    rfl
  · intro full
    rw [replies, narrated_append, recorded.lines, List.count_append, follows.warned (all full),
      count_request_lines, ← List.countP_append, List.singleton_append]

theorem Unwarning.follows {talk : Negotiation.Talk Value} (unwarning : Unwarning talk)
    {trace : Trace} {result : Value}
    (yields : (talk.perform (negotiationStep session)).Yields trace result) :
    Follows talk trace result := by
  induction unwarning generalizing trace with
  | done value =>
      obtain ⟨rfl, rfl⟩ := Program.yields_done yields
      exact ⟨Nat.le_refl _, fun _ => rfl, fun _ => rfl, fun _ => rfl⟩
  | ask request next other _ induction =>
      obtain ⟨first, answer, rest, asked, later, rfl⟩ := Program.yields_bind yields
      have behind := induction answer later
      cases request with
      | attempt number =>
          have asking := asking asked
          rcases answer with fault | reply
          · obtain ⟨lines, recorded⟩ := asking.recorded_error
            exact follows_failed recorded behind
          · obtain ⟨bytes, rfl, recorded⟩ := asking.recorded_ok
            exact follows_answered recorded behind
      | narrate line =>
          obtain ⟨_, others, rfl, ended⟩ := Program.yields_ask asked
          obtain ⟨rfl, rfl⟩ := Program.yields_done ended
          have unlike : line ≠ .truncated "disconnect" disconnectCapacity :=
            fun same => other (congrArg Negotiation.narrate same)
          refine ⟨behind.fewer, behind.value, fun full => ?_, fun full => ?_⟩
          · exact congrArg (List.cons line) (behind.lines full)
          · exact (List.count_cons_of_ne unlike).trans (behind.warned full)
      | wait milliseconds =>
          obtain ⟨_, others, rfl, ended⟩ := Program.yields_ask asked
          obtain ⟨rfl, rfl⟩ := Program.yields_done ended
          exact ⟨behind.fewer, behind.value, behind.lines, behind.warned⟩

theorem unwarning_say {line : Narration} {rest : Negotiation.Talk Value}
    (other : line ≠ .truncated "disconnect" disconnectCapacity) (unwarning : Unwarning rest) :
    Unwarning (do Negotiation.say line; rest) := by
  refine .ask (.narrate line) _ ?_ fun _ => unwarning
  intro same
  cases same
  exact other rfl

theorem unwarning_wait {rest : Negotiation.Talk Value} (unwarning : Unwarning rest)
    (milliseconds : Nat) : Unwarning (do Negotiation.waitFor milliseconds; rest) := by
  unfold Negotiation.waitFor
  split
  · exact unwarning
  · exact .ask (.wait milliseconds) _ (by simp) fun _ => unwarning

theorem unwarning_ask_from (policy : RetryPolicy) (left : Nat) (number : UInt32) :
    Unwarning (Negotiation.askFrom policy left number) := by
  induction left using Nat.strongRecOn generalizing number with
  | ind left induction =>
  rw [ask_from_eq]
  refine .ask (.attempt number) _ (by simp) fun answer => ?_
  rcases answer with fault | reply
  · exact .done _
  · cases reply with
    | start statePort heartbeatPort => exact .done _
    | malformed cause => exact .done _
    | accepted => exact unwarning_say (by simp) (.done _)
    | rejected =>
        refine unwarning_say (by simp) ?_
        split
        · exact .done _
        · refine unwarning_wait ?_ _
          cases left with
          | zero => exact .done _
          | succ less => exact induction less (Nat.lt_succ_self less) _

/-- What a whole negotiation makes of the answers to its attempts. -/
def Settles (policy : RetryPolicy) (texts : List String) (result : Except Fault Unit) : Prop :=
  result = (rehearsal (Negotiation.negotiate policy) texts).value.map fun _ => ()

def partingLines (policy : RetryPolicy) (replies : List (List UInt8)) : List Narration :=
  negotiationLines
    (rehearsal (Negotiation.negotiate policy) (replies.map Text.decodeLossy)).trace replies

theorem disconnect_understood {trace : Trace} {result : Except Fault Unit}
    (yields : (disconnect policy session).Yields trace result) :
    Understood disconnectCapacity "disconnect" (Settles policy) (partingLines policy) trace
      result := by
  obtain ⟨first, outcome, rest, went, ended, rfl⟩ := Program.yields_bind yields
  obtain ⟨rfl, rfl⟩ := Program.yields_done ended
  have follows := (unwarning_ask_from policy _ 1).follows went
  rw [List.append_nil]
  exact ⟨follows.fewer, fun full => congrArg (Except.map fun _ => ()) (follows.value full),
    follows.lines, follows.warned⟩

/-! ## Replies that are cut -/

/-- Every exchange has come to its reading, and each has read from the beginning of its reply as much
as there is room for. -/
structure Reached (capacity : Nat) (replies : List (List UInt8)) (trace : Trace) : Prop where
  begun : trace.countP isListen = replies.length
  cut : reads trace = replies.map (List.take capacity)

theorem Reached.full {replies : List (List UInt8)} {trace : Trace}
    (reached : Reached capacity replies trace) :
    (reads trace).length = trace.countP isListen := by
  rw [reached.begun, reached.cut, List.length_map]

theorem Reached.append {replies others : List (List UInt8)} {first second : Trace}
    (early : Reached capacity replies first) (late : Reached capacity others second) :
    Reached capacity (replies ++ others) (first ++ second) where
  begun := by rw [List.countP_append, early.begun, late.begun, List.length_append]
  cut := by rw [reads_append, early.cut, late.cut, List.map_append]

theorem Reached.quiet {replies : List (List UInt8)} {first second : Trace} {lines : List Narration}
    (early : Reached capacity replies first) (quiet : Recorded second 0 [] lines) :
    Reached capacity replies (first ++ second) := by
  have late : Reached capacity [] second := ⟨quiet.begun, quiet.replies⟩
  have both := early.append late
  rwa [List.append_nil] at both

theorem recorded_pausing (policy : RetryPolicy) : Recorded (pausing policy) 0 [] [] := by
  unfold pausing
  split <;> exact ⟨rfl, rfl, rfl⟩

/-- Reading no more than fits is sound. What becomes of the traffic, and what it tells, depends on the
part of each reply that fits; it warns of each reply that leaves no room; and if it does not warn it
has understood the replies as a whole. -/
structure SoundlyCut {Value : Type} (traffic : Traffic Value) (capacity : Nat) (what : String)
    (Means : List String → Value → Prop) : Prop where
  bounded : ∀ {State : Type} (behaviour : Behaviour Socket.Answer State) (start : State)
    (replies : List (List UInt8)),
      Reached capacity replies (traffic.run behaviour start).trace →
        Means (replies.map fun reply => Text.decodeLossy (reply.take capacity))
          (traffic.run behaviour start).value
  alike : ∀ {State Other : Type} (behaviour : Behaviour Socket.Answer State) (start : State)
    (otherwise : Behaviour Socket.Answer Other) (there : Other) (replies others : List (List UInt8)),
      replies.map (List.take capacity) = others.map (List.take capacity) →
      Reached capacity replies (traffic.run behaviour start).trace →
      Reached capacity others (traffic.run otherwise there).trace →
        (traffic.run behaviour start).value = (traffic.run otherwise there).value ∧
          narrated (traffic.run behaviour start).trace = narrated (traffic.run otherwise there).trace
  warned : ∀ {State : Type} (behaviour : Behaviour Socket.Answer State) (start : State)
    (replies : List (List UInt8)),
      Reached capacity replies (traffic.run behaviour start).trace →
        (narrated (traffic.run behaviour start).trace).count (.truncated what capacity) =
          replies.countP fun reply => capacity ≤ reply.length
  whole : ∀ {State : Type} (behaviour : Behaviour Socket.Answer State) (start : State)
    (replies : List (List UInt8)),
      Reached capacity replies (traffic.run behaviour start).trace →
        .truncated what capacity ∉ narrated (traffic.run behaviour start).trace →
          Means (replies.map Text.decodeLossy) (traffic.run behaviour start).value

theorem count_full (capacity : Nat) (replies : List (List UInt8)) :
    (replies.map (List.take capacity)).countP (fun bytes => bytes.length = capacity) =
      replies.countP fun reply => capacity ≤ reply.length := by
  rw [List.countP_map]
  congr 1
  funext reply
  simp only [Function.comp_apply, List.length_take, decide_eq_decide]
  omega

/-- Replies that all have room are not cut. -/
theorem take_short {replies : List (List UInt8)}
    (short : replies.countP (fun reply => capacity ≤ reply.length) = 0) :
    replies.map (List.take capacity) = replies := by
  have room : ∀ reply ∈ replies, reply.length < capacity := by
    simpa [List.countP_eq_zero] using short
  have same : ∀ reply ∈ replies, reply.take capacity = id reply := by
    intro reply member
    exact List.take_of_length_le (Nat.le_of_lt (room reply member))
  rw [List.map_congr_left same, List.map_id]

theorem soundly_cut {traffic : Traffic Value} {Means : List String → Value → Prop}
    {lines : List (List UInt8) → List Narration}
    (functional : ∀ texts result other, Means texts result → Means texts other → result = other)
    (understood : ∀ trace result, traffic.Yields trace result →
      Understood capacity what Means lines trace result) :
    SoundlyCut traffic capacity what Means := by
  have read : ∀ {State : Type} (behaviour : Behaviour Socket.Answer State) (start : State)
      (replies : List (List UInt8)),
      Reached capacity replies (traffic.run behaviour start).trace →
        Means (replies.map fun reply => Text.decodeLossy (reply.take capacity))
            (traffic.run behaviour start).value ∧
          narrated (traffic.run behaviour start).trace = lines (replies.map (List.take capacity)) ∧
          (narrated (traffic.run behaviour start).trace).count (.truncated what capacity) =
            replies.countP fun reply => capacity ≤ reply.length := by
    intro State behaviour start replies reached
    have made := understood _ _ (Program.run_yields behaviour traffic start)
    refine ⟨?_, ?_, ?_⟩
    · have value := made.value reached.full
      rwa [reached.cut, List.map_map] at value
    · rw [made.lines reached.full, reached.cut]
    · rw [made.warned reached.full, reached.cut, count_full]
  refine ⟨?_, ?_, ?_, ?_⟩
  · intro State behaviour start replies reached
    exact (read behaviour start replies reached).1
  · intro State Other behaviour start otherwise there replies others same reached again
    obtain ⟨value, told, _⟩ := read behaviour start replies reached
    obtain ⟨anew, retold, _⟩ := read otherwise there others again
    have texts : (replies.map fun reply => Text.decodeLossy (reply.take capacity)) =
        others.map fun reply => Text.decodeLossy (reply.take capacity) := by
      have decoded := congrArg (List.map Text.decodeLossy) same
      rwa [List.map_map, List.map_map] at decoded
    rw [texts] at value
    exact ⟨functional _ _ _ value anew, by rw [told, retold, same]⟩
  · intro State behaviour start replies reached
    exact (read behaviour start replies reached).2.2
  · intro State behaviour start replies reached silent
    obtain ⟨value, _, warned⟩ := read behaviour start replies reached
    have none : (narrated (traffic.run behaviour start).trace).count (.truncated what capacity) = 0 :=
      List.count_eq_zero.mpr silent
    have uncut := congrArg (List.map Text.decodeLossy) (take_short (warned.symm.trans none))
    rw [List.map_map] at uncut
    rw [← uncut]
    exact value

theorem handshake_soundly_cut (endpoint : Endpoint) (devices : List Device) :
    SoundlyCut (handshake endpoint devices).run startCapacity "Start" (Opens endpoint) := by
  refine soundly_cut ?_ fun trace result yields => (handshaking yields).understood
  rintro texts result other ⟨text, rfl, rfl⟩ ⟨same, again, rfl⟩
  cases again
  rfl

theorem ask_to_leave_soundly_cut (session : Session) (number : UInt32) :
    SoundlyCut (askToLeave session number).run disconnectCapacity "disconnect" Answers := by
  refine soundly_cut ?_ fun trace result yields => (asking yields).understood
  rintro texts result other ⟨text, rfl, rfl⟩ ⟨same, again, rfl⟩
  cases again
  rfl

theorem disconnect_soundly_cut (policy : RetryPolicy) (session : Session) :
    SoundlyCut (disconnect policy session) disconnectCapacity "disconnect" (Settles policy) := by
  refine soundly_cut ?_ fun trace result yields => disconnect_understood yields
  intro texts result other early late
  exact early.trans late.symm

end StandIn.Tcp
