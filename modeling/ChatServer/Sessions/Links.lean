import ChatServer.Sessions.Framing

/-!
A client and its session, with the network between them. Each end posts what it sends to
its executor and writes one package at a time; the bytes travel in any pieces, and a read
or a write may fail at any moment. The envelopes that one end passes on are what its parser
makes of the first that the other end sent.
-/
namespace ConnectionLinks
open EventRuns ProtoWire ChatProtocol ChatWire LengthFrames SessionStreams StreamFraming

variable {parse : Bytes → Option Envelope} {E : Endpoint parse}

def completionOf (w : Wire E) : WireEvent → Option Completion
  | .arrive _ => none
  | .read => match w.reading with
    | .header => if 4 ≤ w.socket.length then some (.header none (w.socket.take 4)) else none
    | .body length =>
      if length ≤ w.socket.length then some (.body none (w.socket.take length)) else none
    | .stopped => none
  | .readFails e => match w.reading with
    | .header => if w.socket.length < 4 then some (.header (some e) []) else none
    | .body length => if w.socket.length < length then some (.body (some e) []) else none
    | .stopped => none
  | .posted package => some (.posted package)
  | .write number ec => some (.write number ec)

def actionsOf (w : Wire E) (event : WireEvent) : List Action :=
  match completionOf w event with
  | none => []
  | some c => (E.step w.endpoint c).2

def streamOf (w : Wire E) : Stream := E.stream w.endpoint

def endpointAfter (w : Wire E) : Option Completion → E.State
  | none => w.endpoint
  | some c => (E.step w.endpoint c).1

theorem wireStep_endpoint (w : Wire E) (event : WireEvent) :
    (wireStep w event).endpoint = endpointAfter w (completionOf w event) ∧
      (wireStep w event).dispatched = w.dispatched ++ (actionsOf w event).filterMap messageOf := by
  unfold actionsOf
  cases event with
  | arrive chunk =>
    simp only [wireStep, completionOf, endpointAfter]
    split <;> simp
  | read =>
    cases reading : w.reading with
    | header =>
      by_cases full : 4 ≤ w.socket.length <;>
        simp [wireStep, completionOf, endpointAfter, reading, full, Wire.complete]
    | body length =>
      by_cases full : length ≤ w.socket.length <;>
        simp [wireStep, completionOf, endpointAfter, reading, full, Wire.complete]
    | stopped => simp [wireStep, completionOf, endpointAfter, reading]
  | readFails e =>
    cases reading : w.reading with
    | header =>
      by_cases few : w.socket.length < 4 <;>
        simp [wireStep, completionOf, endpointAfter, reading, few, Wire.complete]
    | body length =>
      by_cases few : w.socket.length < length <;>
        simp [wireStep, completionOf, endpointAfter, reading, few, Wire.complete]
    | stopped => simp [wireStep, completionOf, endpointAfter, reading]
  | posted package => exact ⟨rfl, rfl⟩
  | write number ec => exact ⟨rfl, rfl⟩

theorem wireStep_arrived (w : Wire E) {event : WireEvent}
    (other : ∀ chunk, event ≠ .arrive chunk) : (wireStep w event).arrived = w.arrived := by
  cases event with
  | arrive chunk => exact absurd rfl (other chunk)
  | read =>
    simp only [wireStep]
    split
    · split <;> rfl
    · split <;> rfl
    · rfl
  | readFails e =>
    simp only [wireStep]
    split
    · split <;> rfl
    · split <;> rfl
    · rfl
  | posted package => rfl
  | write number ec => rfl

def queueAfter (s : Stream) : Completion → List Bytes
  | .posted package => s.messageQueue ++ [package]
  | .write _ none => s.messageQueue.tail
  | _ => s.messageQueue

theorem doWrite_queue (s : Stream) : s.doWrite.stream.messageQueue = s.messageQueue := by
  unfold Stream.doWrite
  split <;> rfl

variable (parse) in
theorem complete_queue (s : Stream) (c : Completion) :
    (s.complete parse c).stream.messageQueue = queueAfter s c := by
  cases c with
  | posted package =>
    simp only [Stream.complete, Stream.send, queueAfter]
    split
    · exact doWrite_queue _
    · rfl
  | header ec buffer =>
    cases ec with
    | none =>
      simp only [Stream.complete, Stream.headerRead]
      split <;> rfl
    | some e => rfl
  | body ec buffer =>
    cases ec with
    | none =>
      cases parsed : parse buffer <;>
        simp [Stream.complete, Stream.bodyRead, parsed, queueAfter]
    | some e => rfl
  | write number ec =>
    cases ec with
    | none =>
      simp only [Stream.complete, Stream.handleWrite, queueAfter]
      split
      · rfl
      · exact doWrite_queue _
    | some e => rfl

theorem stream_wireStep (w : Wire E) (event : WireEvent) :
    streamOf (wireStep w event) = streamOf w ∨
      ∃ c, completionOf w event = some c ∧ (streamOf w).Awaits c ∧
        streamOf (wireStep w event) = ((streamOf w).complete parse c).stream := by
  unfold streamOf
  rw [(wireStep_endpoint w event).1]
  cases brings : completionOf w event with
  | none => exact Or.inl rfl
  | some c =>
    simp only [endpointAfter, E.streams]
    by_cases awaits : (E.stream w.endpoint).Awaits c
    · rw [if_pos awaits]
      exact Or.inr ⟨c, rfl, awaits, rfl⟩
    · rw [if_neg awaits]
      exact Or.inl rfl

theorem front_wireStep {w : Wire E} (front : WritesFront (streamOf w)) (event : WireEvent) :
    WritesFront (streamOf (wireStep w event)) := by
  rcases stream_wireStep w event with same | moved
  · rwa [same]
  · obtain ⟨c, _, awaits, next⟩ := moved
    rw [next]
    exact move_front front (complete_move front awaits)

theorem queue_kept (w : Wire E) {event : WireEvent} (posts : ∀ package, event ≠ .posted package)
    (ends : ∀ number, event ≠ .write number none) :
    (streamOf (wireStep w event)).messageQueue = (streamOf w).messageQueue := by
  rcases stream_wireStep w event with same | moved
  · rw [same]
  · obtain ⟨c, brings, _, next⟩ := moved
    rw [next, complete_queue]
    cases event with
    | arrive chunk => cases brings
    | read =>
      simp only [completionOf] at brings
      split at brings <;> first
        | split at brings <;> cases brings <;> rfl
        | cases brings
    | readFails e =>
      simp only [completionOf] at brings
      split at brings <;> first
        | split at brings <;> cases brings <;> rfl
        | cases brings
    | posted package => exact absurd rfl (posts package)
    | write number ec =>
      cases brings
      cases ec with
      | none => exact absurd rfl (ends number)
      | some e => rfl

theorem queue_posted (w : Wire E) (package : Bytes) :
    (streamOf (wireStep w (.posted package))).messageQueue =
      (streamOf w).messageQueue ++ [package] := by
  have next : streamOf (wireStep w (.posted package)) =
      ((streamOf w).complete parse (.posted package)).stream := by
    unfold streamOf
    rw [(wireStep_endpoint w (.posted package)).1]
    exact (E.streams _ _).trans (if_pos trivial)
  rw [next, complete_queue]
  rfl

theorem queue_written (w : Wire E) {number : Nat} (writing : number < (streamOf w).writing.length) :
    (streamOf (wireStep w (.write number none))).messageQueue =
      (streamOf w).messageQueue.tail := by
  have next : streamOf (wireStep w (.write number none)) =
      ((streamOf w).complete parse (.write number none)).stream := by
    unfold streamOf
    rw [(wireStep_endpoint w (.write number none)).1]
    exact (E.streams _ _).trans (if_pos writing)
  rw [next, complete_queue]
  rfl

/-- An end of the connection: what `send` was called with, the lambdas that wait on its
    executor, the packages that were written, and how far the outstanding write is; `out`
    is all that it has put on the wire. -/
structure Peer (E : Endpoint parse) where
  wire : Wire E
  sent : List Envelope
  strand : List Bytes
  written : List Bytes
  moved : Nat
  out : Bytes

inductive Act where
  | send (e : Envelope)
  | run
  | transmit (count : Nat)
  | wrote
  | writeFails (e : AsioError)
  | read
  | readFails (e : AsioError)

def Act.sends : Act → Option Envelope
  | .send e => some e
  | _ => none

def Peer.start (E : Endpoint parse) : Peer E := ⟨.start E, [], [], [], 0, []⟩

def Peer.stream (p : Peer E) : Stream := streamOf p.wire

def Peer.event (p : Peer E) : Act → Option WireEvent
  | .send _ => none
  | .run => p.strand.head?.map .posted
  | .transmit _ => none
  | .wrote => match p.stream.writing with
    | [] => none
    | buffer :: _ => if buffer.length ≤ p.moved then some (.write 0 none) else none
  | .writeFails e => some (.write 0 (some e))
  | .read => some .read
  | .readFails e => some (.readFails e)

section Packages
variable [Serializer]

/-- `async_write` ends well when it has moved the whole buffer. -/
def Peer.step (p : Peer E) : Act → Peer E
  | .send e => { p with sent := p.sent ++ [e], strand := p.strand ++ [package e] }
  | .run => match p.strand with
    | [] => p
    | package :: rest => { p with wire := wireStep p.wire (.posted package), strand := rest }
  | .transmit count => match p.stream.writing with
    | [] => p
    | buffer :: _ => { p with
        out := p.out ++ (buffer.drop p.moved).take count
        moved := p.moved + ((buffer.drop p.moved).take count).length }
  | .wrote => match p.stream.writing with
    | [] => p
    | buffer :: _ =>
      if buffer.length ≤ p.moved then
        { p with
          wire := wireStep p.wire (.write 0 none)
          written := p.written ++ [buffer]
          moved := 0 }
      else p
  | .writeFails e => { p with wire := wireStep p.wire (.write 0 (some e)) }
  | .read => { p with wire := wireStep p.wire .read }
  | .readFails e => { p with wire := wireStep p.wire (.readFails e) }

theorem step_event (p : Peer E) (act : Act) :
    (p.step act).wire = (p.event act).elim p.wire (wireStep p.wire) := by
  cases act with
  | run => cases waiting : p.strand <;> simp [Peer.step, Peer.event, waiting]
  | transmit count => cases writing : p.stream.writing <;> simp [Peer.step, Peer.event, writing]
  | wrote =>
    cases writing : p.stream.writing with
    | nil => simp [Peer.step, Peer.event, writing]
    | cons buffer others =>
      by_cases whole : buffer.length ≤ p.moved <;> simp [Peer.step, Peer.event, writing, whole]
  | _ => rfl

/-- The network brings some of the bytes that were put on the wire and are still missing. -/
def Peer.arrive (p : Peer E) (out : Bytes) (count : Nat) : Peer E :=
  { p with wire := wireStep p.wire (.arrive ((out.drop p.wire.arrived.length).take count)) }

/-- Everything that was sent is written, being written or waiting, in order. -/
structure Sends (p : Peer E) : Prop where
  front : WritesFront p.stream
  order : p.written ++ (p.stream.messageQueue ++ p.strand) = p.sent.map package
  out : p.out = p.written.flatten ++ (p.stream.messageQueue.headD []).take p.moved
  idle : p.stream.messageQueue = [] → p.moved = 0

theorem sends_start (E : Endpoint parse) : Sends (Peer.start E) := by
  have stream : (Peer.start E).stream = .started := E.starts
  constructor
  · rw [stream]
    exact Or.inl rfl
  · rw [stream]
    rfl
  · rw [stream]
    rfl
  · intro _
    rfl

omit [Serializer] in
theorem writing_front {p : Peer E} (front : WritesFront p.stream) {buffer : Bytes}
    {others : List Bytes} (writing : p.stream.writing = buffer :: others) :
    ∃ rest, p.stream.messageQueue = buffer :: rest := by
  rcases front with none_out | one_out
  · rw [none_out] at writing
    cases writing
  · obtain ⟨first, rest, queue, outstanding⟩ := one_out
    rw [outstanding] at writing
    cases writing
    exact ⟨rest, queue⟩

theorem sends_wire {p : Peer E} (sends : Sends p) {event : WireEvent}
    (posts : ∀ package, event ≠ .posted package) (ends : ∀ number, event ≠ .write number none) :
    Sends { p with wire := wireStep p.wire event } := by
  have same := queue_kept p.wire posts ends
  constructor
  · exact front_wireStep sends.front event
  · simp only [Peer.stream, same]
    exact sends.order
  · simp only [Peer.stream, same]
    exact sends.out
  · simp only [Peer.stream, same]
    exact sends.idle

omit [Serializer] in
theorem take_more (buffer : Bytes) (moved count : Nat) :
    buffer.take moved ++ (buffer.drop moved).take count =
      buffer.take (moved + ((buffer.drop moved).take count).length) := by
  rw [List.take_add, List.length_take]
  congr 1
  rw [List.take_eq_take_iff]
  omega

theorem sends_run {p : Peer E} (sends : Sends p) {first : Bytes} {rest : List Bytes}
    (waiting : p.strand = first :: rest) :
    Sends { p with wire := wireStep p.wire (.posted first), strand := rest } := by
  have longer := queue_posted p.wire first
  constructor
  · exact front_wireStep sends.front (.posted first)
  · simp only [Peer.stream, longer]
    rw [← sends.order, waiting, Peer.stream, List.append_assoc]
    rfl
  · simp only [Peer.stream, longer]
    rw [sends.out, Peer.stream]
    cases queue : (streamOf p.wire).messageQueue with
    | nil => simp [sends.idle queue]
    | cons front others => rfl
  · simp only [Peer.stream, longer]
    intro empty
    simp at empty

theorem sends_transmit {p : Peer E} (sends : Sends p) {buffer : Bytes} {others : List Bytes}
    (writing : p.stream.writing = buffer :: others) (count : Nat) :
    Sends { p with
      out := p.out ++ (buffer.drop p.moved).take count
      moved := p.moved + ((buffer.drop p.moved).take count).length } := by
  obtain ⟨rest, queue⟩ := writing_front sends.front writing
  have out := sends.out
  rw [queue] at out
  constructor
  · exact sends.front
  · exact sends.order
  · change p.out ++ _ = p.written.flatten ++ (p.stream.messageQueue.headD []).take _
    rw [queue, out, List.append_assoc]
    exact congrArg (p.written.flatten ++ ·) (take_more buffer p.moved count)
  · intro empty
    change p.stream.messageQueue = [] at empty
    rw [queue] at empty
    cases empty

theorem sends_wrote {p : Peer E} (sends : Sends p) {buffer : Bytes} {others : List Bytes}
    (writing : p.stream.writing = buffer :: others) (whole : buffer.length ≤ p.moved) :
    Sends { p with
      wire := wireStep p.wire (.write 0 none)
      written := p.written ++ [buffer]
      moved := 0 } := by
  obtain ⟨rest, queue⟩ := writing_front sends.front writing
  have outstanding : 0 < (streamOf p.wire).writing.length := by
    change 0 < p.stream.writing.length
    simp [writing]
  have shorter := queue_written p.wire outstanding
  have tail : (streamOf p.wire).messageQueue.tail = rest := by
    rw [show (streamOf p.wire).messageQueue = buffer :: rest from queue]
    rfl
  constructor
  · exact front_wireStep sends.front (.write 0 none)
  · simp only [Peer.stream, shorter, tail]
    rw [← sends.order, queue]
    simp
  · simp only [Peer.stream, List.take_zero, List.append_nil]
    rw [sends.out, queue]
    simp [List.take_of_length_le whole]
  · intro _
    rfl

theorem sends_step {p : Peer E} (sends : Sends p) (act : Act) : Sends (p.step act) := by
  cases act with
  | send e =>
    constructor
    · exact sends.front
    · have order := sends.order
      simp only [Peer.step, List.map_append, List.map_singleton, ← order, List.append_assoc]
      rfl
    · exact sends.out
    · exact sends.idle
  | run =>
    cases waiting : p.strand with
    | nil => simpa [Peer.step, waiting] using sends
    | cons first rest => simpa only [Peer.step, waiting] using sends_run sends waiting
  | transmit count =>
    cases writing : p.stream.writing with
    | nil => simpa [Peer.step, writing] using sends
    | cons buffer others =>
      simpa only [Peer.step, writing] using sends_transmit sends writing count
  | wrote =>
    cases writing : p.stream.writing with
    | nil => simpa [Peer.step, writing] using sends
    | cons buffer others =>
      by_cases whole : buffer.length ≤ p.moved
      · simpa only [Peer.step, writing, whole, if_true] using sends_wrote sends writing whole
      · simpa [Peer.step, writing, whole] using sends
  | writeFails e => exact sends_wire sends (by simp) (by simp)
  | read => exact sends_wire sends (by simp) (by simp)
  | readFails e => exact sends_wire sends (by simp) (by simp)

theorem sends_arrive {p : Peer E} (sends : Sends p) (out : Bytes) (count : Nat) :
    Sends (p.arrive out count) := sends_wire sends (by simp) (by simp)

theorem out_sent {p : Peer E} (sends : Sends p) : p.out <+: p.sent.flatMap package := by
  have order := sends.order
  rw [sends.out, List.flatMap_def, ← order, List.flatten_append]
  apply List.prefix_append_right_inj _ |>.mpr
  cases queue : p.stream.messageQueue with
  | nil => simp
  | cons front rest =>
    have begins : front.take p.moved <+: front := List.take_prefix p.moved front
    simp only [List.headD_cons, List.cons_append, List.flatten_cons]
    exact begins.trans (List.prefix_append front _)

theorem out_grows (p : Peer E) (act : Act) : p.out <+: (p.step act).out := by
  cases act with
  | transmit count =>
    simp only [Peer.step]
    split
    · exact List.prefix_rfl
    · exact List.prefix_append _ _
  | run =>
    simp only [Peer.step]
    split <;> exact List.prefix_rfl
  | wrote =>
    simp only [Peer.step]
    split
    · exact List.prefix_rfl
    · split <;> exact List.prefix_rfl
  | _ => exact List.prefix_rfl

omit [Serializer] in
theorem event_no_arrival {p : Peer E} {act : Act} {event : WireEvent}
    (brings : p.event act = some event) (chunk : Bytes) : event ≠ .arrive chunk := by
  intro same
  subst same
  cases act with
  | run => cases waiting : p.strand <;> simp [Peer.event, waiting] at brings
  | wrote =>
    simp only [Peer.event] at brings
    split at brings
    · cases brings
    · split at brings <;> cases brings
  | _ => cases brings

theorem arrived_step (p : Peer E) (act : Act) :
    (p.step act).wire.arrived = p.wire.arrived := by
  rw [step_event]
  cases brings : p.event act with
  | none => rfl
  | some event => exact wireStep_arrived p.wire (event_no_arrival brings)

theorem placed_peer {p : Peer E} (placed : Placed p.wire) (act : Act) :
    Placed (p.step act).wire := by
  rw [step_event]
  cases p.event act with
  | none => exact placed
  | some event => exact placed_step placed event

omit [Serializer] in
theorem arrived_arrive {p : Peer E} {out : Bytes} (inside : p.wire.arrived <+: out)
    (count : Nat) : (p.arrive out count).wire.arrived <+: out := by
  simp only [Peer.arrive, wireStep]
  split
  · exact inside
  · obtain ⟨missing, whole⟩ := inside
    have rest : out.drop p.wire.arrived.length = missing := by rw [← whole, List.drop_left]
    have begins : missing.take count <+: missing := List.take_prefix count missing
    rw [rest]
    conv => rhs; rw [← whole]
    exact (List.prefix_append_right_inj _).mpr begins

section Conveyed
variable {E' : Endpoint parse}

/-- One direction: what has arrived at `q` was put on the wire by `p`. -/
structure Conveys (p : Peer E) (q : Peer E') : Prop where
  sends : Sends p
  placed : Placed q.wire
  inside : q.wire.arrived <+: p.out

theorem conveys_sender {p : Peer E} {q : Peer E'} (h : Conveys p q) (act : Act) :
    Conveys (p.step act) q :=
  ⟨sends_step h.sends act, h.placed, h.inside.trans (out_grows p act)⟩

theorem conveys_receiver {p : Peer E} {q : Peer E'} (h : Conveys p q) (act : Act) :
    Conveys p (q.step act) :=
  ⟨h.sends, placed_peer h.placed act, by rw [arrived_step]; exact h.inside⟩

theorem conveys_arrive {p : Peer E} {q : Peer E'} (h : Conveys p q) (count : Nat) :
    Conveys p (q.arrive p.out count) :=
  ⟨h.sends, placed_step h.placed _, arrived_arrive h.inside count⟩

theorem conveys_back {p : Peer E} {q : Peer E'} (h : Conveys p q) (out : Bytes) (count : Nat) :
    Conveys (p.arrive out count) q :=
  ⟨sends_arrive h.sends out count, h.placed, h.inside⟩

theorem conveys_start (E : Endpoint parse) (E' : Endpoint parse) :
    Conveys (Peer.start E) (Peer.start E') :=
  ⟨sends_start E, placed_after E' [], List.prefix_rfl⟩

instance : DecidablePred Accepted := fun _ => inferInstanceAs (Decidable (_ ∧ _))

variable (parse) in
/-- What the receiver passes on: it ends at an envelope that fits no frame and at a body
    that it cannot parse. -/
def Through : List Envelope → List Envelope
  | [] => []
  | e :: rest =>
    if Accepted e then match parse (serialize e) with
      | some received => received :: Through rest
      | none => []
    else []

/-- Where the parser undoes the serializer, only the first that fits no frame matters. -/
theorem through_inverts {sent : List Envelope}
    (inverts : ∀ e ∈ sent, Accepted e → parse (serialize e) = some e) :
    Through parse sent = sent.takeWhile (fun e => Accepted e) := by
  induction sent with
  | nil => rfl
  | cons e rest ih =>
    obtain ⟨here, later⟩ := List.forall_mem_cons.mp inverts
    by_cases accepted : Accepted e
    · simp [Through, accepted, here accepted, ih later]
    · simp [Through, accepted]

theorem mem_through {sent : List Envelope} {received : Envelope}
    (there : received ∈ Through parse sent) :
    ∃ e ∈ sent, parse (serialize e) = some received := by
  induction sent with
  | nil => cases there
  | cons e rest ih =>
    simp only [Through] at there
    split at there
    · split at there
      · rename_i first parsed
        rcases List.mem_cons.mp there with here | later
        · exact ⟨e, List.mem_cons_self, here ▸ parsed⟩
        · obtain ⟨other, member, read⟩ := ih later
          exact ⟨other, List.mem_cons_of_mem e member, read⟩
      · cases there
    · cases there

theorem no_frame_package {e : Envelope}
    (refused : ¬ Accepted e ∨ parse (serialize e) = none) (more : Bytes) :
    NoFrame maxBodyLength parse (package e ++ more) := by
  have short : (serialize e).length < 2 ^ 31 := by
    rw [length_serialize]
    split <;> omega
  have length : bigEndian (lengthBytes (serialize e).length) = (serialize e).length := by
    rw [big_endian_length_bytes]
    exact Nat.mod_eq_of_lt (by omega)
  rw [package, List.append_assoc]
  rcases refused with unfit | unread
  · apply no_frame_header (length_bytes_length _)
    rw [length]
    exact unfit
  · exact no_frame_body (length_bytes_length _) length.symm unread

theorem longest_sent (sent : List Envelope) :
    Longest maxBodyLength parse (sent.flatMap package) (Through parse sent) := by
  have whole : ∃ pre rest, sent.flatMap package = pre ++ rest ∧
      Frames maxBodyLength parse pre (Through parse sent) ∧ NoFrame maxBodyLength parse rest := by
    induction sent with
    | nil => exact ⟨[], [], rfl, .nil, no_frame_short (by simp)⟩
    | cons e others ih =>
      by_cases accepted : Accepted e
      · cases parsed : parse (serialize e) with
        | none =>
          refine ⟨[], _, rfl, ?_, no_frame_package (Or.inr parsed) _⟩
          simp only [Through, accepted, parsed, if_true]
          exact .nil
        | some received =>
          obtain ⟨pre, rest, split, frames, stuck⟩ := ih
          have below : maxBodyLength < 2 ^ 32 := by decide
          have length := big_endian_length_bytes (serialize e).length
          rw [Nat.mod_eq_of_lt (accepted.2.trans below)] at length
          have frame : Frame maxBodyLength parse (lengthBytes (serialize e).length) (serialize e)
              received := ⟨rfl, length, accepted.1, accepted.2, parsed⟩
          refine ⟨lengthBytes (serialize e).length ++ (serialize e ++ pre), rest, ?_, ?_, stuck⟩
          · simp only [List.flatMap_cons, split, package, List.append_assoc]
          · simp only [Through, accepted, parsed, if_true]
            exact .cons frame frames
      · refine ⟨[], _, rfl, ?_, no_frame_package (Or.inl accepted) _⟩
        simp only [Through, accepted, if_false]
        exact .nil
  obtain ⟨pre, rest, split, frames, stuck⟩ := whole
  rw [split]
  exact longest_of_stuck frames stuck

omit [Serializer] in
theorem consumed_inside {w : Wire E} (placed : Placed w) :
    ∃ consumed, Frames maxBodyLength parse consumed w.dispatched ∧ consumed <+: w.arrived := by
  obtain ⟨consumed, frames, stands⟩ := placed
  refine ⟨consumed, frames, ?_⟩
  cases reading : w.reading with
  | header =>
    rw [reading] at stands
    exact ⟨w.socket, stands.symm⟩
  | body length =>
    rw [reading] at stands
    obtain ⟨valid, header, four, size, arrived⟩ := stands
    exact ⟨header ++ w.socket, arrived.symm⟩
  | stopped =>
    rw [reading] at stands
    obtain ⟨rest, arrived, dead⟩ := stands
    exact ⟨rest, arrived.symm⟩

variable {p : Peer E} {q : Peer E'}

theorem conveyed_begins (h : Conveys p q) : q.wire.dispatched <+: Through parse p.sent := by
  obtain ⟨consumed, frames, inside⟩ := consumed_inside h.placed
  exact prefix_of_longest frames (inside.trans (h.inside.trans (out_sent h.sends)))
    (longest_sent p.sent)

/-- Nothing waits any more, on either side or between them. -/
structure Delivered (p : Peer E) (q : Peer E') : Prop where
  strand : p.strand = []
  queue : p.stream.messageQueue = []
  arrived : q.wire.arrived = p.out
  settled : Settled q.wire

theorem conveyed_all (h : Conveys p q) (delivered : Delivered p q) :
    q.wire.dispatched = Through parse p.sent := by
  have order := h.sends.order
  have out := h.sends.out
  rw [delivered.queue, delivered.strand, List.append_nil, List.append_nil] at order
  rw [delivered.queue, List.headD_nil, List.take_nil, List.append_nil, order] at out
  have read := longest_of_settled h.placed delivered.settled
  rw [delivered.arrived, out, ← List.flatMap_def] at read
  exact longest_unique read (longest_sent p.sent)

end Conveyed

section Draining
variable {E' : Endpoint parse}

structure Healthy (p : Peer E) (q : Peer E') : Prop where
  alive : p.stream.writing = [] → p.stream.messageQueue = []
  receives : q.wire.ended = false

omit [Serializer] in
theorem alive_wireStep {w : Wire E} (front : WritesFront (streamOf w))
    (alive : (streamOf w).writing = [] → (streamOf w).messageQueue = []) {event : WireEvent}
    (well : ∀ number e, event ≠ .write number (some e)) :
    (streamOf (wireStep w event)).writing = [] →
      (streamOf (wireStep w event)).messageQueue = [] := by
  rcases stream_wireStep w event with same | moved
  · rwa [same]
  · obtain ⟨c, brings, awaits, next⟩ := moved
    have not_failed : ¬ FailedWrite (streamOf w) c := by
      apply not_failed_of
      intro number e same
      subst same
      cases event with
      | arrive chunk => cases brings
      | read =>
        simp only [completionOf] at brings
        split at brings
        · split at brings <;> cases brings
        · split at brings <;> cases brings
        · cases brings
      | readFails e =>
        simp only [completionOf] at brings
        split at brings
        · split at brings <;> cases brings
        · split at brings <;> cases brings
        · cases brings
      | posted package => cases brings
      | write n ec =>
        cases brings
        exact well _ e rfl
    rw [next]
    exact move_idle (complete_move front awaits) not_failed alive

def Peer.run (p : Peer E) (acts : List Act) : Peer E := after Peer.step p acts

def Sending : Act → Prop
  | .run | .transmit _ | .wrote => True
  | _ => False

theorem alive_step {p : Peer E} (sends : Sends p)
    (alive : p.stream.writing = [] → p.stream.messageQueue = []) {act : Act}
    (well : ∀ e, act ≠ .writeFails e) :
    (p.step act).stream.writing = [] → (p.step act).stream.messageQueue = [] := by
  cases act with
  | send e => exact alive
  | run =>
    simp only [Peer.step]
    split
    · exact alive
    · exact alive_wireStep sends.front alive (by simp)
  | transmit count =>
    simp only [Peer.step]
    split <;> exact alive
  | wrote =>
    simp only [Peer.step]
    split
    · exact alive
    · split
      · exact alive_wireStep sends.front alive (by simp)
      · exact alive
  | writeFails e => exact absurd rfl (well e)
  | read => exact alive_wireStep sends.front alive (by simp)
  | readFails e => exact alive_wireStep sends.front alive (by simp)

theorem writes_one {p : Peer E} (sends : Sends p)
    (alive : p.stream.writing = [] → p.stream.messageQueue = []) {front : Bytes}
    {rest : List Bytes} (queue : p.stream.messageQueue = front :: rest) :
    ((p.step (.transmit front.length)).step .wrote).stream.messageQueue = rest ∧
      ((p.step (.transmit front.length)).step .wrote).strand = p.strand := by
  have writing : p.stream.writing = [front] := by
    rcases sends.front with none_out | one_out
    · rw [alive none_out] at queue
      cases queue
    · obtain ⟨first, others, there, outstanding⟩ := one_out
      rw [queue] at there
      cases there
      exact outstanding
  have outstanding : 0 < (streamOf p.wire).writing.length := by
    change 0 < p.stream.writing.length
    simp [writing]
  have moved : front.length ≤
      p.moved + ((front.drop p.moved).take front.length).length := by
    simp only [List.length_take, List.length_drop]
    omega
  have first : p.step (.transmit front.length) = { p with
      out := p.out ++ (front.drop p.moved).take front.length
      moved := p.moved + ((front.drop p.moved).take front.length).length } := by
    simp only [Peer.step, writing]
  have same : ∀ out moved, Peer.stream { p with out := out, moved := moved } = p.stream := by
    intro out moved
    rfl
  rw [first]
  simp only [Peer.step, same, writing, moved, if_true, and_true]
  change (streamOf (wireStep p.wire (.write 0 none))).messageQueue = rest
  rw [queue_written p.wire outstanding]
  exact congrArg List.tail queue

theorem sender_drains {p : Peer E} (sends : Sends p)
    (alive : p.stream.writing = [] → p.stream.messageQueue = []) :
    ∃ acts, (∀ act ∈ acts, Sending act) ∧ (p.run acts).strand = [] ∧
      (p.run acts).stream.messageQueue = [] := by
  induction size : 2 * p.strand.length + p.stream.messageQueue.length using Nat.strongRecOn
    generalizing p with
  | ind n ih =>
    cases waiting : p.strand with
    | cons first rest =>
      have next : (p.step .run).strand = rest := by simp [Peer.step, waiting]
      have longer : (p.step .run).stream.messageQueue = p.stream.messageQueue ++ [first] := by
        have pushed := queue_posted p.wire first
        simpa [Peer.step, waiting, Peer.stream] using pushed
      have fewer : 2 * (p.step .run).strand.length +
          (p.step .run).stream.messageQueue.length < n := by
        rw [next, longer, List.length_append, List.length_singleton]
        rw [waiting, List.length_cons] at size
        omega
      obtain ⟨acts, well, drained⟩ :=
        ih _ fewer (sends_step sends .run) (alive_step sends alive (by simp)) rfl
      exact ⟨.run :: acts, List.forall_mem_cons.mpr ⟨trivial, well⟩, drained⟩
    | nil =>
      cases queue : p.stream.messageQueue with
      | nil => exact ⟨[], List.forall_mem_nil _, waiting, queue⟩
      | cons front rest =>
        have transmitted := sends_step sends (.transmit front.length)
        have going : ∀ e, Act.transmit front.length ≠ .writeFails e := by simp
        have still := alive_step sends alive going
        obtain ⟨shorter, same⟩ := writes_one sends alive queue
        have fewer : 2 * ((p.step (.transmit front.length)).step .wrote).strand.length +
            ((p.step (.transmit front.length)).step .wrote).stream.messageQueue.length < n := by
          rw [shorter, same]
          rw [queue, List.length_cons] at size
          omega
        obtain ⟨acts, well, drained⟩ := ih _ fewer (sends_step transmitted .wrote)
          (alive_step transmitted still (by simp)) rfl
        refine ⟨.transmit front.length :: .wrote :: acts, ?_, drained⟩
        exact List.forall_mem_cons.mpr ⟨trivial, List.forall_mem_cons.mpr ⟨trivial, well⟩⟩

omit [Serializer] in
theorem ended_wireStep (w : Wire E) {event : WireEvent} (well : ∀ e, event ≠ .readFails e) :
    (wireStep w event).ended = w.ended := by
  cases event with
  | arrive chunk =>
    simp only [wireStep]
    split <;> rfl
  | read =>
    simp only [wireStep]
    split
    · split <;> rfl
    · split <;> rfl
    · rfl
  | readFails e => exact absurd rfl (well e)
  | posted package => rfl
  | write number ec => rfl

theorem ended_step (p : Peer E) {act : Act} (well : ∀ e, act ≠ .readFails e) :
    (p.step act).wire.ended = p.wire.ended := by
  rw [step_event]
  cases brings : p.event act with
  | none => rfl
  | some event =>
    apply ended_wireStep
    intro e same
    subst same
    cases act with
    | readFails e => exact well e rfl
    | run => cases waiting : p.strand <;> simp [Peer.event, waiting] at brings
    | wrote =>
      simp only [Peer.event] at brings
      split at brings
      · cases brings
      · split at brings <;> cases brings
    | _ => cases brings

theorem receiver_drains {q : Peer E'} (placed : Placed q.wire) :
    ∃ reads, Settled (q.run (List.replicate reads .read)).wire := by
  obtain ⟨reads, rest⟩ := settles placed
  refine ⟨reads, ?_⟩
  have wire : ∀ n (q : Peer E'), (q.run (List.replicate n .read)).wire =
      after wireStep q.wire (List.replicate n .read) := by
    intro n
    induction n with
    | zero => exact fun q => rfl
    | succ n ih => exact fun q => ih (q.step .read)
  rwa [wire]

end Draining

section Connections
variable {E' : Endpoint parse}

/-- A client, the session that the server keeps for it, and the network between them. -/
structure Connection (E E' : Endpoint parse) where
  client : Peer E
  session : Peer E'

inductive Event where
  | client (act : Act)
  | session (act : Act)
  | toSession (count : Nat)
  | toClient (count : Nat)

def Connection.start (E E' : Endpoint parse) : Connection E E' := ⟨.start E, .start E'⟩

def Connection.step (c : Connection E E') : Event → Connection E E'
  | .client act => { c with client := c.client.step act }
  | .session act => { c with session := c.session.step act }
  | .toSession count => { c with session := c.session.arrive c.client.out count }
  | .toClient count => { c with client := c.client.arrive c.session.out count }

def Connection.mirror (c : Connection E E') : Connection E' E := ⟨c.session, c.client⟩

def Event.mirror : Event → Event
  | .client act => .session act
  | .session act => .client act
  | .toSession count => .toClient count
  | .toClient count => .toSession count

theorem mirror_after (c : Connection E E') (events : List Event) :
    (after Connection.step c events).mirror =
      after Connection.step c.mirror (events.map Event.mirror) := by
  induction events generalizing c with
  | nil => rfl
  | cons event rest ih =>
    have here : (c.step event).mirror = c.mirror.step event.mirror := by cases event <;> rfl
    change (after Connection.step (c.step event) rest).mirror = _
    rw [ih, here]
    rfl

omit [Serializer] in
@[simp] theorem mirror_mirror (event : Event) : event.mirror.mirror = event := by
  cases event <;> rfl

omit [Serializer] in
theorem mirror_events (events : List Event) :
    (events.map Event.mirror).map Event.mirror = events := by
  simp [Function.comp_def]

def clientSend : Event → Option Envelope
  | .client act => act.sends
  | _ => none

def sessionSend : Event → Option Envelope
  | .session act => act.sends
  | _ => none

structure Linked (c : Connection E E') : Prop where
  requests : Conveys c.client c.session
  responses : Conveys c.session c.client

theorem linked_step {c : Connection E E'} (linked : Linked c) (event : Event) :
    Linked (c.step event) := by
  cases event with
  | client act =>
    exact ⟨conveys_sender linked.requests act, conveys_receiver linked.responses act⟩
  | session act =>
    exact ⟨conveys_receiver linked.requests act, conveys_sender linked.responses act⟩
  | toSession count =>
    exact ⟨conveys_arrive linked.requests count, conveys_back linked.responses _ count⟩
  | toClient count =>
    exact ⟨conveys_back linked.requests _ count, conveys_arrive linked.responses count⟩

theorem linked_after {c : Connection E E'} (linked : Linked c) (events : List Event) :
    Linked (after Connection.step c events) := by
  induction events generalizing c with
  | nil => exact linked
  | cons event rest ih => exact ih (linked_step linked event)

theorem linked_start (E E' : Endpoint parse) : Linked (Connection.start E E') :=
  ⟨conveys_start E E', conveys_start E' E⟩

theorem sent_step (p : Peer E) (act : Act) :
    (p.step act).sent = p.sent ++ act.sends.toList := by
  cases act with
  | send e => rfl
  | run =>
    simp only [Peer.step]
    split <;> simp [Act.sends]
  | transmit count =>
    simp only [Peer.step]
    split <;> simp [Act.sends]
  | wrote =>
    simp only [Peer.step]
    split
    · simp [Act.sends]
    · split <;> simp [Act.sends]
  | _ => simp [Peer.step, Act.sends]

theorem client_sent_step (c : Connection E E') (event : Event) :
    (c.step event).client.sent = c.client.sent ++ (clientSend event).toList := by
  cases event with
  | client act => exact sent_step c.client act
  | _ => simp [Connection.step, clientSend, Peer.arrive]

theorem client_sent (c : Connection E E') (events : List Event) :
    (after Connection.step c events).client.sent =
      c.client.sent ++ events.filterMap clientSend := by
  induction events generalizing c with
  | nil => simp [after]
  | cons event rest ih =>
    change (after Connection.step (c.step event) rest).client.sent = _
    rw [ih, client_sent_step, List.filterMap_cons]
    cases clientSend event <;> simp

theorem session_sent (c : Connection E E') (events : List Event) :
    (after Connection.step c events).session.sent =
      c.session.sent ++ events.filterMap sessionSend := by
  have swapped : clientSend ∘ Event.mirror = sessionSend := by
    funext event
    cases event <;> rfl
  have sent := client_sent c.mirror (events.map Event.mirror)
  rw [← mirror_after, List.filterMap_map, swapped] at sent
  exact sent

def Failing : Event → Prop
  | .client act | .session act => (∃ e, act = .writeFails e) ∨ ∃ e, act = .readFails e
  | _ => False

def Working : Event → Prop
  | .client act | .session act => Sending act ∨ act = .read
  | _ => True

omit [Serializer] in
theorem working_well {event : Event} (working : Working event) : ¬ Failing event := by
  cases event with
  | client act => cases act <;> simp_all [Working, Failing, Sending]
  | session act => cases act <;> simp_all [Working, Failing, Sending]
  | _ => simp [Failing]

omit [Serializer] in
theorem working_mirror {event : Event} (working : Working event) : Working event.mirror := by
  cases event <;> exact working

/-- The client writes, and the session reads. -/
def Asking : Event → Prop
  | .client act => Sending act
  | .session act => act = .read
  | .toSession _ => True
  | .toClient _ => False

omit [Serializer] in
theorem asking_working {event : Event} (asking : Asking event) : Working event := by
  cases event with
  | client act => exact Or.inl asking
  | session act => exact Or.inr asking
  | toSession count => trivial
  | toClient count => exact asking.elim

omit [Serializer] in
theorem answering_working {event : Event} (answering : Asking event.mirror) : Working event := by
  rw [← mirror_mirror event]
  exact working_mirror (asking_working answering)

structure Sound (c : Connection E E') : Prop where
  linked : Linked c
  requests : Healthy c.client c.session
  responses : Healthy c.session c.client

theorem sound_mirror {c : Connection E E'} (sound : Sound c) : Sound c.mirror :=
  ⟨⟨sound.linked.responses, sound.linked.requests⟩, sound.responses, sound.requests⟩

omit [Serializer] in
theorem healthy_start (E E' : Endpoint parse) : Healthy (Peer.start E) (Peer.start E') := by
  have stream : (Peer.start E).stream = .started := E.starts
  refine ⟨?_, rfl⟩
  rw [stream]
  intro _
  rfl

theorem sound_start (E E' : Endpoint parse) : Sound (Connection.start E E') :=
  ⟨linked_start E E', healthy_start E E', healthy_start E' E⟩

theorem healthy_step {c : Connection E E'} (linked : Linked c)
    (healthy : Healthy c.client c.session) {event : Event} (well : ¬ Failing event) :
    Healthy (c.step event).client (c.step event).session := by
  have sends := linked.requests.sends
  cases event with
  | client act =>
    have writes : ∀ e, act ≠ .writeFails e := fun e same => well (Or.inl ⟨e, same⟩)
    exact ⟨alive_step sends healthy.alive writes, healthy.receives⟩
  | session act =>
    have reads : ∀ e, act ≠ .readFails e := fun e same => well (Or.inr ⟨e, same⟩)
    exact ⟨healthy.alive, (ended_step c.session reads).trans healthy.receives⟩
  | toSession count =>
    exact ⟨healthy.alive, (ended_wireStep _ (by simp)).trans healthy.receives⟩
  | toClient count =>
    exact ⟨alive_wireStep sends.front healthy.alive (by simp), healthy.receives⟩

theorem sound_step {c : Connection E E'} (sound : Sound c) {event : Event}
    (well : ¬ Failing event) : Sound (c.step event) := by
  obtain ⟨linked, requests, responses⟩ := sound
  have there : ¬ Failing event.mirror := by cases event <;> exact well
  have back := healthy_step (c := c.mirror) ⟨linked.responses, linked.requests⟩ responses there
  refine ⟨linked_step linked event, healthy_step linked requests well, ?_⟩
  cases event <;> exact back

theorem sound_after {c : Connection E E'} (sound : Sound c) {events : List Event}
    (well : ∀ event ∈ events, ¬ Failing event) : Sound (after Connection.step c events) := by
  induction events generalizing c with
  | nil => exact sound
  | cons event rest ih =>
    obtain ⟨here, later⟩ := List.forall_mem_cons.mp well
    exact ih (sound_step sound here) later

theorem client_acts (c : Connection E E') (acts : List Act) :
    after Connection.step c (acts.map .client) = { c with client := c.client.run acts } := by
  induction acts generalizing c with
  | nil => rfl
  | cons act rest ih => exact ih (c.step (.client act))

theorem session_acts (c : Connection E E') (acts : List Act) :
    after Connection.step c (acts.map .session) = { c with session := c.session.run acts } := by
  induction acts generalizing c with
  | nil => rfl
  | cons act rest ih => exact ih (c.step (.session act))

omit [Serializer] in
theorem dispatched_wireStep (w : Wire E) (event : WireEvent) :
    w.dispatched <+: (wireStep w event).dispatched := by
  rw [(wireStep_endpoint w event).2]
  exact List.prefix_append _ _

theorem dispatched_step (p : Peer E) (act : Act) :
    p.wire.dispatched <+: (p.step act).wire.dispatched := by
  rw [step_event]
  cases p.event act with
  | none => exact List.prefix_rfl
  | some event => exact dispatched_wireStep p.wire event

theorem dispatched_after (c : Connection E E') (events : List Event) :
    c.session.wire.dispatched <+: (after Connection.step c events).session.wire.dispatched := by
  induction events generalizing c with
  | nil => exact List.prefix_rfl
  | cons event rest ih =>
    have here : c.session.wire.dispatched <+: (c.step event).session.wire.dispatched := by
      cases event with
      | client act => exact List.prefix_rfl
      | session act => exact dispatched_step c.session act
      | toSession count => exact dispatched_wireStep _ _
      | toClient count => exact List.prefix_rfl
    exact here.trans (ih (c.step event))

theorem arrive_all {p : Peer E} {q : Peer E'} (h : Conveys p q) (healthy : Healthy p q) :
    (q.arrive p.out p.out.length).wire.arrived = p.out := by
  obtain ⟨missing, whole⟩ := h.inside
  have rest : p.out.drop q.wire.arrived.length = missing := by rw [← whole, List.drop_left]
  have enough : missing.length ≤ p.out.length := by
    rw [← whole, List.length_append]
    omega
  simp only [Peer.arrive, wireStep, healthy.receives, Bool.false_eq_true, if_false, rest,
    List.take_of_length_le enough]
  exact whole

theorem run_reads (q : Peer E) (reads : Nat) :
    (q.run (List.replicate reads .read)).wire.arrived = q.wire.arrived := by
  induction reads generalizing q with
  | zero => rfl
  | succ n ih => exact (ih (q.step .read)).trans (arrived_step q .read)

/-- Unless an operation fails, all that the client sent can get to the session. -/
theorem to_session_drains {c : Connection E E'} (sound : Sound c) :
    ∃ more, (∀ event ∈ more, Asking event) ∧
      Delivered (after Connection.step c more).client (after Connection.step c more).session := by
  obtain ⟨acts, sending, strand, queue⟩ :=
    sender_drains sound.linked.requests.sends sound.requests.alive
  have asking : ∀ event ∈ acts.map Event.client, Asking event := by
    intro event there
    obtain ⟨act, member, same⟩ := List.mem_map.mp there
    rw [← same]
    exact sending act member
  have sent := sound_after sound
    fun event there => working_well (asking_working (asking event there))
  rw [client_acts] at sent
  have all := arrive_all sent.linked.requests sent.requests
  obtain ⟨reads, settled⟩ := receiver_drains (conveys_arrive sent.linked.requests _).placed
  refine ⟨acts.map .client ++ (.toSession (c.client.run acts).out.length ::
    (List.replicate reads .read).map .session), ?_, ?_⟩
  · intro event there
    rcases List.mem_append.mp there with first | second
    · exact asking event first
    · rcases List.mem_cons.mp second with arrival | reading
      · rw [arrival]
        trivial
      · obtain ⟨act, member, same⟩ := List.mem_map.mp reading
        rw [← same]
        exact List.eq_of_mem_replicate member
  · rw [after_append, client_acts]
    change Delivered
      (after Connection.step _ ((List.replicate reads .read).map .session)).client
      (after Connection.step _ ((List.replicate reads .read).map .session)).session
    rw [session_acts]
    exact ⟨strand, queue, (run_reads _ reads).trans all, settled⟩

theorem to_client_drains {c : Connection E E'} (sound : Sound c) :
    ∃ more, (∀ event ∈ more, Asking event.mirror) ∧
      Delivered (after Connection.step c more).session (after Connection.step c more).client := by
  obtain ⟨more, asking, delivered⟩ := to_session_drains (sound_mirror sound)
  refine ⟨more.map Event.mirror, ?_, ?_⟩
  · intro event there
    obtain ⟨other, member, same⟩ := List.mem_map.mp there
    rw [← same, mirror_mirror]
    exact asking other member
  · have back := mirror_after c (more.map Event.mirror)
    rw [mirror_events] at back
    rw [← back] at delivered
    exact delivered

omit [Serializer] in
theorem working_sends {event : Event} (working : Working event) :
    clientSend event = none ∧ sessionSend event = none := by
  cases event with
  | client act => cases act <;> simp_all [Working, Sending, clientSend, sessionSend, Act.sends]
  | session act => cases act <;> simp_all [Working, Sending, clientSend, sessionSend, Act.sends]
  | _ => exact ⟨rfl, rfl⟩

omit [Serializer] in
theorem working_quiet {more : List Event} (working : ∀ event ∈ more, Working event) :
    more.filterMap clientSend = [] ∧ more.filterMap sessionSend = [] := by
  constructor
  · exact List.filterMap_eq_nil_iff.mpr fun event there => (working_sends (working event there)).1
  · exact List.filterMap_eq_nil_iff.mpr fun event there => (working_sends (working event there)).2

end Connections

section Chat
variable (parse)

def connectionAfter (events : List Event) :
    Connection (clientEndpoint parse) (sessionEndpoint parse) :=
  after Connection.step (.start _ _) events

variable {parse}

/-- What the two ends make of what they were sent. -/
structure Relays {E E' : Endpoint parse} (c : Connection E E') (asked answered : List Envelope) :
    Prop where
  requests : c.session.wire.dispatched <+: Through parse asked
  responses : c.client.wire.dispatched <+: Through parse answered
  all_requests : Delivered c.client c.session → c.session.wire.dispatched = Through parse asked
  all_responses : Delivered c.session c.client →
    c.client.wire.dispatched = Through parse answered

theorem relays {E E' : Endpoint parse} {c : Connection E E'} (linked : Linked c) :
    Relays c c.client.sent c.session.sent :=
  ⟨conveyed_begins linked.requests, conveyed_begins linked.responses,
    conveyed_all linked.requests, conveyed_all linked.responses⟩

variable (parse) in
theorem client_sends (events : List Event) :
    (connectionAfter parse events).client.sent = events.filterMap clientSend :=
  client_sent _ events

variable (parse) in
theorem session_sends (events : List Event) :
    (connectionAfter parse events).session.sent = events.filterMap sessionSend :=
  session_sent _ events

theorem linked_events (events : List Event) : Linked (connectionAfter parse events) :=
  linked_after (linked_start _ _) events

/-- However the bytes travel and whatever fails, each end passes on what it parses of the
    envelopes that the other sent, each once and in order, and all of it when nothing waits
    any more. -/
theorem connection_in_order (parse : Bytes → Option Envelope) (events : List Event) :
    Relays (connectionAfter parse events) (events.filterMap clientSend)
      (events.filterMap sessionSend) := by
  rw [← client_sends parse, ← session_sends parse]
  exact relays (linked_events events)

/-- While nothing fails nothing is lost: the connection can go on by itself until both ends
    have passed on everything. -/
theorem connection_loses_nothing (parse : Bytes → Option Envelope) (events : List Event)
    (well : ∀ event ∈ events, ¬ Failing event) :
    ∃ more, (∀ event ∈ more, Working event) ∧
      (connectionAfter parse (events ++ more)).session.wire.dispatched =
        Through parse (events.filterMap clientSend) ∧
      (connectionAfter parse (events ++ more)).client.wire.dispatched =
        Through parse (events.filterMap sessionSend) := by
  have sound : Sound (connectionAfter parse events) := sound_after (sound_start _ _) well
  obtain ⟨first, asking, arrived⟩ := to_session_drains sound
  have first_working : ∀ event ∈ first, Working event :=
    fun event there => asking_working (asking event there)
  have sound' := sound_after sound fun event there => working_well (first_working event there)
  obtain ⟨second, answering, answered⟩ := to_client_drains sound'
  have second_working : ∀ event ∈ second, Working event :=
    fun event there => answering_working (answering event there)
  have split : connectionAfter parse (events ++ (first ++ second)) =
      after Connection.step (after Connection.step (connectionAfter parse events) first)
        second := by
    rw [connectionAfter, connectionAfter, after_append, after_append]
  have quiet := working_quiet first_working
  have quiet' := working_quiet second_working
  have sent : (after Connection.step (connectionAfter parse events) first).client.sent =
      events.filterMap clientSend := by
    rw [client_sent, client_sends, quiet.1, List.append_nil]
  have sent' : (after Connection.step (connectionAfter parse events) first).session.sent =
      events.filterMap sessionSend := by
    rw [session_sent, session_sends, quiet.2, List.append_nil]
  have last := client_sent (after Connection.step (connectionAfter parse events) first) second
  have last' := session_sent (after Connection.step (connectionAfter parse events) first) second
  rw [quiet'.1, List.append_nil, sent] at last
  rw [quiet'.2, List.append_nil, sent'] at last'
  have at_first := relays sound'.linked
  have at_end := relays (linked_after sound'.linked second)
  have all := at_first.all_requests arrived
  have kept := dispatched_after (after Connection.step (connectionAfter parse events) first) second
  have most := at_end.requests
  have responded := at_end.all_responses answered
  rw [sent] at all
  rw [all] at kept
  rw [last] at most
  rw [last'] at responded
  refine ⟨first ++ second, ?_, ?_⟩
  · intro event there
    rcases List.mem_append.mp there with early | late
    · exact first_working event early
    · exact second_working event late
  · rw [split]
    exact ⟨most.eq_of_length_le kept.length_le, responded⟩

end Chat

end Packages

section Hi

local instance : Serializer := fieldsInOrder

def hi : Envelope := envelope (.publicMessage ⟨"hi"⟩)

/-- A request that arrives in two pieces and is read. -/
def hiEvents : List Event :=
  [.client (.send hi), .client .run, .client (.transmit 100), .client .wrote, .toSession 3,
    .session .read, .toSession 100, .session .read, .session .read]

/-- The request has arrived, and the session can go on to answer. -/
theorem connection_loses_nothing_hi :
    (connectionAfter parseHi hiEvents).session.wire.dispatched = [hi] ∧
      ∃ more, (∀ event ∈ more, Working event) ∧
        (connectionAfter parseHi (hiEvents ++ more)).session.wire.dispatched =
          Through parseHi (hiEvents.filterMap clientSend) ∧
        (connectionAfter parseHi (hiEvents ++ more)).client.wire.dispatched =
          Through parseHi (hiEvents.filterMap sessionSend) := by
  constructor
  · have packed : package hi = [0, 0, 0, 7] ++ hiBytes := by
      unfold package hi
      rw [serialize_hi]
      decide
    change (after Connection.step (Connection.step (.start _ _) (.client (.send hi)))
      hiEvents.tail).session.wire.dispatched = [hi]
    simp only [Connection.step, Peer.step, packed]
    decide
  · apply connection_loses_nothing parseHi hiEvents
    simp [hiEvents, Failing]

end Hi

end ConnectionLinks
