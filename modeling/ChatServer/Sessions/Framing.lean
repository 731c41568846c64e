import ChatServer.Sessions.Streams

/-!
What the read loops make of the bytes that arrive. The bytes come in any chunks, and a
read completes when its buffer is full, or fails when what arrived cannot fill it. The
session and the client read alike, so one argument serves both.
-/
namespace StreamFraming
open EventRuns ProtoWire ChatProtocol ChatWire LengthFrames SessionStreams

def messageOf : Action → Option Envelope
  | .message envelope => some envelope
  | _ => none

/-- A party that handles completions as `Stream` does, whatever else it keeps. -/
structure Endpoint (parse : Bytes → Option Envelope) where
  State : Type
  start : State
  stream : State → Stream
  step : State → Completion → State × List Action
  starts : stream start = .started
  streams : ∀ s c, stream (step s c).1 =
    if (stream s).Awaits c then ((stream s).complete parse c).stream else stream s
  passes : ∀ s c, (step s c).2.filterMap messageOf =
    if (stream s).Awaits c then ((stream s).complete parse c).actions.filterMap messageOf else []

variable {parse : Bytes → Option Envelope}

def sessionEndpoint (parse : Bytes → Option Envelope) : Endpoint parse where
  State := Session
  start := .started
  stream := Session.stream
  step := Session.step parse
  starts := rfl
  streams := next_stream parse
  passes := by
    intro s c
    rw [step_eq]
    split
    · split <;> simp [messageOf]
    · rfl

def clientEndpoint (parse : Bytes → Option Envelope) : Endpoint parse where
  State := Stream
  start := .started
  stream := fun s => s
  step := clientStep parse
  starts := rfl
  streams := by
    intro s c
    unfold clientStep
    by_cases awaits : s.Awaits c <;> simp [awaits]
  passes := by
    intro s c
    unfold clientStep
    by_cases awaits : s.Awaits c <;> simp [awaits]

def package [Serializer] (e : Envelope) : Bytes := lengthBytes (serialize e).length ++ serialize e

/-- A party and its socket: all that has arrived, and the part that no read has taken. -/
structure Wire (E : Endpoint parse) where
  endpoint : E.State
  arrived : Bytes
  socket : Bytes
  ended : Bool
  dispatched : List Envelope

inductive WireEvent where
  | arrive (chunk : Bytes)
  | read
  | readFails (e : AsioError)
  | posted (package : Bytes)
  | write (number : Nat) (ec : ErrorCode)

variable {E : Endpoint parse}

def Wire.start (E : Endpoint parse) : Wire E := ⟨E.start, [], [], false, []⟩

def Wire.reading (w : Wire E) : Reading := (E.stream w.endpoint).reading

def Wire.complete (w : Wire E) (c : Completion) : Wire E :=
  { w with
    endpoint := (E.step w.endpoint c).1
    dispatched := w.dispatched ++ (E.step w.endpoint c).2.filterMap messageOf }

/-- Nothing arrives after a read has failed. -/
def wireStep (w : Wire E) : WireEvent → Wire E
  | .arrive chunk =>
    if w.ended then w else { w with arrived := w.arrived ++ chunk, socket := w.socket ++ chunk }
  | .read => match w.reading with
    | .header =>
      if 4 ≤ w.socket.length then
        { w.complete (.header none (w.socket.take 4)) with socket := w.socket.drop 4 }
      else w
    | .body length =>
      if length ≤ w.socket.length then
        { w.complete (.body none (w.socket.take length)) with socket := w.socket.drop length }
      else w
    | .stopped => w
  | .readFails e => match w.reading with
    | .header =>
      if w.socket.length < 4 then { w.complete (.header (some e) []) with ended := true } else w
    | .body length =>
      if w.socket.length < length then { w.complete (.body (some e) []) with ended := true }
      else w
    | .stopped => w
  | .posted package => w.complete (.posted package)
  | .write number ec => w.complete (.write number ec)

def wireAfter (E : Endpoint parse) (events : List WireEvent) : Wire E :=
  after wireStep (.start E) events

/-- The outstanding read lacks bytes, or reading has ended. -/
def Settled (w : Wire E) : Prop :=
  match w.reading with
  | .header => w.socket.length < 4
  | .body length => w.socket.length < length
  | .stopped => True

instance (w : Wire E) : Decidable (Settled w) := by
  unfold Settled
  split <;> infer_instance

/-- Where the reading stands: after the frames of `consumed`, and within the next one. -/
def StandsAt (parse : Bytes → Option Envelope) (consumed arrived socket : Bytes) (ended : Bool) :
    Reading → Prop
  | .header => arrived = consumed ++ socket
  | .body length => ValidLength length ∧ ∃ header, header.length = 4 ∧
      bigEndian header = length ∧ arrived = consumed ++ (header ++ socket)
  | .stopped => ∃ rest, arrived = consumed ++ rest ∧
      ((∀ more, NoFrame maxBodyLength parse (rest ++ more)) ∨
        (ended = true ∧ NoFrame maxBodyLength parse rest))

def Placed (w : Wire E) : Prop :=
  ∃ consumed, Frames maxBodyLength parse consumed w.dispatched ∧
    StandsAt parse consumed w.arrived w.socket w.ended w.reading

theorem reading_complete (w : Wire E) (c : Completion) :
    (w.complete c).reading =
      if (E.stream w.endpoint).Awaits c then
        ((E.stream w.endpoint).complete parse c).stream.reading
      else w.reading := by
  simp only [Wire.reading, Wire.complete, E.streams]
  split <;> rfl

theorem dispatched_complete (w : Wire E) (c : Completion) :
    (w.complete c).dispatched = w.dispatched ++
      if (E.stream w.endpoint).Awaits c then
        ((E.stream w.endpoint).complete parse c).actions.filterMap messageOf
      else [] := by
  simp only [Wire.complete, E.passes]

theorem complete_header {w : Wire E} (reading : w.reading = .header) {buffer : Bytes}
    (filled : buffer.length = 4) :
    (w.complete (.header none buffer)).reading =
        (if ValidLength (bigEndian buffer) then .body (bigEndian buffer) else .stopped) ∧
      (w.complete (.header none buffer)).dispatched = w.dispatched := by
  have awaits : (E.stream w.endpoint).Awaits (.header none buffer) := ⟨reading, fun _ => filled⟩
  rw [reading_complete, dispatched_complete, if_pos awaits, if_pos awaits]
  simp only [Stream.complete, Stream.headerRead]
  split <;> simp

theorem complete_body {w : Wire E} {length : Nat} (reading : w.reading = .body length)
    {buffer : Bytes} (filled : buffer.length = length) :
    (w.complete (.body none buffer)).reading =
        (if (parse buffer).isSome then .header else .stopped) ∧
      (w.complete (.body none buffer)).dispatched = w.dispatched ++ (parse buffer).toList := by
  have awaits : (E.stream w.endpoint).Awaits (.body none buffer) := by
    unfold Wire.reading at reading
    simp [Stream.Awaits, reading, filled]
  rw [reading_complete, dispatched_complete, if_pos awaits, if_pos awaits]
  cases parsed : parse buffer <;> simp [Stream.complete, Stream.bodyRead, parsed, messageOf]

theorem complete_failed {w : Wire E} (c : Completion)
    (fails : (∃ e, c = .header (some e) [] ∧ w.reading = .header) ∨
      ∃ e length, c = .body (some e) [] ∧ w.reading = .body length) :
    (w.complete c).reading = .stopped ∧ (w.complete c).dispatched = w.dispatched := by
  rcases fails with header | body
  · obtain ⟨e, same, reading⟩ := header
    subst same
    have awaits : (E.stream w.endpoint).Awaits (.header (some e) []) := ⟨reading, by simp⟩
    rw [reading_complete, dispatched_complete, if_pos awaits, if_pos awaits]
    simp [Stream.complete, Stream.headerRead]
  · obtain ⟨e, length, same, reading⟩ := body
    subst same
    have awaits : (E.stream w.endpoint).Awaits (.body (some e) []) := by
      unfold Wire.reading at reading
      simp [Stream.Awaits, reading]
    rw [reading_complete, dispatched_complete, if_pos awaits, if_pos awaits]
    simp [Stream.complete, Stream.bodyRead]

theorem doWrite_no_message (s : SessionStreams.Stream) : s.doWrite.actions.filterMap messageOf = [] := by
  unfold Stream.doWrite
  split <;> simp [messageOf]

theorem complete_writes {w : Wire E} (c : Completion)
    (writes : (∃ package, c = .posted package) ∨ ∃ number ec, c = .write number ec) :
    (w.complete c).reading = w.reading ∧ (w.complete c).dispatched = w.dispatched := by
  rw [reading_complete, dispatched_complete]
  rcases writes with posted | written
  · obtain ⟨package, same⟩ := posted
    subst same
    have silent : ((E.stream w.endpoint).send package).actions.filterMap messageOf = [] := by
      simp only [Stream.send]
      split
      · exact doWrite_no_message _
      · rfl
    simp [Stream.complete, send_reading, silent, Wire.reading]
  · obtain ⟨number, ec, same⟩ := written
    subst same
    have silent : ((E.stream w.endpoint).handleWrite number ec).actions.filterMap messageOf =
        [] := by
      cases ec with
      | some e => rfl
      | none =>
        simp only [Stream.handleWrite]
        split
        · simp [messageOf]
        · simp [doWrite_no_message, messageOf]
    simp [Stream.complete, handleWrite_reading, silent, Wire.reading]

theorem placed_header {w : Wire E} (placed : Placed w) (reading : w.reading = .header) :
    ∃ consumed, Frames maxBodyLength parse consumed w.dispatched ∧
      w.arrived = consumed ++ w.socket := by
  obtain ⟨consumed, frames, place⟩ := placed
  rw [reading] at place
  exact ⟨consumed, frames, place⟩

theorem placed_body {w : Wire E} (placed : Placed w) {length : Nat}
    (reading : w.reading = .body length) :
    ValidLength length ∧ ∃ consumed header, Frames maxBodyLength parse consumed w.dispatched ∧
      header.length = 4 ∧ bigEndian header = length ∧
        w.arrived = consumed ++ (header ++ w.socket) := by
  obtain ⟨consumed, frames, place⟩ := placed
  rw [reading] at place
  obtain ⟨valid, header, four, size, arrived⟩ := place
  exact ⟨valid, consumed, header, frames, four, size, arrived⟩

theorem stands_after_arrival {consumed arrived socket : Bytes} {reading : Reading}
    (stands : StandsAt parse consumed arrived socket false reading) (chunk : Bytes) :
    StandsAt parse consumed (arrived ++ chunk) (socket ++ chunk) false reading := by
  cases reading with
  | header =>
    have place : arrived = consumed ++ socket := stands
    have longer : arrived ++ chunk = consumed ++ (socket ++ chunk) := by simp [place]
    exact longer
  | body length =>
    obtain ⟨valid, header, four, size, place⟩ := stands
    exact ⟨valid, header, four, size, by simp [place]⟩
  | stopped =>
    obtain ⟨rest, place, dead⟩ := stands
    have dead_end : ∀ more, NoFrame maxBodyLength parse (rest ++ more) := by
      rcases dead with always | closed
      · exact always
      · cases closed.1
    refine ⟨rest ++ chunk, by simp [place], Or.inl ?_⟩
    intro more
    rw [List.append_assoc]
    exact dead_end (chunk ++ more)

theorem placed_arrive {w : Wire E} (placed : Placed w) (chunk : Bytes) :
    Placed (wireStep w (.arrive chunk)) := by
  by_cases ended : w.ended = true
  · simpa [wireStep, ended] using placed
  · obtain ⟨consumed, frames, stands⟩ := placed
    have goes_on : w.ended = false := by simpa using ended
    rw [goes_on] at stands
    have arrives : wireStep w (.arrive chunk) =
        { w with arrived := w.arrived ++ chunk, socket := w.socket ++ chunk } := if_neg ended
    rw [arrives]
    refine ⟨consumed, frames, ?_⟩
    have longer := stands_after_arrival stands chunk
    rwa [← goes_on] at longer

theorem placed_read_header {w : Wire E} (placed : Placed w) (reading : w.reading = .header)
    (full : 4 ≤ w.socket.length) :
    Placed { w.complete (.header none (w.socket.take 4)) with socket := w.socket.drop 4 } := by
  obtain ⟨consumed, frames, arrived⟩ := placed_header placed reading
  have filled : (w.socket.take 4).length = 4 := by simp [full]
  obtain ⟨then_reads, same⟩ := complete_header reading filled
  have split : w.arrived = consumed ++ (w.socket.take 4 ++ w.socket.drop 4) := by
    rw [List.take_append_drop]
    exact arrived
  have stands : StandsAt parse consumed w.arrived (w.socket.drop 4) w.ended
      (w.complete (.header none (w.socket.take 4))).reading := by
    rw [then_reads]
    by_cases valid : ValidLength (bigEndian (w.socket.take 4))
    · rw [if_pos valid]
      exact ⟨valid, w.socket.take 4, filled, rfl, split⟩
    · rw [if_neg valid]
      refine ⟨w.socket.take 4 ++ w.socket.drop 4, split, Or.inl ?_⟩
      intro more
      rw [List.append_assoc]
      exact no_frame_header filled valid
  exact ⟨consumed, by simpa only [same] using frames, stands⟩

theorem placed_read_body {w : Wire E} (placed : Placed w) {length : Nat}
    (reading : w.reading = .body length) (full : length ≤ w.socket.length) :
    Placed { w.complete (.body none (w.socket.take length)) with
      socket := w.socket.drop length } := by
  obtain ⟨valid, consumed, header, frames, four, size, arrived⟩ := placed_body placed reading
  have filled : (w.socket.take length).length = length := by simp [full]
  obtain ⟨then_reads, same⟩ := complete_body reading filled
  have split : w.arrived =
      consumed ++ (header ++ (w.socket.take length ++ w.socket.drop length)) := by
    rw [List.take_append_drop]
    exact arrived
  cases parsed : parse (w.socket.take length) with
  | none =>
    simp only [parsed, Option.isSome_none, Bool.false_eq_true, if_false, Option.toList_none,
      List.append_nil] at then_reads same
    have stands : StandsAt parse consumed w.arrived (w.socket.drop length) w.ended
        (w.complete (.body none (w.socket.take length))).reading := by
      rw [then_reads]
      refine ⟨header ++ (w.socket.take length ++ w.socket.drop length), split, Or.inl ?_⟩
      intro more
      rw [List.append_assoc, List.append_assoc]
      exact no_frame_body four (filled.trans size.symm) parsed
    exact ⟨consumed, by simpa only [same] using frames, stands⟩
  | some envelope =>
    simp only [parsed, Option.isSome_some, if_true, Option.toList_some] at then_reads same
    have frame : Frame maxBodyLength parse header (w.socket.take length) envelope :=
      ⟨four, size.trans filled.symm, by rw [filled]; exact valid.1, by rw [filled]; exact valid.2,
        parsed⟩
    have stands : StandsAt parse (consumed ++ (header ++ w.socket.take length)) w.arrived
        (w.socket.drop length) w.ended
        (w.complete (.body none (w.socket.take length))).reading := by
      rw [then_reads]
      simpa only [StandsAt, List.append_assoc] using split
    exact ⟨_, by simpa only [same] using frames_append frames (frames_single frame), stands⟩

theorem placed_failed {w : Wire E} (placed : Placed w) (c : Completion)
    (fails : (∃ e, c = .header (some e) [] ∧ w.reading = .header) ∨
      ∃ e length, c = .body (some e) [] ∧ w.reading = .body length) (settled : Settled w) :
    Placed { w.complete c with ended := true } := by
  obtain ⟨stops, same⟩ := complete_failed c fails
  rcases fails with header | body
  · obtain ⟨e, _, reading⟩ := header
    obtain ⟨consumed, frames, arrived⟩ := placed_header placed reading
    simp only [Settled, reading] at settled
    have stands : StandsAt parse consumed w.arrived w.socket true (w.complete c).reading := by
      rw [stops]
      exact ⟨w.socket, arrived, Or.inr ⟨rfl, no_frame_short settled⟩⟩
    exact ⟨consumed, by simpa only [same] using frames, stands⟩
  · obtain ⟨e, length, _, reading⟩ := body
    obtain ⟨valid, consumed, header, frames, four, size, arrived⟩ := placed_body placed reading
    simp only [Settled, reading] at settled
    have stands : StandsAt parse consumed w.arrived w.socket true (w.complete c).reading := by
      rw [stops]
      exact ⟨header ++ w.socket, arrived, Or.inr ⟨rfl, no_frame_unfinished four (by omega)⟩⟩
    exact ⟨consumed, by simpa only [same] using frames, stands⟩

theorem placed_writes {w : Wire E} (placed : Placed w) (c : Completion)
    (writes : (∃ package, c = .posted package) ∨ ∃ number ec, c = .write number ec) :
    Placed (w.complete c) := by
  obtain ⟨reads, same⟩ := complete_writes c writes
  obtain ⟨consumed, frames, stands⟩ := placed
  refine ⟨consumed, by rwa [same], ?_⟩
  rw [reads]
  exact stands

theorem placed_step {w : Wire E} (placed : Placed w) (e : WireEvent) : Placed (wireStep w e) := by
  cases e with
  | arrive chunk => exact placed_arrive placed chunk
  | read =>
    simp only [wireStep]
    cases reading : w.reading with
    | header =>
      by_cases full : 4 ≤ w.socket.length
      · simp only [full, if_true]
        exact placed_read_header placed reading full
      · simpa [full] using placed
    | body length =>
      by_cases full : length ≤ w.socket.length
      · simp only [full, if_true]
        exact placed_read_body placed reading full
      · simpa [full] using placed
    | stopped => exact placed
  | readFails e =>
    simp only [wireStep]
    cases reading : w.reading with
    | header =>
      by_cases few : w.socket.length < 4
      · simp only [few, if_true]
        exact placed_failed placed _ (Or.inl ⟨e, rfl, reading⟩) (by simpa [Settled, reading])
      · simpa [few] using placed
    | body length =>
      by_cases few : w.socket.length < length
      · simp only [few, if_true]
        exact placed_failed placed _ (Or.inr ⟨e, length, rfl, reading⟩)
          (by simpa [Settled, reading])
      · simpa [few] using placed
    | stopped => exact placed
  | posted package => exact placed_writes placed _ (Or.inl ⟨package, rfl⟩)
  | write number ec => exact placed_writes placed _ (Or.inr ⟨number, ec, rfl⟩)

theorem placed_after (E : Endpoint parse) (events : List WireEvent) :
    Placed (wireAfter E events) := by
  induction events using List.reverseRecOn with
  | nil =>
    have reads : (wireAfter E []).reading = .header := congrArg Stream.reading E.starts
    refine ⟨[], .nil, ?_⟩
    rw [reads]
    rfl
  | append_singleton events e ih =>
    rw [wireAfter, after_snoc]
    exact placed_step ih e

theorem longest_of_settled {w : Wire E} (placed : Placed w) (settled : Settled w) :
    Longest maxBodyLength parse w.arrived w.dispatched := by
  obtain ⟨consumed, frames, stands⟩ := placed
  unfold Settled at settled
  cases reading : w.reading with
  | header =>
    rw [reading] at stands settled
    have arrived : w.arrived = consumed ++ w.socket := stands
    rw [arrived]
    exact longest_of_stuck frames (no_frame_short settled)
  | body length =>
    rw [reading] at stands settled
    obtain ⟨valid, header, four, size, arrived⟩ := stands
    rw [arrived]
    apply longest_of_stuck frames (no_frame_unfinished four _)
    rw [size]
    exact settled
  | stopped =>
    rw [reading] at stands
    obtain ⟨rest, arrived, dead⟩ := stands
    rw [arrived]
    apply longest_of_stuck frames
    rcases dead with always | closed
    · have here := always []
      rwa [List.append_nil] at here
    · exact closed.2

theorem dispatched_in_order {w : Wire E} (placed : Placed w) {es : List Envelope}
    (longest : Longest maxBodyLength parse w.arrived es) : w.dispatched <+: es := by
  obtain ⟨consumed, frames, stands⟩ := placed
  have inside : consumed <+: w.arrived := by
    cases reading : w.reading with
    | header =>
      rw [reading] at stands
      exact ⟨w.socket, stands.symm⟩
    | body length =>
      rw [reading] at stands
      obtain ⟨valid, header, four, size, arrived⟩ := stands
      exact ⟨header ++ w.socket, arrived.symm⟩
    | stopped =>
      rw [reading] at stands
      obtain ⟨rest, arrived, dead⟩ := stands
      exact ⟨rest, arrived.symm⟩
  exact prefix_of_longest frames inside longest

theorem settles {w : Wire E} (placed : Placed w) :
    ∃ reads, Settled (after wireStep w (List.replicate reads .read)) := by
  induction waiting : w.socket.length using Nat.strongRecOn generalizing w with
  | ind size ih =>
    by_cases settled : Settled w
    · exact ⟨0, settled⟩
    · have fewer : (wireStep w .read).socket.length < size := by
        unfold Settled at settled
        cases reading : w.reading with
        | header =>
          simp only [reading, not_lt] at settled
          simp only [wireStep, reading, settled, if_true, List.length_drop]
          omega
        | body length =>
          obtain ⟨valid, _⟩ := placed_body placed reading
          have positive : 0 < length := valid.1
          simp only [reading, not_lt] at settled
          simp only [wireStep, reading, settled, if_true, List.length_drop]
          omega
        | stopped => simp [reading] at settled
      obtain ⟨reads, rest⟩ := ih _ fewer (placed_step placed .read) rfl
      exact ⟨reads + 1, rest⟩

def Spoilt (parse : Bytes → Option Envelope) (bytes : Bytes) : Prop :=
  (bytes.length = 4 ∧ ¬ ValidLength (bigEndian bytes)) ∨
    ∃ header body, bytes = header ++ body ∧ header.length = 4 ∧
      body.length = bigEndian header ∧ parse body = none

theorem no_frame_spoilt {bytes : Bytes} (spoilt : Spoilt parse bytes) (more : Bytes) :
    NoFrame maxBodyLength parse (bytes ++ more) := by
  rcases spoilt with length | body
  · exact no_frame_header length.1 length.2
  · obtain ⟨header, body, same, four, size, bad⟩ := body
    rw [same, List.append_assoc]
    exact no_frame_body four size bad

section Promises
variable [Serializer]

structure FramingExact (E : Endpoint parse) : Prop where
  longest : ∀ events, Settled (wireAfter E events) →
    Longest maxBodyLength parse (wireAfter E events).arrived (wireAfter E events).dispatched
  ordered : ∀ events es, Longest maxBodyLength parse (wireAfter E events).arrived es →
    (wireAfter E events).dispatched <+: es
  comes_to_rest : ∀ events, ∃ reads, Settled (wireAfter E (events ++ List.replicate reads .read))
  spoilt : ∀ events pre es bad more, Frames maxBodyLength parse pre es → Spoilt parse bad →
    (wireAfter E events).arrived = pre ++ (bad ++ more) → (wireAfter E events).dispatched <+: es
  read_back : ∀ es, (∀ e ∈ es, Accepted e) → (∀ e ∈ es, parse (serialize e) = some e) →
    ∀ events, (wireAfter E events).arrived = es.flatMap package → Settled (wireAfter E events) →
      (wireAfter E events).dispatched = es

theorem endpoint_framing (E : Endpoint parse) : FramingExact E where
  longest := fun events settled => longest_of_settled (placed_after E events) settled
  ordered := fun events _ longest => dispatched_in_order (placed_after E events) longest
  comes_to_rest := by
    intro events
    obtain ⟨reads, rest⟩ := settles (placed_after E events)
    refine ⟨reads, ?_⟩
    rwa [wireAfter, after_append]
  spoilt := by
    intro events pre es bad more frames spoilt arrived
    apply dispatched_in_order (placed_after E events)
    rw [arrived]
    exact longest_of_stuck frames (no_frame_spoilt spoilt more)
  read_back := by
    intro es accepted inverts events arrived settled
    have read := longest_of_settled (placed_after E events) settled
    have bound : maxBodyLength ≤ 2 ^ 32 := by decide
    have written : Frames maxBodyLength parse (es.flatMap package) es :=
      frames_written bound accepted inverts
    have nothing_more : NoFrame maxBodyLength parse [] := no_frame_short (by simp)
    have whole := longest_of_stuck written nothing_more
    rw [List.append_nil, ← arrived] at whole
    exact longest_unique read whole

/-- Framing is exact at both ends of the connection. -/
theorem framing_exact (parse : Bytes → Option Envelope) :
    FramingExact (sessionEndpoint parse) ∧ FramingExact (clientEndpoint parse) :=
  ⟨endpoint_framing _, endpoint_framing _⟩

end Promises

section Hi

local instance : Serializer := fieldsInOrder

theorem serialize_hi : serialize (envelope (.publicMessage ⟨"hi"⟩)) = hiBytes := by
  have text : utf8 "hi" = [104, 105] := by decide
  have written : encode (envelope (.publicMessage ⟨"hi"⟩)) = hiBytes := by
    simp [encode, envelope, stringField, lengthDelimited, payloadNumber, payloadBytes, text,
      varint, hiBytes]
  have small : encodedSize (envelope (.publicMessage ⟨"hi"⟩)) < 2 ^ 31 := by
    rw [← encode_length, written]
    decide
  exact (if_pos small).trans written

/-- The frame of a public message in two chunks, with a read tried between them. -/
theorem framing_exact_hi :
    (wireAfter (sessionEndpoint parseHi) [.arrive [0, 0], .read,
      .arrive [0, 7, 146, 1, 4, 10, 2, 104, 105], .read, .read]).dispatched =
        [envelope (.publicMessage ⟨"hi"⟩)] := by
  apply (framing_exact parseHi).1.read_back
  · simp [Accepted, serialize_hi, hiBytes, maxBodyLength]
  · simp [serialize_hi, parseHi]
  · simp only [List.flatMap_cons, List.flatMap_nil, package, serialize_hi]
    decide
  · decide

end Hi

end StreamFraming
