import ChatServer.Atomic.Runs
import ChatServer.Model.Protocol
import ChatServer.Wire.ChatWire
import ChatServer.Wire.LengthFrames

/-!
The two completion chains of a session's socket. One read is outstanding until a read
fails, and a write is outstanding while packages are queued. The strand runs the posted
lambdas and the completions one at a time. Reading does not look at `is_closed`, so a
write error reports the disconnect and leaves the reading going.
-/
namespace SessionStreams
open EventRuns ProtoWire ChatProtocol ChatWire LengthFrames

inductive AsioError where
  | eof
  | operationAborted
  | connectionReset
  | timedOut
  | other (value : Int)
  deriving DecidableEq, Repr

/-- `none` is the code of success. -/
abbrev ErrorCode := Option AsioError

inductive Reading where
  | header
  | body (length : Nat)
  | stopped
  deriving DecidableEq, Repr

/-- `writing` are the buffers of the outstanding `async_write`s. -/
structure Stream where
  reading : Reading
  messageQueue : List Bytes
  writing : List Bytes
  deriving DecidableEq, Repr

/-- What the strand runs next: a lambda that `send` posted, or a completion handler. -/
inductive Completion where
  | posted (package : Bytes)
  | header (ec : ErrorCode) (buffer : Bytes)
  | body (ec : ErrorCode) (buffer : Bytes)
  | write (number : Nat) (ec : ErrorCode)
  deriving DecidableEq, Repr

inductive Action where
  | asyncWrite (package : Bytes)
  | wrote (package : Bytes)
  | message (envelope : Envelope)
  | disconnect
  deriving DecidableEq

/-- What a handler does, and the code it hands to `handle_error` if it calls that. -/
structure Handled where
  stream : Stream
  actions : List Action
  fails : Option ErrorCode

/-- The operation that completes is outstanding, and a read without an error has filled
    its buffer. -/
def Stream.Awaits (s : Stream) : Completion → Prop
  | .posted _ => True
  | .header ec buffer => s.reading = .header ∧ (ec = none → buffer.length = 4)
  | .body ec buffer => match s.reading with
    | .body length => ec = none → buffer.length = length
    | _ => False
  | .write number _ => number < s.writing.length

instance (s : Stream) (c : Completion) : Decidable (s.Awaits c) := by
  unfold Stream.Awaits
  split
  · infer_instance
  · infer_instance
  · split <;> infer_instance
  · infer_instance

def ValidLength (length : Nat) : Prop := 0 < length ∧ length < maxBodyLength

instance (length : Nat) : Decidable (ValidLength length) :=
  inferInstanceAs (Decidable (_ ∧ _))

def Stream.doWrite (s : Stream) : Handled :=
  match s.messageQueue with
  | front :: _ => ⟨{ s with writing := s.writing ++ [front] }, [.asyncWrite front], none⟩
  | [] => ⟨s, [], none⟩

def Stream.send (s : Stream) (package : Bytes) : Handled :=
  let pushed := { s with messageQueue := s.messageQueue ++ [package] }
  if s.messageQueue.isEmpty then pushed.doWrite else ⟨pushed, [], none⟩

def Stream.handleWrite (s : Stream) (number : Nat) : ErrorCode → Handled
  | none =>
    let popped := { s with
      messageQueue := s.messageQueue.tail
      writing := s.writing.eraseIdx number }
    let written := s.writing[number]?.toList.map Action.wrote
    if popped.messageQueue.isEmpty then ⟨popped, written, none⟩
    else ⟨popped.doWrite.stream, written ++ popped.doWrite.actions, none⟩
  | some e => ⟨{ s with writing := s.writing.eraseIdx number }, [], some (some e)⟩

/-- The completion of `do_read_header`; each of its error branches reports the same code. -/
def Stream.headerRead (s : Stream) (buffer : Bytes) : ErrorCode → Handled
  | none =>
    if ValidLength (bigEndian buffer) then
      ⟨{ s with reading := .body (bigEndian buffer) }, [], none⟩
    else ⟨{ s with reading := .stopped }, [], some none⟩
  | some e => ⟨{ s with reading := .stopped }, [], some (some e)⟩

variable (parse : Bytes → Option Envelope)

def Stream.bodyRead (s : Stream) (buffer : Bytes) : ErrorCode → Handled
  | none => match parse buffer with
    | some envelope => ⟨{ s with reading := .header }, [.message envelope], none⟩
    | none => ⟨{ s with reading := .stopped }, [], some none⟩
  | some e => ⟨{ s with reading := .stopped }, [], some (some e)⟩

def Stream.complete (s : Stream) : Completion → Handled
  | .posted package => s.send package
  | .header ec buffer => s.headerRead buffer ec
  | .body ec buffer => s.bodyRead parse buffer ec
  | .write number ec => s.handleWrite number ec

structure Session where
  stream : Stream
  isClosed : Bool
  deriving DecidableEq, Repr

def Stream.started : Stream := ⟨.header, [], []⟩

def Session.started : Session := ⟨.started, false⟩

def Session.handleError (s : Session) (ec : ErrorCode) : Session × List Action :=
  if s.isClosed then (s, [])
  else if ec = some .operationAborted then (s, [])
  else ({ s with isClosed := true }, [.disconnect])

def Session.step (s : Session) (c : Completion) : Session × List Action :=
  if s.stream.Awaits c then
    let handled := s.stream.complete parse c
    match handled.fails with
    | none => ({ s with stream := handled.stream }, handled.actions)
    | some ec =>
      let reported := Session.handleError { s with stream := handled.stream } ec
      (reported.1, handled.actions ++ reported.2)
  else (s, [])

/-- The client's chains are the same; its `handle_error` only prints. -/
def clientStep (s : Stream) (c : Completion) : Stream × List Action :=
  if s.Awaits c then ((s.complete parse c).stream, (s.complete parse c).actions) else (s, [])

/-- The completion delivers an error other than `operation_aborted`, a bad length, or a
    body that does not parse. -/
def Broken : Completion → Prop
  | .posted _ => False
  | .header none buffer => ¬ ValidLength (bigEndian buffer)
  | .body none buffer => parse buffer = none
  | .write _ none => False
  | .header (some e) _ => e ≠ .operationAborted
  | .body (some e) _ => e ≠ .operationAborted
  | .write _ (some e) => e ≠ .operationAborted

instance : DecidablePred (Broken parse) := fun c => by
  unfold Broken
  split <;> infer_instance

def Session.next (s : Session) (c : Completion) : Session := (s.step parse c).1

def Session.actions (s : Session) (c : Completion) : List Action := (s.step parse c).2

def reached (run : List Completion) : Session := after (Session.next parse) .started run

def performed (run : List Completion) : List Action :=
  outputs (Session.next parse) (Session.actions parse) .started run

variable {parse : Bytes → Option Envelope}

theorem doWrite_fails (s : Stream) : s.doWrite.fails = none := by
  unfold Stream.doWrite
  split <;> rfl

theorem send_fails (s : Stream) (package : Bytes) : (s.send package).fails = none := by
  unfold Stream.send
  dsimp only
  split
  · exact doWrite_fails _
  · rfl

variable (parse) in
/-- The code that a handler hands to `handle_error` is one that it reports exactly when
    the completion is broken. -/
theorem complete_fails (s : Stream) (c : Completion) :
    match (s.complete parse c).fails with
    | none => ¬ Broken parse c
    | some ec => ec ≠ some .operationAborted ↔ Broken parse c := by
  cases c with
  | posted package => simp [Stream.complete, send_fails, Broken]
  | header ec buffer =>
    cases ec with
    | none =>
      by_cases valid : ValidLength (bigEndian buffer) <;>
        simp [Stream.complete, Stream.headerRead, valid, Broken]
    | some e => simp [Stream.complete, Stream.headerRead, Broken]
  | body ec buffer =>
    cases ec with
    | none => cases parsed : parse buffer <;> simp [Stream.complete, Stream.bodyRead, parsed, Broken]
    | some e => simp [Stream.complete, Stream.bodyRead, Broken]
  | write number ec =>
    cases ec with
    | none =>
      by_cases last : s.messageQueue.tail.isEmpty <;>
        simp [Stream.complete, Stream.handleWrite, last, Broken]
    | some e => simp [Stream.complete, Stream.handleWrite, Broken]

theorem step_eq (s : Session) (c : Completion) :
    s.step parse c =
      if s.stream.Awaits c then
        (⟨(s.stream.complete parse c).stream, s.isClosed || decide (Broken parse c)⟩,
          (s.stream.complete parse c).actions ++
            if s.isClosed = false ∧ Broken parse c then [.disconnect] else [])
      else (s, []) := by
  unfold Session.step
  by_cases awaits : s.stream.Awaits c
  · have fails := complete_fails parse s.stream c
    simp only [awaits, if_true]
    cases code : (s.stream.complete parse c).fails with
    | none =>
      simp only [code] at fails
      simp [fails]
    | some ec =>
      simp only [code] at fails
      by_cases broken : Broken parse c
      · have reports := fails.mpr broken
        cases s.isClosed <;> simp [Session.handleError, broken, reports]
      · have aborted : ec = some .operationAborted := by
          by_contra other
          exact broken (fails.mp other)
        cases s.isClosed <;> simp [Session.handleError, broken, aborted]
  · simp [awaits]

theorem reached_snoc (run : List Completion) (c : Completion) :
    reached parse (run ++ [c]) = (reached parse run).next parse c := after_snoc _ run c

theorem performed_snoc (run : List Completion) (c : Completion) :
    performed parse (run ++ [c]) = performed parse run ++ (reached parse run).actions parse c :=
  outputs_snoc _ run c

variable (parse) in
theorem next_stream (s : Session) (c : Completion) :
    (s.next parse c).stream =
      if s.stream.Awaits c then (s.stream.complete parse c).stream else s.stream := by
  rw [Session.next, step_eq]
  split <;> rfl

def postedPackage : Completion → Option Bytes
  | .posted package => some package
  | _ => none

def wrotePackage : Action → Option Bytes
  | .wrote package => some package
  | _ => none

def startedWrite : Action → Option Bytes
  | .asyncWrite package => some package
  | _ => none

variable (parse) in
theorem actions_filter (f : Action → Option Bytes) (silent : f .disconnect = none)
    (s : Session) (c : Completion) :
    (s.actions parse c).filterMap f =
      if s.stream.Awaits c then (s.stream.complete parse c).actions.filterMap f else [] := by
  rw [Session.actions, step_eq]
  split
  · split <;> simp [silent]
  · rfl

/-- At most one write is outstanding, and that one is of the front of the queue. -/
def WritesFront (s : Stream) : Prop :=
  s.writing = [] ∨ ∃ front rest, s.messageQueue = front :: rest ∧ s.writing = [front]

def FailedWrite (s : Stream) (c : Completion) : Prop :=
  ∃ number e, c = .write number (some e) ∧ number < s.writing.length

inductive WriteMove (s : Stream) (c : Completion) (t : Stream) (actions : List Action) : Prop where
  | other (posts : postedPackage c = none) (alive : ¬ FailedWrite s c)
      (queue : t.messageQueue = s.messageQueue) (writing : t.writing = s.writing)
      (wrote : actions.filterMap wrotePackage = [])
      (started : actions.filterMap startedWrite = [])
  | queued (package : Bytes) (posts : c = .posted package) (busy : s.messageQueue ≠ [])
      (queue : t.messageQueue = s.messageQueue ++ [package]) (writing : t.writing = s.writing)
      (wrote : actions.filterMap wrotePackage = [])
      (started : actions.filterMap startedWrite = [])
  | begun (package : Bytes) (posts : c = .posted package) (idle : s.messageQueue = [])
      (queue : t.messageQueue = [package]) (writing : t.writing = [package])
      (wrote : actions.filterMap wrotePackage = [])
  | written (front : Bytes) (rest : List Bytes) (posts : postedPackage c = none)
      (alive : ¬ FailedWrite s c) (before : s.messageQueue = front :: rest)
      (outstanding : s.writing = [front]) (queue : t.messageQueue = rest)
      (writing : t.writing = rest.head?.toList)
      (wrote : actions.filterMap wrotePackage = [front])
  | failed (front : Bytes) (rest : List Bytes) (posts : postedPackage c = none)
      (fails : FailedWrite s c) (before : s.messageQueue = front :: rest)
      (queue : t.messageQueue = s.messageQueue) (writing : t.writing = [])
      (wrote : actions.filterMap wrotePackage = [])
      (started : actions.filterMap startedWrite = [])

theorem not_failed_of {s : Stream} {c : Completion} (other : ∀ number e, c ≠ .write number (some e)) :
    ¬ FailedWrite s c := by
  intro fails
  obtain ⟨number, e, same, _⟩ := fails
  exact other number e same

theorem read_move {s t : Stream} {c : Completion} {actions : List Action}
    (reads : ∀ number e, c ≠ .write number (some e)) (posts : postedPackage c = none)
    (kept : t.messageQueue = s.messageQueue ∧ t.writing = s.writing)
    (quiet : actions = [] ∨ ∃ envelope, actions = [.message envelope]) :
    WriteMove s c t actions := by
  rcases quiet with nothing | passed
  · subst nothing
    exact .other posts (not_failed_of reads) kept.1 kept.2 rfl rfl
  · obtain ⟨envelope, same⟩ := passed
    subst same
    exact .other posts (not_failed_of reads) kept.1 kept.2 rfl rfl

theorem send_move {s : Stream} (front : WritesFront s) (package : Bytes) :
    WriteMove s (.posted package) (s.send package).stream (s.send package).actions := by
  cases queue : s.messageQueue with
  | nil =>
    have idle : s.writing = [] := by
      rcases front with none_out | one_out
      · exact none_out
      · obtain ⟨first, rest, there, _⟩ := one_out
        rw [queue] at there
        cases there
    apply WriteMove.begun package rfl queue <;>
      simp [Stream.send, Stream.doWrite, queue, idle, wrotePackage]
  | cons first rest =>
    apply WriteMove.queued package rfl (by simp [queue]) <;> simp [Stream.send, queue]

theorem handleWrite_move {s : Stream} (front : WritesFront s) {number : Nat} (ec : ErrorCode)
    (awaits : number < s.writing.length) :
    WriteMove s (.write number ec) (s.handleWrite number ec).stream
      (s.handleWrite number ec).actions := by
  rcases front with none_out | one_out
  · simp [none_out] at awaits
  · obtain ⟨first, rest, queue, writing⟩ := one_out
    have only : number = 0 := by
      simp only [writing, List.length_singleton] at awaits
      omega
    subst only
    cases ec with
    | some e =>
      have fails : FailedWrite s (.write 0 (some e)) := ⟨0, e, rfl, awaits⟩
      apply WriteMove.failed first rest rfl fails queue <;>
        simp [Stream.handleWrite, writing]
    | none =>
      have alive : ¬ FailedWrite s (.write 0 none) := not_failed_of (by simp)
      cases rest with
      | nil =>
        apply WriteMove.written first [] rfl alive queue writing <;>
          simp [Stream.handleWrite, queue, writing, wrotePackage]
      | cons second others =>
        apply WriteMove.written first (second :: others) rfl alive queue writing <;>
          simp [Stream.handleWrite, Stream.doWrite, queue, writing, wrotePackage]

theorem complete_move {s : Stream} (front : WritesFront s) {c : Completion}
    (awaits : s.Awaits c) :
    WriteMove s c (s.complete parse c).stream (s.complete parse c).actions := by
  cases c with
  | posted package => exact send_move front package
  | header ec buffer =>
    apply read_move (by simp) rfl
    · cases ec with
      | none =>
        simp only [Stream.complete, Stream.headerRead]
        split <;> exact ⟨rfl, rfl⟩
      | some e => exact ⟨rfl, rfl⟩
    · cases ec with
      | none =>
        simp only [Stream.complete, Stream.headerRead]
        split <;> exact Or.inl rfl
      | some e => exact Or.inl rfl
  | body ec buffer =>
    apply read_move (by simp) rfl
    · cases ec with
      | none => cases parsed : parse buffer <;> simp [Stream.complete, Stream.bodyRead, parsed]
      | some e => exact ⟨rfl, rfl⟩
    · cases ec with
      | none => cases parsed : parse buffer <;> simp [Stream.complete, Stream.bodyRead, parsed]
      | some e => exact Or.inl rfl
  | write number ec => exact handleWrite_move front ec awaits

variable (parse) in
theorem write_move {s : Session} (front : WritesFront s.stream) (c : Completion) :
    WriteMove s.stream c (s.next parse c).stream (s.actions parse c) := by
  have same := next_stream parse s c
  have wrote := actions_filter parse wrotePackage rfl s c
  have started := actions_filter parse startedWrite rfl s c
  by_cases awaits : s.stream.Awaits c
  · simp only [awaits, if_true] at same wrote started
    rw [same]
    cases complete_move front awaits with
    | other posts alive queue writing quiet begins =>
      exact .other posts alive queue writing (wrote.trans quiet) (started.trans begins)
    | queued package posts busy queue writing quiet begins =>
      exact .queued package posts busy queue writing (wrote.trans quiet) (started.trans begins)
    | begun package posts idle queue writing quiet =>
      exact .begun package posts idle queue writing (wrote.trans quiet)
    | written first rest posts alive before outstanding queue writing done =>
      exact .written first rest posts alive before outstanding queue writing (wrote.trans done)
    | failed first rest posts fails before queue writing quiet begins =>
      exact .failed first rest posts fails before queue writing (wrote.trans quiet)
        (started.trans begins)
  · simp only [awaits, if_false] at same wrote started
    rw [same]
    cases c with
    | posted package => exact absurd trivial awaits
    | header ec buffer => exact .other rfl (not_failed_of (by simp)) rfl rfl wrote started
    | body ec buffer => exact .other rfl (not_failed_of (by simp)) rfl rfl wrote started
    | write number ec =>
      have alive : ¬ FailedWrite s.stream (.write number ec) := by
        intro fails
        obtain ⟨i, e, same_write, there⟩ := fails
        cases same_write
        exact awaits there
      exact .other rfl alive rfl rfl wrote started

def WriteFailed (parse : Bytes → Option Envelope) (run : List Completion) : Prop :=
  SomeStep (Session.next parse) (fun s c => FailedWrite s.stream c) .started run

theorem writeFailed_snoc (run : List Completion) (c : Completion) :
    WriteFailed parse (run ++ [c]) ↔
      WriteFailed parse run ∨ FailedWrite (reached parse run).stream c := someStep_snoc _ run c

/-- Packages wait, and no write will ever complete. -/
def Stuck (s : Stream) : Prop := s.writing = [] ∧ s.messageQueue ≠ []

variable (parse) in
theorem stuck_step {s : Session} (stuck : Stuck s.stream) (c : Completion) :
    Stuck (s.next parse c).stream ∧ (s.actions parse c).filterMap startedWrite = [] := by
  obtain ⟨silent, waiting⟩ := stuck
  cases write_move parse (Or.inl silent) c with
  | other posts alive queue writing wrote started =>
    exact ⟨⟨writing.trans silent, by rwa [queue]⟩, started⟩
  | queued package posts busy queue writing wrote started =>
    exact ⟨⟨writing.trans silent, by simp [queue]⟩, started⟩
  | begun package posts idle => exact absurd idle waiting
  | written front rest posts alive before outstanding =>
    rw [silent] at outstanding
    cases outstanding
  | failed front rest posts fails before queue writing wrote started =>
    exact ⟨⟨writing, by rwa [queue]⟩, started⟩

theorem stuck_forever {s : Session} (stuck : Stuck s.stream) (later : List Completion) :
    (outputs (Session.next parse) (Session.actions parse) s later).filterMap startedWrite = [] := by
  induction later generalizing s with
  | nil => rfl
  | cons c rest ih =>
    have here := stuck_step parse stuck c
    simp only [outputs, List.filterMap_append, here.2, ih here.1, List.append_nil]

structure Writing (parse : Bytes → Option Envelope) (run : List Completion) : Prop where
  front : WritesFront (reached parse run).stream
  order : (performed parse run).filterMap wrotePackage ++ (reached parse run).stream.messageQueue =
    run.filterMap postedPackage
  idle : ¬ WriteFailed parse run → (reached parse run).stream.writing = [] →
    (reached parse run).stream.messageQueue = []
  stuck : WriteFailed parse run → Stuck (reached parse run).stream

theorem move_balance {s t : Stream} {c : Completion} {actions : List Action}
    (move : WriteMove s c t actions) :
    actions.filterMap wrotePackage ++ t.messageQueue =
      s.messageQueue ++ [c].filterMap postedPackage := by
  cases move with
  | other posts alive queue writing wrote started => simp [wrote, queue, posts]
  | queued package posts busy queue writing wrote started =>
    simp [wrote, queue, posts, postedPackage]
  | begun package posts idle queue writing wrote => simp [wrote, queue, posts, idle, postedPackage]
  | written front rest posts alive before outstanding queue writing wrote =>
    simp [wrote, queue, posts, before]
  | failed front rest posts fails before queue writing wrote started => simp [wrote, queue, posts]

theorem move_front {s t : Stream} {c : Completion} {actions : List Action}
    (front : WritesFront s) (move : WriteMove s c t actions) : WritesFront t := by
  cases move with
  | other posts alive queue writing wrote started =>
    unfold WritesFront
    rwa [queue, writing]
  | queued package posts busy queue writing wrote started =>
    rcases front with none_out | one_out
    · exact Or.inl (writing.trans none_out)
    · obtain ⟨first, rest, before, outstanding⟩ := one_out
      exact Or.inr ⟨first, rest ++ [package], by simp [queue, before], writing.trans outstanding⟩
  | begun package posts idle queue writing wrote => exact Or.inr ⟨package, [], queue, writing⟩
  | written first rest posts alive before outstanding queue writing wrote =>
    cases rest with
    | nil => exact Or.inl writing
    | cons second others => exact Or.inr ⟨second, others, queue, writing⟩
  | failed first rest posts fails before queue writing wrote started => exact Or.inl writing

/-- A queue that was idle or being written stays so until a write fails. -/
theorem move_idle {s t : Stream} {c : Completion} {actions : List Action}
    (move : WriteMove s c t actions) (alive : ¬ FailedWrite s c)
    (idle : s.writing = [] → s.messageQueue = []) (none_out : t.writing = []) :
    t.messageQueue = [] := by
  cases move with
  | other posts _ queue writing wrote started =>
    rw [queue]
    exact idle (writing.symm.trans none_out)
  | queued package posts busy queue writing wrote started =>
    exact absurd (idle (writing.symm.trans none_out)) busy
  | begun package posts _ queue writing wrote =>
    rw [writing] at none_out
    cases none_out
  | written front rest posts _ before outstanding queue writing wrote =>
    rw [queue]
    cases rest with
    | nil => rfl
    | cons second others =>
      rw [writing] at none_out
      cases none_out
  | failed front rest posts fails before queue writing wrote started => exact absurd fails alive

theorem writing_snoc {run : List Completion} (kept : Writing parse run) (c : Completion) :
    Writing parse (run ++ [c]) := by
  obtain ⟨front, order, idle, stuck⟩ := kept
  have move := write_move parse front c
  constructor
  · rw [reached_snoc]
    exact move_front front move
  · rw [performed_snoc, reached_snoc, List.filterMap_append, List.append_assoc,
      move_balance move, ← List.append_assoc, order, List.filterMap_append]
  · intro never none_out
    rw [writeFailed_snoc, not_or] at never
    rw [reached_snoc] at none_out ⊢
    exact move_idle move never.2 (idle never.1) none_out
  · intro failed
    rw [reached_snoc]
    by_cases before : WriteFailed parse run
    · exact (stuck_step parse (stuck before) c).1
    · have now : FailedWrite (reached parse run).stream c :=
        ((writeFailed_snoc run c).mp failed).resolve_left before
      cases move with
      | other posts alive => exact absurd now alive
      | queued package posts =>
        obtain ⟨number, e, same, _⟩ := now
        rw [posts] at same
        cases same
      | begun package posts =>
        obtain ⟨number, e, same, _⟩ := now
        rw [posts] at same
        cases same
      | written first rest posts alive => exact absurd now alive
      | failed first rest posts fails there queue writing wrote started =>
        exact ⟨writing, by simp [queue, there]⟩

variable (parse) in
theorem writing_run (run : List Completion) : Writing parse run := by
  induction run using List.reverseRecOn with
  | nil =>
    constructor
    · exact Or.inl rfl
    · rfl
    · intro _ _
      rfl
    · intro failed
      exact absurd failed (not_someStep_nil _)
  | append_singleton run c ih => exact writing_snoc ih c

structure WriteQueue (parse : Bytes → Option Envelope) (run : List Completion) : Prop where
  one : (reached parse run).stream.writing.length ≤ 1
  busy : ¬ WriteFailed parse run →
    ((reached parse run).stream.writing ≠ [] ↔ (reached parse run).stream.messageQueue ≠ [])
  order : (performed parse run).filterMap wrotePackage ++ (reached parse run).stream.messageQueue =
    run.filterMap postedPackage
  silent : ∀ pre later, run = pre ++ later → WriteFailed parse pre →
    (outputs (Session.next parse) (Session.actions parse) (reached parse pre) later).filterMap
      startedWrite = []

theorem write_queue_kept (parse : Bytes → Option Envelope) (run : List Completion) :
    WriteQueue parse run := by
  obtain ⟨front, order, idle, stuck⟩ := writing_run parse run
  constructor
  · rcases front with none_out | one_out
    · simp [none_out]
    · obtain ⟨first, rest, _, outstanding⟩ := one_out
      simp [outstanding]
  · intro never
    constructor
    · intro writing
      rcases front with none_out | one_out
      · exact absurd none_out writing
      · obtain ⟨first, rest, queue, _⟩ := one_out
        simp [queue]
    · intro waiting none_out
      exact waiting (idle never none_out)
  · exact order
  · intro pre later _ failed
    exact stuck_forever ((writing_run parse pre).stuck failed) later

def BrokenSoFar (parse : Bytes → Option Envelope) (run : List Completion) : Prop :=
  SomeStep (Session.next parse) (fun s c => s.stream.Awaits c ∧ Broken parse c) .started run

theorem doWrite_silent (s : Stream) : Action.disconnect ∉ s.doWrite.actions := by
  unfold Stream.doWrite
  split <;> simp

variable (parse) in
theorem complete_silent (s : Stream) (c : Completion) :
    Action.disconnect ∉ (s.complete parse c).actions := by
  cases c with
  | posted package =>
    simp only [Stream.complete, Stream.send]
    split
    · exact doWrite_silent _
    · simp
  | header ec buffer =>
    cases ec with
    | none =>
      simp only [Stream.complete, Stream.headerRead]
      split <;> simp
    | some e => simp [Stream.complete, Stream.headerRead]
  | body ec buffer =>
    cases ec with
    | none => cases parsed : parse buffer <;> simp [Stream.complete, Stream.bodyRead, parsed]
    | some e => simp [Stream.complete, Stream.bodyRead]
  | write number ec =>
    cases ec with
    | none =>
      simp only [Stream.complete, Stream.handleWrite]
      split
      · simp
      · simp [doWrite_silent]
    | some e => simp [Stream.complete, Stream.handleWrite]

theorem count_disconnect_step (s : Session) (c : Completion) :
    (s.actions parse c).count .disconnect =
      if s.isClosed = false ∧ s.stream.Awaits c ∧ Broken parse c then 1 else 0 := by
  have silent := List.count_eq_zero.mpr (complete_silent parse s.stream c)
  rw [Session.actions, step_eq]
  by_cases awaits : s.stream.Awaits c
  · simp only [awaits, if_true, List.count_append, silent, true_and]
    split <;> rfl
  · simp [awaits]

variable (parse) in
theorem closed_step (s : Session) (c : Completion) :
    (s.next parse c).isClosed = true ↔
      s.isClosed = true ∨ (s.stream.Awaits c ∧ Broken parse c) := by
  rw [Session.next, step_eq]
  by_cases awaits : s.stream.Awaits c <;> simp [awaits]

theorem closed_iff_broken (run : List Completion) :
    (reached parse run).isClosed = true ↔ BrokenSoFar parse run := by
  induction run using List.reverseRecOn with
  | nil => simp [reached, after, Session.started, BrokenSoFar, not_someStep_nil]
  | append_singleton run c ih =>
    rw [reached_snoc, closed_step, ih]
    exact (someStep_snoc _ run c).symm

variable (parse) in
theorem count_disconnect (run : List Completion) :
    (performed parse run).count .disconnect = if (reached parse run).isClosed then 1 else 0 := by
  induction run using List.reverseRecOn with
  | nil => rfl
  | append_singleton run c ih =>
    have closes := closed_step parse (reached parse run) c
    rw [performed_snoc, reached_snoc, List.count_append, ih, count_disconnect_step]
    cases was : (reached parse run).isClosed <;> simp [was] at closes ⊢ <;> simp [closes]

/-- A disconnect is reported at most once, and once some completion was broken. -/
theorem disconnect_reported_once (parse : Bytes → Option Envelope) (run : List Completion) :
    (performed parse run).count .disconnect ≤ 1 ∧
      (Action.disconnect ∈ performed parse run ↔ BrokenSoFar parse run) := by
  have counted := count_disconnect parse run
  rw [← closed_iff_broken, ← List.count_pos_iff, counted]
  cases (reached parse run).isClosed <;> simp

def Ended (s : Session) : Prop := s.isClosed = true → s.stream.reading = .stopped

/-- A write error closes the session while a read is outstanding, and that read goes on. -/
def LeavesReading (s : Session) (c : Completion) : Prop :=
  (∃ number e, c = .write number (some e) ∧ e ≠ .operationAborted ∧
    number < s.stream.writing.length) ∧ s.isClosed = false ∧ s.stream.reading ≠ .stopped

theorem doWrite_reading (s : Stream) : s.doWrite.stream.reading = s.reading := by
  unfold Stream.doWrite
  split <;> rfl

theorem send_reading (s : Stream) (package : Bytes) :
    (s.send package).stream.reading = s.reading := by
  simp only [Stream.send]
  split
  · exact doWrite_reading _
  · rfl

theorem handleWrite_reading (s : Stream) (number : Nat) (ec : ErrorCode) :
    (s.handleWrite number ec).stream.reading = s.reading := by
  cases ec with
  | none =>
    simp only [Stream.handleWrite]
    split
    · rfl
    · exact doWrite_reading _
  | some e => rfl

theorem headerRead_broken (s : Stream) {ec : ErrorCode} {buffer : Bytes}
    (broken : Broken parse (.header ec buffer)) :
    (s.headerRead buffer ec).stream.reading = .stopped := by
  cases ec with
  | none =>
    have bad : ¬ ValidLength (bigEndian buffer) := broken
    simp [Stream.headerRead, bad]
  | some e => rfl

theorem bodyRead_broken (s : Stream) {ec : ErrorCode} {buffer : Bytes}
    (broken : Broken parse (.body ec buffer)) :
    (s.bodyRead parse buffer ec).stream.reading = .stopped := by
  cases ec with
  | none =>
    have bad : parse buffer = none := broken
    simp [Stream.bodyRead, bad]
  | some e => rfl

theorem ended_step {s : Session} {c : Completion} (ended : Ended s) :
    Ended (s.next parse c) ↔ ¬ LeavesReading s c := by
  by_cases awaits : s.stream.Awaits c
  · have closes := closed_step parse s c
    have stream := next_stream parse s c
    simp only [awaits, true_and] at closes
    simp only [awaits, if_true] at stream
    unfold Ended
    rw [closes, stream]
    cases c with
    | posted package =>
      have same := send_reading s.stream package
      simp only [Stream.complete, same, Broken, or_false]
      simpa [LeavesReading, Ended] using ended
    | header ec buffer =>
      have reading : s.stream.reading ≠ .stopped := by simp [awaits.1]
      have still_open : ¬ s.isClosed = true := fun closed => reading (ended closed)
      have breaks : Broken parse (.header ec buffer) →
          (s.stream.headerRead buffer ec).stream.reading = .stopped := headerRead_broken s.stream
      simp only [still_open, Stream.complete]
      simpa [LeavesReading] using breaks
    | body ec buffer =>
      have reading : s.stream.reading ≠ .stopped := by
        intro stopped
        simp [Stream.Awaits, stopped] at awaits
      have still_open : ¬ s.isClosed = true := fun closed => reading (ended closed)
      have breaks : Broken parse (.body ec buffer) →
          (s.stream.bodyRead parse buffer ec).stream.reading = .stopped := bodyRead_broken s.stream
      simp only [still_open, Stream.complete]
      simpa [LeavesReading] using breaks
    | write number ec =>
      have there : number < s.stream.writing.length := awaits
      have same := handleWrite_reading s.stream number ec
      simp only [Stream.complete, same]
      cases ec with
      | none => simpa [LeavesReading, Broken, Ended] using ended
      | some e =>
        by_cases closed : s.isClosed = true
        · simp [LeavesReading, closed, ended closed]
        · by_cases aborted : e = .operationAborted
          · simp [LeavesReading, Broken, closed, aborted]
          · simp [LeavesReading, Broken, closed, aborted, there]
  · have same : s.next parse c = s := by
      rw [Session.next, step_eq, if_neg awaits]
    rw [same]
    constructor
    · intro _ leaves
      obtain ⟨⟨number, e, write, _, there⟩, _⟩ := leaves
      subst write
      exact awaits there
    · intro _
      exact ended

theorem complete_messages {s : Stream} {c : Completion} {envelope : Envelope}
    (passed : Action.message envelope ∈ (s.complete parse c).actions) :
    ∃ ec buffer, c = .body ec buffer := by
  cases c with
  | posted package =>
    simp only [Stream.complete, Stream.send, Stream.doWrite] at passed
    split at passed
    · split at passed <;> simp at passed
    · simp at passed
  | header ec buffer =>
    cases ec with
    | none =>
      simp only [Stream.complete, Stream.headerRead] at passed
      split at passed <;> simp at passed
    | some e => simp [Stream.complete, Stream.headerRead] at passed
  | body ec buffer => exact ⟨ec, buffer, rfl⟩
  | write number ec =>
    cases ec with
    | none =>
      simp only [Stream.complete, Stream.handleWrite, Stream.doWrite] at passed
      split at passed
      · simp at passed
      · split at passed <;> simp at passed
    | some e => simp [Stream.complete, Stream.handleWrite] at passed

theorem stopped_silent {s : Session} (stopped : s.stream.reading = .stopped) (c : Completion)
    (envelope : Envelope) : Action.message envelope ∉ s.actions parse c := by
  intro passed
  rw [Session.actions, step_eq] at passed
  by_cases awaits : s.stream.Awaits c
  · simp only [awaits, if_true, List.mem_append] at passed
    rcases passed with handled | reported
    · obtain ⟨ec, buffer, same⟩ := complete_messages handled
      subst same
      simp [Stream.Awaits, stopped] at awaits
    · split at reported <;> simp at reported
  · simp [awaits] at passed

theorem ended_iff (parse : Bytes → Option Envelope) (run : List Completion) :
    EveryState (Session.next parse) Ended .started run ↔
      EveryStep (Session.next parse) (fun s c => ¬ LeavesReading s c) .started run := by
  have exact_step : ∀ (s : Session) c, Ended s →
      (Ended (s.next parse c) ↔ ¬ LeavesReading s c) := fun s c ended => ended_step ended
  have start : Ended .started := by simp [Ended, Session.started]
  exact everyState_iff_everyStep exact_step start run

def SilentWhenClosed (parse : Bytes → Option Envelope) (s : Session) (c : Completion) : Prop :=
  s.isClosed = true → ∀ envelope, Action.message envelope ∉ s.actions parse c

/-- A closed session has no read outstanding in exactly the runs in which no write error
    leaves one, and in these it passes nothing on any more. -/
theorem closed_session_silent (parse : Bytes → Option Envelope) (run : List Completion) :
    (EveryState (Session.next parse) Ended .started run ↔
      EveryStep (Session.next parse) (fun s c => ¬ LeavesReading s c) .started run) ∧
    (EveryStep (Session.next parse) (fun s c => ¬ LeavesReading s c) .started run →
      EveryStep (Session.next parse) (SilentWhenClosed parse) .started run) := by
  constructor
  · exact ended_iff parse run
  · intro ends
    have keep : ∀ (s : Session) c, Ended s → ¬ LeavesReading s c → Ended (s.next parse c) :=
      fun s c ended goes => (ended_step ended).mpr goes
    have use : ∀ (s : Session) c, Ended s → ¬ LeavesReading s c → SilentWhenClosed parse s c := by
      intro s c ended _ closed envelope
      exact stopped_silent (ended closed) c envelope
    have start : Ended .started := by simp [Ended, Session.started]
    exact everyStep_of_everyStep keep use start ends

def hiBytes : Bytes := [146, 1, 4, 10, 2, 104, 105]

def parseHi (body : Bytes) : Option Envelope :=
  if body = hiBytes then some (envelope (.publicMessage ⟨"hi"⟩)) else none

/-- The peer ends the connection; afterwards a reply is posted and its write fails. -/
def eofRun : List Completion :=
  [.header none [0, 0, 0, 7], .body none hiBytes, .header (some .eof) [],
    .posted [0, 0, 0, 2, 90, 0], .write 0 (some .connectionReset), .header none [0, 0, 0, 7]]

theorem closed_session_silent_eof :
    EveryStep (Session.next parseHi) (SilentWhenClosed parseHi) .started eofRun := by
  apply (closed_session_silent parseHi eofRun).2
  have closed : (reached parseHi (eofRun.take 4)).isClosed = true := by decide
  have quiet : ¬ LeavesReading (reached parseHi (eofRun.take 4))
      (.write 0 (some .connectionReset)) := by
    intro leaves
    rw [leaves.2.1] at closed
    cases closed
  simp only [eofRun, EveryStep]
  exact ⟨by simp [LeavesReading], by simp [LeavesReading], by simp [LeavesReading],
    by simp [LeavesReading], quiet, by simp [LeavesReading], trivial⟩

/-- A write fails and closes the session; the request that is read next is passed on. -/
theorem closed_session_dispatches :
    ¬ EveryStep (Session.next parseHi) (SilentWhenClosed parseHi) .started
      [.posted [0, 0, 0, 2, 90, 0], .write 0 (some .connectionReset), .header none [0, 0, 0, 7],
        .body none hiBytes] := by
  intro silent
  obtain ⟨_, _, _, last, _⟩ := silent
  exact last (by decide) (envelope (.publicMessage ⟨"hi"⟩)) (by decide)

end SessionStreams
