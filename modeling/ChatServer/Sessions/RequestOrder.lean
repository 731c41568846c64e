import ChatServer.Atomic.WorkerPool
import ChatServer.Sessions.Jobs

/-!
The order in which the requests of one session take effect. `Server::onMessage` posts
every envelope to the io_context itself, so the workers keep the order of a session only
when there is at most one of them: then the log is the serial log of the posted jobs.
-/
namespace RequestOrder
open AtomicCalls WorkerPool ChatProtocol ChatState ChatCalls ChatServices ChatEffects
  AccountHandlers JobEffects

/-- What somebody can notice of a handler: sends, changes of the memory, writes. -/
@[simp] def IsEffect : Call → Prop
  | .send _ _ => True
  | .registerAuthenticatedSession _ _ _ => True
  | .updateUsername _ _ => True
  | .removeSession _ => True
  | .joinRoom _ _ _ _ => True
  | .leaveRoom _ _ => True
  | .createRoom _ _ _ _ => True
  | .disconnectRoom _ _ => True
  | .repository (.addUser _) => True
  | .repository (.updateUser _) => True
  | .repository (.addRoom _) => True
  | .repository (.addMessage _) => True
  | _ => False

abbrev Log := List (Entry (chat anyAnswers) Job)

def ReadOn (session : SessionId) (e : Entry (chat anyAnswers) Job) : Prop :=
  ∃ envelope, e.tag = .dispatch session envelope

def refusal : Envelope := errorEnvelope "Authentication required."

def OpensSession (session : SessionId) (e : Entry (chat anyAnswers) Job) : Prop :=
  (∃ messageId m, e.tag = .dispatch session ⟨messageId, some (.loginRequest m)⟩) ∧
    ∃ userId username, e.event.call = .registerAuthenticatedSession session userId username

def RefusesJoin (session : SessionId) (e : Entry (chat anyAnswers) Job) : Prop :=
  (∃ messageId roomName,
      e.tag = .dispatch session ⟨messageId, some (.roomOperationRequest ⟨.join, roomName⟩)⟩) ∧
    e.event.call = .send session refusal

/-- Envelopes of one session take effect in the order they were read, and no join is
    refused that was read after a login that succeeds. -/
structure InOrder (log : Log) : Prop where
  effects : ∀ session, log.Pairwise (fun a b => ReadOn session a → ReadOn session b →
    IsEffect a.event.call → IsEffect b.event.call → a.number ≤ b.number)
  joins : ∀ session, ∀ a ∈ log, ∀ b ∈ log, OpensSession session a → RefusesJoin session b →
    ¬ a.number < b.number

section Authentication
variable {E : Environment}

theorem authenticated_next (c : Call) (s : Server) {session : SessionId}
    (present : (s.session session).authenticated = true) :
    ((serverNext c s).session session).authenticated = true := by
  cases c with
  | registerAuthenticatedSession id userId username =>
    by_cases same : session = id
    · simp [Server.registerAuthenticatedSession, Server.setSession, same, Session.setAuthenticated]
    · simp [Server.registerAuthenticatedSession, Server.setSession, same, present]
  | updateUsername id newUsername =>
    simp only [serverNext, Server.updateUsername]
    cases (s.session id).username with
    | none => exact present
    | some username =>
      by_cases same : session = id
      · subst same
        simpa [Server.setSession, Session.setUsername] using present
      · simpa [Server.setSession, same] using present
  | disconnectRoom id userId =>
    simp only [serverNext]
    cases (s.session id).username <;> exact present
  | _ => exact present

theorem authenticated_final (p : Program Call Call.Answer α) (choices : Nat → Choice E)
    {w : World E} {session : SessionId}
    (present : (w.server.session session).authenticated = true) :
    ((p.final (chat E) choices w).server.session session).authenticated = true :=
  final_keeps (M := chat E) (fun now => (now.server.session session).authenticated = true)
    (fun _ c s _ here => authenticated_next c s.server here) (uses_anything p) choices present

theorem authenticated_registered {p : Program Call Call.Answer α} {choices : Nat → Choice E}
    {w : World E} {session : SessionId} {userId : Int} {username : String} {e : Event (chat E)}
    (made : e ∈ p.trace (chat E) choices w)
    (registers : e.call = .registerAuthenticatedSession session userId username) :
    ((p.final (chat E) choices w).server.session session).authenticated = true := by
  refine final_since (M := chat E)
    (fun now => (now.server.session session).authenticated = true)
    (fun _ c s here => authenticated_next c s.server here) made ?_
  simp [registers, Server.registerAuthenticatedSession, Server.setSession,
    Session.setAuthenticated]

@[simp] def NotRefusing : Call → Prop
  | .send _ e => e ≠ refusal
  | _ => True

theorem notRefusing_join (session : SessionId) (roomName : String) :
    (handleRoomOperation session ⟨.join, roomName⟩).Uses NotRefusing := by
  simp only [handleRoomOperation, perform_bind, Program.Uses, NotRefusing, true_and]
  intro present
  split
  · simp only [Program.Uses, NotRefusing, true_and]
    intro userId found
    cases found with
    | none => simp [sendRoomResponse, refusal, envelope, errorEnvelope]
    | some room =>
      have told : ∀ username shown id,
          NotRefusing (.send id (presence .userJoined userId username shown)) := by
        simp [presence, refusal, envelope, errorEnvelope]
      refine ⟨trivial, fun _ => uses_bind ?_ fun _ => ?_⟩
      · exact uses_notifyRoom trivial (fun _ => trivial) told roomName
      · simp [sendRoomResponse, refusal, envelope, errorEnvelope]
  · trivial

end Authentication

theorem trace_gate_open {E : Environment} {session : SessionId} {handler : Handler}
    {choices : Nat → Choice E} {w : World E}
    (present : (w.server.session session).authenticated = true) :
    (requireAuthentication session handler).trace (chat E) choices w =
      ⟨w, choices 0, .isAuthenticated session⟩ ::
        handler.trace (chat E) (later choices) w := by
  simp [requireAuthentication, present]

section Runs
variable [Sha256]

def serverRun (workers : Nat) (w : World anyAnswers)
    (moves : List (Move (chat anyAnswers) Job)) : Pool (chat anyAnswers) Job :=
  (Pool.idle w).run workers Job.handler moves

theorem numbers_increase {workers : Nat} {w : World anyAnswers}
    {moves : List (Move (chat anyAnswers) Job)} {started : List (Task (chat anyAnswers) Job)}
    (serial : SerialSoFar Job.handler w started (serverRun workers w moves)) :
    started.Pairwise (fun t u => t.number < u.number) := by
  have sorted := List.pairwise_lt_range (n := (serverRun workers w moves).posted)
  rw [← serial.numbers, List.pairwise_map] at sorted
  exact (List.pairwise_append.mp sorted).1

omit [Sha256] in
theorem authenticated_serialState (tasks : List (Task (chat anyAnswers) Job))
    {w : World anyAnswers} {session : SessionId}
    (present : (w.server.session session).authenticated = true) :
    ((serialState tasks w).server.session session).authenticated = true := by
  induction tasks generalizing w with
  | nil => exact present
  | cons t rest ih => exact ih (authenticated_final t.rest t.choices present)

omit [Sha256] in
theorem authenticated_after {tasks : List (Task (chat anyAnswers) Job)} {w : World anyAnswers}
    {session : SessionId} {a : Entry (chat anyAnswers) Job} (made : a ∈ serialLog tasks w)
    (opens : OpensSession session a) :
    ((serialState tasks w).server.session session).authenticated = true := by
  obtain ⟨_, userId, username, registers⟩ := opens
  obtain ⟨before, t, rest, split, _, _, event⟩ := mem_serialLog made
  rw [split, serialState_append]
  exact authenticated_serialState rest (authenticated_registered event registers)

/-- In a serial log a join read after a login that succeeds finds the session open. -/
theorem joins_serial {started : List (Task (chat anyAnswers) Job)} {w : World anyAnswers}
    (sorted : started.Pairwise (fun t u => t.number < u.number))
    (bodies : ∀ t ∈ started, t.rest = t.tag.handler) (session : SessionId)
    (a : Entry (chat anyAnswers) Job) (ha : a ∈ serialLog started w)
    (b : Entry (chat anyAnswers) Job) (hb : b ∈ serialLog started w)
    (opens : OpensSession session a) (refuses : RefusesJoin session b) :
    ¬ a.number < b.number := by
  intro earlier
  obtain ⟨⟨messageId, roomName, job⟩, refused⟩ := refuses
  obtain ⟨before, t, rest, split, number, tag, made⟩ := mem_serialLog hb
  subst split
  have body := bodies t (by simp)
  rw [← tag, job] at body
  rw [serialLog_append] at ha
  rcases List.mem_append.mp ha with first | second
  · have present := authenticated_after first opens
    rw [body] at made
    have inner : b.event ∈ (requireAuthentication session
        (handleRoomOperation session ⟨.join, roomName⟩)).trace (chat anyAnswers) t.choices
        (serialState before w) := made
    rw [trace_gate_open present, List.mem_cons] at inner
    rcases inner with gate | behind
    · rw [gate] at refused
      cases refused
    · have clean := trace_uses (notRefusing_join session roomName) _ _ b.event behind
      simp [refused] at clean
  · obtain ⟨skipped, u, others, tasks, later_number, _, _⟩ := mem_serialLog second
    have member : u ∈ t :: rest := by simp [tasks]
    rcases List.mem_cons.mp member with same | after
    · subst same
      omega
    · have bigger := (List.pairwise_cons.mp (List.pairwise_append.mp sorted).2.1).1 u after
      omega

theorem inOrder_of_one_worker {workers : Nat} (one : workers ≤ 1) (w : World anyAnswers)
    (moves : List (Move (chat anyAnswers) Job)) : InOrder (serverRun workers w moves).log := by
  have serially : ∃ started, SerialSoFar Job.handler w started (serverRun workers w moves) :=
    one_worker_is_serial one w moves
  obtain ⟨started, serial⟩ := serially
  have sorted := numbers_increase serial
  have begins : (serverRun workers w moves).log <+: serialLog started w := ⟨_, serial.log⟩
  constructor
  · intro session
    have all := (serialLog_sorted sorted w).sublist begins.sublist
    exact all.imp (fun ordered _ _ _ _ => ordered)
  · intro session a ha b hb
    exact joins_serial sorted (fun t member => serial.bodies t (List.mem_append_left _ member))
      session a (begins.subset ha) b (begins.subset hb)

/-- Nothing is found, so a login is answered at once. -/
def nothingFound : Nat → Choice anyAnswers := fun _ => ⟨fun q => .ok q.fallback, none, ⟨0, 0⟩⟩

def annLogin : Job := .dispatch 1 ⟨"", some (.loginRequest ⟨"ann", "pw"⟩)⟩

/-- Two logins read on one session, started on two workers; the second one overtakes. -/
def overtaking : List (Move (chat anyAnswers) Job) :=
  [.post annLogin nothingFound, .post annLogin nothingFound, .start, .start,
    .advance 1, .advance 1, .advance 0, .advance 0]

theorem overtaking_log (w : World anyAnswers) :
    (serverRun 2 w overtaking).log =
      [⟨1, annLogin, ⟨w, nothingFound 0, .repository (.findByUsername "ann")⟩⟩,
        ⟨1, annLogin, ⟨w, nothingFound 1, .send 1 (errorEnvelope "User not found.")⟩⟩,
        ⟨0, annLogin, ⟨w, nothingFound 0, .repository (.findByUsername "ann")⟩⟩,
        ⟨0, annLogin, ⟨w, nothingFound 1, .send 1 (errorEnvelope "User not found.")⟩⟩] := by
  simp only [serverRun, overtaking, Pool.run, List.foldl_cons, List.foldl_nil, Pool.step,
    Pool.start, Pool.idle]
  rfl

theorem overtaking_out_of_order {workers : Nat} (two : 2 ≤ workers) (w : World anyAnswers) :
    ¬ InOrder (serverRun workers w overtaking).log := by
  have free : Unrefused 2 Job.handler (Pool.idle w) overtaking :=
    ⟨(by decide : 0 < 2), (by decide : 1 < 2), trivial⟩
  have same : serverRun workers w overtaking = serverRun 2 w overtaking :=
    run_more_workers two free
  rw [same, overtaking_log]
  intro ordered
  have read : ∀ e : Entry (chat anyAnswers) Job, e.tag = annLogin → ReadOn 1 e :=
    fun e job => ⟨_, job⟩
  have pairs := (List.pairwise_cons.mp (List.pairwise_cons.mp (ordered.effects 1)).2).1
  have swapped := pairs ⟨0, annLogin, ⟨w, nothingFound 1,
    .send 1 (errorEnvelope "User not found.")⟩⟩ (by simp) (read _ rfl) (read _ rfl)
    trivial trivial
  exact absurd swapped (Nat.not_succ_le_zero 0)

/-- Requests of a session stay in order, from every state and in every run, exactly when
    the io_context is run by at most one thread. -/
theorem in_order_iff_one_worker (workers : Nat) :
    (∀ (w : World anyAnswers) (moves : List (Move (chat anyAnswers) Job)),
      InOrder (serverRun workers w moves).log) ↔ workers ≤ 1 := by
  constructor
  · intro always
    by_contra more
    exact overtaking_out_of_order (by omega) ⟨.start, ()⟩ (always _ overtaking)
  · intro one w moves
    exact inOrder_of_one_worker one w moves

end Runs

section RefusedJoin

local instance : Sha256 := ⟨id⟩

def annFound : Nat → Choice anyAnswers := fun _ => ⟨fun q => match q with
  | .findByUsername name => .ok (some ⟨1, name, "pw", ""⟩)
  | q => .ok q.fallback, none, ⟨0, 0⟩⟩

def hallJoin : Job := .dispatch 1 ⟨"", some (.roomOperationRequest ⟨.join, "hall"⟩)⟩

/-- A login and then a join on one session, on two workers; the join runs first. -/
def pipelined : List (Move (chat anyAnswers) Job) :=
  [.post annLogin annFound, .post hallJoin nothingFound, .start, .start,
    .advance 1, .advance 1, .advance 0, .advance 0]

theorem pipelined_join_refused : ¬ InOrder (serverRun 2 ⟨.start, ()⟩ pipelined).log := by
  intro ordered
  have log : (serverRun 2 ⟨.start, ()⟩ pipelined).log =
      [⟨1, hallJoin, ⟨⟨.start, ()⟩, nothingFound 0, .isAuthenticated 1⟩⟩,
        ⟨1, hallJoin, ⟨⟨.start, ()⟩, nothingFound 1, .send 1 refusal⟩⟩,
        ⟨0, annLogin, ⟨⟨.start, ()⟩, annFound 0, .repository (.findByUsername "ann")⟩⟩,
        ⟨0, annLogin, ⟨⟨.start, ()⟩, annFound 1, .registerAuthenticatedSession 1 1 "ann"⟩⟩] := rfl
  rw [log] at ordered
  refine ordered.joins 1
    ⟨0, annLogin, ⟨⟨.start, ()⟩, annFound 1, .registerAuthenticatedSession 1 1 "ann"⟩⟩ (by simp)
    ⟨1, hallJoin, ⟨⟨.start, ()⟩, nothingFound 1, .send 1 refusal⟩⟩ (by simp) ?_ ?_ (by decide)
  · exact ⟨⟨"", _, rfl⟩, 1, "ann", rfl⟩
  · exact ⟨⟨"", "hall", rfl⟩, rfl⟩

end RefusedJoin

end RequestOrder
