import ChatServer.Connections.Integrity
import ChatServer.Rooms.HistoryOrder
import ChatServer.Sessions.Deployment
import ChatServer.Sessions.HandlerCalls

/-!
Where stored messages come from and what becomes of them. A row of the messages table was
said by its sender, on a session that had logged in as the sender, and a history shows such
rows only.
-/
namespace StoredMessages
open AtomicCalls EventRuns WorkerPool RelyGuarantee ExpectedAnswers ChatProtocol ChatState ChatCalls
  ChatServices ChatEffects ChatDatabase TransactedTables AccountHandlers JobEffects DrivenQueries
  ActingSessions AuthenticatedUsers StoreIntegrity HistoryOrder ProtoWire ChatWire ChatDeployment
  HandlerCalls

/-- Neither stores a message nor shows a history. -/
@[simp] def Apart : Call → Prop
  | .repository (.addMessage _) => False
  | .send _ e => ∀ response, e.payload ≠ some (.historyMessageResponse response)
  | _ => True

section Apart
variable {session : SessionId}

theorem apart_sendError (message : String) : (sendError session message).Uses Apart := by
  simp [sendError, envelope, errorEnvelope]

theorem apart_accountCalls {p : Handler} (calls : p.Uses (AccountCall session)) :
    p.Uses Apart := by
  apply uses_mono _ calls
  intro c account
  cases c with
  | repository q => cases q <;> simp_all
  | send id e =>
    intro response same
    simp [AccountReply, same] at account
  | _ => simp_all

theorem apart_roomCall {m : RoomOperationRequest} (c : Call) (room : RoomCall session m c) :
    Apart c := by
  cases c with
  | repository q => cases q <;> simp_all
  | send id e =>
    intro response same
    rcases room with ⟨event, userId, username, shown, told⟩ | ⟨_, success, name, message, told⟩
    · rw [told] at same
      cases same
    · rw [told] at same
      cases same
  | _ => trivial

theorem apart_privateCall {m : PrivateMessageRequest} (c : Call) (talks : PrivateCall m c) :
    Apart c := by
  cases c with
  | repository q => exact talks.elim
  | send id e =>
    intro response same
    rcases talks with ⟨message, code, told⟩ | ⟨b, told, _⟩
    · rw [told] at same
      cases same
    · rw [told] at same
      cases same
  | _ => trivial

theorem apart_leaveCall (c : Call) (leave : LeaveCall session c) : Apart c := by
  cases c with
  | repository q => exact leave.elim
  | send id e => exact leave.elim
  | _ => trivial

theorem apart_notices {s : Server} {who : Int} {notice : SessionId × Envelope}
    (sent : notice ∈ disconnectNotices s session who) (response : HistoryMessageResponse) :
    notice.2.payload ≠ some (.historyMessageResponse response) := by
  unfold disconnectNotices at sent
  split at sent
  · obtain ⟨receiver, _, same⟩ := List.mem_map.mp sent
    rw [← same]
    simp [presence, envelope]
  · cases sent

theorem apart_handleLogin [Sha256] (m : LoginRequest) : (handleLogin session m).Uses Apart := by
  simp only [handleLogin, perform_bind, Program.Uses, Apart, true_and]
  intro found
  cases found with
  | none => exact apart_sendError _
  | some user =>
    dsimp only
    split
    · simp [envelope]
    · exact apart_sendError _

end Apart

/-- An entry of a history shows the row; of its time nothing is said. -/
structure Shows (m : Message) (b : MessageBroadcast) : Prop where
  sender : b.fromUserId = toString m.senderId
  content : b.content = m.content

def limitOf (m : HistoryMessageRequest) : Int := if 0 < m.limit then m.limit else 50

section Contracts
variable (Found : Int → Int → List Message → Prop)

/-- The response shows rows that were found, the last one first. -/
structure Answers (m : HistoryMessageRequest) (response : HistoryMessageResponse) : Prop where
  room : response.roomName = m.roomName
  shows : ∃ roomId rows, Found roomId (limitOf m) rows ∧
    List.Forall₂ Shows rows.reverse response.messages

def Finds : (c : Call) → c.Answer → Prop
  | .repository (.findLatestByRoomId roomId limit), rows => Found roomId limit rows
  | _, _ => True

/-- What is stored is the text of a public message, and a history answers a request for it. -/
def StoresFor (session : SessionId) (payload : Option Payload) : Call → Prop
  | .repository (.addMessage message) =>
    ∃ m, payload = some (.publicMessage m) ∧ m.content = message.content
  | .send id e => ∀ response, e.payload = some (.historyMessageResponse response) →
    id = session ∧ ∃ m, payload = some (.historyMessageRequest m) ∧ Answers Found m response
  | _ => True

def JobStores : Job → Call → Prop
  | .dispatch id e => StoresFor Found id e.payload
  | .disconnect id => StoresFor Found id none

variable {Found} {payload : Option Payload} {session : SessionId}

abbrev MeetsStores (Found : Int → Int → List Message → Prop) (session : SessionId)
    (payload : Option Payload) (p : Handler) : Prop :=
  Meets (Finds Found) (StoresFor Found session payload) (fun _ => True) p

theorem stores_of_apart (c : Call) (apart : Apart c) : StoresFor Found session payload c := by
  cases c with
  | repository q => cases q <;> first | exact apart.elim | trivial
  | send id e => exact fun response same => absurd same (apart response)
  | _ => trivial

theorem meets_of_apart {p : Handler} (apart : p.Uses Apart) :
    MeetsStores Found session payload p := meets_of_uses (uses_mono stores_of_apart apart)

theorem stores_of_publicCall {m : PublicMessage} (c : Call) (talks : PublicCall session m c) :
    StoresFor Found session (some (.publicMessage m)) c := by
  cases c with
  | repository q =>
    cases q with
    | addMessage message => exact ⟨m, rfl, talks.symm⟩
    | _ => exact talks.elim
  | send id e =>
    intro response same
    rcases talks with ⟨message, code, told⟩ | ⟨b, told, _⟩
    · rw [told] at same
      cases same
    · rw [told] at same
      cases same
  | _ => trivial

theorem meets_handlePublicMessage (m : PublicMessage) :
    MeetsStores Found session (some (.publicMessage m)) (handlePublicMessage session m) :=
  meets_of_uses (uses_mono stores_of_publicCall (publicCalls_handlePublicMessage session m))

theorem apart_senderName (senderId : Int) : (senderName senderId).Uses Apart := by
  simp only [senderName, perform_bind, Program.Uses, Apart, true_and]
  intro found
  cases found with
  | none => trivial
  | some user =>
    simp only [Program.Uses, Apart, true_and]
    intro again
    cases again <;> simp

theorem meets_historyMessages (roomname : String) (rows : List Message) :
    Meets (Finds Found) (StoresFor Found session payload) (List.Forall₂ Shows rows)
      (historyMessages roomname rows) := by
  induction rows with
  | nil => exact .nil
  | cons msg rest ih =>
    apply meets_bind (meets_of_uses (uses_mono stores_of_apart (apart_senderName msg.senderId)))
    intro name _
    apply meets_bind ih
    intro history shown
    exact .cons ⟨rfl, rfl⟩ shown

theorem meets_handleHistoryRequest (m : HistoryMessageRequest) :
    MeetsStores Found session (some (.historyMessageRequest m))
      (handleHistoryRequest session m) := by
  simp only [MeetsStores, handleHistoryRequest, perform_bind, Meets, StoresFor, true_and]
  intro present _
  cases present with
  | false => trivial
  | true =>
    simp only [if_true, Meets, StoresFor, true_and]
    intro userId _ inside _
    cases inside with
    | false => trivial
    | true =>
      simp only [if_true, Meets, StoresFor, true_and]
      intro current _ roomId _ rows found
      apply meets_bind (meets_historyMessages m.roomName rows.reverse)
      intro history shown
      refine ⟨?_, fun _ _ => trivial⟩
      intro response same
      cases same
      exact ⟨rfl, m, rfl, rfl, roomId, rows, found, shown⟩

theorem meets_requireAuthentication {handler : Handler}
    (h : MeetsStores Found session payload handler) :
    MeetsStores Found session payload (requireAuthentication session handler) := by
  simp only [MeetsStores, requireAuthentication, perform_bind, Meets, StoresFor, true_and]
  intro present _
  cases present with
  | false => exact meets_of_apart (apart_sendError _)
  | true => exact h

theorem meets_dispatchMessage [Sha256] (e : Envelope) :
    MeetsStores Found session e.payload (dispatchMessage session e) := by
  obtain ⟨messageId, payload⟩ := e
  cases payload with
  | none => exact meets_requireAuthentication trivial
  | some p =>
    cases p with
    | loginRequest m => exact meets_of_apart (apart_handleLogin m)
    | registrationRequest m =>
      exact meets_of_apart (apart_accountCalls (accountCalls_handleRegister m))
    | changePasswordRequest m =>
      exact meets_requireAuthentication
        (meets_of_apart (apart_accountCalls (accountCalls_handleChangePassword m)))
    | changeUsernameRequest m =>
      exact meets_requireAuthentication
        (meets_of_apart (apart_accountCalls (accountCalls_handleChangeUsername m)))
    | publicMessage m => exact meets_requireAuthentication (meets_handlePublicMessage m)
    | privateMessageRequest m =>
      exact meets_requireAuthentication
        (meets_of_apart (uses_mono apart_privateCall (privateCalls_handlePrivateMessage session m)))
    | roomOperationRequest m =>
      exact meets_requireAuthentication
        (meets_of_apart (uses_mono apart_roomCall (roomCalls_handleRoomOperation session m)))
    | historyMessageRequest m =>
      exact meets_requireAuthentication (meets_handleHistoryRequest m)
    | _ => exact meets_requireAuthentication trivial

theorem meets_job [Sha256] (job : Job) :
    Meets (Finds Found) (JobStores Found job) (fun _ => True) job.handler := by
  cases job with
  | dispatch id e => exact meets_dispatchMessage e
  | disconnect id => exact meets_of_apart (uses_mono apart_leaveCall (leaveCalls_onDisconnect id))

end Contracts

section Rows
variable [Collation]

def Asks (m : Message) (c : Call) : Prop :=
  ∃ message, c = .repository (.addMessage message) ∧ message.roomId = m.roomId ∧
    message.senderId = m.senderId ∧ message.content = m.content

theorem message_gapped {g : Gaps} {q : Query} {t : Tables} {m : Message}
    (there : m ∈ (gapped.next g q t).messages) : m ∈ t.messages ∨ Asks m (.repository q) := by
  rcases gapped_cases g q t with same | ⟨table, gap⟩ | ⟨admits, effect⟩
  · rw [same] at there
    exact Or.inl there
  · rw [gap] at there
    cases table <;> exact Or.inl there
  · rw [effect] at there
    cases q with
    | addMessage message =>
      rcases List.mem_append.mp there with old | new
      · exact Or.inl old
      · rw [List.mem_singleton.mp new]
        exact Or.inr ⟨message, rfl, rfl, rfl, rfl⟩
    | _ => exact Or.inl there

variable [TextComparison]

theorem message_next {choice : Choice driven} {c : Call} {w : World driven} {m : Message}
    (there : m ∈ ((chat driven).next choice c w).store.messages) :
    m ∈ w.store.messages ∨ Asks m c := by
  have stored : ∀ q, m ∈ (driven.next choice.store q w.store).messages →
      m ∈ w.store.messages ∨ Asks m (.repository q) := by
    intro q new
    obtain ⟨g, same⟩ := driven_next choice.store q w.store
    rw [same] at new
    exact message_gapped new
  cases c with
  | repository q =>
    cases q with
    | addUser user => exact stored _ there
    | updateUser user => exact stored _ there
    | addRoom room => exact stored _ there
    | addMessage message => exact stored _ there
    | _ => exact Or.inl there
  | _ => exact Or.inl there

theorem answered_rows {choice : Choice driven} {roomId limit : Int} {w : World driven}
    {rows : List Message}
    (answer : (chat driven).answer choice (.repository (.findLatestByRoomId roomId limit)) w =
      .ok rows) : rows = [] ∨ Permitted w.store roomId limit.toNat rows := by
  obtain ⟨g, answers, _⟩ := driven_oneStep choice.store (.findLatestByRoomId roomId limit) w.store
  have found : catchLadder (.findLatestByRoomId roomId limit)
      (database.answer g.outcome (.findLatestByRoomId roomId limit) w.store) = .ok rows :=
    answers.symm.trans answer
  rcases stored_or_lost found with ⟨_, same⟩ | ⟨_, same⟩
  · exact Or.inr ⟨ranked g.outcome.rank (stored w.store roomId), ranked_perm _ _,
      ranked_sorted _ _, same⟩
  · exact Or.inl same

def Recorded (t : Tables) (v : DrivenView) : Prop :=
  ∀ m ∈ v.1.store.messages, m ∈ t.messages ∨
    ∃ before e, before ++ [e] <+: v.2 ∧ Asks m e.event.call

theorem recorded_called {t : Tables} (v : DrivenView) (number : Nat) (job : Job)
    (choice : Choice driven) (c : Call) (h : Recorded t v) :
    Recorded t (called v number job choice c) := by
  intro m there
  rcases message_next there with old | new
  · rcases h m old with first | ⟨before, e, inside, asks⟩
    · exact Or.inl first
    · exact Or.inr ⟨before, e, inside.trans (List.prefix_append _ _), asks⟩
  · exact Or.inr ⟨v.2, _, List.prefix_rfl, new⟩

end Rows

section Runs
variable [Collation] [TextComparison] [Sha256] (workers : Nat)

def Snapshot (log : Log driven) (roomId limit : Int) (rows : List Message) : Prop :=
  ∃ e ∈ log, e.event.call = .repository (.findLatestByRoomId roomId limit) ∧
    (rows = [] ∨ Permitted e.event.state.store roomId limit.toNat rows)

theorem log_run (p : Pool (chat driven) Job) (moves : List (Move (chat driven) Job)) :
    p.log <+: (p.run workers Job.handler moves).log := by
  have grows := everyState_last (everyState_of_called (M := chat driven) workers Job.handler
    (fun v => p.log <+: v.2) (fun _ _ _ _ _ inside => inside.trans (List.prefix_append _ _))
    List.prefix_rfl moves)
  exact grows

theorem finds_snapshots (p : Pool (chat driven) Job) (moves : List (Move (chat driven) Job)) :
    EveryStep (Pool.step workers Job.handler)
      (MoveExpected (Finds (Snapshot (p.run workers Job.handler moves).log))
        (JobStores (Snapshot (p.run workers Job.handler moves).log)) Job.handler) p moves := by
  induction moves generalizing p with
  | nil => trivial
  | cons move rest ih =>
    refine ⟨?_, ih (p.step workers Job.handler move)⟩
    cases move with
    | post job choices => exact meets_job job
    | start => trivial
    | advance place =>
      intro t c others a here program answer
      cases c with
      | repository q =>
        cases q with
        | findLatestByRoomId roomId limit =>
          have made : t.made (.repository (.findLatestByRoomId roomId limit)) p.state ∈
              (p.advance place).log := by
            rw [advance_ok here program answer]
            exact List.mem_append_right _ (List.mem_singleton.mpr rfl)
          exact ⟨_, (log_run workers (p.advance place) rest).subset made, rfl, answered_rows answer⟩
        | _ => trivial
      | _ => trivial

/-- A public message with this text was posted for a session on which its sender had logged
    in when the text was stored. -/
def Said (log : Log driven) (m : Message) : Prop :=
  ∃ before e session messageId message, before ++ [e] <+: log ∧ Asks m e.event.call ∧
    e.tag = .dispatch session ⟨messageId, some (.publicMessage message)⟩ ∧
    message.content = m.content ∧ LoginSucceeded id before session m.senderId

theorem contracted_stores (w : World driven) (moves : List (Move (chat driven) Job)) :
    Contracted
      (Finds (Snapshot ((Pool.idle w : Pool (chat driven) Job).run workers Job.handler moves).log))
      (JobStores
        (Snapshot ((Pool.idle w : Pool (chat driven) Job).run workers Job.handler moves).log))
      ((Pool.idle w : Pool (chat driven) Job).run workers Job.handler moves) :=
  contracted_run (contracted_idle (M := chat driven) w)
    (finds_snapshots workers (Pool.idle w) moves)

variable {workers}

theorem histories_asked {w : World driven} {moves : List (Move (chat driven) Job)}
    {entry : Entry (chat driven) Job}
    (made : entry ∈ ((Pool.idle w : Pool (chat driven) Job).run workers Job.handler moves).log)
    {sent : SessionId × Envelope} (emitted : sent ∈ entry.event.output)
    {response : HistoryMessageResponse}
    (history : sent.2.payload = some (.historyMessageResponse response)) :
    ∃ messageId m, entry.tag = .dispatch sent.1 ⟨messageId, some (.historyMessageRequest m)⟩ ∧
      Answers (Snapshot ((Pool.idle w : Pool (chat driven) Job).run workers Job.handler moves).log)
        m response := by
  have allowed := (contracted_stores workers w moves).made entry made
  obtain ⟨number, job, v, choice, c⟩ := entry
  have output : sent ∈ callEmit c v.server := emitted
  cases c with
  | send other e =>
    have same := List.mem_singleton.mp output
    subst same
    cases job with
    | dispatch id request =>
      obtain ⟨own, m, asked, answers⟩ := allowed response history
      obtain ⟨messageId, payload⟩ := request
      subst own
      have here : payload = some (.historyMessageRequest m) := asked
      subst here
      exact ⟨messageId, m, rfl, answers⟩
    | disconnect id =>
      obtain ⟨_, m, asked, _⟩ := allowed response history
      cases asked
  | disconnectRoom other who => exact absurd history (apart_notices output response)
  | _ => exact absurd output List.not_mem_nil

theorem said_of_booked {Found : Int → Int → List Message → Prop} {v : DrivenView}
    (booked : Booked v) (texts : ∀ e ∈ v.2, JobStores Found e.tag e.event.call) {m : Message}
    {before : Log driven} {e : Entry (chat driven) Job} (inside : before ++ [e] <+: v.2)
    (asks : Asks m e.event.call) : Said v.2 m := by
  obtain ⟨later, whole⟩ := inside
  have made : e ∈ v.2 := by simp [← whole]
  have vouched := booked.vouched.record before e later (by simp [← whole])
  have text := texts e made
  obtain ⟨message, call, room, sender, content⟩ := asks
  have login := vouched.sender message call
  rw [call] at text
  cases tag : e.tag with
  | dispatch session request =>
    rw [tag] at text
    rw [tag, sender] at login
    obtain ⟨messageId, payload⟩ := request
    obtain ⟨wanted, asked, same⟩ := text
    have here : payload = some (.publicMessage wanted) := asked
    subst here
    exact ⟨before, e, session, messageId, wanted, ⟨later, whole⟩,
      ⟨message, call, room, sender, content⟩, tag, same.trans content, login⟩
  | disconnect session =>
    rw [tag] at text
    obtain ⟨wanted, asked, _⟩ := text
    cases asked

theorem said_run (t : Tables) (moves : List (Move (chat driven) Job)) {m : Message}
    (there : m ∈ ((Pool.idle (⟨.start, t⟩ : World driven) : Pool (chat driven) Job).run workers
      Job.handler moves).state.store.messages) :
    m ∈ t.messages ∨ Said ((Pool.idle (⟨.start, t⟩ : World driven) : Pool (chat driven) Job).run
      workers Job.handler moves).log m := by
  have start : Recorded t (view (Pool.idle (⟨.start, t⟩ : World driven))) :=
    fun m first => Or.inl first
  have recorded := everyState_last (everyState_of_called (M := chat driven) workers Job.handler
    (Recorded t) recorded_called start moves)
  have booked := everyState_last (booked_run workers t moves)
  have texts := (contracted_stores workers (⟨.start, t⟩ : World driven) moves).made
  rcases recorded m there with first | ⟨before, e, inside, asks⟩
  · exact Or.inl first
  · exact Or.inr (said_of_booked booked texts inside asks)

/-- From any tables and no sessions, however the handlers interleave and wherever the driver
    fails: a message that has come to be stored was posted with this text for a session on
    which its sender had logged in. -/
theorem stored_messages_said (workers : Nat) (t : Tables) (moves : List (Move (chat driven) Job)) :
    EveryState (Pool.step workers Job.handler)
      (fun p : Pool (chat driven) Job =>
        ∀ m ∈ p.state.store.messages, m ∈ t.messages ∨ Said p.log m)
      (Pool.idle (⟨.start, t⟩ : World driven)) moves :=
  (everyState_iff_prefixes _ moves).mpr fun pre _ _ there => said_run t pre there

omit [Collation] [TextComparison] [Sha256] in
theorem shows_row {rows : List Message} {shown : List MessageBroadcast}
    (shows : List.Forall₂ Shows rows shown) {b : MessageBroadcast} (listed : b ∈ shown) :
    ∃ m ∈ rows, Shows m b := by
  induction shows with
  | nil => cases listed
  | cons first others ih =>
    rcases List.mem_cons.mp listed with here | there
    · rw [here]
      exact ⟨_, List.mem_cons_self, first⟩
    · obtain ⟨m, inside, seen⟩ := ih there
      exact ⟨m, List.mem_cons_of_mem _ inside, seen⟩

theorem snapshot_stored {v : DrivenView} (booked : Booked v) {roomId limit : Int}
    {rows : List Message} (snapshot : Snapshot v.2 roomId limit rows) {m : Message}
    (there : m ∈ rows) : m ∈ v.1.store.messages := by
  obtain ⟨e, made, _, found⟩ := snapshot
  have evolves := booked.since e made
  apply evolves.messages.subset
  rcases found with nothing | permitted
  · rw [nothing] at there
    cases there
  · obtain ⟨order, perm, _, same⟩ := permitted
    rw [same] at there
    have listed := perm.mem_iff.mp (List.mem_of_mem_take there)
    exact (List.mem_filter.mp listed).1

section Deployments
variable [Serializer] (parse : Bytes → Option Envelope)

section Senders
variable {parse} (d : Deployment parse driven) (happenings : List (Happening driven))

/-- One client sent a public message with the text of the row, and a login request with the
    name and the password of its sender. -/
def SentBySender (m : Message) : Prop :=
  ∃ id, (∃ messageId message,
      Asked parse happenings id ⟨messageId, some (.publicMessage message)⟩ ∧
        message.content = m.content) ∧
    ∃ messageId login, Asked parse happenings id ⟨messageId, some (.loginRequest login)⟩ ∧
      ∃ e ∈ d.pool.log, ∃ row ∈ e.event.state.store.users.rows, row.id = m.senderId ∧
        SameName row.username login.username ∧
        hashPassword login.password row.salt = row.hashedPassword

/-- Every line of a history that a client is shown stands in a table from the start, or its
    sender said so. -/
def HistoriesAuthentic (t : Tables) : Prop :=
  ∀ id, ∀ e ∈ (d.link id).client.wire.dispatched, ∃ sent, ShownFrom d id e sent ∧
    ∀ response, sent.payload = some (.historyMessageResponse response) →
      ∀ b ∈ response.messages, ∃ m, Shows m b ∧
        (m ∈ t.messages ∨ SentBySender d happenings m)

end Senders

theorem sentBySender_of_said {w : World driven} {happenings : List (Happening driven)}
    {m : Message} (said : Said (deploymentAfter parse workers w happenings).pool.log m) :
    SentBySender (deploymentAfter parse workers w happenings) happenings m := by
  obtain ⟨before, e, id, messageId', message, inside, _, tag, text, login⟩ := said
  have made : e ∈ (deploymentAfter parse workers w happenings).pool.log := inside.subset (by simp)
  obtain ⟨d, there, messageId, l, asks, w', choice, row, event, answer, known, right⟩ := login
  have earlier : d ∈ (deploymentAfter parse workers w happenings).pool.log :=
    inside.subset (List.mem_append_left _ there)
  obtain ⟨stored, named⟩ := answered_row answer
  refine ⟨id, ⟨messageId', message, made_asked workers made tag, text⟩, messageId, l,
    made_asked workers earlier asks, d, earlier, row, ?_, known, named, right⟩
  rw [event]
  exact stored

/-- Whatever the clients, the sockets, the workers and the driver do: a line of a history that
    a client is shown was a row before the server started, or the text of a public message
    from a client that had given the sender's name and password. -/
theorem histories_authentic (workers : Nat) (t : Tables) (happenings : List (Happening driven)) :
    HistoriesAuthentic (deploymentAfter parse workers ⟨.start, t⟩ happenings) happenings t := by
  intro id e shown
  obtain ⟨sent, source⟩ := shown_emitted workers shown
  obtain ⟨entry, made, emitted⟩ := source.emitted
  refine ⟨sent, source, ?_⟩
  intro response history b listed
  obtain ⟨moves, runs⟩ := runsPool_after parse workers (⟨.start, t⟩ : World driven) happenings
  rw [runs.pool] at made
  obtain ⟨_, m, _, answers⟩ := histories_asked made emitted history
  obtain ⟨roomId, rows, snapshot, shows⟩ := answers.shows
  obtain ⟨row, there, seen⟩ := shows_row shows listed
  have booked := everyState_last (booked_run workers t moves)
  have stored := snapshot_stored booked snapshot (List.mem_reverse.mp there)
  refine ⟨row, seen, ?_⟩
  rcases said_run t moves stored with first | said
  · exact Or.inl first
  · rw [← runs.pool] at said
    exact Or.inr (sentBySender_of_said parse said)

end Deployments

end Runs

end StoredMessages
