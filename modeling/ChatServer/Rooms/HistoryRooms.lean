import ChatServer.Rooms.PublicMessages

/-!
The room of a history. A handling finds the user in the room that the request names and
then asks, under another lock, for the id of the room the user is in. The messages are
those of the named room exactly when the user is still there, or nothing is found.
-/
namespace HistoryRooms
open AtomicCalls EventRuns WorkerPool TaskHistories ChatProtocol ChatState ChatCalls ChatServices
  ChatEffects ChatDatabase JobEffects LiveRooms
open PublicMessages (Recorded Faithful faithful_run currentId_iff row_of_user annsRooms quiet)

section Handlings
variable [Collation]

def found (event : Event (chat database)) : List Message :=
  match event.call with
  | .repository (.findLatestByRoomId roomId limit) =>
    match answered event.choice (.findLatestByRoomId roomId limit) event.state.store with
    | .ok messages => messages
    | .error _ => []
  | _ => []

/-- After `before`, some task sends this response. -/
def Responds (p : Pool (chat database) Job) (before : List (Event (chat database)))
    (response : HistoryMessageResponse) : Prop :=
  ∃ n state choice session after, own p.log n =
    before ++ ⟨state, choice, .send session (envelope (.historyMessageResponse response))⟩ :: after

/-- The response lists messages that are stored under the id of the room it names, and
    each broadcast in it carries that name. -/
def OfNamedRoom (rooms : Table Room) (before : List (Event (chat database)))
    (response : HistoryMessageResponse) : Prop :=
  ∃ room, rooms.find response.roomName = some room ∧ ∃ looked ∈ before,
    List.Forall₂ (fun msg shown => ∃ name, shown = historyEntry response.roomName msg name)
      (found looked).reverse response.messages ∧
    ∀ msg ∈ found looked, msg ∈ looked.state.store.messages ∧ msg.roomId = room.id

/-- When the id is looked up, the user is in a room spelled like this one. -/
def StillThere (name : String) (event : Event (chat database)) : Prop :=
  match event.call with
  | .getUserCurrentRoomId user => ∃ spelled,
    event.state.server.roomService.userToRoomMap[user]? = some spelled ∧ SameName spelled name
  | _ => True

/-- When the messages are looked up, none has this id, or the query is lost. -/
def FindsNothing (event : Event (chat database)) : Prop :=
  match event.call with
  | .repository (.findLatestByRoomId roomId _) =>
    Lost event.choice.store ∨ ∀ msg ∈ event.state.store.messages, msg.roomId ≠ roomId
  | _ => True

structure Handling where
  world : Fin 7 → World database
  choice : Fin 7 → Choice database
  user : Int
  current : Int

variable (h : Handling)

def Handling.roomId : Int := (h.world 5).server.roomService.getUserCurrentRoomId h.current

def rowLimit (m : HistoryMessageRequest) : Int := if 0 < m.limit then m.limit else 50

def Handling.query (m : HistoryMessageRequest) : Event (chat database) :=
  ⟨h.world 6, h.choice 6, .repository (.findLatestByRoomId h.roomId (rowLimit m))⟩

def Handling.events (session : SessionId) (m : HistoryMessageRequest) :
    List (Event (chat database)) :=
  [⟨h.world 0, h.choice 0, .isAuthenticated session⟩,
    ⟨h.world 1, h.choice 1, .isAuthenticated session⟩,
    ⟨h.world 2, h.choice 2, .getUserId session⟩,
    ⟨h.world 3, h.choice 3, .isInRoom h.user m.roomName⟩,
    ⟨h.world 4, h.choice 4, .getUserId session⟩,
    ⟨h.world 5, h.choice 5, .getUserCurrentRoomId h.current⟩,
    h.query m]

def NameLookups (events : List (Event (chat database))) : Prop :=
  ∀ event ∈ events, ∃ id, event.call = .repository (.findByUserId id)

theorem found_nameLookups {events : List (Event (chat database))} (names : NameLookups events) :
    ∀ event ∈ events, found event = [] := by
  intro event made
  obtain ⟨id, asked⟩ := names event made
  simp [found, asked]

end Handlings

section Histories
variable [Collation] {session to_session : SessionId} {m : HistoryMessageRequest}
  {response : HistoryMessageResponse}

theorem leads_historyMessages {roomname : String} {messages : List Message}
    {next : List MessageBroadcast → Handler} {before : List (Event (chat database))}
    {e : Envelope} {more : Unit → Handler}
    (leads : Leads (historyMessages roomname messages >>= next) before
      (.call (.send to_session e) more)) :
    ∃ history names rest, before = names ++ rest ∧ NameLookups names ∧
      List.Forall₂ (fun msg shown => ∃ name, shown = historyEntry roomname msg name)
        messages history ∧
      Leads (next history) rest (.call (.send to_session e) more) := by
  induction messages generalizing next before with
  | nil => exact ⟨[], [], before, rfl, by simp [NameLookups], .nil, leads⟩
  | cons msg rest ih =>
    have tail : ∀ (name : String) (made later : List (Event (chat database))),
        before = made ++ later → NameLookups made →
        Leads (historyMessages roomname rest >>= fun others =>
          next (historyEntry roomname msg name :: others)) later
            (.call (.send to_session e) more) →
        ∃ history names rest', before = names ++ rest' ∧ NameLookups names ∧
          List.Forall₂ (fun msg shown => ∃ name, shown = historyEntry roomname msg name)
            (msg :: rest) history ∧
          Leads (next history) rest' (.call (.send to_session e) more) := by
      intro name made later split lookups leads
      obtain ⟨history, names, rest', split', lookups', listed, leads⟩ := ih leads
      refine ⟨historyEntry roomname msg name :: history, made ++ names, rest', ?_, ?_,
        .cons ⟨name, rfl⟩ listed, leads⟩
      · rw [split, split', List.append_assoc]
      · intro event member
        rcases List.mem_append.mp member with first | second
        · exact lookups event first
        · exact lookups' event second
    simp only [historyMessages, bind_assoc, senderName, perform_bind, call_bind] at leads
    obtain ⟨w0, x0, first, rest0, split0, answer0, leads0⟩ := leads_later leads (by simp)
    cases first with
    | none =>
      apply tail "Unknown" [_] rest0 split0 _ leads0
      simp [NameLookups]
    | some user =>
      obtain ⟨w1, x1, again, rest1, split1, answer1, leads1⟩ := leads_later leads0 (by simp)
      cases again with
      | none =>
        obtain ⟨_, _, impossible, _⟩ := leads_later leads1 (by simp)
        exact impossible.elim
      | some user =>
        apply tail user.username [_, _] rest1 (by rw [split0, split1]; rfl) _ leads1
        simp [NameLookups]

theorem others_not_response {p : Handler} {events : List (Event (chat database))}
    {more : Unit → Handler} (others : p.Uses (OtherCall (fun _ => True)))
    (leads : Leads p events
      (.call (.send to_session (envelope (.historyMessageResponse response))) more)) : False :=
  (leads_uses others leads).1 response rfl

theorem handling_of_response [Sha256] {messageId : String} {before : List (Event (chat database))}
    {more : Unit → Handler}
    (leads : Leads (dispatchMessage session ⟨messageId, some (.historyMessageRequest m)⟩) before
      (.call (.send to_session (envelope (.historyMessageResponse response))) more)) :
    ∃ (h : Handling) (names : List (Event (chat database))), before = h.events session m ++ names ∧
      NameLookups names ∧ response.roomName = m.roomName ∧
      (h.world 3).server.roomService.userToRoomMap[h.user]? = some m.roomName ∧
      answered (h.choice 6) (.findLatestByRoomId h.roomId (rowLimit m)) (h.world 6).store =
        .ok (found (h.query m)) ∧
      List.Forall₂ (fun msg shown => ∃ name, shown = historyEntry m.roomName msg name)
        (found (h.query m)).reverse response.messages := by
  obtain ⟨w0, x0, gate, rest0, split0, answer0, leads0⟩ := leads_later leads (by simp)
  cases gate with
  | false => exact (others_not_response (others_sendError session _) leads0).elim
  | true =>
    obtain ⟨w1, x1, again, rest1, split1, answer1, leads1⟩ := leads_later leads0 (by simp)
    cases again with
    | false => exact (others_not_response (p := .done ()) trivial leads1).elim
    | true =>
      obtain ⟨w2, x2, user, rest2, split2, answer2, leads2⟩ := leads_later leads1 (by simp)
      obtain ⟨w3, x3, inside, rest3, split3, answer3, leads3⟩ := leads_later leads2 (by simp)
      cases inside with
      | false => exact (others_not_response (p := .done ()) trivial leads3).elim
      | true =>
        obtain ⟨w4, x4, current, rest4, split4, answer4, leads4⟩ := leads_later leads3 (by simp)
        obtain ⟨w5, x5, roomId, rest5, split5, answer5, leads5⟩ := leads_later leads4 (by simp)
        cases answer5
        obtain ⟨w6, x6, messages, rest6, split6, answer6, leads6⟩ := leads_later leads5 (by simp)
        obtain ⟨history, names, rest, split, lookups, listed, leads7⟩ :=
          leads_historyMessages leads6
        subst split0 split1 split2 split3 split4 split5 split6 split
        have there : w3.server.roomService.userToRoomMap[user]? = some m.roomName := by
          simpa using answer3
        cases rest with
        | cons event rest =>
          obtain ⟨_, _, _, _, _, leads8⟩ := leads7
          exact (others_not_response (p := .done ()) trivial leads8).elim
        | nil =>
          have sent : call (.send session (envelope (.historyMessageResponse
            ⟨m.roomName, history⟩))) =
              .call (.send to_session (envelope (.historyMessageResponse response))) more := leads7
          injection sent with same
          injection same with _ same
          injection same with _ same
          injection same with same
          injection same with same
          subst same
          let h : Handling := ⟨![w0, w1, w2, w3, w4, w5, w6], ![x0, x1, x2, x3, x4, x5, x6], user,
            current⟩
          have answer : answered (h.choice 6) (.findLatestByRoomId h.roomId (rowLimit m))
            (h.world 6).store = .ok messages := answer6
          have rows : found (h.query m) = messages := by
            simp only [found, Handling.query, answer]
          refine ⟨h, names, ?_, lookups, rfl, there, ?_, ?_⟩
          · rw [List.append_nil]
            rfl
          · rw [rows]
            exact answer
          · rw [rows]
            exact listed

end Histories

section Rooms
variable [Collation] {h : Handling} {session : SessionId} {m : HistoryMessageRequest}
  {names : List (Event (chat database))} {response : HistoryMessageResponse} {rooms : Table Room}

theorem stillThere_events (lookups : NameLookups names) {name : String} :
    (∀ event ∈ h.events session m ++ names, StillThere name event) ↔
      ∃ spelled, (h.world 5).server.roomService.userToRoomMap[h.current]? = some spelled ∧
        SameName spelled name := by
  have later : ∀ event ∈ names, StillThere name event := by
    intro event made
    obtain ⟨id, asked⟩ := lookups event made
    simp [StillThere, asked]
  rw [List.forall_mem_append, and_iff_left later]
  simp [StillThere, Handling.events, Handling.query]

theorem findsNothing_events (lookups : NameLookups names) :
    (∀ event ∈ h.events session m ++ names, FindsNothing event) ↔
      Lost (h.choice 6).store ∨ ∀ msg ∈ (h.world 6).store.messages, msg.roomId ≠ h.roomId := by
  have later : ∀ event ∈ names, FindsNothing event := by
    intro event made
    obtain ⟨id, asked⟩ := lookups event made
    simp [FindsNothing, asked]
  rw [List.forall_mem_append, and_iff_left later]
  simp [FindsNothing, Handling.events, Handling.query]

theorem found_events (lookups : NameLookups names) {looked : Event (chat database)}
    (made : looked ∈ h.events session m ++ names) (some_found : found looked ≠ []) :
    looked = h.query m := by
  rcases List.mem_append.mp made with early | late
  · simp only [Handling.events, List.mem_cons, List.not_mem_nil, or_false] at early
    rcases early with e | e | e | e | e | e | e
    all_goals first
      | exact e
      | exact absurd (by rw [e]; rfl) some_found
  · exact absurd (found_nameLookups lookups looked late) some_found

theorem rows_answered {choice : Choice database} {roomId limit : Int} {t : Tables}
    {rows : List Message}
    (answer : answered choice (.findLatestByRoomId roomId limit) t = .ok rows) :
    (∀ msg ∈ rows, msg ∈ t.messages ∧ msg.roomId = roomId) ∧
      (0 < limit → (rows = [] ↔ Lost choice.store ∨ ∀ msg ∈ t.messages, msg.roomId ≠ roomId)) := by
  rcases stored_or_lost answer with effect | lost
  · obtain ⟨quiet, same⟩ := effect
    have not_lost : ¬ Lost choice.store := by
      intro lost
      obtain ⟨e, raised, _⟩ := lost
      rw [quiet.1] at raised
      cases raised
    rw [same]
    constructor
    · intro msg member
      have kept := List.mem_of_mem_take member
      simpa using kept
    · intro above
      have some_row : limit.toNat ≠ 0 := by omega
      rw [or_iff_right not_lost]
      simp only [Tables.answer, List.take_eq_nil_iff, or_iff_right some_row]
      rw [← List.length_eq_zero_iff, List.length_insertionSort, List.length_eq_zero_iff]
      simp
  · obtain ⟨raised, same⟩ := lost
    rw [same]
    simp [Query.fallback, raised]

omit [Collation] in
theorem rowLimit_positive (m : HistoryMessageRequest) : 0 < rowLimit m := by
  unfold rowLimit
  split <;> omega

theorem ofNamedRoom_iff
    (recorded : ∀ event ∈ h.events session m ++ names, Recorded rooms event.state)
    (positive : PositiveIds rooms) (lookups : NameLookups names)
    (named : response.roomName = m.roomName)
    (there : (h.world 3).server.roomService.userToRoomMap[h.user]? = some m.roomName)
    (answer : answered (h.choice 6) (.findLatestByRoomId h.roomId (rowLimit m))
      (h.world 6).store = .ok (found (h.query m)))
    (listed : List.Forall₂ (fun msg shown => ∃ name, shown = historyEntry m.roomName msg name)
      (found (h.query m)).reverse response.messages) :
    OfNamedRoom rooms (h.events session m ++ names) response ↔
      (∀ event ∈ h.events session m ++ names, StillThere response.roomName event) ∨
        ∀ event ∈ h.events session m ++ names, FindsNothing event := by
  obtain ⟨stored, nothing⟩ := rows_answered answer
  have at_check : Recorded rooms (h.world 3) :=
    recorded ⟨h.world 3, h.choice 3, .isInRoom h.user m.roomName⟩ (by simp [Handling.events])
  have at_lookup : Recorded rooms (h.world 5) :=
    recorded ⟨h.world 5, h.choice 5, .getUserCurrentRoomId h.current⟩ (by simp [Handling.events])
  obtain ⟨room, row, _⟩ := row_of_user at_check there
  have asked : h.query m ∈ h.events session m ++ names := by simp [Handling.events]
  rw [stillThere_events lookups, findsNothing_events lookups, ← nothing (rowLimit_positive m),
    named, ← currentId_iff at_lookup positive row]
  constructor
  · intro lists
    obtain ⟨room', row', looked, made, shown, ids⟩ := lists
    rw [named, row] at row'
    cases row'
    cases rows : found (h.query m) with
    | nil => exact Or.inr rfl
    | cons msg rest =>
      left
      have same : looked = h.query m := by
        apply found_events lookups made
        intro empty
        have lengths := shown.length_eq.trans listed.length_eq.symm
        simp [empty, rows] at lengths
      rw [same, rows] at ids
      have id := (ids msg List.mem_cons_self).2
      rw [rows] at stored
      exact (stored msg List.mem_cons_self).2.symm.trans id
  · intro either
    refine ⟨room, by rw [named]; exact row, h.query m, asked, by rw [named]; exact listed, ?_⟩
    rcases either with still | none_found
    · intro msg member
      obtain ⟨there, id⟩ := stored msg member
      exact ⟨there, id.trans still⟩
    · rw [none_found]
      simp

end Rooms

section Runs
variable [Collation] [Sha256]

theorem handling_of_responds {p : Pool (chat database) Job} (h : Faithful p)
    {before : List (Event (chat database))} {response : HistoryMessageResponse}
    (responds : Responds p before response) :
    (∀ event ∈ before, Recorded p.state.store.rooms event.state) ∧
      ∃ session messageId m to_session more,
        Leads (dispatchMessage session ⟨messageId, some (.historyMessageRequest m)⟩) before
          (.call (.send to_session (envelope (.historyMessageResponse response))) more) := by
  obtain ⟨n, state, choice, to_session, after, split⟩ := responds
  constructor
  · intro event member
    have mine : event ∈ own p.log n := by
      rw [split]
      exact List.mem_append_left _ member
    obtain ⟨e, logged, _, its⟩ := mem_own.mp mine
    exact its ▸ h.recorded e logged
  · have sent : ⟨state, choice, .send to_session (envelope (.historyMessageResponse response))⟩ ∈
        own p.log n := by
      rw [split]
      exact List.mem_append_right _ List.mem_cons_self
    obtain ⟨e, made, number, _⟩ := mem_own.mp sent
    have begins := (h.histories.logged e made).2
    rw [number, split] at begins
    obtain ⟨more, leads⟩ := leads_of_begins begins
    by_cases asks : ∃ session messageId m,
        e.tag = .dispatch session ⟨messageId, some (.historyMessageRequest m)⟩
    · obtain ⟨session, messageId, m, tag⟩ := asks
      rw [tag] at leads
      exact ⟨session, messageId, m, to_session, more, leads⟩
    · have other : e.tag.handler.Uses (OtherCall (fun _ => True)) :=
        others_job (fun session messageId m tag => asks ⟨session, messageId, m, tag⟩)
      exact (others_not_response other leads).elim

theorem ofNamedRoom_iff_of_faithful {p : Pool (chat database) Job} (h : Faithful p)
    {before : List (Event (chat database))} {response : HistoryMessageResponse}
    (responds : Responds p before response) :
    OfNamedRoom p.state.store.rooms before response ↔
      (∀ event ∈ before, StillThere response.roomName event) ∨
        ∀ event ∈ before, FindsNothing event := by
  obtain ⟨recorded, session, messageId, m, to_session, more, leads⟩ :=
    handling_of_responds h responds
  obtain ⟨handling, names, split, lookups, named, there, answer, listed⟩ :=
    handling_of_response leads
  subst split
  exact ofNamedRoom_iff recorded h.positive lookups named there answer listed

/-- With any number of workers and in any interleaving of all jobs: a response lists
    messages of the room it names exactly when the user is still in that room as its id
    is looked up, or nothing is found. -/
theorem named_room_iff_still_there (workers : Nat) (w : World database)
    (empty : w.server.roomService = .empty) (positive : PositiveIds w.store.rooms)
    (moves : List (Move (chat database) Job)) :
    EveryState (Pool.step workers Job.handler) (fun p =>
      ∀ before response, Responds p before response →
        (OfNamedRoom p.state.store.rooms before response ↔
          (∀ event ∈ before, StillThere response.roomName event) ∨
            ∀ event ∈ before, FindsNothing event)) (Pool.idle w) moves := by
  apply everyState_mono _ (faithful_run workers w empty positive moves)
  intro p h before response responds
  exact ofNamedRoom_iff_of_faithful h responds

end Runs

section Moved

local instance : Collation := ⟨id⟩

local instance : Sha256 := ⟨id⟩

def noteInDen : World database :=
  ⟨Server.start.registerAuthenticatedSession 1 1 "ann",
    database.next (quiet 0).store (.addMessage ⟨0, 2, 1, "secret", 0⟩) annsRooms⟩

/-- Ann joins the hall, asks for its history, and joins the den while this is handled. -/
def asksAndMoves : List (Move (chat database) Job) :=
  [Move.post (.dispatch 1 ⟨"", some (.roomOperationRequest ⟨.join, "hall"⟩)⟩) quiet, Move.start] ++
    List.replicate 10 (Move.advance 0) ++
  [Move.post (.dispatch 1 ⟨"", some (.historyMessageRequest ⟨"hall", 20⟩)⟩) quiet, Move.start,
    Move.post (.dispatch 1 ⟨"", some (.roomOperationRequest ⟨.join, "den"⟩)⟩) quiet, Move.start] ++
    List.replicate 4 (Move.advance 0) ++ List.replicate 5 (Move.advance 1) ++
    List.replicate 6 (Move.advance 0)

theorem named_room_iff_still_there_moved : EveryState (Pool.step 2 Job.handler) (fun p =>
    ∀ before response, Responds p before response →
      (OfNamedRoom p.state.store.rooms before response ↔
        (∀ event ∈ before, StillThere response.roomName event) ∨
          ∀ event ∈ before, FindsNothing event)) (Pool.idle noteInDen) asksAndMoves :=
  named_room_iff_still_there 2 noteInDen rfl ⟨by decide, by decide⟩ asksAndMoves

/-- The message of the den is listed under the name of the hall. -/
theorem message_of_other_room : ¬ EveryState (Pool.step 2 Job.handler)
    (fun p => ∀ before response, Responds p before response →
      OfNamedRoom p.state.store.rooms before response) (Pool.idle noteInDen) asksAndMoves := by
  intro all
  have every := everyState_last all
  have sent : ∃ event ∈ own (after (Pool.step 2 Job.handler) (Pool.idle noteInDen)
      asksAndMoves).log 1, event.call = .send 1 (envelope (.historyMessageResponse ⟨"hall",
        [⟨"1", "ann", "secret", some ⟨0, 0⟩, some "hall"⟩]⟩)) := by decide
  have hall : (after (Pool.step 2 Job.handler) (Pool.idle noteInDen)
      asksAndMoves).state.store.rooms.find "hall" = some ⟨1, "hall", 1⟩ := by decide
  have elsewhere : ∀ looked ∈ own (after (Pool.step 2 Job.handler) (Pool.idle noteInDen)
      asksAndMoves).log 1, ∀ msg ∈ found looked, msg.roomId = 2 := by decide
  obtain ⟨event, member, call⟩ := sent
  obtain ⟨before, later, split⟩ := List.append_of_mem member
  obtain ⟨state, choice, c⟩ := event
  cases call
  obtain ⟨room, row, looked, made, shown, ids⟩ := every _ _ ⟨1, state, choice, 1, later, split⟩
  rw [hall] at row
  cases row
  have listed : looked ∈ own (after (Pool.step 2 Job.handler) (Pool.idle noteInDen)
      asksAndMoves).log 1 := by
    rw [split]
    exact List.mem_append_left _ made
  cases rows : found looked with
  | nil =>
    have lengths := shown.length_eq
    simp [rows] at lengths
  | cons msg rest =>
    have here : msg ∈ found looked := by simp [rows]
    have den := elsewhere looked listed msg here
    have hall := (ids msg here).2
    rw [den] at hall
    cases hall

end Moved

end HistoryRooms
