import ChatServer.Atomic.Histories
import ChatServer.Rooms.LiveRooms

/-!
The room of a public message. A handling looks its sender's room up three times: for the
label of the broadcast, for the id the message is stored under and for the members it is
sent to. The three are one room exactly when each lookup finds the user there.
-/
namespace PublicMessages
open AtomicCalls EventRuns WorkerPool TaskHistories RelyGuarantee ChatProtocol ChatState ChatCalls
  ChatServices ChatEffects ChatDatabase RoomMaps LiveRooms

section Handlings
variable [Collation]

/-- A handling that has come to its broadcast: where it made its calls, and the users it
    read from the session. -/
structure Handling where
  world : Fin 10 → World database
  choice : Fin 10 → Choice database
  sender : Int
  user : Int

variable (h : Handling)

def Handling.label : String :=
  (h.world 3).server.roomService.getUserCurrentRoomName h.sender

def Handling.roomId : Int := (h.world 4).server.roomService.getUserCurrentRoomId h.sender

def Handling.target : String := (h.world 9).server.roomService.getUserCurrentRoomName h.user

def Handling.events (session : SessionId) (content : String) : List (Event (chat database)) :=
  [⟨h.world 0, h.choice 0, .isAuthenticated session⟩,
    ⟨h.world 1, h.choice 1, .isAuthenticated session⟩,
    ⟨h.world 2, h.choice 2, .getUserId session⟩,
    ⟨h.world 3, h.choice 3, .getUserCurrentRoomName h.sender⟩,
    ⟨h.world 4, h.choice 4, .getUserCurrentRoomId h.sender⟩,
    ⟨h.world 5, h.choice 5, .repository (.addMessage ⟨0, h.roomId, h.sender, content, 0⟩)⟩,
    ⟨h.world 6, h.choice 6, .getUsername session⟩,
    ⟨h.world 7, h.choice 7, .getCurrentTime⟩,
    ⟨h.world 8, h.choice 8, .getUserId session⟩,
    ⟨h.world 9, h.choice 9, .getUserCurrentRoomName h.user⟩]

def Broadcasting : Call → Prop
  | .recipients _ _ => True
  | .send _ e => ∃ m, e = envelope (.messageBroadcast m)
  | _ => False

/-- After `before`, task `n` sends `m` to the members of `target`, for a public message. -/
def Broadcasts [Sha256] (p : Pool (chat database) Job) (n : Nat)
    (before : List (Event (chat database))) (target : String) (m : MessageBroadcast) : Prop :=
  before <+: own p.log n ∧ ∃ session messageId message,
    Leads (dispatchMessage session ⟨messageId, some (.publicMessage message)⟩) before
      (broadcastToRoom target (envelope (.messageBroadcast m)) 0)

def ToMembers [Sha256] (p : Pool (chat database) Job) : Prop :=
  ∀ e ∈ p.log, ∀ session messageId message id m,
    e.tag = .dispatch session ⟨messageId, some (.publicMessage message)⟩ →
    e.event.call = .send id (envelope (.messageBroadcast m)) →
    ∃ before target, Broadcasts p e.number before target m ∧
      ∃ looked ∈ own p.log e.number, looked.call = .recipients target 0 ∧
        id ∈ looked.state.server.roomService.recipients target 0

/-- The label, the id under which the message is stored and the members' room are one
    room, in which the sender was. -/
def OneRoom (rooms : Table Room) (before : List (Event (chat database))) (target : String)
    (m : MessageBroadcast) : Prop :=
  m.roomName = some target ∧ ∃ room sender, rooms.find target = some room ∧
    (∀ event ∈ before, ∀ message, event.call = .repository (.addMessage message) →
      message.roomId = room.id ∧ message.senderId = sender) ∧
    ∃ event ∈ before, event.state.server.roomService.userToRoomMap[sender]? = some target

/-- Each lookup of a room finds the user in this one. -/
def Stays (name : String) (event : Event (chat database)) : Prop :=
  match event.call with
  | .getUserCurrentRoomName user =>
    event.state.server.roomService.userToRoomMap[user]? = some name
  | .getUserCurrentRoomId user => ∃ spelled,
    event.state.server.roomService.userToRoomMap[user]? = some spelled ∧ SameName spelled name
  | _ => True

theorem oneRoom_events {rooms : Table Room} {session : SessionId} {content target : String}
    {m : MessageBroadcast} :
    OneRoom rooms (h.events session content) target m ↔
      m.roomName = some target ∧ ∃ room, rooms.find target = some room ∧ h.roomId = room.id ∧
        ∃ i, (h.world i).server.roomService.userToRoomMap[h.sender]? = some target := by
  have anywhere : (∃ event ∈ h.events session content,
      event.state.server.roomService.userToRoomMap[h.sender]? = some target) ↔
        ∃ i, (h.world i).server.roomService.userToRoomMap[h.sender]? = some target := by
    simp [Handling.events, Fin.exists_fin_succ]
  rw [← anywhere]
  simp [OneRoom, Handling.events]

theorem forall_events {P : World database → Prop} {session : SessionId} {content : String} :
    (∀ event ∈ h.events session content, P event.state) ↔ ∀ i, P (h.world i) := by
  simp [Handling.events, Fin.forall_fin_succ]

theorem stays_events {session : SessionId} {content name : String} :
    (∀ event ∈ h.events session content, Stays name event) ↔
      (h.world 3).server.roomService.userToRoomMap[h.sender]? = some name ∧
      (∃ spelled, (h.world 4).server.roomService.userToRoomMap[h.sender]? = some spelled ∧
        SameName spelled name) ∧
      (h.world 9).server.roomService.userToRoomMap[h.user]? = some name := by
  simp [Stays, Handling.events]

end Handlings

section Refusals
variable {p : Handler} {events : List (Event (chat E))} {d : Call} {more : d.Answer → Handler}

theorem quiet_refusal (refusal : p.Uses (fun c => ¬ Broadcasting c)) (broadcasting : Broadcasting d) :
    ¬ Leads p events (.call d more) := by
  intro leads
  exact (leads_uses refusal leads).1 broadcasting

theorem refuses_sendError (session : SessionId) (text : String) :
    (sendError session text).Uses (fun c => ¬ Broadcasting c) := by
  simp [sendError, Broadcasting, envelope, errorEnvelope]

theorem refuses_notInRoom (session : SessionId) :
    (do let _ ← call (.getUsername session); sendCodedError session notInRoom 403).Uses
      (fun c => ¬ Broadcasting c) := by
  simp [sendCodedError, Broadcasting, envelope, codedError]

theorem leads_sendAll {recipients : List SessionId} {e e' : Envelope} {id : SessionId}
    {more : Unit → Handler} (leads : Leads (sendAll recipients e) events (.call (.send id e') more)) :
    e' = e ∧ id ∈ recipients := by
  induction recipients generalizing events with
  | nil =>
    have none_left : (sendAll [] e).Uses (fun _ => False) := trivial
    exact (leads_uses none_left leads).1.elim
  | cons first rest ih =>
    cases events with
    | nil =>
      have head : sendAll (first :: rest) e = .call (.send id e') more := leads
      injection head with same
      cases same
      exact ⟨rfl, List.mem_cons_self⟩
    | cons event events =>
      obtain ⟨_, _, _, _, _, leads⟩ := leads
      obtain ⟨same, member⟩ := ih leads
      exact ⟨same, List.mem_cons_of_mem first member⟩

end Refusals

section Histories
variable [Collation] [Sha256] {session : SessionId} {messageId : String} {message : PublicMessage}
  {before : List (Event (chat database))} {d : Call} {more : d.Answer → Handler}

theorem handling_of_leads
    (leads : Leads (dispatchMessage session ⟨messageId, some (.publicMessage message)⟩) before
      (.call d more)) (broadcasting : Broadcasting d) :
    ∃ (h : Handling) (later : List (Event (chat database))) (m : MessageBroadcast),
      before = h.events session message.content ++ later ∧ h.label ≠ "" ∧
        m.roomName = some h.label ∧
        Leads (dispatchMessage session ⟨messageId, some (.publicMessage message)⟩)
          (h.events session message.content)
          (broadcastToRoom h.target (envelope (.messageBroadcast m)) 0) ∧
        Leads (broadcastToRoom h.target (envelope (.messageBroadcast m)) 0) later
          (.call d more) := by
  have other : ∀ c, ¬ Broadcasting c → d ≠ c := by
    intro c idle same
    rw [same] at broadcasting
    exact idle broadcasting
  obtain ⟨w0, x0, gate, rest0, split0, answer0, leads0⟩ := leads_later leads (other _ id)
  cases gate with
  | false => exact absurd leads0 (quiet_refusal (refuses_sendError session _) broadcasting)
  | true =>
    obtain ⟨w1, x1, again, rest1, split1, answer1, leads1⟩ := leads_later leads0 (other _ id)
    cases again with
    | false => exact absurd leads1 (quiet_refusal trivial broadcasting)
    | true =>
      obtain ⟨w2, x2, sender, rest2, split2, answer2, leads2⟩ := leads_later leads1 (other _ id)
      obtain ⟨w3, x3, label, rest3, split3, named, leads3⟩ := leads_later leads2 (other _ id)
      cases named
      change Leads (ite _ _ _) rest3 _ at leads3
      split at leads3
      · exact absurd leads3 (quiet_refusal (refuses_notInRoom session) broadcasting)
      · rename_i somewhere
        obtain ⟨w4, x4, roomId, rest4, split4, found, leads4⟩ := leads_later leads3 (other _ id)
        cases found
        obtain ⟨w5, x5, _, rest5, split5, answer5, leads5⟩ := leads_later leads4 (other _ id)
        obtain ⟨w6, x6, username, rest6, split6, answer6, leads6⟩ := leads_later leads5 (other _ id)
        obtain ⟨w7, x7, now, rest7, split7, answer7, leads7⟩ := leads_later leads6 (other _ id)
        obtain ⟨w8, x8, user, rest8, split8, answer8, leads8⟩ := leads_later leads7 (other _ id)
        obtain ⟨w9, x9, target, rest9, split9, targeted, leads9⟩ :=
          leads_later leads8 (other _ id)
        cases targeted
        subst split0 split1 split2 split3 split4 split5 split6 split7 split8 split9
        refine ⟨⟨![w0, w1, w2, w3, w4, w5, w6, w7, w8, w9], ![x0, x1, x2, x3, x4, x5, x6, x7, x8, x9],
          sender, user⟩, rest9, _, rfl, somewhere, rfl, ?_, leads9⟩
        refine ⟨w0, x0, true, rfl, answer0, w1, x1, true, rfl, answer1, w2, x2, sender, rfl, answer2,
          w3, x3, _, rfl, rfl, ?_⟩
        change Leads (ite _ _ _) _ _
        rw [if_neg somewhere]
        exact ⟨w4, x4, _, rfl, rfl, w5, x5, _, rfl, answer5, w6, x6, username, rfl, answer6,
          w7, x7, now, rfl, answer7, w8, x8, user, rfl, answer8, w9, x9, _, rfl, rfl, rfl⟩

theorem handling_of_broadcast {target : String} {m : MessageBroadcast}
    (leads : Leads (dispatchMessage session ⟨messageId, some (.publicMessage message)⟩) before
      (broadcastToRoom target (envelope (.messageBroadcast m)) 0)) :
    ∃ h : Handling, before = h.events session message.content ∧ h.label ≠ "" ∧
      m.roomName = some h.label ∧ h.target = target := by
  obtain ⟨h, later, m', split, somewhere, labelled, _, leads⟩ := handling_of_leads leads trivial
  cases later with
  | nil =>
    have same : broadcastToRoom h.target (envelope (.messageBroadcast m')) 0 =
      broadcastToRoom target (envelope (.messageBroadcast m)) 0 := leads
    injection same with room sends
    injection room with room
    have first := congrFun sends [0]
    injection first with sent
    cases sent
    exact ⟨h, by rw [split, List.append_nil], somewhere, labelled, room⟩
  | cons looked later =>
    obtain ⟨_, _, recipients, _, _, leads⟩ := leads
    have unasked : (sendAll recipients (envelope (.messageBroadcast m'))).Uses
        (fun c => ∀ name exclude, c ≠ .recipients name exclude) :=
      uses_sendAll (fun _ => by simp) recipients
    exact absurd rfl ((leads_uses unasked leads).1 target 0)

theorem broadcast_of_send {id : SessionId} {m : MessageBroadcast} {more : Unit → Handler}
    (leads : Leads (dispatchMessage session ⟨messageId, some (.publicMessage message)⟩) before
      (.call (.send id (envelope (.messageBroadcast m))) more)) :
    ∃ (target : String) (first : List (Event (chat database))) (looked : Event (chat database))
      (later : List (Event (chat database))), before = first ++ looked :: later ∧
      Leads (dispatchMessage session ⟨messageId, some (.publicMessage message)⟩) first
        (broadcastToRoom target (envelope (.messageBroadcast m)) 0) ∧
      looked.call = .recipients target 0 ∧
      id ∈ looked.state.server.roomService.recipients target 0 := by
  obtain ⟨h, later, m', split, _, _, first, leads⟩ := handling_of_leads leads ⟨m, rfl⟩
  obtain ⟨w, choice, recipients, tail, rest, answer, sends⟩ := leads_later leads (by simp)
  obtain ⟨same, member⟩ := leads_sendAll sends
  cases answer
  injection same with _ same
  injection same with same
  injection same with same
  subst same
  exact ⟨h.target, h.events session message.content, _, tail, by rw [split, rest], first, rfl, member⟩

end Histories

section Rooms
variable [Collation]

/-- The maps at a past event named rows that are still there. -/
def Recorded (rooms : Table Room) (w : World database) : Prop :=
  Persisted w.server.roomService w.store.rooms ∧ roomRows w ⊆ rooms.rows

variable {rooms : Table Room} {w : World database} {user : Int} {name : String}

theorem row_of_user (recorded : Recorded rooms w)
    (there : w.server.roomService.userToRoomMap[user]? = some name) :
    ∃ row, rooms.find name = some row ∧ w.server.roomService.getUserCurrentRoomId user = row.id := by
  obtain ⟨persisted, kept⟩ := recorded
  obtain ⟨id, live⟩ := live_of_member _ (persisted.seated user name there)
  obtain ⟨row, stored, same, known⟩ := persisted.live name id live
  exact ⟨row, find_of_mem (kept stored) same, (currentId_of_live there live).trans known.symm⟩

theorem currentId_iff (recorded : Recorded rooms w) (positive : PositiveIds rooms) {room : Room}
    (found : rooms.find name = some room) :
    w.server.roomService.getUserCurrentRoomId user = room.id ↔
      ∃ spelled, w.server.roomService.userToRoomMap[user]? = some spelled ∧
        SameName spelled name := by
  obtain ⟨stored, alike⟩ := find_some found
  constructor
  · intro same
    cases there : w.server.roomService.userToRoomMap[user]? with
    | none =>
      have above := positive.rows room stored
      simp only [RoomService.getUserCurrentRoomId, there] at same
      omega
    | some spelled =>
      obtain ⟨row, found', known⟩ := row_of_user recorded there
      obtain ⟨stored', alike'⟩ := find_some found'
      have one : row = room := same_id_same_row stored' stored (known.symm.trans same)
      rw [one] at alike'
      exact ⟨spelled, rfl, alike'.symm.trans alike⟩
  · intro inside
    obtain ⟨spelled, there, spelling⟩ := inside
    obtain ⟨row, found', known⟩ := row_of_user recorded there
    obtain ⟨stored', alike'⟩ := find_some found'
    have one : row = room :=
      same_name_same_row stored' stored ((alike'.trans spelling).trans alike.symm)
    rw [known, one]

variable {h : Handling} {session : SessionId} {content : String} {m : MessageBroadcast}

theorem oneRoom_iff_stays (recorded : ∀ i, Recorded rooms (h.world i)) (positive : PositiveIds rooms)
    (somewhere : h.label ≠ "") (labelled : m.roomName = some h.label) :
    OneRoom rooms (h.events session content) h.target m ↔
      ∃ name, ∀ event ∈ h.events session content, Stays name event := by
  simp only [oneRoom_events, stays_events, labelled, Option.some.injEq]
  constructor
  · intro one
    obtain ⟨same, room, found, known, _⟩ := one
    rw [same] at somewhere
    exact ⟨h.target, (currentName_iff somewhere).mp same,
      (currentId_iff (recorded 4) positive found).mp known, (currentName_iff somewhere).mp rfl⟩
  · intro stays
    obtain ⟨name, first, second, third⟩ := stays
    have label : h.label = name := by simp [Handling.label, RoomService.getUserCurrentRoomName, first]
    have target : h.target = name := by
      simp [Handling.target, RoomService.getUserCurrentRoomName, third]
    obtain ⟨room, found, _⟩ := row_of_user (recorded 3) first
    rw [target]
    exact ⟨label, room, found, (currentId_iff (recorded 4) positive found).mpr second, 3, first⟩

end Rooms

section Runs
variable [Collation] [Sha256]

/-- The handlings in the log are what the handlers did, in worlds whose rooms are still there. -/
structure Faithful (p : Pool (chat database) Job) : Prop where
  histories : Histories Job.handler p
  positive : PositiveIds p.state.store.rooms
  recorded : ∀ e ∈ p.log, Recorded p.state.store.rooms e.event.state

theorem faithful_run (workers : Nat) (w : World database)
    (empty : w.server.roomService = .empty) (positive : PositiveIds w.store.rooms)
    (moves : List (Move (chat database) Job)) :
    EveryState (Pool.step workers Job.handler) Faithful (Pool.idle w) moves := by
  have keep : ∀ (v : TablesView) (number : Nat) (job : Job) (choice : Choice database) (c : Call),
      (PersistedView v ∧ PositiveIds v.1.store.rooms ∧
        ∀ e ∈ v.2, Recorded v.1.store.rooms e.event.state) → EntersStored job v c → True →
      (PersistedView (called v number job choice c) ∧
        PositiveIds (called v number job choice c).1.store.rooms ∧
        ∀ e ∈ (called v number job choice c).2,
          Recorded (called v number job choice c).1.store.rooms e.event.state) ∧
        KeepsRooms v (called v number job choice c) := by
    intro v number job choice c h enters _
    obtain ⟨persisted, positive, recorded⟩ := h
    obtain ⟨kept, grows⟩ := persisted_called v number job choice c persisted enters
    refine ⟨⟨kept, positive_next positive choice c, ?_⟩, grows⟩
    intro e made
    rcases List.mem_append.mp made with old | new
    · exact ⟨(recorded e old).1, List.Subset.trans (recorded e old).2 grows⟩
    · rw [List.mem_singleton.mp new]
      exact ⟨persisted, grows⟩
  have start : PersistedView ((w, []) : TablesView) := by
    rw [PersistedView, empty]
    exact persisted_empty w.store.rooms
  have calls : EveryStep (Pool.step workers Job.handler) (SafeMove (fun _ _ => True))
      (Pool.idle w) moves :=
    everyStep_of_forall (safeMove_of_forall (fun _ _ => trivial)) (Pool.idle w) moves
  have kept := invariant_of_safe_moves keepsRooms_trans keep keepsRooms_refl enters_job
    ⟨start, positive, by simp⟩ calls
  exact everyState_mono (fun p h => ⟨h.2, h.1.2.1, h.1.2.2⟩)
    (everyState_and kept (histories_run workers w moves))

theorem toMembers_of_faithful {p : Pool (chat database) Job} (h : Faithful p) : ToMembers p := by
  intro e made session messageId message id m tag sends
  obtain ⟨before, after, split⟩ := List.append_of_mem (mem_own.mpr ⟨e, made, rfl, rfl⟩)
  have begins := (h.histories.logged e made).2
  rw [split, tag] at begins
  obtain ⟨more, leads⟩ := leads_of_begins begins
  revert more
  rw [sends]
  intro more leads
  obtain ⟨target, first, looked, later, split', broadcast, asked, member⟩ := broadcast_of_send leads
  rw [split, split']
  refine ⟨first, target, ⟨?_, session, messageId, message, broadcast⟩, looked, by simp, asked, member⟩
  rw [split, split', List.append_assoc]
  exact List.prefix_append first _

theorem oneRoom_iff_of_faithful {p : Pool (chat database) Job} (h : Faithful p) {n : Nat}
    {before : List (Event (chat database))} {target : String} {m : MessageBroadcast}
    (sends : Broadcasts p n before target m) :
    OneRoom p.state.store.rooms before target m ↔ ∃ name, ∀ event ∈ before, Stays name event := by
  obtain ⟨made, session, messageId, message, leads⟩ := sends
  obtain ⟨handling, split, somewhere, labelled, same⟩ := handling_of_broadcast leads
  have recorded : ∀ event ∈ before, Recorded p.state.store.rooms event.state := by
    intro event member
    obtain ⟨e, logged, _, its⟩ := mem_own.mp (made.subset member)
    exact its ▸ h.recorded e logged
  subst same split
  exact oneRoom_iff_stays ((forall_events handling).mp recorded) h.positive somewhere labelled

/-- With any number of workers and in any interleaving of all jobs: a public message goes
    to one room exactly when each lookup of its handling finds the user in that room. -/
theorem one_room_iff_each_lookup_there (workers : Nat) (w : World database)
    (empty : w.server.roomService = .empty) (positive : PositiveIds w.store.rooms)
    (moves : List (Move (chat database) Job)) :
    EveryState (Pool.step workers Job.handler) (fun p => ToMembers p ∧
      ∀ n before target m, Broadcasts p n before target m →
        (OneRoom p.state.store.rooms before target m ↔
          ∃ name, ∀ event ∈ before, Stays name event)) (Pool.idle w) moves := by
  apply everyState_mono _ (faithful_run workers w empty positive moves)
  intro p h
  exact ⟨toMembers_of_faithful h, fun _ _ _ _ sends => oneRoom_iff_of_faithful h sends⟩

end Runs

section Moved

local instance : Collation := ⟨id⟩

local instance : Sha256 := ⟨id⟩

def quiet : Nat → Choice database := fun _ => ⟨⟨none, 0, fun _ => 0⟩, none, ⟨0, 0⟩⟩

def annsRooms : Tables :=
  database.next (quiet 0).store (.addRoom ⟨0, "den", 1⟩)
    (database.next (quiet 0).store (.addRoom ⟨0, "hall", 1⟩)
      (database.next (quiet 0).store (.addUser ⟨0, "ann", "pw", ""⟩) .empty))

def annLoggedIn : World database := ⟨Server.start.registerAuthenticatedSession 1 1 "ann", annsRooms⟩

/-- Ann joins the hall, says hello, and joins the den while her message is handled. -/
def movesOn : List (Move (chat database) Job) :=
  [Move.post (.dispatch 1 ⟨"", some (.roomOperationRequest ⟨.join, "hall"⟩)⟩) quiet, Move.start] ++
    List.replicate 10 (Move.advance 0) ++
  [Move.post (.dispatch 1 ⟨"", some (.publicMessage ⟨"hello"⟩)⟩) quiet, Move.start,
    Move.post (.dispatch 1 ⟨"", some (.roomOperationRequest ⟨.join, "den"⟩)⟩) quiet, Move.start] ++
    List.replicate 6 (Move.advance 0) ++ List.replicate 5 (Move.advance 1) ++
    List.replicate 6 (Move.advance 0)

theorem one_room_iff_each_lookup_there_moved : EveryState (Pool.step 2 Job.handler)
    (fun p => ToMembers p ∧ ∀ n before target m, Broadcasts p n before target m →
      (OneRoom p.state.store.rooms before target m ↔
        ∃ name, ∀ event ∈ before, Stays name event)) (Pool.idle annLoggedIn) movesOn :=
  one_room_iff_each_lookup_there 2 annLoggedIn rfl ⟨by decide, by decide⟩ movesOn

/-- The label names the hall, and the members of the den are looked up. -/
theorem one_message_in_two_rooms : ¬ EveryState (Pool.step 2 Job.handler)
    (fun p => ∀ n before target m, Broadcasts p n before target m →
      OneRoom p.state.store.rooms before target m) (Pool.idle annLoggedIn) movesOn := by
  intro all
  have every := everyState_last all
  have faithful := everyState_last
    (faithful_run 2 annLoggedIn rfl ⟨by decide, by decide⟩ movesOn)
  have sent : ∃ e ∈ (after (Pool.step 2 Job.handler) (Pool.idle annLoggedIn) movesOn).log,
      e.number = 1 ∧ e.tag = .dispatch 1 ⟨"", some (.publicMessage ⟨"hello"⟩)⟩ ∧
      e.event.call = .send 1 (envelope (.messageBroadcast
        ⟨"1", "ann", "hello", some ⟨0, 0⟩, some "hall"⟩)) := by decide
  have elsewhere : ∀ looked ∈ own (after (Pool.step 2 Job.handler) (Pool.idle annLoggedIn)
      movesOn).log 1, looked.call ≠ .recipients "hall" 0 := by decide
  obtain ⟨e, made, number, tag, call⟩ := sent
  obtain ⟨before, target, sends, looked, member, asked, _⟩ :=
    toMembers_of_faithful faithful e made 1 "" ⟨"hello"⟩ 1 _ tag call
  have label := (every e.number before target _ sends).1
  cases label
  rw [number] at member
  exact elsewhere looked member asked

end Moved

end PublicMessages
