import ChatServer.Accounts.Passwords
import ChatServer.Atomic.LocalUpdates
import ChatServer.Rooms.LiveRooms

/-!
The order of JOIN, LEAVE and disconnect among different users. Each reads and writes the
seat of its own user. A room that empties is erased and rebuilt from its row on the next
join, so the seats determine the maps once every active room stands as its row would
make it.
-/
namespace CommutingRooms
open AtomicCalls EventRuns RelyGuarantee LocalUpdates KeyedMaps ChatProtocol ChatState ChatCalls
  ChatServices ChatEffects ChatDatabase RoomMaps LiveRooms
  AccountOwnership Passwords

/-- The room the map names for a user, and the sessions the rooms hold for them. -/
structure Seat where
  room : Option String
  held : String → Option SessionId

def Seat.vacate (s : Seat) : Seat :=
  ⟨none, fun name => if s.room = some name then none else s.held name⟩

def Seat.enter (s : Seat) (name : String) (session : SessionId) : Seat :=
  ⟨some name, fun other => if other = name then some session else s.vacate.held other⟩

def seats (r : RoomService) (user : Int) : Seat :=
  ⟨r.userToRoomMap[user]?, fun name => memberSession r.activeRooms name user⟩

theorem seats_ext {r : RoomService} {after : Int → Seat}
    (map : ∀ who : Int, r.userToRoomMap[who]? = (after who).room)
    (members : ∀ who name, memberSession r.activeRooms name who = (after who).held name) :
    seats r = after := by
  funext who
  have held : (fun name => memberSession r.activeRooms name who) = (after who).held :=
    funext (members who)
  simp only [seats, map who, held]

section Blocks
variable (r : RoomService) (user : Int) (name : String)

theorem seats_after_vacate :
    seats (r.vacate user) = Function.update (seats r) user (seats r user).vacate := by
  apply seats_ext
  · intro who
    rw [map_vacate, Function.update_apply]
    split <;> rfl
  · intro who other
    rw [memberSession_vacate, Function.update_apply]
    by_cases it : who = user
    · rw [if_pos it, it]
      by_cases there : r.userToRoomMap[user]? = some other <;> simp [seats, Seat.vacate, there]
    · simp [it, seats]

theorem seats_after_join (room : Room) (session : SessionId) :
    seats (r.join user name room session) =
      Function.update (seats r) user ((seats r user).enter name session) := by
  apply seats_ext
  · intro who
    rw [map_join, Function.update_apply]
    split <;> rfl
  · intro who other
    rw [memberSession_join, Function.update_apply]
    by_cases it : who = user
    · rw [if_pos it, it]
      by_cases there : r.userToRoomMap[user]? = some other <;>
        simp [seats, Seat.enter, Seat.vacate, there]
    · simp [it, seats]

theorem seats_after_leave :
    seats (r.leave user name) = Function.update (seats r) user
      (if (seats r user).room = some name then (seats r user).vacate else seats r user) := by
  unfold RoomService.leave
  by_cases there : r.userToRoomMap[user]? = some name
  · have inside : (seats r user).room = some name := there
    rw [if_pos there, if_pos inside, seats_after_vacate]
  · have outside : (seats r user).room ≠ some name := there
    rw [if_neg there, if_neg outside, Function.update_eq_self]

end Blocks

theorem entry_of_members {a b : Std.ExtTreeMap String ActiveRoom} (occupied : Occupied a)
    {name : String} (held : ∀ who, memberSession a name who = memberSession b name who)
    {active : ActiveRoom} (found : a[name]? = some active) :
    ∃ entry : ActiveRoom, b[name]? = some entry := by
  have some_member : ∃ who, who ∈ active.members := by
    by_contra nobody
    have empty : active.members = ∅ :=
      Std.ExtTreeMap.eq_empty_iff_forall_not_mem.mpr (not_exists.mp nobody)
    have filled := occupied name active found
    simp [empty] at filled
  obtain ⟨who, member⟩ := some_member
  have here : IsMember a name who := ⟨active, found, member⟩
  rw [isMember_iff, held who, ← isMember_iff] at here
  obtain ⟨entry, other, _⟩ := here
  exact ⟨entry, other⟩

theorem entry_ext {active entry : ActiveRoom} (row : rowOf active = rowOf entry)
    (members : ∀ who : Int, active.members[who]? = entry.members[who]?) : active = entry := by
  have same := Std.ExtTreeMap.ext_getElem? members
  obtain ⟨id, creatorId, title, inside⟩ := active
  obtain ⟨id', creatorId', title', inside'⟩ := entry
  cases row
  cases same
  rfl

theorem rooms_eq_of_seats {P : String → Room → Prop}
    (unique : ∀ name a b, P name a → P name b → a = b) {r q : RoomService}
    (hr : LiveOnly P r ∧ Occupied r.activeRooms) (hq : LiveOnly P q ∧ Occupied q.activeRooms)
    (same : seats r = seats q) : r = q := by
  have held : ∀ name who, memberSession r.activeRooms name who =
      memberSession q.activeRooms name who := by
    intro name who
    exact congrFun (congrArg Seat.held (congrFun same who)) name
  have rooms : r.activeRooms = q.activeRooms := by
    apply Std.ExtTreeMap.ext_getElem?
    intro name
    cases found : r.activeRooms[name]? with
    | none =>
      cases other : q.activeRooms[name]? with
      | none => rfl
      | some entry =>
        obtain ⟨active, here⟩ := entry_of_members hq.2 (fun who => (held name who).symm) other
        rw [found] at here
        cases here
    | some active =>
      obtain ⟨entry, other⟩ := entry_of_members hr.2 (held name) found
      rw [other]
      apply congrArg some
      apply entry_ext
      · exact unique name _ _ (hr.1 name _ (by simp [liveRow, found]))
          (hq.1 name _ (by simp [liveRow, other]))
      · intro who
        have there := held name who
        simpa [memberSession, found, other] using there
  have map : r.userToRoomMap = q.userToRoomMap := by
    apply Std.ExtTreeMap.ext_getElem?
    intro who
    exact congrArg Seat.room (congrFun same who)
  exact congr (congrArg RoomService.mk rooms) map

inductive RoomAct where
  | join (name : String)
  | leave (name : String)
  | disconnect

/-- An act of a user, with the answer of the lookup if it is a JOIN. -/
structure Placement where
  user : Int
  session : SessionId
  act : RoomAct
  found : Except Exception (Option Room)

def place (r : RoomService) (p : Placement) : RoomService :=
  match p.act, p.found with
  | .join name, .ok (some room) => r.join p.user name room p.session
  | .join _, _ => r
  | .leave name, _ => r.leave p.user name
  | .disconnect, _ => r.disconnect p.user

def Placement.change (p : Placement) (s : Seat) : Seat :=
  match p.act, p.found with
  | .join name, .ok (some _) => s.enter name p.session
  | .join _, _ => s
  | .leave name, _ => if s.room = some name then s.vacate else s
  | .disconnect, _ => s.vacate

def FindsOnly (P : String → Room → Prop) (p : Placement) : Prop :=
  ∀ name room, p.act = .join name → p.found = .ok (some room) → P name room

theorem seats_after_place (r : RoomService) (p : Placement) :
    seats (place r p) = Function.update (seats r) p.user (p.change (seats r p.user)) := by
  unfold place Placement.change
  split
  · exact seats_after_join r p.user _ _ p.session
  · rw [Function.update_eq_self]
  · exact seats_after_leave r p.user _
  · exact seats_after_vacate r p.user

/-- The rooms as their rows would make them, none of them empty. -/
def Rebuildable (P : String → Room → Prop) (r : RoomService) : Prop :=
  LiveOnly P r ∧ Occupied r.activeRooms

theorem rebuildable_vacate {P : String → Room → Prop} {r : RoomService} (h : Rebuildable P r)
    (user : Int) : Rebuildable P (r.vacate user) :=
  ⟨liveOnly_vacate h.1 user, occupied_vacate r user h.2⟩

theorem rebuildable_join {P : String → Room → Prop} {r : RoomService} (h : Rebuildable P r)
    (user : Int) {name : String} {room : Room} (session : SessionId) (enters : P name room) :
    Rebuildable P (r.join user name room session) :=
  ⟨liveOnly_join h.1 user session enters, occupied_join r user name session room h.2⟩

theorem rebuildable_place {P : String → Room → Prop} {r : RoomService} (h : Rebuildable P r)
    {p : Placement} (finds : FindsOnly P p) : Rebuildable P (place r p) := by
  unfold place
  split
  · rename_i name room act found
    exact rebuildable_join h p.user p.session (finds name room act found)
  · exact h
  · unfold RoomService.leave
    split
    · exact rebuildable_vacate h p.user
    · exact h
  · exact rebuildable_vacate h p.user

theorem place_local {P : String → Room → Prop} (unique : ∀ name a b, P name a → P name b → a = b) :
    Local place (Rebuildable P) (FindsOnly P) seats Placement.user Placement.change where
  keep := fun _ _ h finds => rebuildable_place h finds
  update := fun r p _ _ => seats_after_place r p
  whole := fun _ _ hr hq same => rooms_eq_of_seats unique hr hq same

section Handlers
variable [Collation]

/-- A call of `RoomService` that inserts no row, and what it meets. -/
structure Asked where
  session : SessionId
  act : RoomAct
  choices : Nat → Choice database

def Asked.handler (e : Asked) : Handler :=
  match e.act with
  | .join name => handleRoomOperation e.session ⟨.join, name⟩
  | .leave name => handleRoomOperation e.session ⟨.leave, name⟩
  | .disconnect => handleDisconnect e.session

def perform (w : World database) (e : Asked) : World database :=
  e.handler.final (chat database) e.choices w

def Asked.found (e : Asked) (store : Tables) : Except Exception (Option Room) :=
  match e.act with
  | .join name => roomFound e.choices name store
  | _ => .ok none

def userOn (w : World database) (session : SessionId) : Int :=
  match (w.server.session session).identity with
  | some (user, _) => user
  | none => 0

def Asked.placement (w : World database) (e : Asked) : Placement :=
  ⟨userOn w e.session, e.session, e.act, e.found w.store⟩

def withRooms (w : World database) (r : RoomService) : World database :=
  { w with server := { w.server with roomService := r } }

def SparesStore (c : Call) : Prop :=
  ∀ (choice : Choice database) store, storeNext database choice c store = store

theorem spares_notified (session : SessionId) (event : UserEventType) (userId : Int)
    (operation : RoomOperation) (roomname message : String) :
    (notifyRoom session event userId roomname >>= fun _ =>
      sendRoomResponse session true operation roomname message).Uses SparesStore :=
  uses_bind (uses_notifyRoom (fun _ _ => rfl) (fun _ _ _ => rfl) (fun _ _ _ _ _ => rfl) roomname)
    (fun _ => ⟨fun _ _ => rfl, fun _ => trivial⟩)

theorem spares_asked (e : Asked) : e.handler.Uses SparesStore := by
  unfold Asked.handler
  cases e.act with
  | join name =>
    refine ⟨fun _ _ => rfl, ?_⟩
    intro present
    cases present with
    | false => trivial
    | true =>
      refine ⟨fun _ _ => rfl, fun user => ⟨fun _ _ => rfl, ?_⟩⟩
      intro found
      cases found with
      | none => exact ⟨fun _ _ => rfl, fun _ => trivial⟩
      | some room => exact ⟨fun _ _ => rfl, fun _ => spares_notified _ _ _ _ _ _⟩
  | leave name =>
    refine ⟨fun _ _ => rfl, ?_⟩
    intro present
    cases present with
    | false => trivial
    | true =>
      exact ⟨fun _ _ => rfl, fun user => ⟨fun _ _ => rfl, fun _ => spares_notified _ _ _ _ _ _⟩⟩
  | disconnect =>
    refine ⟨fun _ _ => rfl, ?_⟩
    intro present
    cases present with
    | false => trivial
    | true => exact ⟨fun _ _ => rfl, fun user => ⟨fun _ _ => rfl, fun _ => trivial⟩⟩

theorem perform_eq {w : World database} {e : Asked} {user : Int} {username : String}
    (who : (w.server.session e.session).identity = some (user, username)) :
    perform w e = withRooms w (place w.server.roomService (e.placement w)) := by
  have store : (perform w e).store = w.store :=
    final_keeps (M := chat database) (fun now => now.store = w.store)
      (fun choice _ now spares same => (spares choice now.store).trans same)
      (spares_asked e) e.choices rfl
  have mine : userOn w e.session = user := by
    unfold userOn
    rw [who]
  have server : (perform w e).server =
      (withRooms w (place w.server.roomService (e.placement w))).server := by
    obtain ⟨session, act, choices⟩ := e
    cases act with
    | join name =>
      unfold perform Asked.handler
      rw [final_handleRoomOperation session ⟨.join, name⟩ choices w who]
      simp only [withRooms, place, Asked.placement, Asked.found, mine, roomAfter]
      cases roomFound choices name w.store with
      | error e => rfl
      | ok found => cases found <;> rfl
    | leave name =>
      unfold perform Asked.handler
      rw [final_handleRoomOperation session ⟨.leave, name⟩ choices w who]
      simp only [withRooms, place, Asked.placement, mine, roomAfter]
    | disconnect =>
      unfold perform Asked.handler
      rw [final_handleDisconnect session choices w who]
      simp only [withRooms, place, Asked.placement, mine]
  exact congr (congrArg World.mk server) store

def Known (w : World database) (e : Asked) : Prop := (w.server.session e.session).identity ≠ none

theorem perform_known {w : World database} {e : Asked} (known : Known w e) :
    perform w e = withRooms w (place w.server.roomService (e.placement w)) := by
  obtain ⟨identity, who⟩ := Option.ne_none_iff_exists'.mp known
  exact perform_eq who

theorem after_perform {w : World database} {asked : List Asked} (known : ∀ e ∈ asked, Known w e) :
    after perform w asked =
      withRooms w (after place w.server.roomService (asked.map (fun e => e.placement w))) := by
  have general : ∀ r, after perform (withRooms w r) asked =
      withRooms w (after place r (asked.map (fun e => e.placement w))) := by
    induction asked with
    | nil =>
      intro r
      rfl
    | cons e rest ih =>
      intro r
      have first : perform (withRooms w r) e = withRooms w (place r (e.placement w)) :=
        perform_known (w := withRooms w r) (known e List.mem_cons_self)
      have rest_known : ∀ d ∈ rest, Known w d := fun d later =>
        known d (List.mem_cons_of_mem e later)
      simp only [after, List.foldl_cons, List.map_cons, first]
      exact ih rest_known (place r (e.placement w))
  exact general w.server.roomService

theorem finds_row (w : World database) (e : Asked) :
    FindsOnly (RowNamed (roomRows w)) (e.placement w) := by
  intro name room act found
  have join : e.act = .join name := act
  simp only [Asked.placement, Asked.found, join] at found
  exact found_stored found

theorem row_unique (w : World database) (name : String) (a b : Room)
    (first : RowNamed (roomRows w) name a) (second : RowNamed (roomRows w) name b) : a = b :=
  same_name_same_row first.1 second.1 (Eq.trans first.2 (Eq.symm second.2))

/-- Every active room stands as the row of its name would make it. -/
def Rebuilds (w : World database) : Prop :=
  Rebuildable (RowNamed (roomRows w)) w.server.roomService

theorem asked_reordered {w : World database} (h : Rebuilds w) {first second : List Asked}
    (known_first : ∀ e ∈ first, Known w e) (known_second : ∀ e ∈ second, Known w e)
    (same : ∀ user, own (fun e : Asked => userOn w e.session) user first =
      own (fun e : Asked => userOn w e.session) user second) :
    after perform w first = after perform w second := by
  have finds : ∀ asked : List Asked, ∀ p ∈ asked.map (fun e => e.placement w),
      FindsOnly (RowNamed (roomRows w)) p := by
    intro asked p placed
    obtain ⟨e, _, made⟩ := List.mem_map.mp placed
    rw [← made]
    exact finds_row w e
  rw [after_perform known_first, after_perform known_second]
  apply congrArg (withRooms w)
  apply reordered (place_local (row_unique w)) (finds first) (finds second) _ h
  intro user
  have mapped := congrArg (List.map (fun e : Asked => e.placement w)) (same user)
  simpa [own, List.filter_map, Function.comp_def, Asked.placement] using mapped

theorem rebuilds_next {w : World database} (h : Rebuilds w) (choice : Choice database) {c : Call}
    (enters : EntersAs (RowNamed (roomRows w)) c) :
    Rebuilds ((chat database).next choice c w) := by
  have live := liveOnly_next h.1 enters
  refine ⟨liveOnly_mono live ?_, occupied_next h.2 c⟩
  intro name row named
  exact ⟨rows_next choice c w named.1, named.2⟩

theorem rebuilds_start (tables : Tables) : Rebuilds ⟨.start, tables⟩ := by
  refine ⟨liveOnly_empty, ?_⟩
  intro name room there
  simp [Server.start, RoomService.empty] at there

variable [Sha256]

theorem rebuilds_job {w : World database} (h : Rebuilds w) (e : JobRun) :
    Rebuilds (runJob w e) := by
  have enters := entersRow_job 0 e.job (w, [])
  exact kept_alone keepsRooms_refl
    (fun _ choice _ kept enters => rebuilds_next kept choice enters) enters h e.choices

theorem rebuilds_jobs (tables : Tables) (events : List JobRun) :
    Rebuilds (after runJob ⟨.start, tables⟩ events) := by
  have always : EveryStep runJob (fun _ _ => True) ⟨.start, tables⟩ events :=
    everyStep_of_forall (fun _ _ => trivial) _ events
  exact everyState_last (everyState_of_everyStep (P := Rebuilds) (fun _ e h _ => rebuilds_job h e)
    (rebuilds_start tables) always)

/-- From any tables and after any jobs, one after the other: two users who ask for JOIN,
    LEAVE or a disconnect leave the same maps whichever of them comes first. -/
theorem different_users_commute (tables : Tables) (events : List JobRun) (a b : Asked)
    {first second : Int} {name other : String}
    (asks : ((after runJob ⟨.start, tables⟩ events).server.session a.session).identity =
      some (first, name))
    (asks' : ((after runJob ⟨.start, tables⟩ events).server.session b.session).identity =
      some (second, other))
    (apart : first ≠ second) :
    (perform (perform (after runJob ⟨.start, tables⟩ events) a) b).server.roomService =
      (perform (perform (after runJob ⟨.start, tables⟩ events) b) a).server.roomService := by
  have h := rebuilds_jobs tables events
  generalize after runJob ⟨.start, tables⟩ events = w at asks asks' h
  have users : userOn w a.session ≠ userOn w b.session := by
    simp only [userOn, asks, asks']
    exact apart
  have known : Known w a ∧ Known w b := by
    unfold Known
    rw [asks, asks']
    exact ⟨by simp, by simp⟩
  have swapped : ∀ user, own (fun e : Asked => userOn w e.session) user [a, b] =
      own (fun e : Asked => userOn w e.session) user [b, a] := own_swap users
  have same : after perform w [a, b] = after perform w [b, a] :=
    asked_reordered h (by simp [known.1, known.2]) (by simp [known.1, known.2]) swapped
  exact congrArg (fun w : World database => w.server.roomService) same

end Handlers

section AnnAndBob

local instance : Collation := ⟨id⟩

local instance : Sha256 := ⟨id⟩

def annInHall : List JobRun :=
  [accountJob 1 (.registrationRequest ⟨"ann", "pw"⟩),
    accountJob 2 (.registrationRequest ⟨"bob", "pw"⟩),
    accountJob 1 (.loginRequest ⟨"ann", "pw"⟩), accountJob 2 (.loginRequest ⟨"bob", "pw"⟩),
    accountJob 1 (.roomOperationRequest ⟨.create, "hall"⟩)]

def annLeaves : Asked := ⟨1, .leave "hall", working⟩

def bobJoins : Asked := ⟨2, .join "hall", working⟩

/-- The room is erased and rebuilt in one order, and kept in the other. -/
theorem different_users_commute_hall :
    (perform (perform (after runJob ⟨.start, .empty⟩ annInHall) annLeaves)
        bobJoins).server.roomService =
      (perform (perform (after runJob ⟨.start, .empty⟩ annInHall) bobJoins)
        annLeaves).server.roomService :=
  different_users_commute .empty annInHall annLeaves bobJoins (show _ = some (1, "ann") by decide)
    (show _ = some (2, "bob") by decide) (by decide)

end AnnAndBob

end CommutingRooms
