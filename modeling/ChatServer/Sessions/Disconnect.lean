import ChatServer.Atomic.Runs
import ChatServer.Sessions.Jobs
import ChatServer.Sessions.Tidy

/-!
What a disconnect deletes. It goes by the user id and the name of the session, so it
deletes the session's own entries and no others exactly while each live session is the
only one that carries its id and its name.
-/
namespace ExactDisconnect
open AtomicCalls EventRuns ChatProtocol ChatState ChatCalls ChatServices ChatEffects
  AccountHandlers JobEffects RoomMaps SessionMaps TidySessions

/-- The entries of `after` are those of `before` without the session's. -/
structure Deletes (id : SessionId) (before after : Server) : Prop where
  byId : ∀ k : Int, after.sessionManager.sessionsByUserId[k]? =
    if before.sessionManager.sessionsByUserId[k]? = some id then none
    else before.sessionManager.sessionsByUserId[k]?
  byName : ∀ n : String, after.sessionManager.sessionsByUsername[n]? =
    if before.sessionManager.sessionsByUsername[n]? = some id then none
    else before.sessionManager.sessionsByUsername[n]?
  members : ∀ r u, memberSession after.roomService.activeRooms r u =
    if memberSession before.roomService.activeRooms r u = some id then none
    else memberSession before.roomService.activeRooms r u
  seated : ∀ u : Int, (∃ r, memberSession before.roomService.activeRooms r u = some id) →
    after.roomService.userToRoomMap[u]? = none
  others : ∀ u : Int, (∀ r, memberSession before.roomService.activeRooms r u ≠ some id) →
    after.roomService.userToRoomMap[u]? = before.roomService.userToRoomMap[u]?

/-- Every live session is listed under its id and its name, and sits where its user does. -/
structure Owned (s : Server) (gone : List SessionId) : Prop where
  tidy : Tidy s
  listed : ∀ id ∉ gone, ∀ k n, (s.session id).identity = some (k, n) →
    s.sessionManager.sessionsByUserId[k]? = some id ∧
      s.sessionManager.sessionsByUsername[n]? = some id
  seated : ∀ id ∉ gone, ∀ k n, (s.session id).identity = some (k, n) →
    ∀ r : String, s.roomService.userToRoomMap[k]? = some r →
      memberSession s.roomService.activeRooms r k = some id

def NobodyElse (s : Server) (gone : List SessionId) (id : SessionId)
    (carries : Int → String → Prop) : Prop :=
  ∀ other ∉ gone, other ≠ id → ∀ l m, (s.session other).identity = some (l, m) → ¬ carries l m

theorem deletes_of_owned {s : Server} {gone : List SessionId} (owned : Owned s gone)
    {id : SessionId} (live : id ∉ gone) {k : Int} {n : String}
    (who : (s.session id).identity = some (k, n)) : Deletes id s (afterDisconnect id s) := by
  obtain ⟨heldId, heldName⟩ := owned.listed id live k n who
  have seat := owned.seated id live k n who
  have tidy := owned.tidy
  have after : afterDisconnect id s =
      { s.removeSession id with roomService := s.roomService.vacate k } := by
    simp only [afterDisconnect, who]
    rfl
  rw [after]
  constructor
  · intro l
    dsimp only
    rw [byId_remove who]
    by_cases here : l = k
    · rw [if_pos here, here, if_pos heldId]
    · have other : s.sessionManager.sessionsByUserId[l]? ≠ some id := by
        intro held
        have known := tidy.byId l id held
        rw [(identity_some who).2.1] at known
        cases known
        exact here rfl
      rw [if_neg here, if_neg other]
  · intro m
    dsimp only
    rw [byName_remove who]
    by_cases here : m = n
    · rw [if_pos here, here, if_pos heldName]
    · have other : s.sessionManager.sessionsByUsername[m]? ≠ some id := by
        intro held
        have known := tidy.byName m id held
        rw [(identity_some who).2.2] at known
        cases known
        exact here rfl
      rw [if_neg here, if_neg other]
  · intro r u
    dsimp only
    rw [memberSession_vacate]
    by_cases here : u = k ∧ s.roomService.userToRoomMap[k]? = some r
    · rw [if_pos here, here.1, if_pos (seat r here.2)]
    · have other : memberSession s.roomService.activeRooms r u ≠ some id := by
        intro held
        obtain ⟨known, seated⟩ := tidy.seats r u id held
        rw [(identity_some who).2.1] at known
        cases known
        exact here ⟨rfl, seated⟩
      rw [if_neg here, if_neg other]
  · intro u member
    obtain ⟨r, held⟩ := member
    have known := (tidy.seats r u id held).1
    rw [(identity_some who).2.1] at known
    cases known
    dsimp only
    rw [map_vacate, if_pos rfl]
  · intro u nowhere
    dsimp only
    rw [map_vacate]
    by_cases here : u = k
    · rw [if_pos here, here]
      cases place : s.roomService.userToRoomMap[k]? with
      | none => rfl
      | some r =>
        rw [here] at nowhere
        exact absurd (seat r place) (nowhere r)
    · rw [if_neg here]

section Steps
variable {s : Server} {gone : List SessionId} (owned : Owned s gone) {id : SessionId} {k : Int}
  {n : String}
include owned

theorem owned_register
    (same_identity : ∀ l m, (s.session id).identity = some (l, m) → l = k ∧ m = n)
    (alone : NobodyElse s gone id (fun l m => l = k ∨ m = n))
    (seat : id ∉ gone → ∀ r : String, s.roomService.userToRoomMap[k]? = some r →
      memberSession s.roomService.activeRooms r k = some id) :
    Owned (s.registerAuthenticatedSession id k n) gone := by
  refine ⟨tidy_register owned.tidy same_identity, ?_, ?_⟩
  · intro other live l m who
    rw [identity_register] at who
    rw [byId_register, byName_register]
    by_cases it : other = id
    · rw [if_pos it] at who
      cases who
      rw [if_pos rfl, if_pos rfl, it]
      exact ⟨rfl, rfl⟩
    · rw [if_neg it] at who
      have apart := alone other live it l m who
      rw [if_neg (fun same => apart (Or.inl same)), if_neg (fun same => apart (Or.inr same))]
      exact owned.listed other live l m who
  · intro other live l m who
    rw [identity_register] at who
    by_cases it : other = id
    · rw [if_pos it] at who
      cases who
      subst it
      exact seat live
    · rw [if_neg it] at who
      exact owned.seated other live l m who

theorem owned_rename (who : (s.session id).identity = some (k, n)) {newUsername : String}
    (alone : NobodyElse s gone id (fun _ m => m = newUsername ∨ m = n)) :
    Owned (s.updateUsername id newUsername) gone := by
  have name := (identity_some who).2.2
  have rooms : (s.updateUsername id newUsername).roomService = s.roomService := by
    simp only [Server.updateUsername, name, Server.setSession]
  refine ⟨tidy_rename owned.tidy newUsername, ?_, ?_⟩
  · intro other live l m someone
    rw [identity_rename _ _ who] at someone
    rw [byId_rename, byName_rename _ _ name]
    by_cases it : other = id
    · rw [if_pos it] at someone
      cases someone
      rw [it] at live
      rw [if_pos rfl, it]
      exact ⟨(owned.listed id live k n who).1, rfl⟩
    · rw [if_neg it] at someone
      have apart := alone other live it l m someone
      rw [if_neg (fun same => apart (Or.inl same)), if_neg (fun same => apart (Or.inr same))]
      exact owned.listed other live l m someone
  · intro other live l m someone
    rw [identity_rename _ _ who] at someone
    rw [rooms]
    by_cases it : other = id
    · rw [if_pos it] at someone
      cases someone
      rw [it] at live ⊢
      exact owned.seated id live k n who
    · rw [if_neg it] at someone
      exact owned.seated other live l m someone

theorem owned_join (who : (s.session id).identity = some (k, n))
    (alone : NobodyElse s gone id (fun l _ => l = k)) (name : String) (room : Room) :
    Owned { s with roomService := s.roomService.join k name room id } gone := by
  refine ⟨tidy_join owned.tidy (identity_some who).2.1 name room, owned.listed, ?_⟩
  intro other live l m someone r place
  dsimp only at someone place ⊢
  rw [map_join] at place
  rw [memberSession_join]
  by_cases same : l = k
  · rw [if_pos same] at place
    cases place
    rw [if_pos ⟨rfl, same⟩]
    by_contra different
    exact alone other live (fun it => different (by rw [it])) l m someone same
  · rw [if_neg same] at place
    rw [if_neg (fun here => same here.2), if_neg (fun here => same here.1)]
    exact owned.seated other live l m someone r place

theorem owned_create (who : (s.session id).identity = some (k, n))
    (alone : NobodyElse s gone id (fun l _ => l = k)) {name : String}
    (unseated : ∀ old, s.roomService.userToRoomMap[k]? = some old → old = name) (roomId : Int) :
    Owned { s with roomService := s.roomService.create k name roomId id } gone := by
  refine ⟨tidy_create owned.tidy (identity_some who).2.1 unseated roomId, owned.listed, ?_⟩
  intro other live l m someone r place
  dsimp only at someone place ⊢
  rw [map_create] at place
  rw [memberSession_create]
  by_cases same : l = k
  · rw [if_pos same] at place
    cases place
    rw [if_pos ⟨rfl, same⟩]
    by_contra different
    exact alone other live (fun it => different (by rw [it])) l m someone same
  · rw [if_neg same] at place
    rw [if_neg (fun here => same here.2)]
    exact owned.seated other live l m someone r place

theorem owned_vacate (user : Int) :
    Owned { s with roomService := s.roomService.vacate user } gone := by
  refine ⟨tidy_vacate owned.tidy user, owned.listed, ?_⟩
  intro other live l m someone r place
  dsimp only at someone place ⊢
  rw [map_vacate] at place
  rw [memberSession_vacate]
  by_cases same : l = user
  · rw [if_pos same] at place
    cases place
  · rw [if_neg same] at place
    rw [if_neg (fun here => same here.1)]
    exact owned.seated other live l m someone r place

theorem owned_leave (user : Int) (name : String) :
    Owned { s with roomService := s.roomService.leave user name } gone := by
  unfold RoomService.leave
  split
  · exact owned_vacate owned user
  · exact owned

theorem owned_remove (who : (s.session id).identity = some (k, n))
    (alone : NobodyElse s gone id (fun l m => l = k ∨ m = n)) :
    Owned (s.removeSession id) (id :: gone) := by
  refine ⟨tidy_remove owned.tidy, ?_, ?_⟩
  · intro other live l m someone
    have different := List.ne_of_not_mem_cons live
    have alive := List.not_mem_of_not_mem_cons live
    have apart := alone other alive different l m someone
    rw [byId_remove who, byName_remove who, if_neg (fun same => apart (Or.inl same)),
      if_neg (fun same => apart (Or.inr same))]
    exact owned.listed other alive l m someone
  · intro other live l m someone
    exact owned.seated other (List.not_mem_of_not_mem_cons live) l m someone

theorem owned_remove_anonymous (nobody : (s.session id).identity = none) :
    Owned (s.removeSession id) (id :: gone) := by
  obtain ⟨sameIds, sameNames⟩ := indexes_remove_anonymous nobody
  refine ⟨tidy_remove owned.tidy, ?_, ?_⟩
  · intro other live l m someone
    rw [sameIds, sameNames]
    exact owned.listed other (List.not_mem_of_not_mem_cons live) l m someone
  · intro other live l m someone
    exact owned.seated other (List.not_mem_of_not_mem_cons live) l m someone

end Steps

section Runs
variable [Sha256]

/-- The server, and the sessions whose disconnect has been handled. -/
structure History where
  world : World anyAnswers
  gone : List SessionId

def historyStep (h : History) (e : JobEvent) : History :=
  ⟨jobStep h.world e, match e.job with
    | .disconnect id => id :: h.gone
    | .dispatch _ _ => h.gone⟩

/-- Whichever logged-in session disconnects next, its disconnect deletes its own entries. -/
def ExactNext (h : History) : Prop :=
  ∀ id ∉ h.gone, (h.world.server.session id).authenticated = true → ∀ choices,
    Deletes id h.world.server
      ((onDisconnect id).final (chat anyAnswers) choices h.world).server

/-- A login: as before if the session was logged in, with no other live session under the
    id or the name, and no seat of the user that another session holds. -/
def LoginAlone (h : History) (session : SessionId) (m : LoginRequest)
    (choices : Nat → Choice anyAnswers) : Prop :=
  ∀ user, opened m (answered (choices 0) (.findByUsername m.username) h.world.store) = some user →
    (∀ l n, (h.world.server.session session).identity = some (l, n) →
      l = user.id ∧ n = user.username) ∧
    NobodyElse h.world.server h.gone session (fun l n => l = user.id ∨ n = user.username) ∧
    (session ∉ h.gone → ∀ r : String,
      h.world.server.roomService.userToRoomMap[user.id]? = some r →
      memberSession h.world.server.roomService.activeRooms r user.id = some session)

/-- A rename that is let through and whose write does not throw: no other live session
    carries the new name, nor the old. -/
def RenameAlone (h : History) (session : SessionId) (m : ChangeUsernameRequest)
    (choices : Nat → Choice anyAnswers) : Prop :=
  ∀ k n user a, (h.world.server.session session).identity = some (k, n) →
    renamed m (answered (choices 3) (.findByUsername n) h.world.store)
      (answered (choices 4) (.findByUsername m.newUsername) h.world.store) = some user →
    answered (choices 5) (.updateUser user) h.world.store = .ok a →
    NobodyElse h.world.server h.gone session (fun _ l => l = m.newUsername ∨ l = n)

/-- A JOIN or CREATE that is granted: no other live session of the user, and no CREATE
    for a user who is seated in another room. -/
def RoomAlone (h : History) (session : SessionId) (m : RoomOperationRequest)
    (choices : Nat → Choice anyAnswers) : Prop :=
  ∀ k n, (h.world.server.session session).identity = some (k, n) →
    (m.operation = .join →
      (∃ room, roomFound (later choices) m.roomName h.world.store = .ok (some room)) →
      NobodyElse h.world.server h.gone session (fun l _ => l = k)) ∧
    (m.operation = .create →
      roomFound (later choices) m.roomName h.world.store = .ok none →
      (∃ roomId, roomAdded (later choices) k m.roomName h.world.store = .ok (some roomId)) →
      NobodyElse h.world.server h.gone session (fun l _ => l = k) ∧
      ∀ old, h.world.server.roomService.userToRoomMap[k]? = some old → old = m.roomName)

def DisconnectAlone (h : History) (session : SessionId) : Prop :=
  ∀ k n, (h.world.server.session session).identity = some (k, n) →
    NobodyElse h.world.server h.gone session (fun l m => l = k ∨ m = n)

def JobAlone (h : History) (e : JobEvent) : Prop :=
  match e.job with
  | .disconnect session => DisconnectAlone h session
  | .dispatch session envelope => match envelope.payload with
    | some (.loginRequest m) => LoginAlone h session m e.choices
    | some (.changeUsernameRequest m) => RenameAlone h session m e.choices
    | some (.roomOperationRequest m) => RoomAlone h session m e.choices
    | _ => True

section Jobs
variable {h : History} (owned : Owned h.world.server h.gone) (session : SessionId)
  (choices : Nat → Choice anyAnswers)
include owned

theorem owned_login (m : LoginRequest) (alone : LoginAlone h session m choices) :
    Owned (afterLogin session m choices h.world) h.gone := by
  unfold afterLogin
  split
  · rename_i user accepted
    obtain ⟨same, others, seat⟩ := alone user accepted
    exact owned_register owned same others seat
  · exact owned

omit [Sha256] in
theorem owned_changeUsername (m : ChangeUsernameRequest) {k : Int} {n : String}
    (who : (h.world.server.session session).identity = some (k, n))
    (alone : RenameAlone h session m choices) :
    Owned (afterRename session m choices h.world n) h.gone := by
  unfold afterRename
  split
  · rename_i user through
    cases write : answered (choices 5) (.updateUser user) h.world.store with
    | error e => exact owned
    | ok a => exact owned_rename owned who (alone k n user a who through write)
  · exact owned

omit [Sha256] in
theorem owned_rooms (m : RoomOperationRequest) {k : Int} {n : String}
    (who : (h.world.server.session session).identity = some (k, n))
    (alone : RoomAlone h session m choices) :
    Owned (afterRooms session m choices h.world k) h.gone := by
  obtain ⟨joins, creates⟩ := alone k n who
  unfold afterRooms roomAfter
  split
  · rename_i room op found
    exact owned_join owned who (joins op ⟨room, found⟩) m.roomName room
  · exact owned_leave owned k m.roomName
  · rename_i roomId op found added
    obtain ⟨others, unseated⟩ := creates op found ⟨roomId, added⟩
    exact owned_create owned who others unseated roomId
  · exact owned

omit [Sha256] in
theorem owned_disconnect (alone : DisconnectAlone h session) :
    Owned (afterDisconnect session h.world.server) (session :: h.gone) := by
  unfold afterDisconnect
  cases who : (h.world.server.session session).identity with
  | none => exact owned_remove_anonymous owned who
  | some identity =>
    obtain ⟨k, n⟩ := identity
    exact owned_remove (owned_vacate owned k) who (alone k n who)

end Jobs

theorem owned_historyStep (h : History) (e : JobEvent) (owned : Owned h.world.server h.gone)
    (alone : JobAlone h e) : Owned (historyStep h e).world.server (historyStep h e).gone := by
  obtain ⟨job, choices⟩ := e
  have effect := final_job job choices h.world
  cases job with
  | disconnect session =>
    simp only [historyStep, jobStep]
    rw [effect]
    exact owned_disconnect owned session alone
  | dispatch session envelope =>
    simp only [historyStep, jobStep]
    rw [effect]
    obtain ⟨messageId, payload⟩ := envelope
    simp only [serverAfter, JobAlone] at alone ⊢
    split
    · rename_i m
      exact owned_login owned session choices m alone
    · cases who : (h.world.server.session session).identity with
      | none => exact owned
      | some identity =>
        obtain ⟨k, n⟩ := identity
        simp only [afterRequest]
        split
        · exact owned_changeUsername owned session choices _ who alone
        · exact owned_rooms owned session choices _ who alone
        · exact owned

omit [Sha256] in
theorem exactNext_of_owned (h : History) (owned : Owned h.world.server h.gone) : ExactNext h := by
  intro id live present choices
  obtain ⟨k, n, who⟩ := identity_authenticated present
  rw [final_onDisconnect]
  exact deletes_of_owned owned live who

omit [Sha256] in
theorem owned_start : Owned Server.start [] := by
  refine ⟨tidy_start, ?_, ?_⟩
  · intro id _ k n who
    simp [Server.start, Session.fresh, Session.identity] at who
  · intro id _ k n who
    simp [Server.start, Session.fresh, Session.identity] at who

/-- From the empty server: in a run in which every session that logs in, renames, enters
    a room or disconnects is the only live one of its user, each disconnect to come
    deletes exactly the session's own entries. -/
theorem disconnects_are_exact (events : List JobEvent)
    (alone : EveryStep historyStep JobAlone ⟨⟨.start, ()⟩, []⟩ events) :
    EveryState historyStep ExactNext ⟨⟨.start, ()⟩, []⟩ events :=
  everyState_mono exactNext_of_owned
    (everyState_of_everyStep owned_historyStep owned_start alone)

end Runs

section Hall

local instance : Sha256 := ⟨id⟩

def annLogsIn (session : SessionId) : JobEvent :=
  ⟨.dispatch session ⟨"", some (.loginRequest ⟨"ann", "pw"⟩)⟩, fun _ => ⟨fun q => match q with
    | .findByUsername name => .ok (some ⟨1, name, "pw", ""⟩)
    | q => .ok q.fallback, none, ⟨0, 0⟩⟩⟩

def bobLogsIn (session : SessionId) : JobEvent :=
  ⟨.dispatch session ⟨"", some (.loginRequest ⟨"bob", "pw"⟩)⟩, fun _ => ⟨fun q => match q with
    | .findByUsername name => .ok (some ⟨2, name, "pw", ""⟩)
    | q => .ok q.fallback, none, ⟨0, 0⟩⟩⟩

def joinsHall (session : SessionId) : JobEvent :=
  ⟨.dispatch session ⟨"", some (.roomOperationRequest ⟨.join, "hall"⟩)⟩, fun _ => ⟨fun q =>
    match q with
    | .findByRoomName name => .ok (some ⟨1, name, 1⟩)
    | q => .ok q.fallback, none, ⟨0, 0⟩⟩⟩

def bothJoined : List JobEvent := [annLogsIn 7, bobLogsIn 8, joinsHall 7, joinsHall 8]

def afterwards (events : List JobEvent) : History := after historyStep ⟨⟨.start, ()⟩, []⟩ events

def annOnly : SessionId → Session :=
  Function.update (fun _ => .fresh) 7 (Session.fresh.setAuthenticated 1 "ann")

def annAndBob : SessionId → Session :=
  Function.update annOnly 8 (Session.fresh.setAuthenticated 2 "bob")

theorem identity_update {sessions : SessionId → Session} {id other : SessionId} {k l : Int}
    {n m : String} (who : (Function.update sessions id (Session.fresh.setAuthenticated k n)
      other).identity = some (l, m)) :
    other = id ∧ l = k ∧ m = n ∨ (sessions other).identity = some (l, m) := by
  by_cases same : other = id
  · rw [same, Function.update_self] at who
    cases who
    exact Or.inl ⟨same, rfl, rfl⟩
  · rw [Function.update_of_ne same] at who
    exact Or.inr who

theorem known_annOnly {other : SessionId} {l : Int} {m : String}
    (who : (annOnly other).identity = some (l, m)) : other = 7 ∧ l = 1 ∧ m = "ann" := by
  rcases identity_update who with ann | fresh
  · exact ann
  · cases fresh

theorem known_annAndBob {other : SessionId} {l : Int} {m : String}
    (who : (annAndBob other).identity = some (l, m)) :
    other = 8 ∧ l = 2 ∧ m = "bob" ∨ other = 7 ∧ l = 1 ∧ m = "ann" := by
  rcases identity_update who with bob | earlier
  · exact Or.inl bob
  · exact Or.inr (known_annOnly earlier)

/-- Ann and Bob sit in one room when Ann disconnects. -/
theorem disconnects_are_exact_hall :
    memberSession (afterwards bothJoined).world.server.roomService.activeRooms "hall" 1 = some 7 ∧
      memberSession (afterwards bothJoined).world.server.roomService.activeRooms "hall" 2 = some 8 ∧
        EveryState historyStep ExactNext ⟨⟨.start, ()⟩, []⟩
          (bothJoined ++ [⟨.disconnect 7, (annLogsIn 7).choices⟩]) := by
  refine ⟨by decide, by decide, disconnects_are_exact _ ⟨?_, ?_, ?_, ?_, ?_, trivial⟩⟩
  · intro user opens
    refine ⟨?_, ?_, ?_⟩
    · intro l n who
      cases who
    · intro other _ _ l m who
      cases who
    · intro _ r place
      simp [Server.start, RoomService.empty] at place
  · intro user opens
    cases opens
    refine ⟨?_, ?_, ?_⟩
    · intro l n who
      cases who
    · intro other _ _ l m who carries
      obtain ⟨_, id, name⟩ := known_annOnly who
      simp [id, name] at carries
    · intro _ r place
      have nowhere : (afterwards
          [annLogsIn 7]).world.server.roomService.userToRoomMap[(2 : Int)]? = none := by decide
      cases nowhere.symm.trans place
  · intro k n who
    cases who
    refine ⟨?_, fun create => by cases create⟩
    intro _ _ other _ apart l m known same
    rcases known_annAndBob known with ⟨_, id, _⟩ | ⟨here, _, _⟩
    · exact absurd (id.symm.trans same) (by decide)
    · exact apart here
  · intro k n who
    cases who
    refine ⟨?_, fun create => by cases create⟩
    intro _ _ other _ apart l m known same
    rcases known_annAndBob known with ⟨here, _, _⟩ | ⟨_, id, _⟩
    · exact apart here
    · exact absurd (id.symm.trans same) (by decide)
  · intro k n who
    cases who
    intro other _ apart l m known carries
    rcases known_annAndBob known with ⟨_, id, name⟩ | ⟨here, _, _⟩
    · simp [id, name] at carries
    · exact apart here

theorem second_login_not_exact :
    ¬ EveryState historyStep ExactNext ⟨⟨.start, ()⟩, []⟩ [annLogsIn 7, annLogsIn 8] := by
  intro all
  have last := everyState_last all
  have deletes := last 7 (by decide) (by decide) (annLogsIn 7).choices
  have kept := deletes.byId 1
  exact absurd kept (by decide)

end Hall

end ExactDisconnect
