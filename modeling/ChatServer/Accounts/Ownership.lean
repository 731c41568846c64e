import ChatServer.Accounts.Handlers
import ChatServer.Atomic.Runs
import ChatServer.Model.Database

/-!
Whose row a session changes. The two change handlers find the row by the name the
session remembers, so all rests on that name leading to nobody else's row. `OwnName`
says so of one session. Logins and password changes keep it for all sessions; a new
row and a rename can break it for a session that remembers the name they take.
-/
namespace AccountOwnership
open AtomicCalls EventRuns ChatProtocol ChatState ChatCalls ChatServices ChatDatabase
  ChatEffects AccountHandlers

section Names
variable [Collation]

/-- No row but their own answers to the name of who is logged in. -/
def OwnName (users : Table User) (s : Session) : Prop :=
  ∀ userId username, s.identity = some (userId, username) →
    ∀ row ∈ users.rows, SameName row.username username → row.id = userId

theorem ownName_setAuthenticated {users : Table User} {row : User} (stored : row ∈ users.rows)
    (s : Session) : OwnName users (s.setAuthenticated row.id row.username) := by
  intro userId username who other present same
  rw [identity_setAuthenticated] at who
  cases who
  have one : other = row := same_name_same_row present stored same
  rw [one]

theorem ownName_insert {users : Table User} {s : Session} (own : OwnName users s) (row : User)
    (free : users.Free (Row.name row))
    (unused : ∀ userId username, s.identity = some (userId, username) →
      ¬ SameName username row.username) :
    OwnName (users.insert row free) s := by
  intro userId username who other present same
  rcases mem_insert.mp present with old | new
  · exact own userId username who other old same
  · rw [new] at same
    exact absurd (Eq.symm same) (unused userId username who)

theorem ownName_update {users : Table User} {s : Session} (own : OwnName users s) (user : User)
    (free : users.FreeFor user.id user.username)
    (taken : ∀ userId username, s.identity = some (userId, username) →
      SameName username user.username → userId = user.id) :
    OwnName (updateUsers users user free) s := by
  intro userId username who other present same
  obtain ⟨old, stored, changed⟩ := mem_updateUsers.mp present
  subst changed
  by_cases it : old.id = user.id
  · simp only [withColumns, it, ↓reduceIte] at same ⊢
    exact (taken userId username who (Eq.symm same)).symm
  · simp only [withColumns, it, ↓reduceIte] at same ⊢
    exact own userId username who old stored same

theorem ownName_setUsername {users : Table User} {s : Session} {userId : Int} {username : String}
    (who : s.identity = some (userId, username)) {newUsername : String}
    (free : users.FreeFor userId newUsername) : OwnName users (s.setUsername newUsername) := by
  intro otherId otherName someone row present same
  rw [identity_setUsername who] at someone
  cases someone
  by_contra apart
  exact free row present apart same

theorem freeFor_updateUsers {users : Table User} {user : User}
    (free : users.FreeFor user.id user.username) :
    (updateUsers users user free).FreeFor user.id user.username := by
  intro row present apart same
  obtain ⟨old, stored, changed⟩ := mem_updateUsers.mp present
  subst changed
  rw [withColumns_id] at apart
  have kept : withColumns user old = old := if_neg apart
  rw [kept] at same
  exact free old stored apart same

end Names

inductive AccountRequest where
  | register (m : RegistrationRequest)
  | login (m : LoginRequest)
  | changePassword (m : ChangePasswordRequest)
  | changeUsername (m : ChangeUsernameRequest)

def AccountRequest.payload : AccountRequest → Payload
  | .register m => .registrationRequest m
  | .login m => .loginRequest m
  | .changePassword m => .changePasswordRequest m
  | .changeUsername m => .changeUsernameRequest m

structure AccountEvent [Collation] where
  session : SessionId
  messageId : String
  request : AccountRequest
  choices : Nat → Choice database

section Runs
variable [Collation] [Sha256]

def AccountEvent.handler (e : AccountEvent) : Handler :=
  dispatchMessage e.session ⟨e.messageId, some e.request.payload⟩

def accountStep (w : World database) (e : AccountEvent) : World database :=
  e.handler.final (chat database) e.choices w

/-- The row of every update has the id the session is logged in as. -/
def UpdatesOwnRow (w : World database) (e : AccountEvent) : Prop :=
  ∀ made ∈ e.handler.trace (chat database) e.choices w,
    ∀ user, made.call = .repository (.updateUser user) →
      (made.state.server.session e.session).userId = some user.id

/-- A registration that is stored under a name some session is logged in with. -/
def RegistersNameInUse (w : World database) (e : AccountEvent) : Prop :=
  ∃ m row other userId username, e.request = .register m ∧
    registered m (answered (e.choices 0) (.findByUsername m.username) w.store)
      (e.choices 1).salt = some row ∧
    Stored (e.choices 2).store (.addUser row) w.store ∧
    (w.server.session other).identity = some (userId, username) ∧ SameName username m.username

def RenameGoesThrough (w : World database) (e : AccountEvent) (m : ChangeUsernameRequest)
    (username : String) : Prop :=
  ∃ user, answered (e.choices 3) (.findByUsername username) w.store = .ok (some user) ∧
    answered (e.choices 4) (.findByUsername m.newUsername) w.store = .ok none ∧
    renameRefusal m user = none

/-- A rename that is stored while a session of another account is logged in with the new
    name, or that is lost, with the lookup before it, while a row of another account has
    the new name. -/
def RenamesToNameInUse (w : World database) (e : AccountEvent) : Prop :=
  ∃ m userId username, e.request = .changeUsername m ∧
    (w.server.session e.session).identity = some (userId, username) ∧
    RenameGoesThrough w e m username ∧
    (((e.choices 5).store.raises = none ∧ w.store.users.FreeFor userId m.newUsername ∧
        ∃ other otherId otherName,
          (w.server.session other).identity = some (otherId, otherName) ∧
          SameName otherName m.newUsername ∧ otherId ≠ userId) ∨
      (Lost (e.choices 5).store ∧ ¬ w.store.users.FreeFor userId m.newUsername))

def OwnNames (w : World database) : Prop :=
  ∀ session, OwnName w.store.users (w.server.session session)

@[simp] def NoUpdate : Call → Prop
  | .repository (.updateUser _) => False
  | _ => True

omit [Collation] in
theorem noUpdate_handleLogin (session : SessionId) (m : LoginRequest) :
    (handleLogin session m).Uses NoUpdate := by
  simp only [handleLogin, perform_bind, Program.Uses, NoUpdate, true_and]
  intro found
  cases found with
  | none => simp [sendError]
  | some user =>
    dsimp only
    split <;> simp [sendError]

omit [Collation] in
theorem noUpdate_handleRegister (session : SessionId) (m : RegistrationRequest) :
    (handleRegister session m).Uses NoUpdate := by
  simp only [handleRegister, perform_bind, Program.Uses, NoUpdate, true_and]
  intro found
  cases found with
  | some user => simp [sendError]
  | none =>
    simp only [Program.Uses, NoUpdate, true_and]
    intro salt added
    cases added <;> simp

omit [Sha256] in
theorem lookup_some {choice : Choice database} {name : String} {t : Tables} {row : User}
    (found : answered choice (.findByUsername name) t = .ok (some row)) :
    row ∈ t.users.rows ∧ SameName row.username name := by
  rcases stored_or_lost found with ⟨_, answer⟩ | ⟨_, answer⟩
  · exact find_some answer.symm
  · cases answer

omit [Sha256] in
theorem own_row {w : World database} (own : OwnNames w) {session : SessionId} {userId : Int}
    {username : String} (who : (w.server.session session).identity = some (userId, username))
    {choice : Choice database} {row : User}
    (found : answered choice (.findByUsername username) w.store = .ok (some row)) :
    row ∈ w.store.users.rows ∧ row.id = userId := by
  obtain ⟨stored, same⟩ := lookup_some found
  exact ⟨stored, own session userId username who row stored same⟩

theorem updatesOwnRow_of_ownNames {w : World database} (own : OwnNames w) (e : AccountEvent) :
    UpdatesOwnRow w e := by
  intro made present user update
  obtain ⟨session, messageId, request, choices⟩ := e
  cases request with
  | login m =>
    have inner : made ∈ (handleLogin session m).trace (chat database) choices w := present
    have other := trace_uses (noUpdate_handleLogin session m) choices w made inner
    simp [update] at other
  | register m =>
    have inner : made ∈ (handleRegister session m).trace (chat database) choices w := present
    have other := trace_uses (noUpdate_handleRegister session m) choices w made inner
    simp [update] at other
  | changePassword m =>
    obtain ⟨logged, inner⟩ := trace_requireAuthentication present (by simp [update])
    obtain ⟨userId, username, who⟩ := identity_authenticated logged
    obtain ⟨here, written⟩ := updates_handleChangePassword session _ w who m made inner user update
    obtain ⟨row, _, found, _, changed⟩ := repassworded_some written
    rw [here, changed, (own_row own who found).2]
    exact (identity_some who).2.1
  | changeUsername m =>
    obtain ⟨logged, inner⟩ := trace_requireAuthentication present (by simp [update])
    obtain ⟨userId, username, who⟩ := identity_authenticated logged
    obtain ⟨here, written⟩ := updates_handleChangeUsername session _ w who m made inner user update
    obtain ⟨row, found, _, _, changed⟩ := renamed_some written
    rw [here, changed, (own_row own who found).2]
    exact (identity_some who).2.1

theorem ownNames_login {w : World database} (own : OwnNames w) (session : SessionId)
    (m : LoginRequest) (choices : Nat → Choice database) :
    OwnNames ((handleLogin session m).final (chat database) choices w) := by
  rw [final_handleLogin]
  split
  · rename_i user accepted
    obtain ⟨stored, _⟩ := lookup_some (opened_some accepted).1
    intro other
    by_cases it : other = session
    · subst it
      simpa [Server.registerAuthenticatedSession, Server.setSession] using
        ownName_setAuthenticated stored (w.server.session other)
    · simpa [Server.registerAuthenticatedSession, Server.setSession, it] using own other
  · exact own

theorem ownNames_register {w : World database} (own : OwnNames w) (session : SessionId)
    (messageId : String) (m : RegistrationRequest) (choices : Nat → Choice database)
    (safe : ¬ RegistersNameInUse w ⟨session, messageId, .register m, choices⟩) :
    OwnNames ((handleRegister session m).final (chat database) choices w) := by
  rw [final_handleRegister]
  split
  · rename_i row accepted
    by_cases stored : Stored (choices 2).store (.addUser row) w.store
    · rw [next_stored stored]
      intro other
      apply ownName_insert (own other) row stored.2.1
      intro userId username who same
      obtain ⟨_, salt, fresh⟩ := registered_some accepted
      rw [fresh] at same
      exact safe ⟨m, row, other, userId, username, rfl, accepted, stored, who, same⟩
    · rw [next_not_stored stored]
      exact own
  · exact own

theorem ownNames_changePassword {w : World database} (own : OwnNames w) {session : SessionId}
    {userId : Int} {username : String}
    (who : (w.server.session session).identity = some (userId, username))
    (m : ChangePasswordRequest) (choices : Nat → Choice database) :
    OwnNames ((handleChangePassword session m).final (chat database) choices w) := by
  rw [final_handleChangePassword session choices w who]
  split
  · rename_i user accepted
    obtain ⟨row, salt, found, _, changed⟩ := repassworded_some accepted
    have sameId : user.id = row.id := by rw [changed]
    have sameName : user.username = row.username := by rw [changed]
    obtain ⟨present, _⟩ := own_row own who found
    by_cases stored : Stored (choices 4).store (.updateUser user) w.store
    · rw [next_stored stored]
      intro other
      apply ownName_update (own other) user stored.2.1
      intro otherId otherName someone same
      rw [sameName] at same
      rw [sameId]
      exact (own other otherId otherName someone row present (Eq.symm same)).symm
    · rw [next_not_stored stored]
      exact own
  · exact own

omit [Collation] [Sha256] in
theorem session_renamed (s : Server) {session : SessionId} {username : String}
    (named : (s.session session).username = some username) (newUsername : String)
    (written : Except Exception Bool) (other : SessionId) :
    (serverRenamed session newUsername s written).session other = s.session other ∨
    (∃ a, written = .ok a) ∧ (serverRenamed session newUsername s written).session other =
      (s.session session).setUsername newUsername := by
  cases written with
  | error e => exact Or.inl rfl
  | ok a =>
    by_cases it : other = session
    · subst it
      exact Or.inr ⟨⟨a, rfl⟩,
        by simp [serverRenamed, Server.updateUsername, named, Server.setSession]⟩
    · exact Or.inl (by simp [serverRenamed, Server.updateUsername, named, Server.setSession, it])

omit [Sha256] in
theorem ownNames_changeUsername {w : World database} (own : OwnNames w) {session : SessionId}
    {userId : Int} {username : String}
    (who : (w.server.session session).identity = some (userId, username)) (messageId : String)
    (m : ChangeUsernameRequest) (choices : Nat → Choice database)
    (safe : ¬ RenamesToNameInUse w ⟨session, messageId, .changeUsername m, choices⟩) :
    OwnNames ((handleChangeUsername session m).final (chat database) (later choices) w) := by
  rw [final_handleChangeUsername session (later choices) w who]
  split
  · rename_i user accepted
    obtain ⟨row, found, taken, fits, changed⟩ := renamed_some accepted
    have sameId : user.id = userId := by
      rw [changed]
      exact (own_row own who found).2
    have sameName : user.username = m.newUsername := by rw [changed]
    have through : RenameGoesThrough w ⟨session, messageId, .changeUsername m, choices⟩ m username :=
      ⟨row, found, taken, fits⟩
    have renames := session_renamed w.server (identity_some who).2.2 m.newUsername
      (answered (later choices 4) (.updateUser user) w.store)
    intro other
    by_cases stored : Stored (later choices 4).store (.updateUser user) w.store
    · rw [next_stored stored]
      have free : w.store.users.FreeFor user.id user.username := stored.2.1
      rcases renames other with same | ⟨_, new⟩
      · simp only [same]
        apply ownName_update (own other) user free
        intro otherId otherName someone clash
        rw [sameId]
        by_contra apart
        rw [sameName] at clash
        rw [sameId, sameName] at free
        exact safe ⟨m, userId, username, rfl, who, through,
          Or.inl ⟨stored.1, free, other, otherId, otherName, someone, clash, apart⟩⟩
      · simp only [new]
        have open_to := freeFor_updateUsers free
        rw [sameId, sameName] at open_to
        exact ownName_setUsername who open_to
    · rw [next_not_stored stored]
      rcases renames other with same | ⟨⟨a, answer⟩, new⟩
      · simp only [same]
        exact own other
      · simp only [new]
        apply ownName_setUsername who
        by_contra taken_by_other
        rcases stored_or_lost answer with ⟨now_stored, _⟩ | ⟨lost, _⟩
        · exact stored now_stored
        · exact safe ⟨m, userId, username, rfl, who, through, Or.inr ⟨lost, taken_by_other⟩⟩
  · exact own

theorem ownNames_accountStep {w : World database} {e : AccountEvent} (own : OwnNames w)
    (safe : ¬ (RegistersNameInUse w e ∨ RenamesToNameInUse w e)) : OwnNames (accountStep w e) := by
  obtain ⟨session, messageId, request, choices⟩ := e
  cases request with
  | login m => exact ownNames_login own session m choices
  | register m =>
    exact ownNames_register own session messageId m choices (fun clash => safe (Or.inl clash))
  | changePassword m =>
    show OwnNames ((requireAuthentication session (handleChangePassword session m)).final
      (chat database) choices w)
    rw [final_requireAuthentication]
    split
    · rename_i present
      obtain ⟨userId, username, who⟩ := identity_authenticated present
      exact ownNames_changePassword own who m (later choices)
    · exact own
  | changeUsername m =>
    show OwnNames ((requireAuthentication session (handleChangeUsername session m)).final
      (chat database) choices w)
    rw [final_requireAuthentication]
    split
    · rename_i present
      obtain ⟨userId, username, who⟩ := identity_authenticated present
      exact ownNames_changeUsername own who messageId m choices (fun clash => safe (Or.inr clash))
    · exact own

omit [Sha256] in
theorem ownNames_start (tables : Tables) : OwnNames ⟨.start, tables⟩ := by
  intro session userId username who
  simp [Server.start, Session.fresh, Session.identity] at who

/-- From any tables and no sessions: a run changes only own rows, as long as no step
    takes a name that a session of another account is still logged in with. -/
theorem updates_own_rows (tables : Tables) (events : List AccountEvent)
    (safe : EveryStep accountStep
      (fun w e => ¬ (RegistersNameInUse w e ∨ RenamesToNameInUse w e)) ⟨.start, tables⟩ events) :
    EveryStep accountStep UpdatesOwnRow ⟨.start, tables⟩ events :=
  everyStep_of_everyStep (P := OwnNames) (fun _ _ => ownNames_accountStep)
    (fun _ e own _ => updatesOwnRow_of_ownNames own e) (ownNames_start tables) safe

def updateIds (session : SessionId) (trace : List (Event (chat database))) :
    List (Option Int × Int) :=
  trace.filterMap (fun made => match made.call with
    | .repository (.updateUser user) => some ((made.state.server.session session).userId, user.id)
    | _ => none)

theorem updateIds_own {w : World database} {e : AccountEvent} (own : UpdatesOwnRow w e)
    (ids : Option Int × Int)
    (updated : ids ∈ updateIds e.session (e.handler.trace (chat database) e.choices w)) :
    ids.1 = some ids.2 := by
  obtain ⟨made, present, read⟩ := List.mem_filterMap.mp updated
  split at read
  · rename_i user update
    cases read
    exact own made present user update
  · cases read

end Runs

section Takeover

local instance : Collation := ⟨id⟩

local instance : Sha256 := ⟨id⟩

def working : Nat → Choice database := fun _ => ⟨⟨none, 0, fun _ => 0⟩, some "salt", ⟨0, 0⟩⟩

theorem updates_own_rows_password : EveryStep accountStep UpdatesOwnRow ⟨.start, .empty⟩
    [⟨1, "", .register ⟨"ann", "old"⟩, working⟩, ⟨1, "", .login ⟨"ann", "old"⟩, working⟩,
      ⟨1, "", .changePassword ⟨"old", "new"⟩, working⟩] := by
  refine updates_own_rows .empty _ ⟨?_, ?_, ?_, trivial⟩
  · intro clash
    rcases clash with ⟨_, _, _, _, _, _, _, _, who, _⟩ | ⟨_, _, _, asked, _⟩
    · cases who
    · cases asked
  · intro clash
    rcases clash with ⟨_, _, _, _, _, asked, _⟩ | ⟨_, _, _, asked, _⟩ <;> cases asked
  · intro clash
    rcases clash with ⟨_, _, _, _, _, asked, _⟩ | ⟨_, _, _, asked, _⟩ <;> cases asked

/-- Ann is logged in twice and renamed on the first connection; somebody else registers
    her old name; her second connection then renames the newcomer. -/
def takeover : List AccountEvent :=
  [⟨1, "", .register ⟨"ann", "pw"⟩, working⟩, ⟨1, "", .login ⟨"ann", "pw"⟩, working⟩,
    ⟨2, "", .login ⟨"ann", "pw"⟩, working⟩, ⟨1, "", .changeUsername ⟨"anna"⟩, working⟩,
    ⟨3, "", .register ⟨"ann", "mine"⟩, working⟩, ⟨2, "", .changeUsername ⟨"bob"⟩, working⟩]

theorem takeover_updates_another_row :
    ¬ EveryStep accountStep UpdatesOwnRow ⟨.start, .empty⟩ takeover := by
  intro all
  obtain ⟨_, _, _, _, _, last, _⟩ := all
  have own := updateIds_own last (some 1, 2) (by decide)
  exact absurd own (by decide)

end Takeover

end AccountOwnership
