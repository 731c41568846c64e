import ChatServer.Accounts.Ownership
import ChatServer.Sessions.Jobs

/-!
Which password opens an account. Handlers run one at a time over the tables, and a
ledger beside them keeps, for each id, the password of the last registration or
password change that changed its row. Every row stays hashed from its entry in the
ledger, whatever wrote it last: a rename writes back the hash and the salt it has read
in the same state.
-/
namespace Passwords
open AtomicCalls EventRuns ChatProtocol ChatState ChatCalls ChatServices ChatDatabase
  ChatEffects AccountHandlers JobEffects AccountOwnership

section Tables
variable [Collation]

theorem findId_stored {t : Table User} {row : User} (stored : row ∈ t.rows) :
    t.findId row.id = some row := findId_some_iff.mpr ⟨stored, rfl⟩

theorem findId_insert {t : Table User} {row : User} (free : t.Free (Row.name row)) (id : Int) :
    (t.insert row free).findId id =
      if id = t.nextId then some { row with id := t.nextId } else t.findId id := by
  split
  · rename_i here
    exact findId_some_iff.mpr ⟨mem_insert.mpr (Or.inr rfl), here.symm⟩
  · rename_i other
    have apart : t.nextId ≠ id := Ne.symm other
    simp [Table.findId, Table.insert, List.find?_append, Row.withId, Row.id, apart]

theorem findId_updateUsers {t : Table User} {user : User}
    (free : t.FreeFor user.id user.username) (id : Int) :
    (updateUsers t user free).findId id = (t.findId id).map (withColumns user) := by
  have ids : ∀ row, Row.id (withColumns user row) = Row.id row := withColumns_id user
  simp only [Table.findId, updateUsers, List.find?_map, Function.comp_def, ids]

end Tables

@[simp] def SparesUsers : Call → Prop
  | .repository (.addUser _) => False
  | .repository (.updateUser _) => False
  | _ => True

theorem sparesUsers_messageCalls {p : Handler} (calls : p.Uses MessageCall) :
    p.Uses SparesUsers := by
  refine uses_mono ?_ calls
  intro c ok
  cases c with
  | repository query => cases query <;> simp_all
  | _ => trivial

theorem sparesUsers_notifyRoom (session : SessionId) (event : UserEventType) (userId : Int)
    (roomname : String) : (notifyRoom session event userId roomname).Uses SparesUsers :=
  uses_notifyRoom trivial (fun _ => trivial) (fun _ _ _ => trivial) roomname

theorem sparesUsers_handleRoomOperation (session : SessionId) (m : RoomOperationRequest) :
    (handleRoomOperation session m).Uses SparesUsers := by
  have notified : ∀ event userId success operation message,
      (notifyRoom session event userId m.roomName >>= fun _ =>
        sendRoomResponse session success operation m.roomName message).Uses SparesUsers := by
    intro event userId success operation message
    exact uses_bind (sparesUsers_notifyRoom session event userId m.roomName)
      (fun _ => ⟨trivial, fun _ => trivial⟩)
  simp only [handleRoomOperation, perform_bind, Program.Uses, SparesUsers, true_and]
  intro present
  split
  · simp only [Program.Uses, SparesUsers, true_and]
    intro userId
    cases m.operation with
    | join =>
      simp only [Program.Uses, SparesUsers, true_and]
      intro found
      cases found with
      | none => simp [sendRoomResponse]
      | some room => exact ⟨trivial, fun _ => notified _ _ _ _ _⟩
    | leave => exact ⟨trivial, fun _ => notified _ _ _ _ _⟩
    | create =>
      simp only [Program.Uses, SparesUsers, true_and]
      intro found
      cases found with
      | some room => simp [sendRoomResponse]
      | none =>
        simp only [Program.Uses, SparesUsers, true_and]
        intro added
        cases added <;> simp [sendRoomResponse]
    | other value => simp [sendRoomResponse]
  · trivial

section Spared
variable [Collation]

theorem users_next {c : Call} (spares : SparesUsers c) (choice : Choice database)
    (store : Tables) : (storeNext database choice c store).users = store.users := by
  cases c with
  | repository query =>
    cases query with
    | addRoom room =>
      by_cases stored : Stored choice.store (.addRoom room) store
      · simp only [storeNext, next_stored stored]
        rfl
      · simp only [storeNext, next_not_stored stored]
    | addMessage message =>
      by_cases stored : Stored choice.store (.addMessage message) store
      · simp only [storeNext, next_stored stored]
        rfl
      · simp only [storeNext, next_not_stored stored]
    | addUser user => cases spares
    | updateUser user => cases spares
    | _ => rfl
  | _ => rfl

theorem users_spared {p : Handler} (spares : p.Uses SparesUsers)
    (choices : Nat → Choice database) (w : World database) :
    (p.final (chat database) choices w).store.users = w.store.users :=
  final_keeps (M := chat database) (fun now => now.store.users = w.store.users)
    (fun choice _ now ok same => (users_next ok choice now.store).trans same) spares choices rfl

end Spared

section Writes
variable [Collation] [Sha256]

/-- A posted job that runs on its own over the tables, with what its calls meet. -/
structure JobRun where
  job : Job
  choices : Nat → Choice database

def runJob (w : World database) (e : JobRun) : World database :=
  e.job.handler.final (chat database) e.choices w

inductive UserWrite : Job → Table User → Table User → Prop where
  | none (job : Job) (users : Table User) : UserWrite job users users
  | register (session : SessionId) (messageId : String) (m : RegistrationRequest) (salt : String)
      (users : Table User) (free : users.Free m.username) :
      UserWrite (.dispatch session ⟨messageId, some (.registrationRequest m)⟩) users
        (users.insert ⟨0, m.username, hashPassword m.password salt, salt⟩ free)
  | changePassword (session : SessionId) (messageId : String) (m : ChangePasswordRequest)
      (row : User) (salt : String) (users : Table User) (stored : row ∈ users.rows)
      (free : users.FreeFor row.id row.username) :
      UserWrite (.dispatch session ⟨messageId, some (.changePasswordRequest m)⟩) users
        (updateUsers users
          { row with salt := salt, hashedPassword := hashPassword m.newPassword salt } free)
  | changeUsername (session : SessionId) (messageId : String) (m : ChangeUsernameRequest)
      (row : User) (users : Table User) (stored : row ∈ users.rows)
      (free : users.FreeFor row.id m.newUsername) :
      UserWrite (.dispatch session ⟨messageId, some (.changeUsernameRequest m)⟩) users
        (updateUsers users { row with username := m.newUsername } free)

theorem write_spared {p : Handler} (spares : p.Uses SparesUsers) (job : Job)
    (choices : Nat → Choice database) (w : World database) :
    UserWrite job w.store.users (p.final (chat database) choices w).store.users := by
  rw [users_spared spares]
  exact .none job w.store.users

theorem write_register (session : SessionId) (messageId : String) (m : RegistrationRequest)
    (choices : Nat → Choice database) (w : World database) :
    UserWrite (.dispatch session ⟨messageId, some (.registrationRequest m)⟩) w.store.users
      ((handleRegister session m).final (chat database) choices w).store.users := by
  rw [final_handleRegister]
  split
  · rename_i row accepted
    obtain ⟨_, salt, fresh⟩ := registered_some accepted
    by_cases stored : Stored (choices 2).store (.addUser row) w.store
    · rw [next_stored stored]
      subst fresh
      exact .register session messageId m salt w.store.users stored.2.1
    · rw [next_not_stored stored]
      exact .none _ w.store.users
  · exact .none _ w.store.users

theorem write_changePassword (session : SessionId) (messageId : String)
    (m : ChangePasswordRequest) (choices : Nat → Choice database) (w : World database)
    {userId : Int} {username : String}
    (who : (w.server.session session).identity = some (userId, username)) :
    UserWrite (.dispatch session ⟨messageId, some (.changePasswordRequest m)⟩) w.store.users
      ((handleChangePassword session m).final (chat database) choices w).store.users := by
  rw [final_handleChangePassword session choices w who]
  split
  · rename_i user accepted
    obtain ⟨row, salt, found, _, changed⟩ := repassworded_some accepted
    by_cases stored : Stored (choices 4).store (.updateUser user) w.store
    · rw [next_stored stored]
      subst changed
      exact .changePassword session messageId m row salt w.store.users (lookup_some found).1
        stored.2.1
    · rw [next_not_stored stored]
      exact .none _ w.store.users
  · exact .none _ w.store.users

theorem write_changeUsername (session : SessionId) (messageId : String)
    (m : ChangeUsernameRequest) (choices : Nat → Choice database) (w : World database)
    {userId : Int} {username : String}
    (who : (w.server.session session).identity = some (userId, username)) :
    UserWrite (.dispatch session ⟨messageId, some (.changeUsernameRequest m)⟩) w.store.users
      ((handleChangeUsername session m).final (chat database) choices w).store.users := by
  rw [final_handleChangeUsername session choices w who]
  split
  · rename_i user accepted
    obtain ⟨row, found, _, _, changed⟩ := renamed_some accepted
    by_cases stored : Stored (choices 4).store (.updateUser user) w.store
    · rw [next_stored stored]
      subst changed
      exact .changeUsername session messageId m row w.store.users (lookup_some found).1 stored.2.1
    · rw [next_not_stored stored]
      exact .none _ w.store.users
  · exact .none _ w.store.users

theorem write_requireAuthentication {handler : Handler} {job : Job} {session : SessionId}
    {w : World database}
    (behind : ∀ choices userId username,
      (w.server.session session).identity = some (userId, username) →
      UserWrite job w.store.users (handler.final (chat database) choices w).store.users)
    (choices : Nat → Choice database) :
    UserWrite job w.store.users
      ((requireAuthentication session handler).final (chat database) choices w).store.users := by
  rw [final_requireAuthentication]
  split
  · rename_i present
    obtain ⟨userId, username, who⟩ := identity_authenticated present
    exact behind (later choices) userId username who
  · exact .none job w.store.users

theorem users_step (w : World database) (e : JobRun) :
    UserWrite e.job w.store.users (runJob w e).store.users := by
  obtain ⟨job, choices⟩ := e
  cases job with
  | disconnect session =>
    have same : runJob w ⟨.disconnect session, choices⟩ = _ :=
      final_onDisconnect session choices w
    rw [same]
    exact .none _ w.store.users
  | dispatch session envelope =>
    obtain ⟨messageId, payload⟩ := envelope
    cases payload with
    | none =>
      exact write_requireAuthentication (fun _ _ _ _ => .none _ w.store.users) choices
    | some payload =>
      cases payload with
      | loginRequest m =>
        have same : runJob w ⟨.dispatch session ⟨messageId, some (.loginRequest m)⟩, choices⟩ = _ :=
          final_handleLogin session m choices w
        rw [same]
        split
        · exact .none _ w.store.users
        · exact .none _ w.store.users
      | registrationRequest m => exact write_register session messageId m choices w
      | changePasswordRequest m =>
        exact write_requireAuthentication
          (fun choices _ _ who => write_changePassword session messageId m choices w who) choices
      | changeUsernameRequest m =>
        exact write_requireAuthentication
          (fun choices _ _ who => write_changeUsername session messageId m choices w who) choices
      | publicMessage m =>
        have spares := sparesUsers_messageCalls (messageCalls_handlePublicMessage session m)
        exact write_requireAuthentication (fun _ _ _ _ => write_spared spares _ _ w) choices
      | privateMessageRequest m =>
        have spares := sparesUsers_messageCalls (messageCalls_handlePrivateMessage session m)
        exact write_requireAuthentication (fun _ _ _ _ => write_spared spares _ _ w) choices
      | roomOperationRequest m =>
        exact write_requireAuthentication
          (fun _ _ _ _ => write_spared (sparesUsers_handleRoomOperation session m) _ _ w) choices
      | historyMessageRequest m =>
        have spares := sparesUsers_messageCalls (messageCalls_handleHistoryRequest session m)
        exact write_requireAuthentication (fun _ _ _ _ => write_spared spares _ _ w) choices
      | _ => exact write_requireAuthentication (fun _ _ _ _ => .none _ w.store.users) choices

end Writes

section Ledgers
variable [Collation] [Sha256]

/-- The password a request means to give to the row it writes. -/
def givenPassword : Job → Option String
  | .dispatch _ ⟨_, some (.registrationRequest m)⟩ => some m.password
  | .dispatch _ ⟨_, some (.changePasswordRequest m)⟩ => some m.newPassword
  | _ => none

/-- The ledger after a job: the given password, where the row has changed. -/
def noted (given : Option String) (before after : Table User) (known : Int → Option String) :
    Int → Option String :=
  match given with
  | some password => fun id =>
    if after.findId id = before.findId id then known id else some password
  | none => known

structure Ledger where
  world : World database
  known : Int → Option String

def ledgerStep (l : Ledger) (e : JobRun) : Ledger where
  world := runJob l.world e
  known := noted (givenPassword e.job) l.world.store.users (runJob l.world e).store.users l.known

def columns (row : User) : String × String := (row.hashedPassword, row.salt)

/-- Every row is hashed from the ledger, or nobody has given it a password since `start`. -/
structure RowsRight (start users : Table User) (known : Int → Option String) : Prop where
  hashed : ∀ row ∈ users.rows, ∀ password, known row.id = some password →
    row.hashedPassword = hashPassword password row.salt
  untouched : ∀ row ∈ users.rows, known row.id = none →
    ∃ old ∈ start.rows, old.id = row.id ∧ columns old = columns row

def Opens (users : Table User) (id : Int) (password : String) : Prop :=
  ∃ row ∈ users.rows, row.id = id ∧ hashPassword password row.salt = row.hashedPassword

/-- SHA-256 keeps these two strings apart. -/
def NoCollision (a b : String) : Prop := Sha256.hexDigest a = Sha256.hexDigest b → a = b

def LogsInAs (session : SessionId) (m : LoginRequest) (choices : Nat → Choice database)
    (w : World database) (row : User) : Prop :=
  ∃ made ∈ (handleLogin session m).trace (chat database) choices w,
    made.call = .registerAuthenticatedSession session row.id row.username

structure PasswordsRight (start : Table User) (l : Ledger) : Prop where
  rows : RowsRight start l.world.store.users l.known
  opens : ∀ row ∈ l.world.store.users.rows, ∀ password, l.known row.id = some password →
    ∀ session (m : LoginRequest) choices,
      NoCollision (m.password ++ row.salt) (password ++ row.salt) →
      (LogsInAs session m choices l.world row ↔
        answered (choices 0) (.findByUsername m.username) l.world.store = .ok (some row) ∧
          m.password = password)

/-- Only a registration or a password change alters what opens an account, and a password
    change that is stored shuts out the password before it. -/
structure PasswordsKept (l : Ledger) (e : JobRun) : Prop where
  others : givenPassword e.job = none → ∀ id password,
    Opens (runJob l.world e).store.users id password ↔ Opens l.world.store.users id password
  replaced : ∀ session messageId m,
    e.job = .dispatch session ⟨messageId, some (.changePasswordRequest m)⟩ →
    ∀ made ∈ e.job.handler.trace (chat database) e.choices l.world, ∀ user,
      made.call = .repository (.updateUser user) →
      Stored made.choice.store (.updateUser user) made.state.store →
      Opens (runJob l.world e).store.users user.id m.newPassword ∧
      ∀ row ∈ l.world.store.users.rows, row.id = user.id → ∀ password,
        l.known user.id = some password →
        NoCollision (m.oldPassword ++ row.salt) (password ++ row.salt) →
        NoCollision (password ++ user.salt) (m.newPassword ++ user.salt) →
        ¬ Opens (runJob l.world e).store.users user.id password

omit [Collation] in
/-- The salt comes last in what is hashed, so equal strings have equal passwords. -/
theorem hashPassword_eq_iff {a b salt : String} (apart : NoCollision (a ++ salt) (b ++ salt)) :
    hashPassword a salt = hashPassword b salt ↔ a = b := by
  constructor
  · intro same
    exact (String.append_left_inj salt).mp (apart same)
  · intro same
    rw [same]

theorem logsInAs_iff {w : World database} {row : User} (stored : row ∈ w.store.users.rows)
    (session : SessionId) (m : LoginRequest) (choices : Nat → Choice database) :
    LogsInAs session m choices w row ↔
      answered (choices 0) (.findByUsername m.username) w.store = .ok (some row) ∧
        hashPassword m.password row.salt = row.hashedPassword := by
  unfold LogsInAs handleLogin
  simp only [perform_bind, Program.trace, callAnswer, List.mem_cons, answered]
  constructor
  · intro authenticated
    obtain ⟨made, present, registers⟩ := authenticated
    rcases present with first | rest
    · rw [first] at registers
      cases registers
    · cases found : catchLadder (.findByUsername m.username)
        (database.answer (choices 0).store (.findByUsername m.username) w.store) with
      | error e => simp [found] at rest
      | ok answer =>
        simp only [found] at rest
        cases answer with
        | none =>
          simp [sendError] at rest
          rw [rest] at registers
          cases registers
        | some user =>
          dsimp only at rest
          split at rest
          · rename_i right
            simp at rest
            rcases rest with here | sent
            · rw [here] at registers
              simp only [Call.registerAuthenticatedSession.injEq, true_and] at registers
              have same : user = row :=
                same_id_same_row (lookup_some found).1 stored registers.1
              rw [← same]
              exact ⟨rfl, right⟩
            · rw [sent] at registers
              cases registers
          · simp [sendError] at rest
            rw [rest] at registers
            cases registers
  · intro right
    obtain ⟨found, opens⟩ := right
    simp only [found, opens, ↓reduceIte]
    exact ⟨_, Or.inr (List.mem_cons_self), rfl⟩

omit [Collation] [Sha256] in
theorem columns_withColumns {user row : User}
    (same : row.id = user.id → columns row = columns user) :
    columns (withColumns user row) = columns row := by
  unfold withColumns
  split
  · rename_i here
    exact (same here).symm
  · rfl

theorem columns_kept {job : Job} {before after : Table User}
    (write : UserWrite job before after) (nothing : givenPassword job = none) (id : Int) :
    (after.findId id).map columns = (before.findId id).map columns := by
  cases write with
  | none => rfl
  | register => cases nothing
  | changePassword => cases nothing
  | changeUsername session messageId m row users stored free =>
    rw [findId_updateUsers, Option.map_map]
    cases found : before.findId id with
    | none => rfl
    | some old =>
      obtain ⟨present, _⟩ := findId_some_iff.mp found
      have copied : old.id = row.id → columns old = columns row := by
        intro same
        rw [same_id_same_row present stored same]
      have kept : columns (withColumns { row with username := m.newUsername } old) = columns old :=
        columns_withColumns copied
      simp only [Option.map_some, Function.comp_apply, kept]

theorem hashed_given {job : Job} {before after : Table User}
    (write : UserWrite job before after) {password : String}
    (given : givenPassword job = some password) {row : User} (present : row ∈ after.rows)
    (changed : after.findId row.id ≠ before.findId row.id) :
    row.hashedPassword = hashPassword password row.salt := by
  cases write with
  | none => exact absurd rfl changed
  | register session messageId m salt users free =>
    cases given
    rcases mem_insert.mp present with old | new
    · have lower : row.id < before.nextId := before.below row old
      rw [findId_insert, if_neg (ne_of_lt lower)] at changed
      exact absurd rfl changed
    · rw [new]
      rfl
  | changePassword session messageId m target salt users stored free =>
    cases given
    obtain ⟨old, there, made⟩ := mem_updateUsers.mp present
    subst made
    by_cases here : old.id = target.id
    · simp only [withColumns, here, ↓reduceIte]
    · have same : withColumns { target with
          salt := salt, hashedPassword := hashPassword m.newPassword salt } old = old := if_neg here
      rw [same, findId_updateUsers, findId_stored there, Option.map_some, same] at changed
      exact absurd rfl changed
  | changeUsername => cases given

theorem rowsRight_write {job : Job} {start before after : Table User}
    {known : Int → Option String} (write : UserWrite job before after)
    (right : RowsRight start before known) :
    RowsRight start after (noted (givenPassword job) before after known) := by
  have kept : ∀ row ∈ after.rows, after.findId row.id = before.findId row.id →
      row ∈ before.rows := by
    intro row present same
    rw [findId_stored present] at same
    exact (findId_some_iff.mp same.symm).1
  cases given : givenPassword job with
  | some password =>
    constructor
    · intro row present entry read
      by_cases same : after.findId row.id = before.findId row.id
      · simp only [noted, same, ↓reduceIte] at read
        exact right.hashed row (kept row present same) entry read
      · simp only [noted, same, ↓reduceIte, Option.some.injEq] at read
        rw [← read]
        exact hashed_given write given present same
    · intro row present read
      by_cases same : after.findId row.id = before.findId row.id
      · simp only [noted, same, ↓reduceIte] at read
        exact right.untouched row (kept row present same) read
      · simp [noted, same] at read
  | none =>
    have earlier : ∀ row ∈ after.rows, ∃ old ∈ before.rows, old.id = row.id ∧
        columns old = columns row := by
      intro row present
      have columnsKept := columns_kept write given row.id
      rw [findId_stored present] at columnsKept
      obtain ⟨old, found, same⟩ := Option.map_eq_some_iff.mp columnsKept.symm
      obtain ⟨there, id⟩ := findId_some_iff.mp found
      exact ⟨old, there, id, same⟩
    constructor
    · intro row present entry read
      obtain ⟨old, there, id, same⟩ := earlier row present
      obtain ⟨hash, salt⟩ := Prod.mk.inj same
      rw [← hash, ← salt]
      apply right.hashed old there entry
      rw [id]
      exact read
    · intro row present read
      obtain ⟨old, there, id, same⟩ := earlier row present
      have silent : known old.id = none := by
        rw [id]
        exact read
      obtain ⟨first, began, firstId, firstSame⟩ := right.untouched old there silent
      exact ⟨first, began, firstId.trans id, firstSame.trans same⟩

theorem rowsRight_step {start : Table User} {l : Ledger} (e : JobRun)
    (right : RowsRight start l.world.store.users l.known) :
    RowsRight start (ledgerStep l e).world.store.users (ledgerStep l e).known :=
  rowsRight_write (users_step l.world e) right

theorem rowsRight_start (users : Table User) : RowsRight users users (fun _ => none) := by
  constructor
  · intro row _ password read
    cases read
  · intro row present _
    exact ⟨row, present, rfl, rfl⟩

theorem passwordsRight_of_rows {start : Table User} {l : Ledger}
    (right : RowsRight start l.world.store.users l.known) : PasswordsRight start l := by
  refine ⟨right, ?_⟩
  intro row present password read session m choices apart
  rw [logsInAs_iff present, right.hashed row present password read, hashPassword_eq_iff apart]

theorem opens_iff (users : Table User) (id : Int) (password : String) :
    Opens users id password ↔ ∃ pair, (users.findId id).map columns = some pair ∧
      hashPassword password pair.2 = pair.1 := by
  constructor
  · intro opened
    obtain ⟨row, present, same, opens⟩ := opened
    exact ⟨columns row, by rw [findId_some_iff.mpr ⟨present, same⟩, Option.map_some], opens⟩
  · intro read
    obtain ⟨pair, found, opens⟩ := read
    obtain ⟨row, there, same⟩ := Option.map_eq_some_iff.mp found
    obtain ⟨present, id⟩ := findId_some_iff.mp there
    subst same
    exact ⟨row, present, id, opens⟩

theorem stored_change {session : SessionId} (messageId : String) {m : ChangePasswordRequest}
    {choices : Nat → Choice database} {w : World database} {made : Event (chat database)}
    (present : made ∈ (dispatchMessage session
      ⟨messageId, some (.changePasswordRequest m)⟩).trace (chat database) choices w)
    {user : User} (update : made.call = .repository (.updateUser user))
    (stored : Stored made.choice.store (.updateUser user) made.state.store) :
    ∃ row salt, row ∈ w.store.users.rows ∧
      hashPassword m.oldPassword row.salt = row.hashedPassword ∧ m.oldPassword ≠ m.newPassword ∧
      user = { row with salt := salt, hashedPassword := hashPassword m.newPassword salt } ∧
      user ∈ ((dispatchMessage session ⟨messageId, some (.changePasswordRequest m)⟩).final
        (chat database) choices w).store.users.rows := by
  obtain ⟨logged, inner⟩ := trace_requireAuthentication present (by simp [update])
  obtain ⟨userId, username, who⟩ := identity_authenticated logged
  obtain ⟨here, written⟩ := updates_handleChangePassword session _ w who m made inner user update
  obtain ⟨row, salt, found, accepted, changed⟩ := repassworded_some written
  obtain ⟨opens, different⟩ := passwordRefusal_none accepted
  have there := (lookup_some found).1
  subst here
  refine ⟨row, salt, there, opens, different, changed, ?_⟩
  have run : (dispatchMessage session ⟨messageId, some (.changePasswordRequest m)⟩).final
      (chat database) choices w = (handleChangePassword session m).final (chat database)
        (later choices) w := by
    have gate := final_requireAuthentication session (handleChangePassword session m) choices w
    rw [if_pos logged] at gate
    exact gate
  have becomes : withColumns user row = user := by
    rw [changed]
    exact if_pos rfl
  have kept : user ∈ (updateUsers w.store.users user stored.2.1).rows :=
    mem_updateUsers.mpr ⟨row, there, becomes⟩
  have table := next_stored stored
  rw [run, final_handleChangePassword session (later choices) w who, written]
  simp only [table]
  exact kept

theorem passwordsKept_step {start : Table User} {l : Ledger} (e : JobRun)
    (right : RowsRight start l.world.store.users l.known) : PasswordsKept l e := by
  constructor
  · intro nothing id password
    rw [opens_iff, opens_iff, columns_kept (users_step l.world e) nothing id]
  · intro session messageId m asked made present user update stored
    obtain ⟨job, choices⟩ := e
    subst asked
    obtain ⟨row, salt, there, opens, different, changed, kept⟩ :=
      stored_change messageId present update stored
    constructor
    · exact ⟨user, kept, rfl, by rw [changed]⟩
    · intro other otherThere otherId password read oldApart newApart opened
      have rowId : other.id = row.id := by
        rw [otherId, changed]
      have same : other = row := same_id_same_row otherThere there rowId
      subst same
      rw [← otherId] at read
      rw [right.hashed other otherThere password read, hashPassword_eq_iff oldApart] at opens
      obtain ⟨after, afterThere, afterId, admits⟩ := opened
      have one : after = user := same_id_same_row afterThere kept afterId
      have hash : user.hashedPassword = hashPassword m.newPassword user.salt := by
        rw [changed]
      rw [one, hash, hashPassword_eq_iff newApart] at admits
      exact different (opens.trans admits)

/-- From any tables, with jobs one after the other: whoever has been given a password
    logs in with that password only. From empty tables everybody has been given one. -/
theorem passwords_right (start : World database) (events : List JobRun) :
    EveryState ledgerStep (PasswordsRight start.store.users) ⟨start, fun _ => none⟩ events ∧
      EveryStep ledgerStep PasswordsKept ⟨start, fun _ => none⟩ events := by
  have nothing : EveryStep ledgerStep (fun _ _ => True) ⟨start, fun _ => none⟩ events :=
    everyStep_of_forall (fun _ _ => trivial) _ events
  have first : RowsRight start.store.users start.store.users (fun _ => none) :=
    rowsRight_start start.store.users
  constructor
  · exact everyState_mono (fun _ => passwordsRight_of_rows)
      (everyState_of_everyStep (P := fun l : Ledger => RowsRight start.store.users
        l.world.store.users l.known) (fun _ e right _ => rowsRight_step e right) first nothing)
  · exact everyStep_of_everyStep (P := fun l : Ledger => RowsRight start.store.users
      l.world.store.users l.known) (fun _ e right _ => rowsRight_step e right)
      (fun _ e right _ => passwordsKept_step e right) first nothing

end Ledgers

section Renamed

local instance : Collation := ⟨id⟩

local instance : Sha256 := ⟨id⟩

def accountJob (session : SessionId) (payload : Payload) : JobRun :=
  ⟨.dispatch session ⟨"", some payload⟩, working⟩

example : (after ledgerStep ⟨⟨.start, .empty⟩, fun _ => none⟩
    [accountJob 1 (.registrationRequest ⟨"ann", "old"⟩),
      accountJob 1 (.loginRequest ⟨"ann", "old"⟩),
      accountJob 1 (.changePasswordRequest ⟨"old", "new"⟩),
      accountJob 1 (.changeUsernameRequest ⟨"anna"⟩)]).known 1 = some "new" := by decide

end Renamed

end Passwords
