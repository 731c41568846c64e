import ChatServer.Accounts.Passwords

/-!
Accounts that can be used: a name that is not empty, and a hash of a password that is not.
The two change handlers refuse empty strings; the registration takes what it is given.
-/
namespace UsableAccounts
open AtomicCalls EventRuns ChatProtocol ChatState ChatCalls ChatServices ChatDatabase
  ChatEffects AccountHandlers JobEffects AccountOwnership Passwords

theorem renameRefusal_none {request : ChangeUsernameRequest} {user : User}
    (accepted : renameRefusal request user = none) : request.newUsername ≠ "" := by
  unfold renameRefusal at accepted
  split_ifs at accepted with missing
  exact missing

section Accounts
variable [Collation] [Sha256]

def Usable (row : User) : Prop :=
  row.username ≠ "" ∧ ∃ password, password ≠ "" ∧
    row.hashedPassword = hashPassword password row.salt

def AccountsUsable (w : World database) : Prop := ∀ row ∈ w.store.users.rows, Usable row

omit [Collation] in
theorem newPassword_given {request : ChangePasswordRequest} {user : User}
    (accepted : passwordRefusal request user = none) : request.newPassword ≠ "" := by
  unfold passwordRefusal at accepted
  split_ifs at accepted with wrong missing same
  exact fun empty => missing (Or.inr empty)

theorem usable_update {users : Table User} (usable : ∀ row ∈ users.rows, Usable row) {user : User}
    (new : Usable user) (free : users.FreeFor user.id user.username) :
    ∀ row ∈ (updateUsers users user free).rows, Usable row := by
  intro row there
  obtain ⟨old, stored, made⟩ := mem_updateUsers.mp there
  subst made
  unfold withColumns
  split
  · exact new
  · exact usable old stored

theorem usable_next {w : World database} (usable : AccountsUsable w) {user : User}
    (new : Usable user) (outcome : Outcome) :
    ∀ row ∈ (database.next outcome (.updateUser user) w.store).users.rows, Usable row := by
  by_cases stored : Stored outcome (.updateUser user) w.store
  · rw [next_stored stored]
    exact usable_update usable new stored.2.1
  · rw [next_not_stored stored]
    exact usable

section Changes
variable {w : World database} (usable : AccountsUsable w) (session : SessionId)
  (choices : Nat → Choice database) {userId : Int} {username : String}
  (who : (w.server.session session).identity = some (userId, username))
include usable who

theorem usable_changePassword (m : ChangePasswordRequest) :
    AccountsUsable ((handleChangePassword session m).final (chat database) choices w) := by
  rw [final_handleChangePassword session choices w who]
  split
  · rename_i user accepted
    obtain ⟨row, salt, found, allowed, changed⟩ := repassworded_some accepted
    apply usable_next usable
    subst changed
    exact ⟨(usable row (lookup_some found).1).1, m.newPassword, newPassword_given allowed, rfl⟩
  · exact usable

theorem usable_changeUsername (m : ChangeUsernameRequest) :
    AccountsUsable ((handleChangeUsername session m).final (chat database) choices w) := by
  rw [final_handleChangeUsername session choices w who]
  split
  · rename_i user accepted
    obtain ⟨row, found, _, allowed, changed⟩ := renamed_some accepted
    apply usable_next usable
    subst changed
    exact ⟨renameRefusal_none allowed, (usable row (lookup_some found).1).2⟩
  · exact usable

end Changes

theorem usable_requireAuthentication {handler : Handler} {session : SessionId}
    {w : World database} (usable : AccountsUsable w)
    (behind : ∀ choices userId username,
      (w.server.session session).identity = some (userId, username) →
      AccountsUsable (handler.final (chat database) choices w))
    (choices : Nat → Choice database) :
    AccountsUsable ((requireAuthentication session handler).final (chat database) choices w) := by
  rw [final_requireAuthentication]
  split
  · rename_i present
    obtain ⟨userId, username, who⟩ := identity_authenticated present
    exact behind (later choices) userId username who
  · exact usable

/-- A registration that is stored gives a name, and a password or a salt with which some
    password is hashed as the empty one is. -/
def RegistersUsable (w : World database) (e : JobRun) : Prop :=
  ∀ session messageId m,
    e.job = .dispatch session ⟨messageId, some (.registrationRequest m)⟩ → ∀ user,
    registered m (answered (e.choices 0) (.findByUsername m.username) w.store)
      (e.choices 1).salt = some user →
    Stored (e.choices 2).store (.addUser user) w.store →
    m.username ≠ "" ∧ (m.password ≠ "" ∨
      ∃ password, password ≠ "" ∧ hashPassword "" user.salt = hashPassword password user.salt)

omit [Collation] in
theorem hashed_usable_iff (password salt : String) :
    (∃ other, other ≠ "" ∧ hashPassword password salt = hashPassword other salt) ↔
      password ≠ "" ∨ ∃ other, other ≠ "" ∧ hashPassword "" salt = hashPassword other salt := by
  by_cases empty : password = ""
  · rw [empty]
    simp
  · exact iff_of_true ⟨password, empty, rfl⟩ (Or.inl empty)

theorem usable_register_iff {w : World database} (usable : AccountsUsable w) (session : SessionId)
    (messageId : String) (m : RegistrationRequest) (choices : Nat → Choice database) :
    AccountsUsable ((handleRegister session m).final (chat database) choices w) ↔
      RegistersUsable w
        ⟨.dispatch session ⟨messageId, some (.registrationRequest m)⟩, choices⟩ := by
  rw [final_handleRegister]
  cases accepted : registered m (answered (choices 0) (.findByUsername m.username) w.store)
    (choices 1).salt with
  | none =>
    apply iff_of_true usable
    intro _ _ m' same user written
    cases same
    rw [accepted] at written
    cases written
  | some user =>
    obtain ⟨_, salt, fresh⟩ := registered_some accepted
    by_cases stored : Stored (choices 2).store (.addUser user) w.store
    · have rows : (database.next (choices 2).store (.addUser user) w.store).users.rows =
          w.store.users.rows ++ [Row.withId user w.store.users.nextId] := by
        rw [next_stored stored]
        rfl
      have new : Usable (Row.withId user w.store.users.nextId) ↔ m.username ≠ "" ∧
          (m.password ≠ "" ∨
            ∃ other, other ≠ "" ∧ hashPassword "" user.salt = hashPassword other user.salt) := by
        subst fresh
        exact and_congr_right fun _ => hashed_usable_iff m.password salt
      have whole : (∀ row ∈ w.store.users.rows ++ [Row.withId user w.store.users.nextId],
          Usable row) ↔ Usable (Row.withId user w.store.users.nextId) := by
        constructor
        · intro all
          exact all _ (List.mem_append_right _ (List.mem_singleton.mpr rfl))
        · intro last row there
          rcases List.mem_append.mp there with old | added
          · exact usable row old
          · rw [List.mem_singleton.mp added]
            exact last
      unfold AccountsUsable RegistersUsable
      dsimp only
      rw [rows, whole, new]
      constructor
      · intro fits _ _ m' same user' written _
        cases same
        rw [accepted] at written
        cases written
        exact fits
      · intro all
        exact all session messageId m rfl user accepted stored
    · apply iff_of_true
      · unfold AccountsUsable
        dsimp only
        rw [next_not_stored stored]
        exact usable
      · intro _ _ m' same user' written also
        cases same
        rw [accepted] at written
        cases written
        exact absurd also stored

theorem users_kept {job : Job} {before after : Table User} (write : UserWrite job before after)
    (registration : ∀ session messageId m,
      job ≠ .dispatch session ⟨messageId, some (.registrationRequest m)⟩)
    (password : ∀ session messageId m,
      job ≠ .dispatch session ⟨messageId, some (.changePasswordRequest m)⟩)
    (username : ∀ session messageId m,
      job ≠ .dispatch session ⟨messageId, some (.changeUsernameRequest m)⟩) : after = before := by
  cases write with
  | none => rfl
  | register session messageId m => exact absurd rfl (registration session messageId m)
  | changePassword session messageId m => exact absurd rfl (password session messageId m)
  | changeUsername session messageId m => exact absurd rfl (username session messageId m)

/-- One job keeps the accounts usable exactly when the registration it stores is. -/
theorem usable_step (w : World database) (e : JobRun) (usable : AccountsUsable w) :
    AccountsUsable (runJob w e) ↔ RegistersUsable w e := by
  by_cases registers : ∃ session messageId m,
    e.job = .dispatch session ⟨messageId, some (.registrationRequest m)⟩
  · obtain ⟨job, choices⟩ := e
    obtain ⟨session, messageId, m, same⟩ := registers
    dsimp only at same
    subst same
    exact usable_register_iff usable session messageId m choices
  · simp only [not_exists] at registers
    apply iff_of_true _ fun session messageId m same => absurd same (registers session messageId m)
    by_cases password : ∃ session messageId m,
      e.job = .dispatch session ⟨messageId, some (.changePasswordRequest m)⟩
    · obtain ⟨job, choices⟩ := e
      obtain ⟨session, messageId, m, same⟩ := password
      dsimp only at same
      subst same
      exact usable_requireAuthentication usable
        (fun choices _ _ who => usable_changePassword usable session choices who m) choices
    · simp only [not_exists] at password
      by_cases username : ∃ session messageId m,
        e.job = .dispatch session ⟨messageId, some (.changeUsernameRequest m)⟩
      · obtain ⟨job, choices⟩ := e
        obtain ⟨session, messageId, m, same⟩ := username
        dsimp only at same
        subst same
        exact usable_requireAuthentication usable
          (fun choices _ _ who => usable_changeUsername usable session choices who m) choices
      · simp only [not_exists] at username
        unfold AccountsUsable
        rw [users_kept (users_step w e) registers password username]
        exact usable

/-- From empty users tables, and any memory: the accounts stay usable throughout exactly
    when every registration that is stored is usable. -/
theorem accounts_usable_iff {w : World database} (empty : w.store.users.rows = [])
    (events : List JobRun) :
    EveryState runJob AccountsUsable w events ↔ EveryStep runJob RegistersUsable w events := by
  have start : AccountsUsable w := by
    intro row there
    rw [empty] at there
    cases there
  exact everyState_iff_everyStep usable_step start events

end Accounts

section EmptyName

local instance : Collation := ⟨id⟩

local instance : Sha256 := ⟨id⟩

def registers (username password : String) : JobRun :=
  ⟨.dispatch 1 ⟨"", some (.registrationRequest ⟨username, password⟩)⟩,
    fun _ => ⟨⟨none, 0, fun _ => 0⟩, some "salt", ⟨0, 0⟩⟩⟩

theorem accounts_usable_ann :
    EveryState runJob AccountsUsable ⟨.start, .empty⟩ [registers "ann" "pw"] := by
  apply (accounts_usable_iff rfl [registers "ann" "pw"]).mpr
  refine ⟨?_, trivial⟩
  intro session messageId m same user _ _
  cases same
  exact ⟨by decide, Or.inl (by decide)⟩

/-- Nobody has registered yet, and somebody registers without a name or a password. -/
theorem empty_name_registered :
    ¬ EveryState runJob AccountsUsable ⟨.start, .empty⟩ [registers "" ""] := by
  intro all
  have usable := everyState_last all
  have there : (⟨1, "", "salt", "salt"⟩ : User) ∈
      (after runJob ⟨.start, .empty⟩ [registers "" ""]).store.users.rows := by decide
  exact (usable _ there).1 rfl

end EmptyName

end UsableAccounts
