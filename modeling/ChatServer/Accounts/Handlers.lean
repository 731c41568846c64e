import ChatServer.Model.Effects

/-!
What the four account handlers leave behind. Each makes its lookups first and its
writes last, so its effect is fixed by the row it is about to write. That row is named
here for each handler, from the request and the answers to the lookups.
-/
namespace AccountHandlers
open AtomicCalls ChatProtocol ChatState ChatCalls ChatServices ChatEffects

variable [Sha256] {E : Environment}

/-- The row a login opens the session with. -/
def opened (request : LoginRequest) : Except Exception (Option User) → Option User
  | .ok (some user) =>
    if hashPassword request.password user.salt = user.hashedPassword then some user else none
  | _ => none

def registered (request : RegistrationRequest) :
    Except Exception (Option User) → Option String → Option User
  | .ok none, some salt =>
    some ⟨0, request.username, hashPassword request.password salt, salt⟩
  | _, _ => none

def passwordRefusal (request : ChangePasswordRequest) (user : User) : Option String :=
  if hashPassword request.oldPassword user.salt ≠ user.hashedPassword then
    some "Old password is incorrect."
  else if request.oldPassword = "" ∨ request.newPassword = "" then
    some "Old password and new password must be provided."
  else if request.oldPassword = request.newPassword then
    some "New password must be different from old password."
  else none

def renameRefusal (request : ChangeUsernameRequest) (user : User) : Option String :=
  if request.newUsername = "" then some "New username must be provided."
  else if request.newUsername = user.username then
    some "New username must be different from current username."
  else none

def repassworded (request : ChangePasswordRequest) :
    Except Exception (Option User) → Option String → Option User
  | .ok (some user), some salt => match passwordRefusal request user with
    | some _ => none
    | none => some { user with
        salt := salt, hashedPassword := hashPassword request.newPassword salt }
  | _, _ => none

def renamed (request : ChangeUsernameRequest) :
    Except Exception (Option User) → Except Exception (Option User) → Option User
  | .ok (some user), .ok none => match renameRefusal request user with
    | some _ => none
    | none => some { user with username := request.newUsername }
  | _, _ => none

theorem opened_some {request : LoginRequest} {found : Except Exception (Option User)}
    {user : User} (h : opened request found = some user) :
    found = .ok (some user) ∧ hashPassword request.password user.salt = user.hashedPassword := by
  unfold opened at h
  split at h
  · split at h
    · cases h
      exact ⟨rfl, by assumption⟩
    · cases h
  · cases h

theorem registered_some {request : RegistrationRequest} {found : Except Exception (Option User)}
    {drawn : Option String} {user : User} (h : registered request found drawn = some user) :
    found = .ok none ∧ ∃ salt,
      user = ⟨0, request.username, hashPassword request.password salt, salt⟩ := by
  unfold registered at h
  split at h
  · rename_i salt
    cases h
    exact ⟨rfl, salt, rfl⟩
  · cases h

theorem repassworded_some {request : ChangePasswordRequest}
    {found : Except Exception (Option User)} {drawn : Option String} {user : User}
    (h : repassworded request found drawn = some user) :
    ∃ row salt, found = .ok (some row) ∧ passwordRefusal request row = none ∧
      user = { row with
        salt := salt, hashedPassword := hashPassword request.newPassword salt } := by
  unfold repassworded at h
  split at h
  · rename_i row salt
    split at h
    · cases h
    · rename_i accepted
      cases h
      exact ⟨row, salt, rfl, accepted, rfl⟩
  · cases h

theorem passwordRefusal_none {request : ChangePasswordRequest} {user : User}
    (accepted : passwordRefusal request user = none) :
    hashPassword request.oldPassword user.salt = user.hashedPassword ∧
      request.oldPassword ≠ request.newPassword := by
  unfold passwordRefusal at accepted
  split_ifs at accepted with wrong missing same
  exact ⟨not_not.mp wrong, same⟩

omit [Sha256] in
theorem renamed_some {request : ChangeUsernameRequest} {found taken : Except Exception (Option User)}
    {user : User} (h : renamed request found taken = some user) :
    ∃ row, found = .ok (some row) ∧ taken = .ok none ∧ renameRefusal request row = none ∧
      user = { row with username := request.newUsername } := by
  unfold renamed at h
  split at h
  · rename_i row
    split at h
    · cases h
    · rename_i accepted
      cases h
      exact ⟨row, rfl, rfl, accepted, rfl⟩
  · cases h

/-- The memory after the write of a rename, which goes on unless the write throws. -/
def serverRenamed (session : SessionId) (newUsername : String) (s : Server) :
    Except Exception Bool → Server
  | .ok _ => s.updateUsername session newUsername
  | .error _ => s

def changePasswordOf (session : SessionId) (request : ChangePasswordRequest) (user : User) :
    Handler :=
  match passwordRefusal request user with
  | some refusal => sendError session refusal
  | none => do
    let salt ← call .generateSalt
    let _ ← ask (.updateUser
      { user with salt := salt, hashedPassword := hashPassword request.newPassword salt })
    call (.send session (envelope (.changePasswordResponse ⟨true,
      "Password changed successfully."⟩)))

def changeUsernameOf (session : SessionId) (request : ChangeUsernameRequest) (user : User) :
    Handler :=
  match renameRefusal request user with
  | some refusal => sendError session refusal
  | none => do
    let _ ← ask (.updateUser { user with username := request.newUsername })
    call (.updateUsername session request.newUsername)
    call (.send session (envelope (.changeUsernameResponse ⟨true,
      "Username changed successfully to " ++ request.newUsername ++ ".", ""⟩)))

theorem handleChangePassword_eq (session : SessionId) (request : ChangePasswordRequest) :
    handleChangePassword session request = (do
      if ← call (.isAuthenticated session) then
        let username ← call (.getUsername session)
        match ← ask (.findByUsername username) with
        | none => sendError session "User not found."
        | some user => changePasswordOf session request user
      else sendError session "Not authenticated.") := by
  unfold handleChangePassword
  refine bind_congr fun present => ?_
  split
  · refine bind_congr fun username => bind_congr fun found => ?_
    cases found with
    | none => rfl
    | some user =>
      simp only [changePasswordOf, passwordRefusal]
      split_ifs <;> rfl
  · rfl

omit [Sha256] in
theorem handleChangeUsername_eq (session : SessionId) (request : ChangeUsernameRequest) :
    handleChangeUsername session request = (do
      if ← call (.isAuthenticated session) then
        let username ← call (.getUsername session)
        match ← ask (.findByUsername username) with
        | none => sendError session "User not found."
        | some user =>
          match ← ask (.findByUsername request.newUsername) with
          | some _ => sendError session "Username already taken."
          | none => changeUsernameOf session request user
      else sendError session "Not authenticated.") := by
  unfold handleChangeUsername
  refine bind_congr fun present => ?_
  split
  · refine bind_congr fun username => bind_congr fun found => ?_
    cases found with
    | none => rfl
    | some user =>
      refine bind_congr fun taken => ?_
      cases taken with
      | some other => rfl
      | none =>
        simp only [changeUsernameOf, renameRefusal]
        split_ifs <;> rfl
  · rfl

theorem final_handleLogin (session : SessionId) (request : LoginRequest)
    (choices : Nat → Choice E) (w : World E) :
    (handleLogin session request).final (chat E) choices w =
      match opened request (answered (choices 0) (.findByUsername request.username) w.store) with
      | some user =>
        { w with server := w.server.registerAuthenticatedSession session user.id user.username }
      | none => w := by
  unfold handleLogin
  simp [answered]
  split
  · rename_i found heq
    cases found with
    | none => simp [heq, opened, sendError]
    | some user =>
      simp only [heq, opened]
      split <;> simp [sendError]
  · rename_i e heq
    simp [heq, opened]

theorem final_handleRegister (session : SessionId) (request : RegistrationRequest)
    (choices : Nat → Choice E) (w : World E) :
    (handleRegister session request).final (chat E) choices w =
      match registered request (answered (choices 0) (.findByUsername request.username) w.store)
        (choices 1).salt with
      | some user => { w with store := E.next (choices 2).store (.addUser user) w.store }
      | none => w := by
  unfold handleRegister
  simp [answered]
  split
  · rename_i found heq
    cases found with
    | some user => simp [heq, registered, sendError]
    | none =>
      cases salt : (choices 1).salt with
      | none => simp [heq, registered, salt]
      | some salt =>
        simp [heq, registered, salt]
        split
        · rename_i added _
          cases added <;> simp
        · rfl
  · rename_i e heq
    simp [heq, registered]

section Writes
variable (session : SessionId) (choices : Nat → Choice E) (w : World E) {userId : Int}
  {username : String} (who : (w.server.session session).identity = some (userId, username))
include who

theorem final_handleChangePassword (request : ChangePasswordRequest) :
    (handleChangePassword session request).final (chat E) choices w =
      match repassworded request (answered (choices 2) (.findByUsername username) w.store)
        (choices 3).salt with
      | some user => { w with store := E.next (choices 4).store (.updateUser user) w.store }
      | none => w := by
  obtain ⟨present, _, name⟩ := identity_some who
  rw [handleChangePassword_eq]
  simp [answered, present, name]
  split
  · rename_i found heq
    cases found with
    | none => simp [heq, repassworded, sendError]
    | some user =>
      cases refusal : passwordRefusal request user with
      | some text =>
        cases salt : (choices 3).salt <;>
          simp [heq, repassworded, changePasswordOf, refusal, sendError]
      | none =>
        cases salt : (choices 3).salt with
        | none => simp [heq, repassworded, changePasswordOf, refusal, salt]
        | some salt =>
          simp [heq, repassworded, changePasswordOf, refusal, salt]
          split <;> rfl
  · rename_i e heq
    simp [heq, repassworded]

omit [Sha256] in
theorem final_handleChangeUsername (request : ChangeUsernameRequest) :
    (handleChangeUsername session request).final (chat E) choices w =
      match renamed request (answered (choices 2) (.findByUsername username) w.store)
        (answered (choices 3) (.findByUsername request.newUsername) w.store) with
      | some user =>
        { server := serverRenamed session request.newUsername w.server
            (answered (choices 4) (.updateUser user) w.store)
          store := E.next (choices 4).store (.updateUser user) w.store }
      | none => w := by
  obtain ⟨present, _, name⟩ := identity_some who
  rw [handleChangeUsername_eq]
  simp [answered, present, name]
  split
  · rename_i found heq
    cases found with
    | none => simp [heq, renamed, sendError]
    | some user =>
      simp [heq]
      split
      · rename_i taken heq'
        cases taken with
        | some other => simp [heq', renamed, sendError]
        | none =>
          cases refusal : renameRefusal request user with
          | some text => simp [heq', renamed, changeUsernameOf, refusal, sendError]
          | none =>
            simp [heq', renamed, changeUsernameOf, refusal, name]
            split
            · rename_i written heq''
              simp [heq'', Except.map, serverRenamed]
            · rename_i e heq''
              simp [heq'', serverRenamed]
      · rename_i e heq'
        simp [heq', renamed]
  · rename_i e heq
    simp [heq, renamed]

theorem updates_handleChangePassword (request : ChangePasswordRequest) :
    ∀ e ∈ (handleChangePassword session request).trace (chat E) choices w,
      ∀ user, e.call = .repository (.updateUser user) →
        e = ⟨w, choices 4, .repository (.updateUser user)⟩ ∧
          repassworded request (answered (choices 2) (.findByUsername username) w.store)
            (choices 3).salt = some user := by
  obtain ⟨present, _, name⟩ := identity_some who
  rw [handleChangePassword_eq]
  simp [answered, present, name]
  split
  · rename_i found heq
    cases found with
    | none => simp [heq, sendError]
    | some user =>
      cases refusal : passwordRefusal request user with
      | some text => simp [changePasswordOf, refusal, sendError]
      | none =>
        cases salt : (choices 3).salt with
        | none => simp [changePasswordOf, refusal, salt]
        | some salt =>
          simp [heq, repassworded, changePasswordOf, refusal, salt]
          split <;> simp
  · simp

omit [Sha256] in
theorem updates_handleChangeUsername (request : ChangeUsernameRequest) :
    ∀ e ∈ (handleChangeUsername session request).trace (chat E) choices w,
      ∀ user, e.call = .repository (.updateUser user) →
        e = ⟨w, choices 4, .repository (.updateUser user)⟩ ∧
          renamed request (answered (choices 2) (.findByUsername username) w.store)
            (answered (choices 3) (.findByUsername request.newUsername) w.store) = some user := by
  obtain ⟨present, _, name⟩ := identity_some who
  rw [handleChangeUsername_eq]
  simp [answered, present, name]
  split
  · rename_i found heq
    cases found with
    | none => simp [heq, sendError]
    | some user =>
      simp [heq]
      split
      · rename_i taken heq'
        cases taken with
        | some other => simp [sendError]
        | none =>
          cases refusal : renameRefusal request user with
          | some text => simp [changeUsernameOf, refusal, sendError]
          | none =>
            simp [heq', renamed, changeUsernameOf, refusal, name]
            split <;> simp [Except.map]
      · simp
  · simp

theorem reports_handleChangePassword {request : ChangePasswordRequest} {user : User} {found : Bool}
    (row : repassworded request (answered (choices 2) (.findByUsername username) w.store)
      (choices 3).salt = some user)
    (written : answered (choices 4) (.updateUser user) w.store = .ok found) :
    (session, envelope (.changePasswordResponse ⟨true, "Password changed successfully."⟩)) ∈
      (handleChangePassword session request).output (chat E) choices w := by
  obtain ⟨present, _, name⟩ := identity_some who
  obtain ⟨old, _, lookup, accepted, _⟩ := repassworded_some row
  cases salt : (choices 3).salt with
  | none => simp [repassworded, salt] at row
  | some salt =>
    simp only [repassworded, lookup, accepted, salt, Option.some.injEq] at row
    subst row
    rw [answered] at lookup written
    rw [handleChangePassword_eq]
    simp [present, name, lookup, changePasswordOf, accepted, salt, written]

omit [Sha256] in
theorem reports_handleChangeUsername {request : ChangeUsernameRequest} {user : User} {found : Bool}
    (row : renamed request (answered (choices 2) (.findByUsername username) w.store)
      (answered (choices 3) (.findByUsername request.newUsername) w.store) = some user)
    (written : answered (choices 4) (.updateUser user) w.store = .ok found) :
    (session, envelope (.changeUsernameResponse ⟨true,
        "Username changed successfully to " ++ request.newUsername ++ ".", ""⟩)) ∈
      (handleChangeUsername session request).output (chat E) choices w := by
  obtain ⟨present, _, name⟩ := identity_some who
  obtain ⟨old, lookup, free, accepted, same⟩ := renamed_some row
  subst same
  rw [answered] at lookup free written
  rw [handleChangeUsername_eq]
  simp [present, name, lookup, free, changeUsernameOf, accepted, written, Except.map]

end Writes

section Calls
variable {session : SessionId}

/-- The answers of the handlers that write accounts. -/
def AccountReply (e : Envelope) : Prop :=
  match e.payload with
  | some (.errorResponse _) => True
  | some (.registrationResponse _) => True
  | some (.changePasswordResponse _) => True
  | some (.changeUsernameResponse _) => True
  | _ => False

@[simp] def AccountCall (session : SessionId) : Call → Prop
  | .isAuthenticated _ => True
  | .getUsername id => id = session
  | .updateUsername id _ => id = session
  | .generateSalt => True
  | .repository (.findByUsername _) => True
  | .repository (.addUser _) => True
  | .repository (.updateUser _) => True
  | .send id e => id = session ∧ AccountReply e
  | _ => False

omit [Sha256] in
theorem accountCalls_sendError (message : String) :
    (sendError session message).Uses (AccountCall session) :=
  ⟨⟨rfl, trivial⟩, fun _ => trivial⟩

theorem accountCalls_handleRegister (m : RegistrationRequest) :
    (handleRegister session m).Uses (AccountCall session) := by
  refine ⟨trivial, ?_⟩
  intro found
  cases found with
  | some user => exact accountCalls_sendError _
  | none =>
    refine ⟨trivial, fun salt => ⟨trivial, ?_⟩⟩
    intro added
    cases added <;> exact ⟨⟨rfl, trivial⟩, fun _ => trivial⟩

theorem accountCalls_handleChangePassword (m : ChangePasswordRequest) :
    (handleChangePassword session m).Uses (AccountCall session) := by
  simp only [handleChangePassword_eq, perform_bind, Program.Uses, AccountCall, true_and]
  intro present
  split
  · refine ⟨rfl, fun username => ⟨trivial, ?_⟩⟩
    intro found
    cases found with
    | none => exact accountCalls_sendError _
    | some user =>
      simp only [changePasswordOf]
      split
      · exact accountCalls_sendError _
      · exact ⟨trivial, fun _ => ⟨trivial, fun _ => ⟨⟨rfl, trivial⟩, fun _ => trivial⟩⟩⟩
  · exact accountCalls_sendError _

omit [Sha256] in
theorem accountCalls_handleChangeUsername (m : ChangeUsernameRequest) :
    (handleChangeUsername session m).Uses (AccountCall session) := by
  simp only [handleChangeUsername_eq, perform_bind, Program.Uses, AccountCall, true_and]
  intro present
  split
  · refine ⟨rfl, fun username => ⟨trivial, ?_⟩⟩
    intro found
    cases found with
    | none => exact accountCalls_sendError _
    | some user =>
      refine ⟨trivial, ?_⟩
      intro taken
      cases taken with
      | some other => exact accountCalls_sendError _
      | none =>
        simp only [changeUsernameOf]
        split
        · exact accountCalls_sendError _
        · exact ⟨trivial, fun _ => ⟨rfl, fun _ => ⟨⟨rfl, trivial⟩, fun _ => trivial⟩⟩⟩
  · exact accountCalls_sendError _

end Calls

end AccountHandlers
