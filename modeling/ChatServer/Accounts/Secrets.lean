import ChatServer.Atomic.TwoRuns
import ChatServer.Connections.Queries
import ChatServer.Sessions.Deployment
import ChatServer.Sessions.HandlerCalls

/-!
Salts and hashes stay in the tables. Two servers whose user rows accept the same passwords,
by whatever salts and hashes, send the same envelopes when the same is asked of them: nobody
can learn more of a row than which passwords open it.
-/
namespace StoredSecrets
open AtomicCalls WorkerPool TwoRuns ChatProtocol ChatState ChatCalls ChatServices ChatEffects
  ChatDatabase AccountHandlers TransactedTables DrivenQueries HandlerCalls
  ChatDeployment

section Likeness
variable [Sha256] (Offered : String → Prop)

/-- A salt that fits its column and keeps the offered passwords apart. -/
structure GoodSalt (salt : String) : Prop where
  fits : salt.length ≤ 255
  hashes : ∀ p, Offered p → (hashPassword p salt).length ≤ 255
  apart : ∀ p q, Offered p → Offered q → hashPassword p salt = hashPassword q salt → p = q

def Fitting (u : User) : Prop := u.hashedPassword.length ≤ 255 ∧ u.salt.length ≤ 255

/-- The rows are the same but for the secrets, and the same passwords open them. -/
structure SameUser (u u' : User) : Prop where
  id : u'.id = u.id
  username : u'.username = u.username
  opens : ∀ p, Offered p → (hashPassword p u'.salt = u'.hashedPassword ↔
    hashPassword p u.salt = u.hashedPassword)
  fits : Fitting u' ↔ Fitting u

inductive LikeCall : Call → Call → Prop where
  | same (c : Call) : LikeCall c c
  | addUser {u u' : User} (like : SameUser Offered u u') :
      LikeCall (.repository (.addUser u)) (.repository (.addUser u'))
  | updateUser {u u' : User} (like : SameUser Offered u u') :
      LikeCall (.repository (.updateUser u)) (.repository (.updateUser u'))

def LikeAnswer : (c c' : Call) → c.Answer → c'.Answer → Prop
  | .repository (.findByUsername _), .repository (.findByUsername _), found, found' =>
    Option.Rel (SameUser Offered) found found'
  | .repository (.findByUserId _), .repository (.findByUserId _), found, found' =>
    Option.Rel (SameUser Offered) found found'
  | .generateSalt, .generateSalt, salt, salt' => GoodSalt Offered salt ∧ GoodSalt Offered salt'
  | _, _, a, a' => HEq a a'

def secret : Likeness Call Call.Answer := ⟨LikeCall Offered, LikeAnswer Offered⟩

@[simp] def Plain : Call → Prop
  | .repository (.findByUsername _) => False
  | .repository (.findByUserId _) => False
  | .repository (.addUser _) => False
  | .repository (.updateUser _) => False
  | .generateSalt => False
  | _ => True

variable {Offered}

theorem sameUser_refl (u : User) : SameUser Offered u u := ⟨rfl, rfl, fun _ _ => Iff.rfl, Iff.rfl⟩

theorem plain_same {c : Call} (plain : Plain c) {a a' : c.Answer}
    (like : LikeAnswer Offered c c a a') : a = a' := by
  cases c with
  | repository q => cases q <;> first | exact plain.elim | exact eq_of_heq like
  | generateSalt => exact plain.elim
  | _ => exact eq_of_heq like

abbrev SameProgram (Offered : String → Prop) (p p' : Program Call Call.Answer α) : Prop :=
  Alike (secret Offered) p p'

theorem same_of_plain {p : Program Call Call.Answer α} (plain : p.Uses Plain) :
    SameProgram Offered p p :=
  alike_of_uses (fun c _ => LikeCall.same c) (fun _ _ _ plain like => plain_same plain like) plain

section Calls
variable {α : Type}

theorem same_plain {c : Call} (plain : Plain c) {rest rest' : c.Answer → Program Call Call.Answer α}
    (next : ∀ a, SameProgram Offered (rest a) (rest' a)) :
    SameProgram Offered (.call c rest) (.call c rest') := by
  refine .call (LikeCall.same c) ?_
  intro a a' like
  rw [← plain_same plain like]
  exact next a

theorem same_findByUsername (name : String)
    {rest rest' : Option User → Program Call Call.Answer α}
    (missing : SameProgram Offered (rest none) (rest' none))
    (found : ∀ u u', SameUser Offered u u' →
      SameProgram Offered (rest (some u)) (rest' (some u'))) :
    SameProgram Offered (.call (.repository (.findByUsername name)) rest)
      (.call (.repository (.findByUsername name)) rest') := by
  refine .call (LikeCall.same _) ?_
  intro a a' like
  cases like with
  | none => exact missing
  | some same => exact found _ _ same

theorem same_findByUserId (id : Int)
    {rest rest' : Option User → Program Call Call.Answer α}
    (missing : SameProgram Offered (rest none) (rest' none))
    (found : ∀ u u', SameUser Offered u u' →
      SameProgram Offered (rest (some u)) (rest' (some u'))) :
    SameProgram Offered (.call (.repository (.findByUserId id)) rest)
      (.call (.repository (.findByUserId id)) rest') := by
  refine .call (LikeCall.same _) ?_
  intro a a' like
  cases like with
  | none => exact missing
  | some same => exact found _ _ same

theorem same_generateSalt {rest rest' : String → Program Call Call.Answer α}
    (next : ∀ salt salt', GoodSalt Offered salt → GoodSalt Offered salt' →
      SameProgram Offered (rest salt) (rest' salt')) :
    SameProgram Offered (.call .generateSalt rest) (.call .generateSalt rest') :=
  .call (LikeCall.same _) fun salt salt' like => next salt salt' like.1 like.2

theorem same_addUser {u u' : User} (like : SameUser Offered u u')
    {rest rest' : Option Int → Program Call Call.Answer α}
    (next : ∀ a, SameProgram Offered (rest a) (rest' a)) :
    SameProgram Offered (.call (.repository (.addUser u)) rest)
      (.call (.repository (.addUser u')) rest') := by
  refine .call (LikeCall.addUser like) ?_
  intro a a' same
  rw [← eq_of_heq same]
  exact next a

theorem same_updateUser {u u' : User} (like : SameUser Offered u u')
    {rest rest' : Bool → Program Call Call.Answer α}
    (next : ∀ a, SameProgram Offered (rest a) (rest' a)) :
    SameProgram Offered (.call (.repository (.updateUser u)) rest)
      (.call (.repository (.updateUser u')) rest') := by
  refine .call (LikeCall.updateUser like) ?_
  intro a a' same
  rw [← eq_of_heq same]
  exact next a

end Calls

section Handlers

theorem same_sendError (session : SessionId) (message : String) :
    SameProgram Offered (sendError session message) (sendError session message) :=
  same_of_plain ⟨trivial, fun _ => trivial⟩

theorem same_handleLogin (session : SessionId) (m : LoginRequest) (offered : Offered m.password) :
    SameProgram Offered (handleLogin session m) (handleLogin session m) := by
  unfold handleLogin
  simp only [perform_bind]
  apply same_findByUsername
  · exact same_sendError session "User not found."
  · intro u u' like
    have opens := like.opens m.password offered
    by_cases right : hashPassword m.password u.salt = u.hashedPassword
    · have right' := opens.mpr right
      simp only [right, right', if_true]
      rw [like.id, like.username]
      exact same_of_plain (p := .call (.registerAuthenticatedSession _ _ _) _)
        ⟨trivial, fun _ => ⟨trivial, fun _ => trivial⟩⟩
    · have wrong : hashPassword m.password u'.salt ≠ u'.hashedPassword :=
        fun now => right (opens.mp now)
      simp only [right, wrong, if_false]
      exact same_sendError session "Password incorrect."

theorem sameUser_hashed {id : Int} {username password salt salt' : String}
    (offered : Offered password) (good : GoodSalt Offered salt) (good' : GoodSalt Offered salt') :
    SameUser Offered ⟨id, username, hashPassword password salt, salt⟩
      ⟨id, username, hashPassword password salt', salt'⟩ := by
  refine ⟨rfl, rfl, ?_, ?_⟩
  · intro p there
    constructor
    · intro same
      rw [good'.apart p password there offered same]
    · intro same
      rw [good.apart p password there offered same]
  · exact ⟨fun _ => ⟨good.hashes password offered, good.fits⟩,
      fun _ => ⟨good'.hashes password offered, good'.fits⟩⟩

theorem same_handleRegister (session : SessionId) (m : RegistrationRequest)
    (offered : Offered m.password) :
    SameProgram Offered (handleRegister session m) (handleRegister session m) := by
  unfold handleRegister
  simp only [perform_bind]
  apply same_findByUsername
  · apply same_generateSalt
    intro salt salt' good good'
    apply same_addUser (sameUser_hashed offered good good')
    intro added
    cases added with
    | none => exact same_of_plain ⟨trivial, fun _ => trivial⟩
    | some id => exact same_of_plain ⟨trivial, fun _ => trivial⟩
  · intro u u' _
    exact same_sendError session "Username already taken."

theorem same_refusal {m : ChangePasswordRequest} {u u' : User} (like : SameUser Offered u u')
    (offered : Offered m.oldPassword) : passwordRefusal m u' = passwordRefusal m u := by
  have opens := like.opens m.oldPassword offered
  simp only [passwordRefusal, ne_eq, opens]

theorem same_changePasswordOf (session : SessionId) (m : ChangePasswordRequest) {u u' : User}
    (like : SameUser Offered u u') (old : Offered m.oldPassword) (new : Offered m.newPassword) :
    SameProgram Offered (changePasswordOf session m u) (changePasswordOf session m u') := by
  unfold changePasswordOf
  rw [same_refusal like old]
  cases passwordRefusal m u with
  | some refusal => exact same_sendError session refusal
  | none =>
    apply same_generateSalt
    intro salt salt' good good'
    have row : SameUser Offered
        { u with salt := salt, hashedPassword := hashPassword m.newPassword salt }
        { u' with salt := salt', hashedPassword := hashPassword m.newPassword salt' } := by
      rw [like.id, like.username]
      exact sameUser_hashed new good good'
    exact same_updateUser row fun _ => same_of_plain ⟨trivial, fun _ => trivial⟩

theorem same_handleChangePassword (session : SessionId) (m : ChangePasswordRequest)
    (old : Offered m.oldPassword) (new : Offered m.newPassword) :
    SameProgram Offered (handleChangePassword session m) (handleChangePassword session m) := by
  rw [handleChangePassword_eq]
  simp only [perform_bind]
  apply same_plain (c := .isAuthenticated session) trivial
  intro present
  cases present with
  | false => exact same_sendError session "Not authenticated."
  | true =>
    apply same_plain (c := .getUsername session) trivial
    intro username
    apply same_findByUsername
    · exact same_sendError session "User not found."
    · intro u u' like
      exact same_changePasswordOf session m like old new

theorem same_changeUsernameOf (session : SessionId) (m : ChangeUsernameRequest) {u u' : User}
    (like : SameUser Offered u u') :
    SameProgram Offered (changeUsernameOf session m u) (changeUsernameOf session m u') := by
  have refusal : renameRefusal m u' = renameRefusal m u := by
    simp only [renameRefusal, like.username]
  unfold changeUsernameOf
  rw [refusal]
  cases renameRefusal m u with
  | some refusal => exact same_sendError session refusal
  | none =>
    have row : SameUser Offered { u with username := m.newUsername }
        { u' with username := m.newUsername } := ⟨like.id, rfl, like.opens, like.fits⟩
    apply same_updateUser row
    intro _
    exact same_of_plain (p := .call (.updateUsername _ _) _)
      ⟨trivial, fun _ => ⟨trivial, fun _ => trivial⟩⟩

theorem same_handleChangeUsername (session : SessionId) (m : ChangeUsernameRequest) :
    SameProgram Offered (handleChangeUsername session m) (handleChangeUsername session m) := by
  rw [handleChangeUsername_eq]
  simp only [perform_bind]
  apply same_plain (c := .isAuthenticated session) trivial
  intro present
  cases present with
  | false => exact same_sendError session "Not authenticated."
  | true =>
    apply same_plain (c := .getUsername session) trivial
    intro username
    apply same_findByUsername
    · exact same_sendError session "User not found."
    · intro u u' like
      apply same_findByUsername
      · exact same_changeUsernameOf session m like
      · intro _ _ _
        exact same_sendError session "Username already taken."

theorem same_senderName (senderId : Int) :
    SameProgram Offered (senderName senderId) (senderName senderId) := by
  unfold senderName
  simp only [perform_bind]
  apply same_findByUserId
  · exact .done "Unknown"
  · intro _ _ _
    apply same_findByUserId
    · exact same_of_plain (p := .call .dereferenceEmpty _)
        ⟨trivial, fun impossible => impossible.elim⟩
    · intro u u' like
      dsimp only
      rw [like.username]
      exact .done u.username

theorem same_historyMessages (roomname : String) (messages : List Message) :
    SameProgram Offered (historyMessages roomname messages)
      (historyMessages roomname messages) := by
  induction messages with
  | nil => exact .done []
  | cons msg rest ih =>
    apply alike_bind (same_senderName msg.senderId)
    intro name
    exact alike_bind ih fun others => .done _

theorem same_handleHistoryRequest (session : SessionId) (m : HistoryMessageRequest) :
    SameProgram Offered (handleHistoryRequest session m) (handleHistoryRequest session m) := by
  unfold handleHistoryRequest
  simp only [perform_bind]
  apply same_plain (c := .isAuthenticated session) trivial
  intro present
  cases present with
  | false => exact .done ()
  | true =>
    apply same_plain (c := .getUserId session) trivial
    intro userId
    apply same_plain (c := .isInRoom userId m.roomName) trivial
    intro inside
    cases inside with
    | false => exact .done ()
    | true =>
      apply same_plain (c := .getUserId session) trivial
      intro current
      apply same_plain (c := .getUserCurrentRoomId current) trivial
      intro roomId
      apply same_plain (c := .repository (.findLatestByRoomId roomId _)) trivial
      intro messages
      apply alike_bind (same_historyMessages m.roomName messages.reverse)
      intro history
      exact same_of_plain ⟨trivial, fun _ => trivial⟩

omit [Sha256] in
theorem plain_publicCall {session : SessionId} {m : PublicMessage} (c : Call)
    (talks : PublicCall session m c) : Plain c := by
  cases c with
  | repository q => cases q <;> simp_all
  | _ => simp_all

omit [Sha256] in
theorem plain_privateCall {m : PrivateMessageRequest} (c : Call) (talks : PrivateCall m c) :
    Plain c := by
  cases c <;> simp_all

omit [Sha256] in
theorem plain_roomCall {session : SessionId} {m : RoomOperationRequest} (c : Call)
    (room : RoomCall session m c) : Plain c := by
  cases c with
  | repository q => cases q <;> simp_all
  | _ => simp_all

omit [Sha256] in
theorem plain_leaveCall {session : SessionId} (c : Call) (leave : LeaveCall session c) :
    Plain c := by
  cases c <;> simp_all

theorem same_requireAuthentication {session : SessionId} {handler : Handler}
    (same : SameProgram Offered handler handler) :
    SameProgram Offered (requireAuthentication session handler)
      (requireAuthentication session handler) := by
  unfold requireAuthentication
  simp only [perform_bind]
  apply same_plain (c := .isAuthenticated session) trivial
  intro present
  cases present with
  | false => exact same_sendError session "Authentication required."
  | true => exact same

end Handlers

def passwordsOf : Job → List String
  | .dispatch _ ⟨_, some (.loginRequest m)⟩ => [m.password]
  | .dispatch _ ⟨_, some (.registrationRequest m)⟩ => [m.password]
  | .dispatch _ ⟨_, some (.changePasswordRequest m)⟩ => [m.oldPassword, m.newPassword]
  | _ => []

/-- No job can tell the rows apart, as long as its passwords are among those offered. -/
theorem same_job {job : Job} (offered : ∀ p ∈ passwordsOf job, Offered p) :
    SameProgram Offered job.handler job.handler := by
  cases job with
  | disconnect session =>
    exact same_of_plain (uses_mono plain_leaveCall (leaveCalls_onDisconnect session))
  | dispatch session e =>
    obtain ⟨messageId, payload⟩ := e
    cases payload with
    | none => exact same_requireAuthentication (.done ())
    | some payload =>
      cases payload with
      | loginRequest m => exact same_handleLogin session m (offered _ (by simp [passwordsOf]))
      | registrationRequest m =>
        exact same_handleRegister session m (offered _ (by simp [passwordsOf]))
      | changePasswordRequest m =>
        have old := offered m.oldPassword (by simp [passwordsOf])
        have new := offered m.newPassword (by simp [passwordsOf])
        exact same_requireAuthentication (same_handleChangePassword session m old new)
      | changeUsernameRequest m =>
        exact same_requireAuthentication (same_handleChangeUsername session m)
      | publicMessage m =>
        exact same_requireAuthentication
          (same_of_plain (uses_mono plain_publicCall (publicCalls_handlePublicMessage session m)))
      | privateMessageRequest m =>
        exact same_requireAuthentication
          (same_of_plain (uses_mono plain_privateCall (privateCalls_handlePrivateMessage session m)))
      | roomOperationRequest m =>
        exact same_requireAuthentication
          (same_of_plain (uses_mono plain_roomCall (roomCalls_handleRoomOperation session m)))
      | historyMessageRequest m =>
        exact same_requireAuthentication (same_handleHistoryRequest session m)
      | _ => exact same_requireAuthentication (.done ())

end Likeness

section Tables
variable [Sha256] [Collation] (Offered : String → Prop)

structure SameTables (t t' : Tables) : Prop where
  users : List.Forall₂ (SameUser Offered) t.users.rows t'.users.rows
  nextId : t'.users.nextId = t.users.nextId
  rooms : t'.rooms = t.rooms
  messages : t'.messages = t.messages
  nextMessage : t'.nextMessage = t.nextMessage

variable {Offered} {t t' : Tables} {u u' : User}

theorem sameUsers_find (same : SameTables Offered t t') (name : String) :
    Option.Rel (SameUser Offered) (t.users.find name) (t'.users.find name) := by
  apply forall₂_find same.users
  intro u u' like
  simp only [Row.name, like.username]

theorem sameUsers_findId (same : SameTables Offered t t') (id : Int) :
    Option.Rel (SameUser Offered) (t.users.findId id) (t'.users.findId id) := by
  apply forall₂_find same.users
  intro u u' like
  simp only [Row.id, like.id]

theorem sameUsers_isSome (same : SameTables Offered t t') (id : Int) :
    (t'.users.findId id).isSome = (t.users.findId id).isSome := by
  have found := sameUsers_findId same id
  generalize t.users.findId id = row at found ⊢
  generalize t'.users.findId id = row' at found ⊢
  cases found <;> rfl

theorem sameUsers_free (same : SameTables Offered t t') (name : String) :
    t'.users.Free name ↔ t.users.Free name := by
  apply Iff.symm
  apply forall₂_all same.users
  intro u u' like
  simp only [Row.name, like.username]

theorem sameUsers_freeFor (same : SameTables Offered t t') (id : Int) (name : String) :
    t'.users.FreeFor id name ↔ t.users.FreeFor id name := by
  apply Iff.symm
  apply forall₂_all same.users
  intro u u' like
  simp only [Row.id, Row.name, like.id, like.username]

theorem sameUsers_known (same : SameTables Offered t t') (id : Int) :
    (∃ u ∈ t'.users.rows, u.id = id) ↔ ∃ u ∈ t.users.rows, u.id = id := by
  have unknown : (∀ u ∈ t.users.rows, u.id ≠ id) ↔ ∀ u ∈ t'.users.rows, u.id ≠ id := by
    apply forall₂_all same.users
    intro u u' like
    simp only [like.id]
  have known := not_congr unknown
  push Not at known
  exact known.symm

theorem sameUsers_insert (same : SameTables Offered t t') (like : SameUser Offered u u')
    (free : t.users.Free (Row.name u)) (free' : t'.users.Free (Row.name u')) :
    List.Forall₂ (SameUser Offered) (t.users.insert u free).rows
      (t'.users.insert u' free').rows := by
  apply List.rel_append same.users
  have new : SameUser Offered (Row.withId u t.users.nextId) (Row.withId u' t'.users.nextId) :=
    ⟨same.nextId, like.username, like.opens, like.fits⟩
  exact .cons new .nil

theorem sameUsers_update (same : SameTables Offered t t') (like : SameUser Offered u u')
    (free : t.users.FreeFor u.id u.username) (free' : t'.users.FreeFor u'.id u'.username) :
    List.Forall₂ (SameUser Offered) (updateUsers t.users u free).rows
      (updateUsers t'.users u' free').rows := by
  have each : ∀ row row', SameUser Offered row row' →
      SameUser Offered (withColumns u row) (withColumns u' row') := by
    intro row row' alike
    unfold withColumns
    rw [alike.id, like.id]
    split
    · exact ⟨rfl, like.username, like.opens, like.fits⟩
    · exact alike
  exact List.rel_map each same.users

abbrev LikeQuery (Offered : String → Prop) (q q' : Query) : Prop :=
  LikeCall Offered (.repository q) (.repository q')

variable {q q' : Query}

theorem sameTables_admits (same : SameTables Offered t t') (like : LikeQuery Offered q q') :
    t'.Admits q' ↔ t.Admits q := by
  cases like with
  | addUser like =>
    have fits := like.fits
    simp only [Fitting] at fits
    simp only [Tables.Admits, like.username, sameUsers_free same, fits]
  | updateUser like =>
    have fits := like.fits
    simp only [Fitting] at fits
    simp only [Tables.Admits, like.id, like.username, sameUsers_freeFor same, fits]
  | same =>
    cases q with
    | addUser user => simp only [Tables.Admits, sameUsers_free same]
    | updateUser user => simp only [Tables.Admits, sameUsers_freeFor same]
    | addRoom room => simp only [Tables.Admits, same.rooms, sameUsers_known same]
    | addMessage message => simp only [Tables.Admits, same.rooms, sameUsers_known same]
    | _ => exact Iff.rfl

theorem sameTables_users {users : Table User} {users' : Table User}
    (same : SameTables Offered t t')
    (rows : List.Forall₂ (SameUser Offered) users.rows users'.rows)
    (nextId : users'.nextId = users.nextId) :
    SameTables Offered { t with users := users } { t' with users := users' } :=
  ⟨rows, nextId, same.rooms, same.messages, same.nextMessage⟩

theorem sameTables_insert (same : SameTables Offered t t') (like : SameUser Offered u u')
    (outcome : Outcome) (admits : t.Admits (.addUser u)) (admits' : t'.Admits (.addUser u')) :
    SameTables Offered (t.apply outcome (.addUser u) admits)
      (t'.apply outcome (.addUser u') admits') :=
  sameTables_users same (sameUsers_insert same like admits.1 admits'.1)
    (congrArg (· + 1) same.nextId)

theorem sameTables_update (same : SameTables Offered t t') (like : SameUser Offered u u')
    (outcome : Outcome) (admits : t.Admits (.updateUser u))
    (admits' : t'.Admits (.updateUser u')) :
    SameTables Offered (t.apply outcome (.updateUser u) admits)
      (t'.apply outcome (.updateUser u') admits') :=
  sameTables_users same (sameUsers_update same like admits.1 admits'.1) same.nextId

theorem sameTables_apply (same : SameTables Offered t t') (like : LikeQuery Offered q q')
    (outcome : Outcome) (admits : t.Admits q) (admits' : t'.Admits q') :
    SameTables Offered (t.apply outcome q admits) (t'.apply outcome q' admits') := by
  cases like with
  | addUser like => exact sameTables_insert same like outcome admits admits'
  | updateUser like => exact sameTables_update same like outcome admits admits'
  | same =>
    cases q with
    | addUser user => exact sameTables_insert same (sameUser_refl user) outcome admits admits'
    | updateUser user => exact sameTables_update same (sameUser_refl user) outcome admits admits'
    | addRoom room =>
      obtain ⟨users, rooms, messages, nextMessage⟩ := t
      obtain ⟨users', rooms', messages', nextMessage'⟩ := t'
      obtain ⟨rows, nextId, sameRooms, sameMessages, next⟩ := same
      dsimp only at sameRooms sameMessages next
      subst sameRooms sameMessages next
      exact ⟨rows, nextId, rfl, rfl, rfl⟩
    | addMessage message =>
      have appended := same.messages
      have next := same.nextMessage
      refine ⟨same.users, same.nextId, same.rooms, ?_, ?_⟩
      · simp only [Tables.apply, appended, next]
      · simp only [Tables.apply, next]
    | _ => exact same

theorem sameTables_skipped (same : SameTables Offered t t') (like : LikeQuery Offered q q') :
    SameTables Offered (skipped t q) (skipped t' q') := by
  have gap : SameTables Offered (skipIdOf t .users) (skipIdOf t' .users) :=
    sameTables_users same same.users (congrArg (· + 1) same.nextId)
  cases like with
  | addUser like => exact gap
  | updateUser like => exact same
  | same =>
    cases q with
    | addUser user => exact gap
    | addRoom room =>
      refine ⟨same.users, same.nextId, ?_, same.messages, same.nextMessage⟩
      simp only [skipped, skipIdOf, same.rooms]
    | addMessage message =>
      refine ⟨same.users, same.nextId, same.rooms, same.messages, ?_⟩
      simp only [skipped, skipIdOf, same.nextMessage]
    | _ => exact same

theorem sameTables_next (same : SameTables Offered t t') (like : LikeQuery Offered q q')
    (g : Gaps) : SameTables Offered (gapped.next g q t) (gapped.next g q' t') := by
  have admits := sameTables_admits same like
  by_cases stored : Stored g.outcome q t
  · have stored' : Stored g.outcome q' t' := ⟨stored.1, admits.mpr stored.2⟩
    simp only [gapped, stored, stored', if_true, next_stored stored, next_stored stored']
    exact sameTables_apply same like g.outcome stored.2 stored'.2
  · have lost : ¬ Stored g.outcome q' t' := fun there => stored ⟨there.1, admits.mp there.2⟩
    simp only [gapped, stored, lost]
    cases g.skips with
    | false => exact same
    | true => exact sameTables_skipped same like

theorem likeAnswer_query (same : SameTables Offered t t') (like : LikeQuery Offered q q')
    (outcome : Outcome) : LikeAnswer Offered (.repository q) (.repository q')
      (t.answer outcome q) (t'.answer outcome q') := by
  have nextId := same.nextId
  have rooms := same.rooms
  have messages := same.messages
  have nextMessage := same.nextMessage
  cases like with
  | addUser like => simp only [LikeAnswer, Tables.answer, nextId, heq_eq_eq]
  | updateUser like =>
    simp only [LikeAnswer, Tables.answer, like.id, sameUsers_isSome same, heq_eq_eq]
  | same =>
    cases q with
    | findByUsername username => exact sameUsers_find same username
    | findByUserId id => exact sameUsers_findId same id
    | addUser user => simp only [LikeAnswer, Tables.answer, nextId, heq_eq_eq]
    | updateUser user =>
      simp only [LikeAnswer, Tables.answer, sameUsers_isSome same, heq_eq_eq]
    | findByRoomName name => simp only [LikeAnswer, Tables.answer, rooms, heq_eq_eq]
    | addRoom room => simp only [LikeAnswer, Tables.answer, rooms, heq_eq_eq]
    | addMessage message => simp only [LikeAnswer, Tables.answer, nextMessage, heq_eq_eq]
    | findLatestByRoomId roomId limit =>
      simp only [LikeAnswer, Tables.answer, messages, heq_eq_eq]

omit [Collation] in
theorem likeAnswer_fallback (like : LikeQuery Offered q q') :
    LikeAnswer Offered (.repository q) (.repository q') q.fallback q'.fallback := by
  cases like with
  | addUser _ => exact HEq.rfl
  | updateUser _ => exact HEq.rfl
  | same => cases q <;> first | exact .none | exact HEq.rfl

theorem sameEnd_error {c c' : Call} (e : Exception) :
    SameEnd (secret Offered) (chat gapped) c c' (.error e) (.error e) :=
  SameEnd.error (M := chat gapped) e

theorem sameEnd_query (same : SameTables Offered t t') (like : LikeQuery Offered q q')
    (g : Gaps) : SameEnd (secret Offered) (chat gapped) (.repository q) (.repository q')
      (catchLadder q (gapped.answer g q t)) (catchLadder q' (gapped.answer g q' t')) := by
  have admits := sameTables_admits same like
  simp only [gapped, database]
  cases raised : g.outcome.raises with
  | some e =>
    cases e with
    | otherCategory => exact sameEnd_error .sociError
    | _ => exact .ok (likeAnswer_fallback like)
  | none =>
    by_cases fine : t.Admits q
    · have fine' := admits.mpr fine
      simp only [fine, fine', if_true, catchLadder]
      exact .ok (likeAnswer_query same like g.outcome)
    · have refused : ¬ t'.Admits q' := fun there => fine (admits.mp there)
      simp only [fine, refused, if_false, catchLadder]
      exact sameEnd_error .sociError

end Tables

section Servers
variable [Sha256] [Collation] (Offered : String → Prop)

structure SameWorlds (w w' : World gapped) : Prop where
  server : w'.server = w.server
  store : SameTables Offered w.store w'.store

/-- The same clock and the same failures; the salts may differ, if they are good. -/
structure SameChoice (x x' : Choice gapped) : Prop where
  store : x'.store = x.store
  now : x'.now = x.now
  salt : Option.Rel (fun salt salt' => GoodSalt Offered salt ∧ GoodSalt Offered salt')
    x.salt x'.salt

variable {Offered} {w w' : World gapped} {x x' : Choice gapped} {c c' : Call}

theorem sameEnd_same {ends : Except Exception c.Answer}
    (same : ∀ a, LikeAnswer Offered c c a a) :
    SameEnd (secret Offered) (chat gapped) c c ends ends := by
  cases ends with
  | ok a => exact .ok (same a)
  | error e => exact sameEnd_error e

theorem sameEnd_salt {drawn drawn' : Option String} (salts : Option.Rel
    (fun salt salt' => GoodSalt Offered salt ∧ GoodSalt Offered salt') drawn drawn') :
    SameEnd (secret Offered) (chat gapped) .generateSalt .generateSalt
      (fieldOr .runtimeError drawn) (fieldOr .runtimeError drawn') := by
  cases salts with
  | none => exact sameEnd_error .runtimeError
  | some good => exact .ok good

theorem sameEnd_call (worlds : SameWorlds Offered w w') (choices : SameChoice Offered x x')
    (like : LikeCall Offered c c') :
    SameEnd (secret Offered) (chat gapped) c c' (callAnswer gapped x c w)
      (callAnswer gapped x' c' w') := by
  have query : ∀ {q q'}, LikeQuery Offered q q' → SameEnd (secret Offered) (chat gapped)
      (.repository q) (.repository q') (callAnswer gapped x (.repository q) w)
      (callAnswer gapped x' (.repository q') w') := by
    intro q q' like
    simp only [callAnswer, choices.store]
    exact sameEnd_query worlds.store like x.store
  have server := worlds.server
  cases like with
  | addUser like => exact query (.addUser like)
  | updateUser like => exact query (.updateUser like)
  | same =>
    cases c with
    | repository q => exact query (.same _)
    | generateSalt => exact sameEnd_salt choices.salt
    | getCurrentTime =>
      simp only [callAnswer, choices.now]
      exact sameEnd_same fun _ => HEq.rfl
    | _ =>
      simp only [callAnswer, server]
      exact sameEnd_same fun _ => HEq.rfl

theorem sameWorlds_next (worlds : SameWorlds Offered w w') (choices : SameChoice Offered x x')
    (like : LikeCall Offered c c') :
    SameWorlds Offered ⟨serverNext c w.server, storeNext gapped x c w.store⟩
      ⟨serverNext c' w'.server, storeNext gapped x' c' w'.store⟩ := by
  obtain ⟨server, store⟩ := worlds
  have next : ∀ {q q'}, LikeQuery Offered q q' →
      SameTables Offered (gapped.next x.store q w.store) (gapped.next x'.store q' w'.store) := by
    intro q q' like
    rw [choices.store]
    exact sameTables_next store like x.store
  cases like with
  | addUser like => exact ⟨server, next (.addUser like)⟩
  | updateUser like => exact ⟨server, next (.updateUser like)⟩
  | same =>
    constructor
    · simp only [server]
    · cases c with
      | repository q =>
        cases q with
        | addUser user => exact next (.same _)
        | updateUser user => exact next (.same _)
        | addRoom room => exact next (.same _)
        | addMessage message => exact next (.same _)
        | _ => exact store
      | _ => exact store

theorem sameEmit (worlds : SameWorlds Offered w w') (like : LikeCall Offered c c') :
    callEmit c w.server = callEmit c' w'.server := by
  cases like with
  | addUser _ => rfl
  | updateUser _ => rfl
  | same => rw [worlds.server]

variable (Offered)

def secretLockstep : Lockstep (chat gapped) (secret Offered) where
  state := SameWorlds Offered
  choice := SameChoice Offered
  ends := sameEnd_call
  emits := fun worlds _ like => sameEmit worlds like
  next := sameWorlds_next

/-- The same is asked at the same time; what differs is the salts that are drawn for it. -/
inductive SameAsked : Move (chat gapped) Job → Move (chat gapped) Job → Prop where
  | post (job : Job) {choices choices' : Nat → Choice gapped}
      (offered : ∀ p ∈ passwordsOf job, Offered p)
      (same : ∀ n, SameChoice Offered (choices n) (choices' n)) :
      SameAsked (.post job choices) (.post job choices')
  | start : SameAsked .start .start
  | advance (place : Nat) : SameAsked (.advance place) (.advance place)

variable {Offered}

theorem sameMove_of_asked {move move' : Move (chat gapped) Job}
    (asked : SameAsked Offered move move') :
    SameMove (secretLockstep Offered) Job.handler move move' := by
  cases asked with
  | post job offered same => exact .post job same (same_job offered)
  | start => exact .start
  | advance place => exact .advance place

def serverAfter (workers : Nat) (server : Server) (t : Tables)
    (moves : List (Move (chat gapped) Job)) : Pool (chat gapped) Job :=
  (Pool.idle (⟨server, t⟩ : World gapped)).run workers Job.handler moves

/-- The two have sent the same envelopes, remember the same, and store the same but for the
    secrets. -/
structure SameShown (Offered : String → Prop) (pool pool' : Pool (chat gapped) Job) : Prop where
  sent : outputs pool'.log = outputs pool.log
  worlds : SameWorlds Offered pool.state pool'.state

/-- Two servers, asked the same, send the same and remember the same: salts and hashes show
    only in which passwords open a row. -/
theorem secrets_stay (workers : Nat) (server : Server) {t t' : Tables}
    (same : SameTables Offered t t') {moves moves' : List (Move (chat gapped) Job)}
    (asked : List.Forall₂ (SameAsked Offered) moves moves') :
    SameShown Offered (serverAfter workers server t moves)
      (serverAfter workers server t' moves') := by
  have start : SamePool (secretLockstep Offered)
      (Pool.idle (⟨server, t⟩ : World gapped) : Pool (chat gapped) Job)
      (Pool.idle (⟨server, t'⟩ : World gapped)) := samePool_idle ⟨rfl, same⟩
  have ends := samePool_run workers start (asked.imp fun _ _ => sameMove_of_asked)
  exact ⟨same_outputs ends.log, ends.state⟩

end Servers

section TwoSalts

local instance : Sha256 := ⟨id⟩
local instance : Collation := ⟨id⟩

def annStored (salt : String) : Tables :=
  { Tables.empty with
    users := Table.empty.insert ⟨0, "ann", "pw" ++ salt, salt⟩ (by simp [Table.Free, Table.empty]) }

def bobRegisters (salt : String) : Move (chat gapped) Job :=
  .post (.dispatch 0 ⟨"", some (.registrationRequest ⟨"bob", "pw"⟩)⟩)
    (fun _ => ⟨(default : Gaps), some salt, ⟨0, 0⟩⟩)

def bobAsks (salt : String) : List (Move (chat gapped) Job) :=
  [bobRegisters salt, .start, .advance 0, .advance 0, .advance 0, .advance 0, .advance 0]

theorem goodSalt_short (salt : String) (short : salt.length = 1) : GoodSalt (· = "pw") salt := by
  have password : "pw".length = 2 := rfl
  constructor
  · omega
  · intro p offered
    rw [offered]
    simp only [hashPassword, Sha256.hexDigest, id, String.length_append]
    omega
  · intro p q first second _
    exact first.trans second.symm

theorem sameAnn : SameTables (· = "pw") (annStored "a") (annStored "b") := by
  have ann : SameUser (· = "pw") ⟨1, "ann", hashPassword "pw" "a", "a"⟩
      ⟨1, "ann", hashPassword "pw" "b", "b"⟩ :=
    sameUser_hashed rfl (goodSalt_short "a" rfl) (goodSalt_short "b" rfl)
  exact ⟨.cons ann .nil, rfl, rfl, rfl, rfl⟩

theorem sameBob : List.Forall₂ (SameAsked (· = "pw")) (bobAsks "a") (bobAsks "b") := by
  have registers : SameAsked (· = "pw") (bobRegisters "a") (bobRegisters "b") := by
    apply SameAsked.post
    · simp [passwordsOf]
    · exact fun _ => ⟨rfl, rfl, .some ⟨goodSalt_short "a" rfl, goodSalt_short "b" rfl⟩⟩
  have advances : SameAsked (· = "pw") (.advance 0) (.advance 0) := .advance 0
  exact .cons registers (.cons .start (.cons advances (.cons advances (.cons advances
    (.cons advances (.cons advances .nil))))))

theorem secrets_stay_bob : SameShown (· = "pw")
    (serverAfter 1 Server.start (annStored "a") (bobAsks "a"))
    (serverAfter 1 Server.start (annStored "b") (bobAsks "b")) :=
  secrets_stay 1 Server.start sameAnn sameBob

end TwoSalts

end StoredSecrets
