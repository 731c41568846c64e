import ChatServer.Accounts.Passwords
import ChatServer.Atomic.ExpectedAnswers
import ChatServer.Connections.Integrity

/-!
The salts and hashes in the users table. Both are bytes written in hex, a salt from the
random generator and a hash from SHA-256. However the handlers interleave, a row has them
from the start, or for a password that somebody asked to have set.
-/
namespace Credentials
open AtomicCalls EventRuns WorkerPool ExpectedAnswers ChatProtocol ChatState ChatCalls
  ChatServices ChatEffects ChatDatabase TransactedTables AccountHandlers JobEffects DrivenQueries
  StoreIntegrity Passwords

section Hex

/-- `std::hex << std::setw(2) << std::setfill('0') << static_cast<int>(c)`. -/
def putByte (c : UInt8) : List Char :=
  let digits := Nat.toDigits 16 c.toNat
  List.replicate (2 - digits.length) '0' ++ digits

def hexText (bytes : List UInt8) : String := String.ofList (bytes.flatMap putByte)

theorem putByte_length (c : UInt8) : (putByte c).length = 2 := by
  have small : c.toNat < 16 ^ 2 := c.toNat_lt
  have digits := (Nat.length_toDigits_le_iff (by decide) (by decide)).mpr small
  simp only [putByte, List.length_append, List.length_replicate]
  omega

theorem hexText_length (bytes : List UInt8) : (hexText bytes).length = 2 * bytes.length := by
  unfold hexText
  rw [String.length_ofList]
  induction bytes with
  | nil => rfl
  | cons c rest ih =>
    rw [List.flatMap_cons, List.length_append, putByte_length, ih, List.length_cons]
    omega

/-- `Crypto::generateSalt` of 16 random bytes. -/
def generateSalt (buffer : Vector UInt8 16) : String := hexText buffer.toList

theorem generateSalt_length (buffer : Vector UInt8 16) : (generateSalt buffer).length = 32 := by
  simp [generateSalt, hexText_length]

class Digest where
  sha256 : List UInt8 → Vector UInt8 32

instance [Digest] : Sha256 := ⟨fun text => hexText (Digest.sha256 text.toUTF8.toList).toList⟩

theorem hashPassword_length [Digest] (password salt : String) :
    (hashPassword password salt).length = 64 := by
  simp [hashPassword, Sha256.hexDigest, hexText_length]

end Hex

section Contracts
variable [Digest] (before : List User) (Asked : String → Prop)

def Kept (u : User) : Prop :=
  ∃ v ∈ before, v.id = u.id ∧ v.salt = u.salt ∧ v.hashedPassword = u.hashedPassword

def Made (u : User) : Prop :=
  ∃ buffer password, Asked password ∧ u.salt = generateSalt buffer ∧
    u.hashedPassword = hashPassword password u.salt

def Credential (u : User) : Prop := Kept before u ∨ Made Asked u

def Finds : (c : Call) → c.Answer → Prop
  | .repository (.findByUsername _), found => ∀ u, found = some u → Credential before Asked u
  | .generateSalt, salt => ∃ buffer, salt = generateSalt buffer
  | _, _ => True

def Writes : Call → Prop
  | .repository (.addUser user) => Made Asked user
  | .repository (.updateUser user) => Credential before Asked user
  | _ => True

abbrev MeetsWrites (p : Handler) : Prop :=
  Meets (Finds before Asked) (Writes before Asked) (fun _ => True) p

def newPassword : Job → Option String
  | .dispatch _ e => match e.payload with
    | some (.registrationRequest m) => some m.password
    | some (.changePasswordRequest m) => some m.newPassword
    | _ => none
  | .disconnect _ => none

variable {before Asked} {session : SessionId}

theorem meets_spared {p : Handler} (spares : p.Uses SparesUsers) : MeetsWrites before Asked p := by
  apply meets_of_uses (uses_mono _ spares)
  intro c spared
  cases c with
  | repository q => cases q <;> first | exact spared.elim | trivial
  | _ => trivial

theorem meets_sendError (message : String) :
    MeetsWrites before Asked (sendError session message) := ⟨trivial, fun _ _ => trivial⟩

theorem meets_handleLogin (m : LoginRequest) :
    MeetsWrites before Asked (handleLogin session m) := by
  apply meets_spared
  simp only [handleLogin, perform_bind, Program.Uses, SparesUsers, true_and]
  intro found
  cases found with
  | none => simp [sendError]
  | some user =>
    dsimp only
    split <;> simp [sendError]

theorem meets_handleRegister {m : RegistrationRequest} (asked : Asked m.password) :
    MeetsWrites before Asked (handleRegister session m) := by
  simp only [MeetsWrites, handleRegister, perform_bind, Meets, Writes, true_and]
  intro found _
  cases found with
  | some user => exact meets_sendError _
  | none =>
    simp only [Meets, Writes, true_and]
    intro salt drawn
    obtain ⟨buffer, same⟩ := drawn
    refine ⟨⟨buffer, m.password, asked, same, rfl⟩, ?_⟩
    intro added _
    cases added <;> exact ⟨trivial, fun _ _ => trivial⟩

theorem meets_handleChangePassword {m : ChangePasswordRequest} (asked : Asked m.newPassword) :
    MeetsWrites before Asked (handleChangePassword session m) := by
  simp only [MeetsWrites, handleChangePassword, perform_bind, Meets, Writes, true_and]
  intro present _
  cases present with
  | false => exact meets_sendError _
  | true =>
    simp only [if_true, Meets, Writes, true_and]
    intro username _ found _
    cases found with
    | none => exact meets_sendError _
    | some user =>
      dsimp only
      split
      · exact meets_sendError _
      · split
        · exact meets_sendError _
        · split
          · exact meets_sendError _
          · simp only [Meets, Writes, true_and]
            intro salt drawn
            obtain ⟨buffer, same⟩ := drawn
            refine ⟨Or.inr ⟨buffer, m.newPassword, asked, same, rfl⟩, ?_⟩
            exact fun _ _ => ⟨trivial, fun _ _ => trivial⟩

theorem meets_handleChangeUsername (m : ChangeUsernameRequest) :
    MeetsWrites before Asked (handleChangeUsername session m) := by
  simp only [MeetsWrites, handleChangeUsername, perform_bind, Meets, Writes, true_and]
  intro present _
  cases present with
  | false => exact meets_sendError _
  | true =>
    simp only [if_true, Meets, Writes, true_and]
    intro username _ found known
    cases found with
    | none => exact meets_sendError _
    | some user =>
      simp only [Meets, Writes, true_and]
      intro taken _
      cases taken with
      | some other => exact meets_sendError _
      | none =>
        dsimp only
        split
        · exact meets_sendError _
        · split
          · exact meets_sendError _
          · refine ⟨?_, fun _ _ => ⟨trivial, fun _ _ => ⟨trivial, fun _ _ => trivial⟩⟩⟩
            rcases known user rfl with ⟨v, there, same, salt, hash⟩ | made
            · exact Or.inl ⟨v, there, same, salt, hash⟩
            · exact Or.inr made

theorem meets_requireAuthentication {handler : Handler} (h : MeetsWrites before Asked handler) :
    MeetsWrites before Asked (requireAuthentication session handler) := by
  simp only [MeetsWrites, requireAuthentication, perform_bind, Meets, Writes, true_and]
  intro present _
  cases present with
  | false => exact meets_sendError _
  | true => exact h

theorem meets_dispatchMessage {e : Envelope}
    (asked : ∀ password, newPassword (.dispatch session e) = some password → Asked password) :
    MeetsWrites before Asked (dispatchMessage session e) := by
  obtain ⟨messageId, payload⟩ := e
  cases payload with
  | none => exact meets_requireAuthentication trivial
  | some p =>
    cases p with
    | loginRequest m => exact meets_handleLogin m
    | registrationRequest m => exact meets_handleRegister (asked m.password rfl)
    | changePasswordRequest m =>
      exact meets_requireAuthentication (meets_handleChangePassword (asked m.newPassword rfl))
    | changeUsernameRequest m => exact meets_requireAuthentication (meets_handleChangeUsername m)
    | publicMessage m =>
      exact meets_requireAuthentication
        (meets_spared (sparesUsers_messageCalls (messageCalls_handlePublicMessage session m)))
    | privateMessageRequest m =>
      exact meets_requireAuthentication
        (meets_spared (sparesUsers_messageCalls (messageCalls_handlePrivateMessage session m)))
    | roomOperationRequest m =>
      exact meets_requireAuthentication
        (meets_spared (sparesUsers_handleRoomOperation session m))
    | historyMessageRequest m =>
      exact meets_requireAuthentication
        (meets_spared (sparesUsers_messageCalls (messageCalls_handleHistoryRequest session m)))
    | _ => exact meets_requireAuthentication trivial

theorem meets_job {job : Job}
    (asked : ∀ password, newPassword job = some password → Asked password) :
    MeetsWrites before Asked job.handler := by
  cases job with
  | dispatch id e => exact meets_dispatchMessage asked
  | disconnect id =>
    apply meets_spared
    simp only [Job.handler, onDisconnect, handleDisconnect, perform_bind, call_bind,
      Program.Uses, SparesUsers, true_and]
    intro present
    cases present with
    | false => simp
    | true =>
      simp only [if_true, Program.Uses, SparesUsers, true_and]
      intro username userId again
      cases again <;> simp

end Contracts

section Runs
variable [Digest] [Collation] {before : List User} {Asked : String → Prop}

theorem users_gapped {g : Gaps} {q : Query} {t : Tables}
    (rows : ∀ u ∈ t.users.rows, Credential before Asked u)
    (writes : Writes before Asked (.repository q)) :
    ∀ u ∈ (gapped.next g q t).users.rows, Credential before Asked u := by
  rcases gapped_cases g q t with same | ⟨table, gap⟩ | ⟨admits, effect⟩
  · rw [same]
    exact rows
  · rw [gap]
    cases table <;> exact rows
  · rw [effect]
    intro u there
    cases q with
    | addUser user =>
      have added : u ∈ (t.users.insert user admits.1).rows := there
      rcases mem_insert.mp added with old | new
      · exact rows u old
      · rw [new]
        exact Or.inr writes
    | updateUser user =>
      have updated : u ∈ (updateUsers t.users user admits.1).rows := there
      obtain ⟨row, stored, same⟩ := mem_updateUsers.mp updated
      rw [← same]
      unfold withColumns
      split
      · rename_i own
        rcases writes with ⟨v, listed, id, salt, hash⟩ | made
        · exact Or.inl ⟨v, listed, id.trans own.symm, salt, hash⟩
        · exact Or.inr made
      · exact rows row stored
    | _ => exact rows u there

variable [TextComparison]

def DrawsSalts (choice : Choice driven) : Prop :=
  ∀ salt, choice.salt = some salt → ∃ buffer, salt = generateSalt buffer

theorem finds_answered {choice : Choice driven} {c : Call} {w : World driven} {a : c.Answer}
    (rows : ∀ u ∈ w.store.users.rows, Credential before Asked u) (draws : DrawsSalts choice)
    (answer : (chat driven).answer choice c w = .ok a) : Finds before Asked c a := by
  cases c with
  | repository q =>
    cases q with
    | findByUsername name =>
      intro u same
      subst same
      exact rows u (answered_row answer).1
    | _ => trivial
  | generateSalt =>
    apply draws a
    cases drawn : choice.salt with
    | none => simp [drawn] at answer
    | some salt => simpa [drawn] using answer
  | _ => trivial

theorem users_driven {choice : Choice driven} {c : Call} {w : World driven}
    (rows : ∀ u ∈ w.store.users.rows, Credential before Asked u)
    (writes : Writes before Asked c) :
    ∀ u ∈ ((chat driven).next choice c w).store.users.rows, Credential before Asked u := by
  have stored : ∀ q, Writes before Asked (.repository q) →
      ∀ u ∈ (driven.next choice.store q w.store).users.rows, Credential before Asked u := by
    intro q allowed
    obtain ⟨g, same⟩ := driven_next choice.store q w.store
    rw [same]
    exact users_gapped rows allowed
  cases c with
  | repository q =>
    cases q with
    | addUser user => exact stored _ writes
    | updateUser user => exact stored _ writes
    | addRoom room => exact stored _ writes
    | addMessage message => exact stored _ writes
    | _ => exact rows
  | _ => exact rows

variable (moves : List (Move (chat driven) Job))

def AskedIn (password : String) : Prop :=
  ∃ job choices, Move.post job choices ∈ moves ∧ newPassword job = some password

def SaltsDrawn : Prop :=
  ∀ job choices, Move.post job choices ∈ moves → ∀ n, DrawsSalts (choices n)

variable {moves}

theorem finePost_asked (drawn : SaltsDrawn moves) :
    ∀ move ∈ moves, FinePost (Finds before (AskedIn moves))
      (fun _ => Writes before (AskedIn moves)) DrawsSalts Job.handler move := by
  intro move there
  cases move with
  | post job choices =>
    refine ⟨meets_job ?_, drawn job choices there⟩
    exact fun password wants => ⟨job, choices, there, wants⟩
  | start => trivial
  | advance place => trivial

def Credited (before : List User) (Asked : String → Prop) (w : World driven) : Prop :=
  ∀ u ∈ w.store.users.rows, Credential before Asked u

theorem upheld_credentials (workers : Nat) (t : Tables) (drawn : SaltsDrawn moves) :
    Upheld (Finds t.users.rows (AskedIn moves)) (fun _ => Writes t.users.rows (AskedIn moves))
      (Credited t.users.rows (AskedIn moves)) DrawsSalts
      ((Pool.idle (⟨.start, t⟩ : World driven) : Pool (chat driven) Job).run workers Job.handler
        moves) := by
  have start : Credited t.users.rows (AskedIn moves) (⟨.start, t⟩ : World driven) :=
    fun u there => Or.inl ⟨u, there, rfl, rfl, rfl⟩
  exact everyState_last (upheld_run (M := chat driven)
    (fun _ _ _ _ rows draws answer => finds_answered rows draws answer)
    (fun _ _ _ _ rows _ writes => users_driven rows writes)
    (upheld_idle start) (finePost_asked drawn))

omit [TextComparison] in
theorem admits_made {t : Tables} {user : User} (made : Made Asked user) :
    t.Admits (.addUser user) ↔ t.users.Free user.username ∧ user.username.length ≤ 50 := by
  obtain ⟨buffer, password, _, salt, hash⟩ := made
  have hash_fits : user.hashedPassword.length ≤ 255 := by
    rw [hash, hashPassword_length]
    decide
  have salt_fits : user.salt.length ≤ 255 := by
    rw [salt, generateSalt_length]
    decide
  constructor
  · exact fun admits => ⟨admits.1, admits.2.1⟩
  · exact fun named => ⟨named.1, named.2, hash_fits, salt_fits⟩

/-- What a run on the driver leaves in the columns, and what it may be refused for. -/
structure Credible (before : List User) (Asked : String → Prop) (p : Pool (chat driven) Job) :
    Prop where
  rows : ∀ u ∈ p.state.store.users.rows, Credential before Asked u
  inserts : ∀ e ∈ p.log, ∀ user, e.event.call = .repository (.addUser user) →
    (e.event.state.store.Admits (.addUser user) ↔
      e.event.state.store.users.Free user.username ∧ user.username.length ≤ 50)

/-- However the handlers interleave and wherever the driver fails: the salt and the hash of a
    row are those it had at the start, or a drawn salt with the hash of a password that a
    registration or a password change asked for; a registration is refused for its name only. -/
theorem credentials_made (workers : Nat) (t : Tables) (moves : List (Move (chat driven) Job))
    (drawn : SaltsDrawn moves) :
    Credible t.users.rows (AskedIn moves)
      ((Pool.idle (⟨.start, t⟩ : World driven)).run workers Job.handler moves) := by
  have upheld := upheld_credentials workers t drawn
  refine ⟨upheld.inv, ?_⟩
  intro e made user call
  have writes := upheld.contracted.made e made
  rw [call] at writes
  exact admits_made writes

end Runs

section Ann

local instance : Collation := ⟨id⟩

local instance : TextComparison := ⟨fun _ _ => false, fun _ _ => false⟩

local instance : Digest := ⟨fun _ => .replicate 32 0⟩

def annRegisters : List (Move (chat driven) Job) :=
  [.post (.dispatch 0 ⟨"", some (.registrationRequest ⟨"ann", "pw"⟩)⟩)
      (fun _ => ⟨obliging, some (generateSalt (.replicate 16 0)), ⟨0, 0⟩⟩),
    .start, .advance 0, .advance 0, .advance 0, .advance 0, .advance 0]

theorem saltsDrawn_ann : SaltsDrawn annRegisters := by
  intro job choices there n salt same
  simp only [annRegisters, List.mem_cons, Move.post.injEq, List.not_mem_nil, reduceCtorEq,
    or_false] at there
  rw [there.2] at same
  exact ⟨_, (Option.some.inj same).symm⟩

theorem credentials_made_ann :
    Credible [] (AskedIn annRegisters)
      ((Pool.idle (⟨.start, .empty⟩ : World driven)).run 1 Job.handler annRegisters) :=
  credentials_made 1 .empty annRegisters saltsDrawn_ann

end Ann

end Credentials
