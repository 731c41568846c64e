import ChatServer.Connections.Pool
import ChatServer.Model.Calls

/-!
The twenty functions of the repositories, as what they ask of the driver and in which
order. Each wraps a connection and ends in the same catch blocks; an insert has a try
block of its own inside. A `soci::transaction` that is destroyed uncommitted rolls back,
and keeps an error of that rollback to itself.
-/
namespace Repositories
open AtomicCalls ChatProtocol ChatCalls ConnectionPools

inductive TableName where
  | users
  | rooms
  | messages
  deriving DecidableEq

abbrev TableName.Row : TableName → Type
  | .users => User
  | .rooms => Room
  | .messages => Message

inductive Value where
  | integer (i : Int)
  | text (s : String)
  deriving DecidableEq

inductive Filter where
  | all
  | equals (column : String) (value : Value)
  | contains (column : String) (part : String)
  deriving DecidableEq

inductive Order where
  | unordered
  | ascending (column : String)
  | descending (column : String)
  deriving DecidableEq

structure Select where
  table : TableName
  filter : Filter
  order : Order
  limit : Option Int
  deriving DecidableEq

inductive Sql where
  | select (query : Select)
  | selectCreatedAt (table : TableName) (id : Int)
  | insert (table : TableName) (values : List (String × Value))
  | update (table : TableName) (values : List (String × Value)) (id : Int)
  | delete (table : TableName) (id : Int)
  deriving DecidableEq

/-- The calls into the driver. `exchange` runs a statement together with its data,
    `execute` opens a result that `fetch` then walks through. -/
inductive DriverCall where
  | transaction
  | prepare (sql : Sql)
  | exchange (sql : Sql)
  | execute (query : Select)
  | fetch
  | affectedRows
  | lastInsertId (table : TableName)
  | commit
  | rollback
  deriving DecidableEq

/-- A single row is there when data was got and its id is not NULL. -/
abbrev Sql.Answer : Sql → Type
  | .select query => Option query.table.Row
  | .selectCreatedAt _ _ => Option Int
  | .insert _ _ => Unit
  | .update _ _ _ => Unit
  | .delete _ _ => Unit

abbrev DriverCall.Answer : DriverCall → Type
  | .transaction => Unit
  | .prepare _ => Unit
  | .exchange sql => sql.Answer
  | .execute query => List query.table.Row
  | .fetch => Unit
  | .affectedRows => Int
  | .lastInsertId _ => Option Int
  | .commit => Unit
  | .rollback => Unit

inductive RepositoryCall where
  | getConnection
  | driver (c : DriverCall)
  | markAsInvalid

abbrev RepositoryCall.Answer : RepositoryCall → Type
  | .getConnection => Unit
  | .driver c => Except DriverError c.Answer
  | .markAsInvalid => Unit

abbrev Routine := ExceptT DriverError (Program RepositoryCall RepositoryCall.Answer)

def driver (c : DriverCall) : Routine c.Answer := ExceptT.mk (perform (RepositoryCall.driver c))

def getConnection : Routine Unit := ExceptT.lift (perform RepositoryCall.getConnection)

def markAsInvalid : Routine Unit := ExceptT.lift (perform RepositoryCall.markAsInvalid)

/-- The catch blocks at the end of every function. -/
def ladder (fallback : α) : DriverError → Routine α
  | .noData => pure fallback
  | .connectionError => do
    markAsInvalid
    pure fallback
  | .systemError => do
    markAsInvalid
    pure fallback
  | .otherCategory => throw .otherCategory
  | .standardException => do
    markAsInvalid
    pure fallback

def wrapped (fallback : α) (body : Routine α) : Routine α := do
  getConnection
  tryCatch body (ladder fallback)

/-- How a body leaves its transaction, with the value it returns. -/
inductive Leaving (α : Type) where
  | committed (value : α)
  | uncommitted (value : α)

def Leaving.value : Leaving α → α
  | .committed a => a
  | .uncommitted a => a

/-- The destructor of a transaction that is not committed. -/
def rollback : Routine Unit := tryCatch (driver .rollback) fun _ => pure ()

def rolledBack (body : Routine α) : Routine α := tryCatch body fun e => do
  rollback
  throw e

def leave : Leaving α → Routine α
  | .committed a => pure a
  | .uncommitted a => do
    rollback
    pure a

/-- A body with a `soci::transaction`, whose destructor runs before the catch blocks do. -/
def inTransaction (body : Routine (Leaving α)) : Routine α := do
  driver .transaction
  let leaving ← rolledBack body
  leave leaving

def findRow (query : Select) : Routine (Option query.table.Row) :=
  wrapped none <| inTransaction do
    driver (.prepare (.select query))
    let row ← driver (.exchange (.select query))
    pure (.uncommitted row)

/-- The loop over the rows of a result; the last `fetch` finds none. -/
def fetchRows (got : List α) : List α → Routine (List α)
  | [] => do
    driver .fetch
    pure got
  | row :: rest => do
    driver .fetch
    fetchRows (got ++ [row]) rest

def findRows (query : Select) : Routine (List query.table.Row) := wrapped [] do
  driver (.prepare (.select query))
  let rows ← driver (.execute query)
  fetchRows [] rows

def removeRow (table : TableName) (id : Int) : Routine Bool :=
  wrapped false <| inTransaction do
    driver (.exchange (.delete table id))
    driver .commit
    pure (.committed true)

/-- An insert that reads `created_at` back in a try block and commits after it. -/
def insertRow (table : TableName) (values : List (String × Value)) : Routine (Option Int) :=
  wrapped none <| inTransaction do
    driver (.exchange (.insert table values))
    match ← driver (.lastInsertId table) with
    | none => pure (.uncommitted none)
    | some newId =>
      let read ← tryCatch (do
        let _ ← driver (.exchange (.selectCreatedAt table newId))
        pure true) (fun _ => pure false)
      if read then
        driver .commit
        pure (.committed (some newId))
      else
        pure (.uncommitted none)

def equals (table : TableName) (column : String) (value : Value) : Select :=
  ⟨table, .equals column value, .unordered, none⟩

namespace MySQLUserRepository

def findByUsername (username : String) : Routine (Option User) := wrapped none do
  driver (.exchange (.select (equals .users "username" (.text username))))

def findByUserId (id : Int) : Routine (Option User) := wrapped none <| inTransaction do
  let row ← driver (.exchange (.select (equals .users "id" (.integer id))))
  pure (.uncommitted row)

def getAllUsers : Routine (List User) := findRows ⟨.users, .all, .unordered, none⟩

def columns (user : User) : List (String × Value) :=
  [("username", .text user.username), ("hashed_password", .text user.hashedPassword),
    ("salt", .text user.salt)]

def updateUser (user : User) : Routine Bool := wrapped false <| inTransaction do
  driver (.prepare (.update .users (columns user) user.id))
  driver (.exchange (.update .users (columns user) user.id))
  if 0 < (← driver .affectedRows) then
    driver .commit
    pure (.committed true)
  else
    pure (.uncommitted false)

/-- Here the commit is inside the inner try block too. -/
def addUser (user : User) : Routine (Option Int) := wrapped none <| inTransaction do
  driver (.exchange (.insert .users (columns user)))
  match ← driver (.lastInsertId .users) with
  | none => pure (.uncommitted none)
  | some newId =>
    tryCatch (do
      let _ ← driver (.exchange (.selectCreatedAt .users newId))
      driver .commit
      pure (.committed (some newId))) (fun _ => pure (.uncommitted none))

def removeUser (id : Int) : Routine Bool := removeRow .users id

end MySQLUserRepository

namespace MySQLRoomRepository

/-- It binds the id to the name column. -/
def findByRoomId (id : Int) : Routine (Option Room) :=
  findRow (equals .rooms "name" (.integer id))

def findByRoomName (name : String) : Routine (Option Room) :=
  findRow (equals .rooms "name" (.text name))

def findByCreatorId (creatorid : Int) : Routine (Option Room) :=
  findRow (equals .rooms "creator_id" (.integer creatorid))

def getAllRooms : Routine (List Room) := findRows ⟨.rooms, .all, .unordered, none⟩

/-- It returns before it takes a connection when the id is not positive. -/
def updateRoom (room : Room) : Routine Bool :=
  if room.id ≤ 0 then
    pure false
  else wrapped false <| inTransaction do
    driver (.prepare (.update .rooms [("name", .text room.name)] room.id))
    driver (.exchange (.update .rooms [("name", .text room.name)] room.id))
    if 0 < (← driver .affectedRows) then
      driver .commit
      pure (.committed true)
    else
      driver .commit
      pure (.committed false)

def addRoom (room : Room) : Routine (Option Int) :=
  insertRow .rooms [("name", .text room.name), ("creator_id", .integer room.creatorId)]

def removeRoom (id : Int) : Routine Bool := removeRow .rooms id

end MySQLRoomRepository

namespace MySQLMessageRepository

def addMessage (msg : Message) : Routine (Option Int) :=
  insertRow .messages [("room_id", .integer msg.roomId), ("sender_id", .integer msg.senderId),
    ("content", .text msg.content)]

def removeMessage (id : Int) : Routine Bool := removeRow .messages id

def findByMessageId (id : Int) : Routine (Option Message) :=
  findRow (equals .messages "id" (.integer id))

def findBySenderId (sender_id : Int) : Routine (List Message) :=
  findRows (equals .messages "sender_id" (.integer sender_id))

def findByRoomId (room_id : Int) : Routine (List Message) :=
  findRows ⟨.messages, .equals "room_id" (.integer room_id), .ascending "created_at", none⟩

def findByContent (content : String) : Routine (List Message) :=
  findRows ⟨.messages, .contains "content" content, .unordered, none⟩

def findLatestByRoomId (room_id : Int) (limit : Int) : Routine (List Message) :=
  findRows ⟨.messages, .equals "room_id" (.integer room_id), .descending "created_at",
    some limit⟩

end MySQLMessageRepository

inductive Operation where
  | findUserByUsername (username : String)
  | findUserById (id : Int)
  | getAllUsers
  | updateUser (user : User)
  | addUser (user : User)
  | removeUser (id : Int)
  | findRoomById (id : Int)
  | findRoomByName (name : String)
  | findRoomByCreatorId (creatorid : Int)
  | getAllRooms
  | updateRoom (room : Room)
  | addRoom (room : Room)
  | removeRoom (id : Int)
  | addMessage (msg : Message)
  | removeMessage (id : Int)
  | findMessageById (id : Int)
  | findMessagesBySenderId (sender_id : Int)
  | findMessagesByRoomId (room_id : Int)
  | findMessagesByContent (content : String)
  | findLatestMessagesByRoomId (room_id limit : Int)

abbrev Operation.Answer : Operation → Type
  | .findUserByUsername _ => Option User
  | .findUserById _ => Option User
  | .getAllUsers => List User
  | .updateUser _ => Bool
  | .addUser _ => Option Int
  | .removeUser _ => Bool
  | .findRoomById _ => Option Room
  | .findRoomByName _ => Option Room
  | .findRoomByCreatorId _ => Option Room
  | .getAllRooms => List Room
  | .updateRoom _ => Bool
  | .addRoom _ => Option Int
  | .removeRoom _ => Bool
  | .addMessage _ => Option Int
  | .removeMessage _ => Bool
  | .findMessageById _ => Option Message
  | .findMessagesBySenderId _ => List Message
  | .findMessagesByRoomId _ => List Message
  | .findMessagesByContent _ => List Message
  | .findLatestMessagesByRoomId _ _ => List Message

def Operation.routine : (op : Operation) → Routine op.Answer
  | .findUserByUsername username => MySQLUserRepository.findByUsername username
  | .findUserById id => MySQLUserRepository.findByUserId id
  | .getAllUsers => MySQLUserRepository.getAllUsers
  | .updateUser user => MySQLUserRepository.updateUser user
  | .addUser user => MySQLUserRepository.addUser user
  | .removeUser id => MySQLUserRepository.removeUser id
  | .findRoomById id => MySQLRoomRepository.findByRoomId id
  | .findRoomByName name => MySQLRoomRepository.findByRoomName name
  | .findRoomByCreatorId creatorid => MySQLRoomRepository.findByCreatorId creatorid
  | .getAllRooms => MySQLRoomRepository.getAllRooms
  | .updateRoom room => MySQLRoomRepository.updateRoom room
  | .addRoom room => MySQLRoomRepository.addRoom room
  | .removeRoom id => MySQLRoomRepository.removeRoom id
  | .addMessage msg => MySQLMessageRepository.addMessage msg
  | .removeMessage id => MySQLMessageRepository.removeMessage id
  | .findMessageById id => MySQLMessageRepository.findByMessageId id
  | .findMessagesBySenderId sender_id => MySQLMessageRepository.findBySenderId sender_id
  | .findMessagesByRoomId room_id => MySQLMessageRepository.findByRoomId room_id
  | .findMessagesByContent content => MySQLMessageRepository.findByContent content
  | .findLatestMessagesByRoomId room_id limit =>
    MySQLMessageRepository.findLatestByRoomId room_id limit

/-- What a function meets: the connection the pool gives it, and an answer or an error
    for every call into the driver. -/
structure Meets (Connection : Type) where
  connection : Connection
  answer : (c : DriverCall) → Except DriverError c.Answer

variable {Connection : Type}

abbrev repository (Connection : Type) : Machine RepositoryCall RepositoryCall.Answer where
  State := Option (ConnectionWrapper Connection)
  Choice := Meets Connection
  Fault := Empty
  Output := Empty
  answer := fun choice c _ => match c with
    | .getConnection => .ok ()
    | .driver c => .ok (choice.answer c)
    | .markAsInvalid => .ok ()
  next := fun choice c s => match c with
    | .getConnection => some (.new choice.connection)
    | .driver _ => s
    | .markAsInvalid => s.map ConnectionWrapper.markAsInvalid
  emit := fun _ _ _ => []

def RaisedIn (trace : List (Event (repository Connection))) (c : DriverCall) (e : DriverError) :
    Prop :=
  ∃ made ∈ trace, made.call = .driver c ∧ made.choice.answer c = .error e

theorem not_raised_nil {c : DriverCall} {e : DriverError} :
    ¬ RaisedIn ([] : List (Event (repository Connection))) c e := by
  intro raised
  obtain ⟨made, there, _⟩ := raised
  cases there

theorem raised_append {first rest : List (Event (repository Connection))} {c : DriverCall}
    {e : DriverError} : RaisedIn (first ++ rest) c e ↔ RaisedIn first c e ∨ RaisedIn rest c e := by
  simp only [RaisedIn, List.mem_append, or_and_right, exists_or]

theorem raised_single {s : Option (ConnectionWrapper Connection)} {met : Meets Connection}
    {d c : DriverCall} {e : DriverError} :
    RaisedIn [(⟨s, met, .driver d⟩ : Event (repository Connection))] c e ↔
      d = c ∧ met.answer c = .error e := by
  simp [RaisedIn]

theorem raised_call {made : Event (repository Connection)}
    {trace : List (Event (repository Connection))} {c : DriverCall} {e : DriverError}
    (other : made.call ≠ .driver c) :
    RaisedIn (made :: trace) c e ↔ RaisedIn trace c e := by
  simp [RaisedIn, other]

def Drives : RepositoryCall → Prop
  | .driver _ => True
  | _ => False

/-- The body calls the driver only, and ends by an error exactly when a call whose errors
    are not swallowed raised it. -/
structure Tells (swallows : DriverCall → Prop) (body : Routine α) : Prop where
  drives : body.run.Uses Drives
  ends : ∀ {Connection : Type} (choices : Nat → Meets Connection) s e,
    body.run.result (repository Connection) choices s = .ok (.error e) ↔
      ∃ c, RaisedIn (body.run.trace (repository Connection) choices s) c e ∧ ¬ swallows c

theorem ends_somehow (body : Program RepositoryCall RepositoryCall.Answer α)
    (choices : Nat → Meets Connection) (s : Option (ConnectionWrapper Connection)) :
    ∃ outcome, body.result (repository Connection) choices s = .ok outcome := by
  cases body.result (repository Connection) choices s with
  | ok outcome => exact ⟨outcome, rfl⟩
  | error never => exact never.elim

def continued (rest : α → Routine β) :
    Except DriverError α → Program RepositoryCall RepositoryCall.Answer (Except DriverError β)
  | .ok a => (rest a).run
  | .error e => .done (.error e)

theorem run_bind (body : Routine α) (rest : α → Routine β) :
    (body >>= rest).run = body.run >>= continued rest := by
  apply congrArg (body.run >>= ·)
  funext outcome
  cases outcome <;> rfl

def caught (handler : DriverError → Routine α) :
    Except DriverError α → Program RepositoryCall RepositoryCall.Answer (Except DriverError α)
  | .ok a => .done (.ok a)
  | .error e => (handler e).run

theorem run_tryCatch (body : Routine α) (handler : DriverError → Routine α) :
    (tryCatch body handler : Routine α).run = body.run >>= caught handler := by
  apply congrArg (body.run >>= ·)
  funext outcome
  cases outcome <;> rfl

theorem run_rollback (rest : Unit → Routine α) :
    (rollback >>= rest).run = .call (.driver .rollback) fun _ => (rest ()).run := by
  apply congrArg (Program.call (RepositoryCall.driver .rollback))
  funext answer
  cases answer <;> rfl

section Bodies
variable {swallows : DriverCall → Prop}

theorem tells_pure (a : α) : Tells swallows (pure a : Routine α) := by
  refine ⟨trivial, ?_⟩
  intro _ choices s e
  apply iff_of_false
  · intro ends
    cases ends
  · intro raised
    obtain ⟨c, raised, _⟩ := raised
    exact not_raised_nil raised

theorem tells_driver {c : DriverCall} (heard : ¬ swallows c) : Tells swallows (driver c) := by
  refine ⟨⟨trivial, fun _ => trivial⟩, ?_⟩
  intro _ choices s e
  have result : (driver c).run.result (repository _) choices s = .ok ((choices 0).answer c) := rfl
  have trace : (driver c).run.trace (repository _) choices s = [⟨s, choices 0, .driver c⟩] := rfl
  rw [result, trace]
  constructor
  · intro ends
    exact ⟨c, raised_single.mpr ⟨rfl, Except.ok.inj ends⟩, heard⟩
  · intro raised
    obtain ⟨d, raised, _⟩ := raised
    obtain ⟨same, answer⟩ := raised_single.mp raised
    subst same
    exact congrArg Except.ok answer

theorem tells_bind {body : Routine α} {rest : α → Routine β} (first : Tells swallows body)
    (more : ∀ a, Tells swallows (rest a)) : Tells swallows (body >>= rest) := by
  constructor
  · rw [run_bind]
    apply uses_bind first.drives
    intro outcome
    cases outcome with
    | ok a => exact (more a).drives
    | error e => trivial
  · intro _ choices s e
    obtain ⟨outcome, result⟩ := ends_somehow body.run choices s
    rw [run_bind, result_bind, trace_bind, result]
    have told := first.ends choices s
    cases outcome with
    | error other =>
      have same : (body.run.result (repository _) choices s = .ok (.error e)) ↔ other = e := by
        rw [result]
        simp
      simp only [continued, Program.result, Program.trace, List.append_nil, Except.ok.injEq,
        Except.error.injEq, ← told e, same]
    | ok a =>
      have unheard : ∀ c e, RaisedIn (body.run.trace (repository _) choices s) c e → swallows c := by
        intro c e raised
        by_contra heard
        have ends := (told e).mpr ⟨c, raised, heard⟩
        rw [result] at ends
        cases ends
      simp only [continued, (more a).ends, raised_append]
      constructor
      · intro later
        obtain ⟨c, raised, heard⟩ := later
        exact ⟨c, Or.inr raised, heard⟩
      · intro raised
        obtain ⟨c, early | late, heard⟩ := raised
        · exact absurd (unheard c e early) heard
        · exact ⟨c, late, heard⟩

theorem tells_silent {body : Routine α} {fallback : α}
    (silent : body.run.Uses fun c => ∃ d, c = .driver d ∧ swallows d) :
    Tells swallows (tryCatch body fun _ => pure fallback) := by
  have uses : (tryCatch body (fun _ => pure fallback) : Routine α).run.Uses
      fun c => ∃ d, c = .driver d ∧ swallows d := by
    rw [run_tryCatch]
    apply uses_bind silent
    intro outcome
    cases outcome <;> trivial
  constructor
  · apply uses_mono _ uses
    intro c allowed
    obtain ⟨d, same, _⟩ := allowed
    subst same
    trivial
  · intro _ choices s e
    apply iff_of_false
    · obtain ⟨outcome, result⟩ := ends_somehow body.run choices s
      rw [run_tryCatch, result_bind, result]
      intro ends
      cases outcome <;> cases ends
    · intro raised
      obtain ⟨c, ⟨made, there, same, _⟩, heard⟩ := raised
      obtain ⟨d, driven, swallowed⟩ := trace_uses uses choices s made there
      rw [same] at driven
      cases driven
      exact heard swallowed

theorem tells_rollback (silent : swallows .rollback) {rest : Unit → Routine α}
    (more : Tells swallows (rest ())) : Tells swallows (rollback >>= rest) :=
  tells_bind (tells_silent ⟨⟨.rollback, rfl, silent⟩, fun _ => trivial⟩) fun _ => more

theorem tells_rolledBack (silent : swallows .rollback) {body : Routine α}
    (told : Tells swallows body) : Tells swallows (rolledBack body) := by
  unfold rolledBack
  constructor
  · rw [run_tryCatch]
    apply uses_bind told.drives
    intro outcome
    cases outcome with
    | ok a => trivial
    | error e =>
      simp only [caught, run_rollback]
      exact ⟨trivial, fun _ => trivial⟩
  · intro _ choices s e
    obtain ⟨outcome, result⟩ := ends_somehow body.run choices s
    have ends := told.ends choices s e
    rw [result] at ends
    rw [run_tryCatch, result_bind, trace_bind, result]
    cases outcome with
    | ok a =>
      simp only [caught, Program.result, Program.trace, List.append_nil]
      exact ends
    | error other =>
      simp only [caught, run_rollback, Program.result, Program.trace, raised_append]
      change Except.ok (Except.error other) = _ ↔ _
      rw [ends]
      constructor
      · intro raised
        obtain ⟨c, raised, heard⟩ := raised
        exact ⟨c, Or.inl raised, heard⟩
      · intro raised
        obtain ⟨c, early | late, heard⟩ := raised
        · exact ⟨c, early, heard⟩
        · obtain ⟨same, _⟩ := raised_single.mp late
          subst same
          exact absurd silent heard

theorem tells_inTransaction (silent : swallows .rollback) (begins : ¬ swallows .transaction)
    {body : Routine (Leaving α)} (told : Tells swallows body) :
    Tells swallows (inTransaction body) := by
  apply tells_bind (tells_driver begins)
  intro _
  apply tells_bind (tells_rolledBack silent told)
  intro leaving
  cases leaving with
  | committed a => exact tells_pure a
  | uncommitted a => exact tells_rollback silent (tells_pure a)

theorem tells_fetchRows (heard : ¬ swallows .fetch) (got rows : List α) :
    Tells swallows (fetchRows got rows) := by
  induction rows generalizing got with
  | nil => exact tells_bind (tells_driver heard) fun _ => tells_pure got
  | cons row more ih => exact tells_bind (tells_driver heard) fun _ => ih (got ++ [row])

end Bodies

def Marks : DriverError → Prop
  | .connectionError => True
  | .systemError => True
  | .standardException => True
  | _ => False

instance : DecidablePred Marks := fun e => by
  cases e <;> unfold Marks <;> infer_instance

def afterLadder (outcome : Except DriverError α) (w : Option (ConnectionWrapper Connection)) :
    Option (ConnectionWrapper Connection) :=
  match outcome with
  | .error e => if Marks e then w.map ConnectionWrapper.markAsInvalid else w
  | .ok _ => w

theorem run_wrapped (fallback : α) (body : Routine α) :
    (wrapped fallback body).run =
      .call .getConnection fun _ => (tryCatch body (ladder fallback) : Routine α).run := rfl

theorem final_wrapped {fallback : α} {body : Routine α} (drives : body.run.Uses Drives)
    (choices : Nat → Meets Connection) {outcome : Except DriverError α}
    (ends : body.run.result (repository Connection) (later choices)
      (some (.new (choices 0).connection)) = .ok outcome) :
    (wrapped fallback body).run.final (repository Connection) choices none =
      afterLadder outcome (some (.new (choices 0).connection)) := by
  have unmarked : ∀ (choices : Nat → Meets Connection) s,
      body.run.final (repository Connection) choices s = s := by
    intro choices s
    refine final_same ?_ drives choices s
    intro met c s allowed
    cases c with
    | driver c => rfl
    | getConnection => exact False.elim allowed
    | markAsInvalid => exact False.elim allowed
  simp only [run_wrapped, Program.final, run_tryCatch, final_bind, ends, unmarked]
  cases outcome with
  | ok a => rfl
  | error e => cases e <;> rfl

theorem uses_caught (fallback : α) (outcome : Except DriverError α) :
    (caught (ladder fallback) outcome).Uses (· = .markAsInvalid) := by
  cases outcome with
  | ok a => trivial
  | error e =>
    cases e with
    | noData => trivial
    | connectionError => exact ⟨rfl, fun _ => trivial⟩
    | systemError => exact ⟨rfl, fun _ => trivial⟩
    | otherCategory => trivial
    | standardException => exact ⟨rfl, fun _ => trivial⟩

theorem raised_wrapped {fallback : α} {body : Routine α} {choices : Nat → Meets Connection}
    {c : DriverCall} {e : DriverError} :
    RaisedIn ((wrapped fallback body).run.trace (repository Connection) choices none) c e ↔
      RaisedIn (body.run.trace (repository Connection) (later choices)
        (some (.new (choices 0).connection))) c e := by
  obtain ⟨outcome, ends⟩ := ends_somehow body.run (later choices)
    (some (.new (choices 0).connection))
  simp only [run_wrapped, Program.trace]
  rw [raised_call (by simp), run_tryCatch, trace_bind, raised_append, ends]
  apply or_iff_left
  intro handling
  obtain ⟨made, there, same, _⟩ := handling
  have marking := trace_uses (uses_caught fallback outcome) _ _ made there
  rw [same] at marking
  cases marking

/-- The function wraps a body in the catch blocks, and they see all errors but the swallowed. -/
def Ladders (swallows : DriverCall → Prop) (r : Routine α) : Prop :=
  ∃ fallback body, r = wrapped fallback body ∧ Tells swallows body

section Functions
variable {swallows : DriverCall → Prop} (silent : swallows .rollback)

theorem tells_call {c : DriverCall} {rest : c.Answer → Routine α} (heard : ¬ swallows c)
    (more : ∀ a, Tells swallows (rest a)) : Tells swallows (driver c >>= rest) :=
  tells_bind (tells_driver heard) more

section Plain
variable (hears : ∀ c, c ≠ .rollback → ¬ swallows c)
include hears

theorem ladders_findRows (query : Select) : Ladders swallows (findRows query) := by
  refine ⟨[], _, rfl, ?_⟩
  apply tells_call (hears _ (by simp))
  intro _
  apply tells_call (hears _ (by simp))
  intro rows
  exact tells_fetchRows (hears _ (by simp)) [] rows

theorem ladders_findByUsername (username : String) :
    Ladders swallows (MySQLUserRepository.findByUsername username) :=
  ⟨none, _, rfl, tells_driver (hears _ (by simp))⟩

include silent

theorem ladders_findRow (query : Select) : Ladders swallows (findRow query) := by
  refine ⟨none, _, rfl, ?_⟩
  apply tells_inTransaction silent (hears _ (by simp))
  apply tells_call (hears _ (by simp))
  intro _
  apply tells_call (hears _ (by simp))
  intro row
  exact tells_pure _

theorem ladders_findByUserId (id : Int) :
    Ladders swallows (MySQLUserRepository.findByUserId id) := by
  refine ⟨none, _, rfl, ?_⟩
  apply tells_inTransaction silent (hears _ (by simp))
  apply tells_call (hears _ (by simp))
  intro row
  exact tells_pure _

theorem ladders_removeRow (table : TableName) (id : Int) :
    Ladders swallows (removeRow table id) := by
  refine ⟨false, _, rfl, ?_⟩
  apply tells_inTransaction silent (hears _ (by simp))
  apply tells_call (hears _ (by simp))
  intro _
  apply tells_call (hears _ (by simp))
  intro _
  exact tells_pure _

theorem ladders_updateUser (user : User) :
    Ladders swallows (MySQLUserRepository.updateUser user) := by
  refine ⟨false, _, rfl, ?_⟩
  apply tells_inTransaction silent (hears _ (by simp))
  apply tells_call (hears _ (by simp))
  intro _
  apply tells_call (hears _ (by simp))
  intro _
  apply tells_call (hears _ (by simp))
  intro rows
  by_cases some_row : 0 < rows
  · simp only [some_row, if_true]
    apply tells_call (hears _ (by simp))
    intro _
    exact tells_pure _
  · simp only [some_row, if_false]
    exact tells_pure _

theorem ladders_updateRoom {room : Room} (identified : ¬ room.id ≤ 0) :
    Ladders swallows (MySQLRoomRepository.updateRoom room) := by
  refine ⟨false, _, if_neg identified, ?_⟩
  apply tells_inTransaction silent (hears _ (by simp))
  apply tells_call (hears _ (by simp))
  intro _
  apply tells_call (hears _ (by simp))
  intro _
  apply tells_call (hears _ (by simp))
  intro rows
  by_cases some_row : 0 < rows
  · simp only [some_row, if_true]
    apply tells_call (hears _ (by simp))
    intro _
    exact tells_pure _
  · simp only [some_row, if_false]
    apply tells_call (hears _ (by simp))
    intro _
    exact tells_pure _

end Plain

section Inserts
variable {table : TableName} (readBack : ∀ id, swallows (.exchange (.selectCreatedAt table id)))
include silent readBack

theorem ladders_insertRow (values : List (String × Value))
    (hears : ∀ c, c ≠ .rollback → (∀ id, c ≠ .exchange (.selectCreatedAt table id)) →
      ¬ swallows c) : Ladders swallows (insertRow table values) := by
  refine ⟨none, _, rfl, ?_⟩
  apply tells_inTransaction silent (hears _ (by simp) (by simp))
  apply tells_call (hears _ (by simp) (by simp))
  intro _
  apply tells_call (hears _ (by simp) (by simp))
  intro inserted
  cases inserted with
  | none => exact tells_pure _
  | some newId =>
    apply tells_bind
    · apply tells_silent
      refine ⟨⟨_, rfl, readBack newId⟩, ?_⟩
      intro answer
      cases answer <;> trivial
    · intro read
      cases read with
      | true =>
        apply tells_call (hears _ (by simp) (by simp))
        intro _
        exact tells_pure _
      | false => exact tells_pure _

end Inserts

theorem ladders_addUser (user : User) (silent : swallows .rollback) (commits : swallows .commit)
    (readBack : ∀ id, swallows (.exchange (.selectCreatedAt .users id)))
    (hears : ∀ c, c ≠ .rollback → c ≠ .commit →
      (∀ id, c ≠ .exchange (.selectCreatedAt .users id)) → ¬ swallows c) :
    Ladders swallows (MySQLUserRepository.addUser user) := by
  refine ⟨none, _, rfl, ?_⟩
  apply tells_inTransaction silent (hears _ (by simp) (by simp) (by simp))
  apply tells_call (hears _ (by simp) (by simp) (by simp))
  intro _
  apply tells_call (hears _ (by simp) (by simp) (by simp))
  intro inserted
  cases inserted with
  | none => exact tells_pure _
  | some newId =>
    apply tells_silent
    refine ⟨⟨_, rfl, readBack newId⟩, ?_⟩
    intro answer
    cases answer with
    | error e => trivial
    | ok a =>
      refine ⟨⟨_, rfl, commits⟩, ?_⟩
      intro answer
      cases answer <;> trivial

end Functions

/-- The calls that an insert makes in its inner try block. -/
def InnerTry : Operation → DriverCall → Prop
  | .addUser _, .exchange (.selectCreatedAt .users _) => True
  | .addUser _, .commit => True
  | .addRoom _, .exchange (.selectCreatedAt .rooms _) => True
  | .addMessage _, .exchange (.selectCreatedAt .messages _) => True
  | _, _ => False

/-- The calls whose errors do not reach the catch blocks. -/
def Swallows (op : Operation) (c : DriverCall) : Prop := InnerTry op c ∨ c = .rollback

theorem swallows_rollback (op : Operation) : Swallows op .rollback := Or.inr rfl

theorem hears_outside {op : Operation} (plain : ∀ c, ¬ InnerTry op c) :
    ∀ c, c ≠ .rollback → ¬ Swallows op c := by
  intro c stays swallowed
  exact swallowed.elim (plain c) stays

theorem inner_addRoom {room : Room} {c : DriverCall} (inside : InnerTry (.addRoom room) c) :
    ∃ id, c = .exchange (.selectCreatedAt .rooms id) := by
  unfold InnerTry at inside
  split at inside <;> simp_all

theorem inner_addMessage {msg : Message} {c : DriverCall}
    (inside : InnerTry (.addMessage msg) c) :
    ∃ id, c = .exchange (.selectCreatedAt .messages id) := by
  unfold InnerTry at inside
  split at inside <;> simp_all

theorem inner_addUser {user : User} {c : DriverCall} (inside : InnerTry (.addUser user) c) :
    c = .commit ∨ ∃ id, c = .exchange (.selectCreatedAt .users id) := by
  unfold InnerTry at inside
  split at inside <;> simp_all

theorem ladders_routine (op : Operation) :
    Ladders (Swallows op) op.routine ∨ ∃ a, op.routine = pure a := by
  have silent := swallows_rollback op
  cases op with
  | findUserByUsername username =>
    exact Or.inl (ladders_findByUsername (hears_outside fun _ => id) username)
  | findUserById userId =>
    exact Or.inl (ladders_findByUserId silent (hears_outside fun _ => id) userId)
  | getAllUsers => exact Or.inl (ladders_findRows (hears_outside fun _ => id) _)
  | updateUser user => exact Or.inl (ladders_updateUser silent (hears_outside fun _ => id) user)
  | addUser user =>
    refine Or.inl (ladders_addUser user silent (Or.inl trivial) (fun _ => Or.inl trivial) ?_)
    intro c stays other elsewhere swallowed
    rcases swallowed with inside | rolls
    · rcases inner_addUser inside with commits | ⟨id, reads⟩
      · exact other commits
      · exact elsewhere id reads
    · exact stays rolls
  | removeUser userId =>
    exact Or.inl (ladders_removeRow silent (hears_outside fun _ => id) _ userId)
  | findRoomById roomId => exact Or.inl (ladders_findRow silent (hears_outside fun _ => id) _)
  | findRoomByName name => exact Or.inl (ladders_findRow silent (hears_outside fun _ => id) _)
  | findRoomByCreatorId creatorid =>
    exact Or.inl (ladders_findRow silent (hears_outside fun _ => id) _)
  | getAllRooms => exact Or.inl (ladders_findRows (hears_outside fun _ => id) _)
  | updateRoom room =>
    by_cases unset : room.id ≤ 0
    · exact Or.inr ⟨false, if_pos unset⟩
    · exact Or.inl (ladders_updateRoom silent (hears_outside fun _ => id) unset)
  | addRoom room =>
    have readBack : ∀ id, Swallows (.addRoom room) (.exchange (.selectCreatedAt .rooms id)) :=
      fun _ => Or.inl trivial
    refine Or.inl (ladders_insertRow silent readBack _ ?_)
    intro c stays elsewhere swallowed
    rcases swallowed with inside | rolls
    · obtain ⟨id, reads⟩ := inner_addRoom inside
      exact elsewhere id reads
    · exact stays rolls
  | removeRoom roomId =>
    exact Or.inl (ladders_removeRow silent (hears_outside fun _ => id) _ roomId)
  | addMessage msg =>
    have readBack : ∀ id, Swallows (.addMessage msg) (.exchange (.selectCreatedAt .messages id)) :=
      fun _ => Or.inl trivial
    refine Or.inl (ladders_insertRow silent readBack _ ?_)
    intro c stays elsewhere swallowed
    rcases swallowed with inside | rolls
    · obtain ⟨id, reads⟩ := inner_addMessage inside
      exact elsewhere id reads
    · exact stays rolls
  | removeMessage messageId =>
    exact Or.inl (ladders_removeRow silent (hears_outside fun _ => id) _ messageId)
  | findMessageById messageId =>
    exact Or.inl (ladders_findRow silent (hears_outside fun _ => id) _)
  | findMessagesBySenderId sender_id =>
    exact Or.inl (ladders_findRows (hears_outside fun _ => id) _)
  | findMessagesByRoomId room_id => exact Or.inl (ladders_findRows (hears_outside fun _ => id) _)
  | findMessagesByContent content => exact Or.inl (ladders_findRows (hears_outside fun _ => id) _)
  | findLatestMessagesByRoomId room_id limit =>
    exact Or.inl (ladders_findRows (hears_outside fun _ => id) _)

/-- The wrapper that the function destroys when it ends, if it ever had one. -/
def Operation.wrapperAtEnd (op : Operation) (choices : Nat → Meets Connection) :
    Option (ConnectionWrapper Connection) :=
  op.routine.run.final (repository Connection) choices none

def Operation.Raises (op : Operation) (choices : Nat → Meets Connection) (c : DriverCall)
    (e : DriverError) : Prop :=
  RaisedIn (op.routine.run.trace (repository Connection) choices none) c e

/-- The wrapper is marked before it is destroyed, so that its connection is given up for
    a new one and does not go back into the pool. -/
def Replaced (w : Option (ConnectionWrapper Connection)) (pool : ConnectionPool Connection) :
    Prop :=
  ∃ wrapper, w = some wrapper ∧ wrapper.isValid = false ∧ wrapper.destroy pool = (pool, true)

theorem replaced_afterLadder (outcome : Except DriverError α) (connection : Connection)
    (pool : ConnectionPool Connection) :
    Replaced (afterLadder outcome (some (.new connection))) pool ↔
      ∃ e, outcome = .error e ∧ Marks e := by
  cases outcome with
  | ok a => simp [Replaced, afterLadder, ConnectionWrapper.new]
  | error e =>
    by_cases marks : Marks e <;> simp [Replaced, afterLadder, marks, ConnectionWrapper.new,
      ConnectionWrapper.markAsInvalid, ConnectionWrapper.destroy]

theorem replaced_iff_told (op : Operation) (choices : Nat → Meets Connection)
    (pool : ConnectionPool Connection) {c : DriverCall} {e : DriverError}
    (raised : op.Raises choices c e) :
    Replaced (op.wrapperAtEnd choices) pool ↔
      ∃ c e, op.Raises choices c e ∧ Marks e ∧ ¬ Swallows op c := by
  unfold Operation.Raises at raised ⊢
  unfold Operation.wrapperAtEnd
  rcases ladders_routine op with ladders | returns
  · obtain ⟨fallback, body, same, told⟩ := ladders
    obtain ⟨outcome, ends⟩ := ends_somehow body.run (later choices)
      (some (.new (choices 0).connection))
    have reached := told.ends (later choices) (some (.new (choices 0).connection))
    rw [ends] at reached
    rw [same, final_wrapped told.drives choices ends, replaced_afterLadder]
    simp only [raised_wrapped]
    constructor
    · intro seen
      obtain ⟨e, is_error, marks⟩ := seen
      subst is_error
      obtain ⟨c, raised, heard⟩ := (reached e).mp rfl
      exact ⟨c, e, raised, marks, heard⟩
    · intro made
      obtain ⟨c, e, raised, marks, heard⟩ := made
      exact ⟨e, Except.ok.inj ((reached e).mpr ⟨c, raised, heard⟩), marks⟩
  · obtain ⟨a, same⟩ := returns
    rw [same] at raised
    exact absurd raised not_raised_nil

/-- A broken connection stays out of the pool exactly when the error that showed it was
    raised at a call whose errors reach the catch blocks, or another error that marks the
    wrapper was. -/
theorem broken_connection_replaced_iff (op : Operation) (choices : Nat → Meets Connection)
    (pool : ConnectionPool Connection) {c : DriverCall} {e : DriverError}
    (raised : op.Raises choices c e) (broken : e = .connectionError ∨ e = .systemError) :
    Replaced (op.wrapperAtEnd choices) pool ↔ ¬ Swallows op c ∨
      ∃ c' e', op.Raises choices c' e' ∧ Marks e' ∧ ¬ Swallows op c' := by
  have marks : Marks e := by
    rcases broken with lost | failed
    · subst lost
      trivial
    · subst failed
      trivial
  rw [replaced_iff_told op choices pool raised]
  constructor
  · exact Or.inr
  · intro met
    rcases met with heard | other
    · exact ⟨c, e, raised, marks, heard⟩
    · exact other

def failingAt (failing : DriverCall) (e : DriverError) :
    (c : DriverCall) → Except DriverError c.Answer := fun c =>
  if c = failing then .error e else match c with
    | .transaction => .ok ()
    | .prepare _ => .ok ()
    | .exchange (.select _) => .ok none
    | .exchange (.selectCreatedAt _ _) => .ok (some 1700000000)
    | .exchange (.insert _ _) => .ok ()
    | .exchange (.update _ _ _) => .ok ()
    | .exchange (.delete _ _) => .ok ()
    | .execute _ => .ok []
    | .fetch => .ok ()
    | .affectedRows => .ok 1
    | .lastInsertId _ => .ok (some 7)
    | .commit => .ok ()
    | .rollback => .ok ()

theorem broken_connection_replaced_iff_commit :
    Replaced ((Operation.addMessage ⟨0, 1, 2, "hi", 0⟩).wrapperAtEnd
      (fun _ => ⟨"connection 1", failingAt .commit .systemError⟩)) ⟨[], 1⟩ ↔
        ¬ Swallows (.addMessage ⟨0, 1, 2, "hi", 0⟩) .commit ∨
          ∃ c' e', (Operation.addMessage ⟨0, 1, 2, "hi", 0⟩).Raises
            (fun _ => ⟨"connection 1", failingAt .commit .systemError⟩) c' e' ∧
            Marks e' ∧ ¬ Swallows (.addMessage ⟨0, 1, 2, "hi", 0⟩) c' :=
  broken_connection_replaced_iff _ _ _
    ⟨_, .tail _ (.tail _ (.tail _ (.tail _ (.tail _ (.head _))))), rfl, rfl⟩ (.inr rfl)

/-- The connection is lost while `addMessage` reads `created_at` back. -/
theorem broken_connection_returned :
    (Operation.addMessage ⟨0, 1, 2, "hi", 0⟩).Raises
        (fun _ => ⟨"connection 1", failingAt (.exchange (.selectCreatedAt .messages 7))
          .connectionError⟩)
        (.exchange (.selectCreatedAt .messages 7)) .connectionError ∧
      ∃ wrapper, (Operation.addMessage ⟨0, 1, 2, "hi", 0⟩).wrapperAtEnd
          (fun _ => ⟨"connection 1", failingAt (.exchange (.selectCreatedAt .messages 7))
            .connectionError⟩) = some wrapper ∧
        wrapper.isValid = true ∧ wrapper.destroy ⟨[], 1⟩ = (⟨["connection 1"], 1⟩, false) :=
  ⟨⟨_, .tail _ (.tail _ (.tail _ (.tail _ (.head _)))), rfl, rfl⟩, _, rfl, rfl, rfl⟩

def queryRoutine : (q : Query) → Routine q.Answer
  | .findByUsername username => MySQLUserRepository.findByUsername username
  | .findByUserId id => MySQLUserRepository.findByUserId id
  | .addUser user => MySQLUserRepository.addUser user
  | .updateUser user => MySQLUserRepository.updateUser user
  | .findByRoomName name => MySQLRoomRepository.findByRoomName name
  | .addRoom room => MySQLRoomRepository.addRoom room
  | .addMessage message => MySQLMessageRepository.addMessage message
  | .findLatestByRoomId roomId limit => MySQLMessageRepository.findLatestByRoomId roomId limit

def seenByCaller : Except DriverError α → Except Exception α
  | .ok a => .ok a
  | .error _ => .error .sociError

theorem query_wrapped (q : Query) : ∃ body, queryRoutine q = wrapped q.fallback body := by
  cases q with
  | findByUsername username => exact ⟨_, rfl⟩
  | findByUserId id => exact ⟨_, rfl⟩
  | addUser user => exact ⟨_, rfl⟩
  | updateUser user => exact ⟨_, rfl⟩
  | findByRoomName name => exact ⟨_, rfl⟩
  | addRoom room => exact ⟨_, rfl⟩
  | addMessage message => exact ⟨_, rfl⟩
  | findLatestByRoomId roomId limit => exact ⟨_, rfl⟩

theorem query_ends_in_ladder (q : Query) (choices : Nat → Meets Connection) :
    ∃ outcome result, (queryRoutine q).run.result (repository Connection) choices none =
        .ok result ∧ seenByCaller result = catchLadder q outcome := by
  obtain ⟨body, same⟩ := query_wrapped q
  rw [same, run_wrapped]
  simp only [Program.result, run_tryCatch, result_bind]
  cases inside : body.run.result (repository Connection) (later choices)
      (some (.new (choices 0).connection)) with
  | error never => exact never.elim
  | ok outcome =>
    cases outcome with
    | ok a => exact ⟨.ok a, .ok a, rfl, rfl⟩
    | error e =>
      cases e with
      | noData => exact ⟨.error .noData, .ok q.fallback, rfl, rfl⟩
      | connectionError => exact ⟨.error .connectionError, .ok q.fallback, rfl, rfl⟩
      | systemError => exact ⟨.error .systemError, .ok q.fallback, rfl, rfl⟩
      | otherCategory => exact ⟨.error .otherCategory, .error .otherCategory, rfl, rfl⟩
      | standardException => exact ⟨.error .standardException, .ok q.fallback, rfl, rfl⟩

end Repositories
