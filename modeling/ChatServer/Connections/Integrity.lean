import ChatServer.Connections.Queries
import ChatServer.Sessions.AuthenticatedUsers

/-!
What holds of the tables however the handlers interleave and whatever the driver does: rows
are only added, and who is logged in has one.
-/
namespace StoreIntegrity
open AtomicCalls EventRuns WorkerPool RelyGuarantee ChatProtocol ChatState ChatCalls ChatServices
  ChatDatabase Repositories TransactedTables DrivenQueries RoomMaps ActingSessions AuthenticatedUsers

section Tables
variable [Collation]

def userIds (t : Tables) : List Int := t.users.rows.map User.id

/-- How tables come to be from earlier ones; an UPDATE changes columns of a user only. -/
structure Evolves (t t' : Tables) : Prop where
  users : userIds t <+: userIds t'
  rooms : t.rooms.rows <+: t'.rooms.rows
  messages : t.messages <+: t'.messages

theorem evolves_refl (t : Tables) : Evolves t t :=
  ⟨List.prefix_rfl, List.prefix_rfl, List.prefix_rfl⟩

theorem evolves_trans {t t' t'' : Tables} (first : Evolves t t') (second : Evolves t' t'') :
    Evolves t t'' :=
  ⟨first.users.trans second.users, first.rooms.trans second.rooms,
    first.messages.trans second.messages⟩

def HasUser (t : Tables) (user : Int) : Prop := ∃ u ∈ t.users.rows, u.id = user

theorem hasUser_iff {t : Tables} {user : Int} : HasUser t user ↔ user ∈ userIds t :=
  List.mem_map.symm

theorem hasUser_evolves {t t' : Tables} (evolves : Evolves t t') {user : Int}
    (there : HasUser t user) : HasUser t' user :=
  hasUser_iff.mpr (evolves.users.subset (hasUser_iff.mp there))

theorem gapped_cases (g : Gaps) (q : Query) (t : Tables) :
    gapped.next g q t = t ∨ (∃ table, gapped.next g q t = skipIdOf t table) ∨
      ∃ admits, gapped.next g q t = t.apply g.outcome q admits := by
  by_cases stored : Stored g.outcome q t
  · refine Or.inr (Or.inr ⟨stored.2, ?_⟩)
    simp only [gapped, stored, if_true, next_stored stored]
  · cases skips : g.skips with
    | false => exact Or.inl (by simp [gapped, stored, skips])
    | true =>
      have gap : gapped.next g q t = skipped t q := by simp [gapped, stored, skips]
      rw [gap]
      cases q with
      | addUser user => exact Or.inr (Or.inl ⟨.users, rfl⟩)
      | addRoom room => exact Or.inr (Or.inl ⟨.rooms, rfl⟩)
      | addMessage message => exact Or.inr (Or.inl ⟨.messages, rfl⟩)
      | _ => exact Or.inl rfl

theorem userIds_update (t : Table User) (user : User) (free : t.FreeFor user.id user.username) :
    (updateUsers t user free).rows.map User.id = t.rows.map User.id := by
  simp only [updateUsers, List.map_map]
  apply List.map_congr_left
  intro row _
  exact withColumns_id user row

theorem evolves_skipIdOf (t : Tables) (table : TableName) : Evolves t (skipIdOf t table) := by
  cases table <;> exact ⟨List.prefix_rfl, List.prefix_rfl, List.prefix_rfl⟩

theorem userIds_insert (t : Table User) (user : User) (free : t.Free (Row.name user)) :
    (t.insert user free).rows.map User.id = t.rows.map User.id ++ [t.nextId] := by
  simp only [Table.insert, List.map_append, List.map_cons, List.map_nil]
  rfl

theorem evolves_apply (t : Tables) (outcome : Outcome) (q : Query) (admits : t.Admits q) :
    Evolves t (t.apply outcome q admits) := by
  cases q with
  | addUser user =>
    refine ⟨?_, List.prefix_rfl, List.prefix_rfl⟩
    simp only [Tables.apply, userIds, userIds_insert]
    exact List.prefix_append _ _
  | updateUser user =>
    refine ⟨?_, List.prefix_rfl, List.prefix_rfl⟩
    simp only [Tables.apply, userIds, userIds_update]
    exact List.prefix_rfl
  | addRoom room => exact ⟨List.prefix_rfl, List.prefix_append _ _, List.prefix_rfl⟩
  | addMessage message => exact ⟨List.prefix_rfl, List.prefix_rfl, List.prefix_append _ _⟩
  | _ => exact evolves_refl t

theorem evolves_gapped (g : Gaps) (q : Query) (t : Tables) : Evolves t (gapped.next g q t) := by
  rcases gapped_cases g q t with same | ⟨table, gap⟩ | ⟨admits, effect⟩
  · rw [same]
    exact evolves_refl t
  · rw [gap]
    exact evolves_skipIdOf t table
  · rw [effect]
    exact evolves_apply t g.outcome q admits

end Tables

section Runs
variable [Collation] [TextComparison]

theorem driven_next (x : QueryChoice) (q : Query) (t : Tables) :
    ∃ g, driven.next x q t = gapped.next g q t := by
  obtain ⟨g, _, next⟩ := driven_oneStep x q t
  exact ⟨g, next⟩

theorem kept_by_calls (P : Tables → Prop) (keep : ∀ g q t, P t → P (gapped.next g q t))
    (choice : Choice driven) (c : Call) {w : World driven} (start : P w.store) :
    P ((chat driven).next choice c w).store := by
  have kept : ∀ q, P (driven.next choice.store q w.store) := by
    intro q
    obtain ⟨g, same⟩ := driven_next choice.store q w.store
    rw [same]
    exact keep g q w.store start
  cases c with
  | repository q =>
    cases q with
    | addUser user => exact kept _
    | updateUser user => exact kept _
    | addRoom room => exact kept _
    | addMessage message => exact kept _
    | _ => exact start
  | _ => exact start

/-- Whoever the memory knows by an id has a row. -/
structure Accounted (w : World driven) : Prop where
  sessions : ∀ id user, (w.server.session id).userId = some user → HasUser w.store user
  rooms : ∀ user name, w.server.roomService.userToRoomMap[user]? = some name → HasUser w.store user
  members : ∀ name user session,
    memberSession w.server.roomService.activeRooms name user = some session → HasUser w.store user

structure KeysGiven (e : Event (chat driven)) : Prop where
  creator : ∀ room, e.call = .repository (.addRoom room) → HasUser e.state.store room.creatorId
  sender : ∀ message, e.call = .repository (.addMessage message) →
    HasUser e.state.store message.senderId

theorem answered_row {choice : Choice driven} {name : String} {w : World driven} {row : User}
    (answer : (chat driven).answer choice (.repository (.findByUsername name)) w =
      .ok (some row)) : row ∈ w.store.users.rows ∧ SameName row.username name := by
  obtain ⟨g, answers, _⟩ := driven_oneStep choice.store (.findByUsername name) w.store
  have found : catchLadder (.findByUsername name)
      (database.answer g.outcome (.findByUsername name) w.store) = .ok (some row) :=
    answers.symm.trans answer
  rcases stored_or_lost found with ⟨_, same⟩ | ⟨_, same⟩
  · exact find_some same.symm
  · cases same

variable [Sha256]

abbrev DrivenView := View (chat driven) Job

def Since (v : DrivenView) : Prop := ∀ e ∈ v.2, Evolves e.event.state.store v.1.store

theorem hasUser_of_login {v : DrivenView} (since : Since v) {session : SessionId} {user : Int}
    (login : LoginSucceeded id v.2 session user) : HasUser v.1.store user := by
  obtain ⟨e, made, messageId, m, _, w, choice, row, same, answer, known, _⟩ := login
  have evolves := since e made
  rw [same] at evolves
  exact hasUser_evolves evolves ⟨row, (answered_row answer).1, known⟩

omit [Sha256] in
theorem since_called {v : DrivenView} (since : Since v) (number : Nat) (job : Job)
    (choice : Choice driven) (c : Call) : Since (called v number job choice c) := by
  have step : Evolves v.1.store (called v number job choice c).1.store :=
    kept_by_calls (Evolves v.1.store) (fun g q t h => evolves_trans h (evolves_gapped g q t))
      choice c (evolves_refl v.1.store)
  intro e made
  rcases List.mem_append.mp made with old | new
  · exact evolves_trans (since e old) step
  · rw [List.mem_singleton.mp new]
    exact step

theorem accounted_of_vouched {v : DrivenView} (vouched : Vouched v) (since : Since v) :
    Accounted v.1 := by
  constructor
  · exact fun session user there => hasUser_of_login since (vouched.known session user there)
  · intro user name there
    obtain ⟨session, login⟩ := vouched.rooms user name there
    exact hasUser_of_login since login
  · exact fun name user session there =>
      hasUser_of_login since (vouched.members name user session there)

theorem keysGiven_of_acts {v : DrivenView} (vouched : Vouched v) (since : Since v)
    (number : Nat) {job : Job} (choice : Choice driven) {c : Call} (acts : Acts id job v c) :
    KeysGiven (⟨number, job, ⟨v.1, choice, c⟩⟩ : Entry (chat driven) Job).event := by
  constructor
  · intro room same
    have made : c = .repository (.addRoom room) := same
    subst made
    exact hasUser_of_login since (vouched.recorded _ _ acts)
  · intro message same
    have made : c = .repository (.addMessage message) := same
    subst made
    exact hasUser_of_login since (vouched.recorded _ _ acts)

/-- What the record of a run on the driver says of the tables. -/
structure Booked (v : DrivenView) : Prop where
  vouched : Vouched v
  since : Since v
  given : ∀ e ∈ v.2, KeysGiven e.event

theorem booked_called {v : DrivenView} {number : Nat} {job : Job} {choice : Choice driven}
    {c : Call} (h : Booked v) (acts : Acts id job v c) :
    Booked (called v number job choice c) := by
  refine ⟨vouched_called h.vouched acts, since_called h.since number job choice c, ?_⟩
  intro e made
  rcases List.mem_append.mp made with old | new
  · exact h.given e old
  · rw [List.mem_singleton.mp new]
    exact keysGiven_of_acts h.vouched h.since number choice acts

theorem booked_run (workers : Nat) (t : Tables) (moves : List (Move (chat driven) Job)) :
    EveryState (Pool.step workers Job.handler) (fun p => Booked (view p))
      (Pool.idle (⟨.start, t⟩ : World driven)) moves := by
  have start : Booked ((⟨.start, t⟩, []) : DrivenView) :=
    ⟨vouched_start (E := driven) t, List.forall_mem_nil _, List.forall_mem_nil _⟩
  have keep : ∀ (v : DrivenView) (number : Nat) (job : Job) (choice : Choice driven) (c : Call),
      Booked v → Acts id job v c → True →
      Booked (called v number job choice c) ∧ Grows v (called v number job choice c) :=
    fun v number job choice c h acts _ =>
      ⟨booked_called h acts, grows_called v number job choice c⟩
  have calls : EveryStep (Pool.step workers Job.handler) (SafeMove (fun _ _ => True))
      (Pool.idle (⟨.start, t⟩ : World driven)) moves :=
    everyStep_of_forall (safeMove_of_forall (fun _ _ => trivial)) (Pool.idle _) moves
  exact invariant_of_safe_moves grows_trans keep grows_refl guarded_job start calls

/-- From any tables and no sessions, however the handlers interleave and wherever the driver
    fails: whoever is logged in or in a room has a row, and no insert of a room or a message is
    refused for its user. -/
theorem users_accounted (workers : Nat) (t : Tables) (moves : List (Move (chat driven) Job)) :
    EveryState (Pool.step workers Job.handler)
      (fun p : Pool (chat driven) Job => Accounted p.state ∧ ∀ e ∈ p.log, KeysGiven e.event)
      (Pool.idle (⟨.start, t⟩ : World driven)) moves :=
  everyState_mono (fun _ booked => ⟨accounted_of_vouched booked.vouched booked.since, booked.given⟩)
    (booked_run workers t moves)

end Runs

end StoreIntegrity
