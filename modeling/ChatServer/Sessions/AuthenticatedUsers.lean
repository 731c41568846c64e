import ChatServer.Atomic.Histories
import ChatServer.Rooms.Maps
import ChatServer.Sessions.Acting
import ChatServer.Sessions.Maps

/-!
Only authenticated users act. A session gets its user id from a login that succeeded, a
handler acts for the id of its session, and nothing else puts an id into the rooms, a
stored message or a broadcast.
-/
namespace AuthenticatedUsers
open AtomicCalls EventRuns WorkerPool TaskHistories RelyGuarantee ChatProtocol ChatState ChatCalls
  ChatServices RoomMaps SessionMaps ActingSessions

section Next
variable (c : Call) (s : Server)

def Enters (user : Int) (name : String) (session : SessionId) : Call → Prop
  | .joinRoom who room _ id => who = user ∧ room = name ∧ id = session
  | .createRoom who room _ id => who = user ∧ room = name ∧ id = session
  | _ => False

theorem room_next {user : Int} {name : String}
    (there : (serverNext c s).roomService.userToRoomMap[user]? = some name) :
    s.roomService.userToRoomMap[user]? = some name ∨ ∃ session, Enters user name session c := by
  have vacated : ∀ who, (s.roomService.vacate who).userToRoomMap[user]? = some name →
      s.roomService.userToRoomMap[user]? = some name := by
    intro who left
    rw [map_vacate] at left
    split at left
    · cases left
    · exact left
  cases c with
  | joinRoom who room row id =>
    simp only [serverNext, map_join] at there
    split at there
    · rename_i same
      cases there
      exact Or.inr ⟨id, same.symm, rfl, rfl⟩
    · exact Or.inl there
  | createRoom who room roomId id =>
    simp only [serverNext, map_create] at there
    split at there
    · rename_i same
      cases there
      exact Or.inr ⟨id, same.symm, rfl, rfl⟩
    · exact Or.inl there
  | leaveRoom who room =>
    simp only [serverNext, map_leave] at there
    split at there
    · cases there
    · exact Or.inl there
  | disconnectRoom id who =>
    simp only [serverNext] at there
    split at there
    · exact Or.inl (vacated who there)
    · exact Or.inl there
  | updateUsername id name =>
    simp only [serverNext, Server.updateUsername] at there
    split at there <;> exact Or.inl there
  | _ => exact Or.inl there

theorem member_next {user : Int} {name : String} {session : SessionId}
    (there : memberSession (serverNext c s).roomService.activeRooms name user = some session) :
    memberSession s.roomService.activeRooms name user = some session ∨
      Enters user name session c := by
  cases c with
  | joinRoom who room row id =>
    simp only [serverNext, memberSession_join] at there
    split at there
    · rename_i same
      cases there
      exact Or.inr ⟨same.2.symm, same.1.symm, rfl⟩
    · split at there
      · cases there
      · exact Or.inl there
  | createRoom who room roomId id =>
    simp only [serverNext, memberSession_create] at there
    split at there
    · rename_i same
      cases there
      exact Or.inr ⟨same.2.symm, same.1.symm, rfl⟩
    · exact Or.inl there
  | leaveRoom who room =>
    simp only [serverNext, memberSession_leave] at there
    split at there
    · cases there
    · exact Or.inl there
  | disconnectRoom id who =>
    simp only [serverNext] at there
    split at there
    · simp only [RoomService.disconnect, memberSession_vacate] at there
      split at there
      · cases there
      · exact Or.inl there
    · exact Or.inl there
  | updateUsername id name =>
    simp only [serverNext, Server.updateUsername] at there
    split at there <;> exact Or.inl there
  | _ => exact Or.inl there

def Named (s : Server) : Prop :=
  ∀ id, (s.session id).userId = none → (s.session id).username = none

theorem named_next (h : Named s) : Named (serverNext c s) := by
  intro id nobody
  cases c with
  | registerAuthenticatedSession other who username =>
    simp only [serverNext, session_register] at nobody ⊢
    split at nobody
    · cases nobody
    · rename_i apart
      rw [if_neg apart]
      exact h id nobody
  | updateUsername other newUsername =>
    cases named : (s.session other).username with
    | none =>
      simp only [serverNext, updateUsername_unnamed newUsername named] at nobody ⊢
      exact h id nobody
    | some username =>
      simp only [serverNext, session_rename newUsername id named] at nobody ⊢
      split at nobody
      · rename_i same
        have unnamed := h other nobody
        rw [named] at unnamed
        cases unnamed
      · rename_i apart
        rw [if_neg apart]
        exact h id nobody
  | disconnectRoom other who =>
    simp only [serverNext] at nobody ⊢
    split at nobody <;> exact h id nobody
  | _ => exact h id nobody

/-- The call changes neither the rooms nor the indexes nor the two tables. -/
structure Untouched (c : Call) (s : Server) : Prop where
  rooms : (serverNext c s).roomService = s.roomService
  byUserId : (serverNext c s).sessionManager.sessionsByUserId = s.sessionManager.sessionsByUserId
  byUsername :
    (serverNext c s).sessionManager.sessionsByUsername = s.sessionManager.sessionsByUsername
  roomsTable : ∀ room, c ≠ .repository (.addRoom room)
  messagesTable : ∀ message, c ≠ .repository (.addMessage message)

end Next

section Runs
variable [Sha256] {E : Environment}

abbrev Log (E : Environment) := List (Entry (chat E) Job)

/-- The record of the run vouches for what a call does. -/
structure VouchedFor (before : Log E) (e : Entry (chat E) Job) : Prop where
  sender : ∀ message, e.event.call = .repository (.addMessage message) →
    LoginSucceeded id before e.tag.session message.senderId
  broadcast : ∀ receiver sent m, (receiver, sent) ∈ e.event.output →
    sent.payload = some (.messageBroadcast m) →
      ∀ user, m.fromUserId = toString user → LoginSucceeded id before e.tag.session user
  stranger : (∀ user, ¬ LoginSucceeded id before e.tag.session user) →
    Untouched e.event.call e.event.state.server

/-- Whoever is in a room, sends or changes anything has logged in before. -/
structure OnlyLoggedIn (p : Pool (chat E) Job) : Prop where
  rooms : ∀ (user : Int) (name : String), p.state.server.roomService.userToRoomMap[user]? = some name →
    ∃ session, LoginSucceeded id p.log session user
  members : ∀ (name : String) (room : ActiveRoom) (user : Int) (session : SessionId),
    p.state.server.roomService.activeRooms[name]? = some room → room.members[user]? = some session →
      LoginSucceeded id p.log session user
  record : EveryEntry VouchedFor p.log

structure Vouched (v : View (chat E) Job) : Prop where
  known : ∀ session user, (v.1.server.session session).userId = some user →
    LoginSucceeded id v.2 session user
  named : Named v.1.server
  recorded : ∀ session user, Seen v.2 session user → LoginSucceeded id v.2 session user
  rooms : ∀ user name, v.1.server.roomService.userToRoomMap[user]? = some name →
    ∃ session, LoginSucceeded id v.2 session user
  members : ∀ name user session,
    memberSession v.1.server.roomService.activeRooms name user = some session →
      LoginSucceeded id v.2 session user
  record : EveryEntry VouchedFor v.2

theorem vouched_start (store : E.Store) : Vouched ((⟨.start, store⟩, []) : View (chat E) Job) := by
  constructor
  · simp [Server.start, Session.fresh]
  · intro session _
    rfl
  · simp [Seen]
  · simp [Server.start, RoomService.empty]
  · simp [Server.start, RoomService.empty, memberSession]
  · intro before e after split
    exact absurd split.symm (by simp)

variable {v : View (chat E) Job} {number : Nat} {job : Job} {choice : Choice E} {c : Call}

theorem login_of_enters (h : Vouched v) (acts : Acts id job v c) {user : Int} {name : String}
    {session : SessionId} (enters : Enters user name session c) :
    LoginSucceeded id v.2 session user := by
  cases c with
  | joinRoom who room row other =>
    obtain ⟨rfl, _, rfl⟩ := enters
    exact h.recorded _ _ acts.2
  | createRoom who room roomId other =>
    obtain ⟨rfl, _, rfl⟩ := enters
    exact h.recorded _ _ acts.2
  | _ => exact enters.elim

/-- A session nobody has logged in on has no name, so what it removes or renames is in no index. -/
theorem untouched_of_stranger (h : Vouched v) (acts : Acts id job v c)
    (stranger : ∀ user, ¬ LoginSucceeded id v.2 job.session user) : Untouched c v.1.server := by
  have unseen : ∀ user, ¬ Seen v.2 job.session user := by
    intro user seen
    exact stranger user (h.recorded _ _ seen)
  have nobody : (v.1.server.session job.session).userId = none := by
    cases known : (v.1.server.session job.session).userId with
    | none => rfl
    | some user => exact absurd (h.known _ _ known) (stranger user)
  have unnamed := h.named _ nobody
  cases c with
  | registerAuthenticatedSession other user username =>
    obtain ⟨own, login⟩ := acts
    exact absurd (own ▸ login) (stranger user)
  | updateUsername other newUsername =>
    have own : other = job.session := acts
    subst own
    have same := updateUsername_unnamed newUsername unnamed
    constructor <;> simp [serverNext, same]
  | removeSession other =>
    have own : other = job.session := acts
    subst own
    have anonymous : (v.1.server.session job.session).identity = none := by
      simp [Session.identity, nobody]
    have same := indexes_remove_anonymous anonymous
    constructor
    · rfl
    · exact same.1
    · exact same.2
    · simp
    · simp
  | joinRoom user room row other =>
    obtain ⟨own, seen⟩ := acts
    exact absurd (own ▸ seen) (unseen user)
  | createRoom user room roomId other =>
    obtain ⟨own, seen⟩ := acts
    exact absurd (own ▸ seen) (unseen user)
  | leaveRoom user room => exact absurd acts (unseen user)
  | disconnectRoom other user =>
    obtain ⟨own, seen⟩ := acts
    exact absurd (own ▸ seen) (unseen user)
  | repository q =>
    cases q with
    | addRoom room => exact absurd acts (unseen _)
    | addMessage message => exact absurd acts (unseen _)
    | _ => constructor <;> simp
  | _ => constructor <;> simp

omit [Sha256] in
theorem notices_notify {s : Server} {session : SessionId} {who : Int}
    {notice : SessionId × Envelope} (sent : notice ∈ disconnectNotices s session who)
    (m : MessageBroadcast) : notice.2.payload ≠ some (.messageBroadcast m) := by
  unfold disconnectNotices at sent
  split at sent
  · obtain ⟨receiver, _, same⟩ := List.mem_map.mp sent
    rw [← same]
    simp [presence, envelope]
  · cases sent

theorem vouchedFor_called (h : Vouched v) (acts : Acts id job v c) :
    VouchedFor v.2 ⟨number, job, ⟨v.1, choice, c⟩⟩ := by
  constructor
  · intro message same
    have made : c = .repository (.addMessage message) := same
    subst made
    exact h.recorded _ _ acts
  · intro receiver sent m output payload user named
    have emitted : (receiver, sent) ∈ callEmit c v.1.server := output
    cases c with
    | send other e =>
      simp only [callEmit, List.mem_singleton, Prod.mk.injEq] at emitted
      obtain ⟨_, same⟩ := emitted
      subst same
      obtain ⟨who, shown, seen⟩ := acts.2 m payload
      have one : user = who := Int.repr_inj.mp (named.symm.trans shown)
      exact one ▸ h.recorded _ _ seen
    | disconnectRoom other who => exact absurd payload (notices_notify emitted m)
    | _ => simp at emitted
  · intro stranger
    exact untouched_of_stranger h acts stranger

theorem vouched_called (h : Vouched v) (acts : Acts id job v c) :
    Vouched (called v number job choice c) := by
  have grows := grows_called v number job choice c
  constructor
  · intro session user there
    rcases userId_next c v.1.server there with before | ⟨username, registers⟩
    · exact loginSucceeded_mono grows (h.known session user before)
    · subst registers
      exact loginSucceeded_mono grows acts.2
  · exact named_next c v.1.server h.named
  · intro session user seen
    obtain ⟨e, made, there⟩ := seen
    rcases List.mem_append.mp made with old | new
    · exact loginSucceeded_mono grows (h.recorded session user ⟨e, old, there⟩)
    · rw [List.mem_singleton.mp new] at there
      exact loginSucceeded_mono grows (h.known session user there)
  · intro user name there
    rcases room_next c v.1.server there with before | ⟨session, enters⟩
    · obtain ⟨session, login⟩ := h.rooms user name before
      exact ⟨session, loginSucceeded_mono grows login⟩
    · exact ⟨session, loginSucceeded_mono grows (login_of_enters h acts enters)⟩
  · intro name user session there
    rcases member_next c v.1.server there with before | enters
    · exact loginSucceeded_mono grows (h.members name user session before)
    · exact loginSucceeded_mono grows (login_of_enters h acts enters)
  · exact everyEntry_append.mpr ⟨h.record, vouchedFor_called h acts⟩

/-- With any number of workers, any repository answers and any interleaving of all jobs:
    only authenticated users act. -/
theorem only_logged_in_act (workers : Nat) (store : E.Store) (moves : List (Move (chat E) Job)) :
    EveryState (Pool.step workers Job.handler) OnlyLoggedIn (Pool.idle ⟨.start, store⟩) moves := by
  have keep : ∀ (v : View (chat E) Job) (number : Nat) (job : Job) (choice : Choice E) (c : Call),
      Vouched v → Acts id job v c → True →
      Vouched (called v number job choice c) ∧ Grows v (called v number job choice c) := by
    intro v number job choice c h acts _
    exact ⟨vouched_called h acts, grows_called v number job choice c⟩
  have calls : EveryStep (Pool.step workers Job.handler) (SafeMove (fun _ _ => True))
      (Pool.idle (⟨.start, store⟩ : World E)) moves :=
    everyStep_of_forall (safeMove_of_forall (fun _ _ => trivial)) (Pool.idle _) moves
  have kept : EveryState (Pool.step workers Job.handler) (fun p => Vouched (view p))
      (Pool.idle ⟨.start, store⟩) moves :=
    invariant_of_safe_moves grows_trans keep grows_refl guarded_job (vouched_start store) calls
  apply everyState_mono _ kept
  intro p h
  constructor
  · exact h.rooms
  · intro name room user session found member
    exact h.members name user session (by simp [memberSession, view, found, member])
  · exact h.record

end Runs

end AuthenticatedUsers
