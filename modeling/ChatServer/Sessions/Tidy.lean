import ChatServer.Rooms.Maps
import ChatServer.Sessions.Maps

/-!
The entries of a session, in both indexes and in the rooms. They are tidy when each is
one that the session's own identity leads to, so that a disconnect, which goes by the
identity, finds them all.
-/
namespace TidySessions
open KeyedMaps ChatProtocol ChatState ChatEffects RoomMaps SessionMaps

/-- Every entry for a session is one its own identity leads to. -/
structure Tidy (s : Server) : Prop where
  held : ∀ id k, (s.session id).userId = some k → (s.session id).authenticated = true
  named : ∀ id n, (s.session id).username = some n → (s.session id).authenticated = true
  byId : ∀ (k : Int) (id : SessionId), s.sessionManager.sessionsByUserId[k]? = some id →
    (s.session id).userId = some k
  byName : ∀ (n : String) (id : SessionId), s.sessionManager.sessionsByUsername[n]? = some id →
    (s.session id).username = some n
  seats : ∀ (r : String) (u : Int) (id : SessionId),
    memberSession s.roomService.activeRooms r u = some id →
      (s.session id).userId = some u ∧ s.roomService.userToRoomMap[u]? = some r

def Unlisted (s : Server) (id : SessionId) : Prop :=
  (∀ k : Int, s.sessionManager.sessionsByUserId[k]? ≠ some id) ∧
    ∀ n : String, s.sessionManager.sessionsByUsername[n]? ≠ some id

def Seatless (s : Server) (id : SessionId) : Prop :=
  ∀ r u, memberSession s.roomService.activeRooms r u ≠ some id

theorem tidy_start : Tidy Server.start := by
  refine ⟨?_, ?_, ?_, ?_, ?_⟩
  · intro id k h
    simp [Server.start, Session.fresh] at h
  · intro id n h
    simp [Server.start, Session.fresh] at h
  · intro k id h
    simp [Server.start, SessionManager.empty] at h
  · intro n id h
    simp [Server.start, SessionManager.empty] at h
  · intro r u id h
    simp [Server.start, RoomService.empty, memberSession] at h

section Identity
variable {s : Server} (tidy : Tidy s) {id : SessionId}
include tidy

theorem identity_of_userId {k : Int} (h : (s.session id).userId = some k) :
    ∃ n, (s.session id).identity = some (k, n) := by
  obtain ⟨l, n, who⟩ := identity_authenticated (tidy.held id k h)
  have same := (identity_some who).2.1
  rw [h] at same
  cases same
  exact ⟨n, who⟩

theorem identity_of_username {n : String} (h : (s.session id).username = some n) :
    ∃ k, (s.session id).identity = some (k, n) := by
  obtain ⟨k, m, who⟩ := identity_authenticated (tidy.named id n h)
  have same := (identity_some who).2.2
  rw [h] at same
  cases same
  exact ⟨k, who⟩

end Identity

section Steps
variable {s : Server} {id : SessionId} {k : Int} {n : String}

theorem tidy_register (tidy : Tidy s)
    (same_identity : ∀ l m, (s.session id).identity = some (l, m) → l = k ∧ m = n) :
    Tidy (s.registerAuthenticatedSession id k n) where
  held := by
    intro other l h
    rw [session_register] at h ⊢
    split
    · rfl
    · rename_i different
      rw [if_neg different] at h
      exact tidy.held other l h
  named := by
    intro other m h
    rw [session_register] at h ⊢
    split
    · rfl
    · rename_i different
      rw [if_neg different] at h
      exact tidy.named other m h
  byId := by
    intro l other h
    rw [byId_register] at h
    rw [session_register]
    by_cases here : l = k
    · rw [if_pos here] at h
      cases h
      rw [if_pos rfl, here]
      rfl
    · rw [if_neg here] at h
      have known := tidy.byId l other h
      have different : other ≠ id := by
        intro it
        subst it
        obtain ⟨m, who⟩ := identity_of_userId tidy known
        exact here (same_identity l m who).1
      rw [if_neg different]
      exact known
  byName := by
    intro m other h
    rw [byName_register] at h
    rw [session_register]
    by_cases here : m = n
    · rw [if_pos here] at h
      cases h
      rw [if_pos rfl, here]
      rfl
    · rw [if_neg here] at h
      have known := tidy.byName m other h
      have different : other ≠ id := by
        intro it
        subst it
        obtain ⟨l, who⟩ := identity_of_username tidy known
        exact here (same_identity l m who).2
      rw [if_neg different]
      exact known
  seats := by
    intro r u other h
    obtain ⟨known, seated⟩ := tidy.seats r u other h
    refine ⟨?_, seated⟩
    rw [session_register]
    by_cases it : other = id
    · subst it
      obtain ⟨m, who⟩ := identity_of_userId tidy known
      rw [if_pos rfl, (same_identity u m who).1]
      rfl
    · rw [if_neg it]
      exact known

theorem tidy_rename (tidy : Tidy s) (newUsername : String) :
    Tidy (s.updateUsername id newUsername) := by
  cases name : (s.session id).username with
  | none =>
    rw [updateUsername_unnamed newUsername name]
    exact tidy
  | some old =>
    have open_session := tidy.named id old name
    have kept : ∀ other, ((s.updateUsername id newUsername).session other).userId =
        (s.session other).userId := by
      intro other
      rw [session_rename newUsername other name]
      split
      · rename_i it
        rw [it]
        rfl
      · rfl
    constructor
    · intro other k h
      rw [kept] at h
      rw [session_rename newUsername other name]
      split
      · exact open_session
      · exact tidy.held other k h
    · intro other m h
      rw [session_rename newUsername other name] at h ⊢
      split
      · exact open_session
      · rename_i different
        rw [if_neg different] at h
        exact tidy.named other m h
    · intro k other h
      rw [kept]
      rw [byId_rename] at h
      exact tidy.byId k other h
    · intro m other h
      rw [byName_rename newUsername m name] at h
      rw [session_rename newUsername other name]
      by_cases new : m = newUsername
      · rw [if_pos new] at h
        cases h
        rw [if_pos rfl, new]
        rfl
      · rw [if_neg new] at h
        by_cases erased : m = old
        · rw [if_pos erased] at h
          cases h
        · rw [if_neg erased] at h
          have known := tidy.byName m other h
          have different : other ≠ id := by
            intro it
            rw [it, name] at known
            cases known
            exact erased rfl
          rw [if_neg different]
          exact known
    · intro r u other h
      rw [kept]
      have rooms : (s.updateUsername id newUsername).roomService = s.roomService := by
        simp only [Server.updateUsername, name, Server.setSession]
      rw [rooms] at h ⊢
      exact tidy.seats r u other h

theorem tidy_remove (tidy : Tidy s) : Tidy (s.removeSession id) := by
  refine ⟨tidy.held, tidy.named, ?_, ?_, tidy.seats⟩
  · intro k other h
    cases who : (s.session id).identity with
    | none =>
      rw [(indexes_remove_anonymous who).1] at h
      exact tidy.byId k other h
    | some identity =>
      rw [byId_remove who] at h
      split at h
      · cases h
      · exact tidy.byId k other h
  · intro n other h
    cases who : (s.session id).identity with
    | none =>
      rw [(indexes_remove_anonymous who).2] at h
      exact tidy.byName n other h
    | some identity =>
      rw [byName_remove who] at h
      split at h
      · cases h
      · exact tidy.byName n other h

theorem tidy_join (tidy : Tidy s) {user : Int} (known : (s.session id).userId = some user)
    (name : String) (room : Room) :
    Tidy { s with roomService := s.roomService.join user name room id } := by
  refine ⟨tidy.held, tidy.named, tidy.byId, tidy.byName, ?_⟩
  intro r u other h
  dsimp only at h ⊢
  rw [memberSession_join] at h
  rw [map_join]
  split at h
  · rename_i here
    cases h
    rw [if_pos here.2, here.1, here.2]
    exact ⟨known, rfl⟩
  · split at h
    · cases h
    · rename_i left
      obtain ⟨before, seated⟩ := tidy.seats r u other h
      have different : u ≠ user := by
        intro it
        rw [it] at seated
        exact left ⟨it, seated⟩
      rw [if_neg different]
      exact ⟨before, seated⟩

theorem tidy_vacate (tidy : Tidy s) (user : Int) :
    Tidy { s with roomService := s.roomService.vacate user } := by
  refine ⟨tidy.held, tidy.named, tidy.byId, tidy.byName, ?_⟩
  intro r u other h
  dsimp only at h ⊢
  rw [memberSession_vacate] at h
  rw [map_vacate]
  split at h
  · cases h
  · rename_i left
    obtain ⟨before, seated⟩ := tidy.seats r u other h
    have different : u ≠ user := by
      intro it
      rw [it] at seated
      exact left ⟨it, seated⟩
    rw [if_neg different]
    exact ⟨before, seated⟩

theorem tidy_leave (tidy : Tidy s) (user : Int) (name : String) :
    Tidy { s with roomService := s.roomService.leave user name } := by
  unfold RoomService.leave
  split
  · exact tidy_vacate tidy user
  · exact tidy

theorem tidy_create (tidy : Tidy s) {user : Int} (known : (s.session id).userId = some user)
    {name : String} (unseated : ∀ old, s.roomService.userToRoomMap[user]? = some old → old = name)
    (roomId : Int) :
    Tidy { s with roomService := s.roomService.create user name roomId id } := by
  refine ⟨tidy.held, tidy.named, tidy.byId, tidy.byName, ?_⟩
  intro r u other h
  dsimp only at h ⊢
  rw [memberSession_create] at h
  rw [map_create]
  split at h
  · rename_i here
    cases h
    rw [if_pos here.2, here.1, here.2]
    exact ⟨known, rfl⟩
  · rename_i elsewhere
    obtain ⟨before, seated⟩ := tidy.seats r u other h
    have different : u ≠ user := by
      intro it
      rw [it] at seated
      exact elsewhere ⟨unseated r seated, it⟩
    rw [if_neg different]
    exact ⟨before, seated⟩

end Steps

section Cleared
variable {s : Server} (tidy : Tidy s) {id : SessionId}
include tidy

/-- Out of its user's room a session has no seat left. -/
theorem seatless_vacate {user : Int} (known : (s.session id).userId = some user) :
    Seatless { s with roomService := s.roomService.vacate user } id := by
  intro r u h
  dsimp only at h
  rw [memberSession_vacate] at h
  split at h
  · cases h
  · rename_i left
    obtain ⟨before, seated⟩ := tidy.seats r u id h
    rw [known] at before
    cases before
    exact left ⟨rfl, seated⟩

theorem seatless_unauthenticated (nobody : (s.session id).authenticated = false) :
    Seatless s id := by
  intro r u h
  have present := tidy.held id u (tidy.seats r u id h).1
  rw [nobody] at present
  cases present

theorem unlisted_remove : Unlisted (s.removeSession id) id := by
  constructor
  · intro k h
    cases who : (s.session id).identity with
    | none =>
      rw [(indexes_remove_anonymous who).1] at h
      have present := tidy.held id k (tidy.byId k id h)
      rw [identity_none who] at present
      cases present
    | some identity =>
      obtain ⟨l, n⟩ := identity
      rw [byId_remove who] at h
      split at h
      · cases h
      · rename_i other
        have known := tidy.byId k id h
        rw [(identity_some who).2.1] at known
        cases known
        exact other rfl
  · intro n h
    cases who : (s.session id).identity with
    | none =>
      rw [(indexes_remove_anonymous who).2] at h
      have present := tidy.named id n (tidy.byName n id h)
      rw [identity_none who] at present
      cases present
    | some identity =>
      obtain ⟨k, m⟩ := identity
      rw [byName_remove who] at h
      split at h
      · cases h
      · rename_i other
        have known := tidy.byName n id h
        rw [(identity_some who).2.2] at known
        cases known
        exact other rfl

end Cleared

end TidySessions
