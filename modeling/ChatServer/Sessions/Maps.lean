import ChatServer.Atomic.KeyedMaps
import ChatServer.Model.Effects

/-!
The session fields and the two indexes after each operation of `SessionManager`, read
key by key.
-/
namespace SessionMaps
open KeyedMaps ChatState ChatEffects

section Register
variable (s : Server) (id other : SessionId) (k l : Int) (n m : String)

theorem session_register :
    (s.registerAuthenticatedSession id k n).session other =
      if other = id then (s.session id).setAuthenticated k n else s.session other := by
  by_cases same : other = id
  · subst same
    simp [Server.registerAuthenticatedSession, Server.setSession]
  · simp [Server.registerAuthenticatedSession, Server.setSession, same]

theorem identity_register :
    ((s.registerAuthenticatedSession id k n).session other).identity =
      if other = id then some (k, n) else (s.session other).identity := by
  rw [session_register]
  split <;> rfl

theorem byId_register :
    (s.registerAuthenticatedSession id k n).sessionManager.sessionsByUserId[l]? =
      if l = k then some id else s.sessionManager.sessionsByUserId[l]? :=
  find_insert s.sessionManager.sessionsByUserId k l id

theorem byName_register :
    (s.registerAuthenticatedSession id k n).sessionManager.sessionsByUsername[m]? =
      if m = n then some id else s.sessionManager.sessionsByUsername[m]? :=
  find_insert s.sessionManager.sessionsByUsername n m id

end Register

section Rename
variable {s : Server} {id : SessionId} {k : Int} {n : String} (newUsername : String)
  (other : SessionId) (l : Int) (m : String)

theorem updateUsername_unnamed (unnamed : (s.session id).username = none) :
    s.updateUsername id newUsername = s := by
  simp [Server.updateUsername, unnamed]

theorem session_rename (named : (s.session id).username = some n) :
    (s.updateUsername id newUsername).session other =
      if other = id then (s.session id).setUsername newUsername else s.session other := by
  by_cases same : other = id
  · subst same
    simp [Server.updateUsername, named, Server.setSession]
  · simp [Server.updateUsername, named, Server.setSession, same]

theorem identity_rename (who : (s.session id).identity = some (k, n)) :
    ((s.updateUsername id newUsername).session other).identity =
      if other = id then some (k, newUsername) else (s.session other).identity := by
  rw [session_rename newUsername other (identity_some who).2.2]
  split
  · exact identity_setUsername who newUsername
  · rfl

theorem byId_rename :
    (s.updateUsername id newUsername).sessionManager.sessionsByUserId[l]? =
      s.sessionManager.sessionsByUserId[l]? := by
  unfold Server.updateUsername
  split <;> rfl

theorem byName_rename (named : (s.session id).username = some n) :
    (s.updateUsername id newUsername).sessionManager.sessionsByUsername[m]? =
      if m = newUsername then some id
      else if m = n then none else s.sessionManager.sessionsByUsername[m]? := by
  simp only [Server.updateUsername, named, find_insert, find_erase]

end Rename

section Remove
variable {s : Server} {id : SessionId}

theorem session_remove (other : SessionId) : (s.removeSession id).session other = s.session other :=
  rfl

theorem indexes_remove_anonymous (nobody : (s.session id).identity = none) :
    (s.removeSession id).sessionManager.sessionsByUserId = s.sessionManager.sessionsByUserId ∧
    (s.removeSession id).sessionManager.sessionsByUsername =
      s.sessionManager.sessionsByUsername := by
  simp [Server.removeSession, nobody]

variable {k : Int} {n : String} (who : (s.session id).identity = some (k, n))
include who

theorem byId_remove (l : Int) :
    (s.removeSession id).sessionManager.sessionsByUserId[l]? =
      if l = k then none else s.sessionManager.sessionsByUserId[l]? := by
  simp only [Server.removeSession, who, find_erase]

theorem byName_remove (m : String) :
    (s.removeSession id).sessionManager.sessionsByUsername[m]? =
      if m = n then none else s.sessionManager.sessionsByUsername[m]? := by
  simp only [Server.removeSession, who, find_erase]

end Remove

end SessionMaps
