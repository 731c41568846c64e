import ChatServer.Atomic.Runs
import ChatServer.Sessions.Jobs
import ChatServer.Sessions.Maps

/-!
The two indexes of `SessionManager`. They are meant to be the two views of one
directory in which every listed session stands once, under its own id and name. Each
of the three operations keeps that exactly when the directory does not list somebody
in the way, and the run theorem is about all jobs of the server.
-/
namespace SessionIndexes
open AtomicCalls EventRuns ChatProtocol ChatState ChatCalls ChatServices ChatEffects
  AccountHandlers JobEffects SessionMaps

/-- Both indexes point to sessions that carry the key, and each backs the other. -/
structure IndexLaw (s : Server) : Prop where
  byId : ∀ (k : Int) (id : SessionId), s.sessionManager.sessionsByUserId[k]? = some id →
    ∃ n, (s.session id).identity = some (k, n) ∧
      s.sessionManager.sessionsByUsername[n]? = some id
  byName : ∀ (n : String) (id : SessionId), s.sessionManager.sessionsByUsername[n]? = some id →
    (s.session id).username = some n ∧ ∃ k, (s.session id).userId = some k ∧
      s.sessionManager.sessionsByUserId[k]? = some id

def Listed (s : Server) (id : SessionId) (k : Int) (n : String) : Prop :=
  s.sessionManager.sessionsByUserId[k]? = some id ∧ (s.session id).identity = some (k, n)

section Listed
variable {s : Server} (law : IndexLaw s)
include law

theorem listed_of_byId {k : Int} {id : SessionId}
    (h : s.sessionManager.sessionsByUserId[k]? = some id) : ∃ n, Listed s id k n := by
  obtain ⟨n, who, _⟩ := law.byId k id h
  exact ⟨n, h, who⟩

theorem listed_of_byName {n : String} {id : SessionId}
    (h : s.sessionManager.sessionsByUsername[n]? = some id) : ∃ k, Listed s id k n := by
  obtain ⟨name, k, userId, back⟩ := law.byName n id h
  obtain ⟨m, who, _⟩ := law.byId k id back
  have same := (identity_some who).2.2
  rw [name] at same
  cases same
  exact ⟨k, back, who⟩

theorem byName_of_listed {id : SessionId} {k : Int} {n : String} (h : Listed s id k n) :
    s.sessionManager.sessionsByUsername[n]? = some id := by
  obtain ⟨m, who, back⟩ := law.byId k id h.1
  rw [h.2] at who
  cases who
  exact back

end Listed

theorem indexLaw_of_listed {s : Server}
    (byId : ∀ (k : Int) (id : SessionId), s.sessionManager.sessionsByUserId[k]? = some id →
      ∃ n, (s.session id).identity = some (k, n) ∧
        s.sessionManager.sessionsByUsername[n]? = some id)
    (byName : ∀ (n : String) (id : SessionId),
      s.sessionManager.sessionsByUsername[n]? = some id → ∃ k, Listed s id k n) : IndexLaw s := by
  refine ⟨byId, ?_⟩
  intro n id h
  obtain ⟨k, back, who⟩ := byName n id h
  exact ⟨(identity_some who).2.2, k, (identity_some who).2.1, back⟩

section Register
/-- Whoever is listed under this id or this name is listed under both, and the session
    itself nowhere else. -/
def RoomFor (s : Server) (id : SessionId) (k : Int) (n : String) : Prop :=
  ∀ other l m, Listed s other l m → (l = k ↔ m = n) ∧ (other = id → l = k)

variable {s : Server} {id : SessionId} {k : Int} {n : String}

theorem indexLaw_register (law : IndexLaw s) (room : RoomFor s id k n) :
    IndexLaw (s.registerAuthenticatedSession id k n) := by
  apply indexLaw_of_listed
  · intro l other held
    rw [byId_register] at held
    by_cases same : l = k
    · rw [if_pos same] at held
      cases held
      refine ⟨n, ?_, ?_⟩
      · rw [identity_register, if_pos rfl, same]
      · rw [byName_register, if_pos rfl]
    · rw [if_neg same] at held
      obtain ⟨m, listed⟩ := listed_of_byId law held
      have apart := room other l m listed
      have different : other ≠ id := fun it => same (apart.2 it)
      have unnamed : m ≠ n := fun it => same (apart.1.mpr it)
      refine ⟨m, ?_, ?_⟩
      · rw [identity_register, if_neg different, listed.2]
      · rw [byName_register, if_neg unnamed]
        exact byName_of_listed law listed
  · intro m other held
    rw [byName_register] at held
    by_cases same : m = n
    · rw [if_pos same] at held
      cases held
      refine ⟨k, ?_, ?_⟩
      · rw [byId_register, if_pos rfl]
      · rw [identity_register, if_pos rfl, same]
    · rw [if_neg same] at held
      obtain ⟨l, listed⟩ := listed_of_byName law held
      have apart := room other l m listed
      have elsewhere : l ≠ k := fun it => same (apart.1.mp it)
      have different : other ≠ id := fun it => elsewhere (apart.2 it)
      refine ⟨l, ?_, ?_⟩
      · rw [byId_register, if_neg elsewhere]
        exact listed.1
      · rw [identity_register, if_neg different]
        exact listed.2

theorem roomFor_of_indexLaw (law : IndexLaw s)
    (after : IndexLaw (s.registerAuthenticatedSession id k n)) : RoomFor s id k n := by
  intro other l m listed
  by_cases same : l = k
  · refine ⟨iff_of_true same ?_, fun _ => same⟩
    by_contra unnamed
    have held : (s.registerAuthenticatedSession id k n).sessionManager.sessionsByUsername[m]? =
        some other := by
      rw [byName_register, if_neg unnamed]
      exact byName_of_listed law listed
    obtain ⟨l', back, who⟩ := listed_of_byName after held
    rw [identity_register] at who
    by_cases it : other = id
    · rw [if_pos it] at who
      cases who
      exact unnamed rfl
    · rw [if_neg it, listed.2] at who
      cases who
      rw [byId_register, if_pos same] at back
      cases back
      exact it rfl
  · have held : (s.registerAuthenticatedSession id k n).sessionManager.sessionsByUserId[l]? =
        some other := by
      rw [byId_register, if_neg same]
      exact listed.1
    obtain ⟨m', who, back⟩ := after.byId l other held
    rw [identity_register] at who
    have different : other ≠ id := by
      intro it
      rw [if_pos it] at who
      cases who
      exact same rfl
    rw [if_neg different, listed.2] at who
    cases who
    refine ⟨iff_of_false same ?_, fun it => absurd it different⟩
    intro named
    rw [byName_register, if_pos named] at back
    cases back
    exact different rfl

theorem indexLaw_register_iff (law : IndexLaw s) :
    IndexLaw (s.registerAuthenticatedSession id k n) ↔ RoomFor s id k n :=
  ⟨roomFor_of_indexLaw law, indexLaw_register law⟩

end Register

section Rename
variable {s : Server} {id : SessionId} {k : Int} {n : String}
  (who : (s.session id).identity = some (k, n)) (newUsername : String)
include who

def CanRename (s : Server) (id : SessionId) (k : Int) (newUsername : String) : Prop :=
  s.sessionManager.sessionsByUserId[k]? = some id ∧
    ∀ other, s.sessionManager.sessionsByUsername[newUsername]? = some other → other = id

theorem indexLaw_rename (law : IndexLaw s) (can : CanRename s id k newUsername) :
    IndexLaw (s.updateUsername id newUsername) := by
  obtain ⟨held, alone⟩ := can
  have named := byName_of_listed law ⟨held, who⟩
  apply indexLaw_of_listed
  · intro l other back
    rw [byId_rename] at back
    by_cases same : other = id
    · subst same
      obtain ⟨m, listed⟩ := listed_of_byId law back
      have here := listed.2
      rw [who] at here
      cases here
      refine ⟨newUsername, ?_, ?_⟩
      · rw [identity_rename _ _ who, if_pos rfl]
      · rw [byName_rename _ _ (identity_some who).2.2, if_pos rfl]
    · obtain ⟨m, listed⟩ := listed_of_byId law back
      have there := byName_of_listed law listed
      have not_new : m ≠ newUsername := by
        intro it
        rw [it] at there
        exact same (alone other there)
      have not_old : m ≠ n := by
        intro it
        rw [it, named] at there
        cases there
        exact same rfl
      refine ⟨m, ?_, ?_⟩
      · rw [identity_rename _ _ who, if_neg same, listed.2]
      · rw [byName_rename _ _ (identity_some who).2.2, if_neg not_new, if_neg not_old]
        exact there
  · intro m other there
    rw [byName_rename _ _ (identity_some who).2.2] at there
    by_cases new : m = newUsername
    · rw [if_pos new] at there
      cases there
      refine ⟨k, ?_, ?_⟩
      · rw [byId_rename]
        exact held
      · rw [identity_rename _ _ who, if_pos rfl, new]
    · rw [if_neg new] at there
      by_cases old : m = n
      · rw [if_pos old] at there
        cases there
      · rw [if_neg old] at there
        obtain ⟨l, listed⟩ := listed_of_byName law there
        have different : other ≠ id := by
          intro it
          have here := listed.2
          rw [it, who] at here
          cases here
          exact old rfl
        refine ⟨l, ?_, ?_⟩
        · rw [byId_rename]
          exact listed.1
        · rw [identity_rename _ _ who, if_neg different]
          exact listed.2

theorem canRename_of_indexLaw (law : IndexLaw s)
    (after : IndexLaw (s.updateUsername id newUsername)) : CanRename s id k newUsername := by
  constructor
  · have new : (s.updateUsername id newUsername).sessionManager.sessionsByUsername[newUsername]? =
        some id := by rw [byName_rename _ _ (identity_some who).2.2, if_pos rfl]
    obtain ⟨l, back, here⟩ := listed_of_byName after new
    rw [identity_rename _ _ who, if_pos rfl] at here
    cases here
    rw [byId_rename] at back
    exact back
  · intro other there
    by_contra different
    obtain ⟨l, listed⟩ := listed_of_byName law there
    have held : (s.updateUsername id newUsername).sessionManager.sessionsByUserId[l]? =
        some other := by
      rw [byId_rename]
      exact listed.1
    obtain ⟨m, here, back⟩ := after.byId l other held
    rw [identity_rename _ _ who, if_neg different, listed.2] at here
    cases here
    rw [byName_rename _ _ (identity_some who).2.2, if_pos rfl] at back
    cases back
    exact different rfl

theorem indexLaw_rename_iff (law : IndexLaw s) :
    IndexLaw (s.updateUsername id newUsername) ↔ CanRename s id k newUsername :=
  ⟨canRename_of_indexLaw who newUsername law, indexLaw_rename who newUsername law⟩

end Rename

section Remove
variable {s : Server} {id : SessionId}

theorem indexLaw_remove_anonymous (nobody : (s.session id).identity = none) (law : IndexLaw s) :
    IndexLaw (s.removeSession id) := by
  obtain ⟨sameIds, sameNames⟩ := indexes_remove_anonymous nobody
  constructor
  · intro k other held
    rw [sameIds] at held
    rw [sameNames]
    exact law.byId k other held
  · intro n other held
    rw [sameNames] at held
    rw [sameIds]
    exact law.byName n other held

variable {k : Int} {n : String} (who : (s.session id).identity = some (k, n))
include who

/-- Nobody is listed under just one of this id and this name. -/
def Together (s : Server) (k : Int) (n : String) : Prop :=
  ∀ other l m, Listed s other l m → (l = k ↔ m = n)

theorem indexLaw_remove (law : IndexLaw s) (together : Together s k n) :
    IndexLaw (s.removeSession id) := by
  apply indexLaw_of_listed
  · intro l other held
    rw [byId_remove who] at held
    by_cases same : l = k
    · rw [if_pos same] at held
      cases held
    · rw [if_neg same] at held
      obtain ⟨m, listed⟩ := listed_of_byId law held
      have apart : m ≠ n := fun it => same ((together other l m listed).mpr it)
      refine ⟨m, listed.2, ?_⟩
      rw [byName_remove who, if_neg apart]
      exact byName_of_listed law listed
  · intro m other held
    rw [byName_remove who] at held
    by_cases same : m = n
    · rw [if_pos same] at held
      cases held
    · rw [if_neg same] at held
      obtain ⟨l, listed⟩ := listed_of_byName law held
      have apart : l ≠ k := fun it => same ((together other l m listed).mp it)
      refine ⟨l, ?_, listed.2⟩
      rw [byId_remove who, if_neg apart]
      exact listed.1

theorem together_of_indexLaw (law : IndexLaw s) (after : IndexLaw (s.removeSession id)) :
    Together s k n := by
  intro other l m listed
  by_cases same : l = k
  · apply iff_of_true same
    by_contra unnamed
    have held : (s.removeSession id).sessionManager.sessionsByUsername[m]? = some other := by
      rw [byName_remove who, if_neg unnamed]
      exact byName_of_listed law listed
    obtain ⟨l', back, here⟩ := listed_of_byName after held
    rw [session_remove, listed.2] at here
    cases here
    rw [byId_remove who, if_pos same] at back
    cases back
  · apply iff_of_false same
    intro named
    have held : (s.removeSession id).sessionManager.sessionsByUserId[l]? = some other := by
      rw [byId_remove who, if_neg same]
      exact listed.1
    obtain ⟨m', here, back⟩ := after.byId l other held
    rw [session_remove, listed.2] at here
    cases here
    rw [byName_remove who, if_pos named] at back
    cases back

theorem indexLaw_remove_iff (law : IndexLaw s) :
    IndexLaw (s.removeSession id) ↔ Together s k n :=
  ⟨together_of_indexLaw who law, indexLaw_remove who law⟩

end Remove

theorem indexLaw_rooms {s : Server} (r : RoomService) :
    IndexLaw { s with roomService := r } ↔ IndexLaw s :=
  ⟨fun law => ⟨law.byId, law.byName⟩, fun law => ⟨law.byId, law.byName⟩⟩

section Runs
variable [Sha256]

/-- What a login needs of the directory: room for whom it opens the session for. -/
def LoginFits (w : World anyAnswers) (session : SessionId) (m : LoginRequest)
    (choices : Nat → Choice anyAnswers) : Prop :=
  ∀ user, opened m (answered (choices 0) (.findByUsername m.username) w.store) = some user →
    RoomFor w.server session user.id user.username

/-- What a rename needs, if its lookups let it through and its write does not throw. -/
def RenameFits (w : World anyAnswers) (session : SessionId) (m : ChangeUsernameRequest)
    (choices : Nat → Choice anyAnswers) : Prop :=
  ∀ k n user a, (w.server.session session).identity = some (k, n) →
    renamed m (answered (choices 3) (.findByUsername n) w.store)
      (answered (choices 4) (.findByUsername m.newUsername) w.store) = some user →
    answered (choices 5) (.updateUser user) w.store = .ok a →
    CanRename w.server session k m.newUsername

def DisconnectFits (w : World anyAnswers) (session : SessionId) : Prop :=
  ∀ k n, (w.server.session session).identity = some (k, n) → Together w.server k n

def JobFits (w : World anyAnswers) (e : JobEvent) : Prop :=
  match e.job with
  | .disconnect session => DisconnectFits w session
  | .dispatch session envelope => match envelope.payload with
    | some (.loginRequest m) => LoginFits w session m e.choices
    | some (.changeUsernameRequest m) => RenameFits w session m e.choices
    | _ => True

section Steps
variable {w : World anyAnswers} (law : IndexLaw w.server) (session : SessionId)
  (choices : Nat → Choice anyAnswers)
include law

theorem indexLaw_login_iff (m : LoginRequest) :
    IndexLaw (afterLogin session m choices w) ↔ LoginFits w session m choices := by
  unfold afterLogin LoginFits
  cases opened m (answered (choices 0) (.findByUsername m.username) w.store) with
  | none => simp [law]
  | some user => simp [indexLaw_register_iff law]

omit [Sha256] in
theorem indexLaw_disconnect_iff :
    IndexLaw (afterDisconnect session w.server) ↔ DisconnectFits w session := by
  unfold afterDisconnect DisconnectFits
  cases who : (w.server.session session).identity with
  | none => simp [indexLaw_remove_anonymous who law]
  | some identity =>
    obtain ⟨k, n⟩ := identity
    simp only [Option.some.injEq, Prod.mk.injEq, and_imp, forall_eq', forall_apply_eq_imp_iff]
    exact (indexLaw_rooms (s := w.server.removeSession session) _).trans
      (indexLaw_remove_iff who law)

omit [Sha256] in
theorem indexLaw_changeUsername_iff (m : ChangeUsernameRequest) {k : Int} {n : String}
    (who : (w.server.session session).identity = some (k, n)) :
    IndexLaw (afterRename session m choices w n) ↔ RenameFits w session m choices := by
  unfold afterRename RenameFits
  simp only [who, Option.some.injEq, Prod.mk.injEq, and_imp]
  cases through : renamed m (answered (choices 3) (.findByUsername n) w.store)
    (answered (choices 4) (.findByUsername m.newUsername) w.store) with
  | none =>
    apply iff_of_true law
    intro _ n' _ _ _ same written
    subst same
    rw [through] at written
    cases written
  | some user =>
    dsimp only
    cases write : answered (choices 5) (.updateUser user) w.store with
    | error e =>
      apply iff_of_true law
      intro _ n' _ _ _ same written answer
      subst same
      rw [through] at written
      cases written
      rw [write] at answer
      cases answer
    | ok a =>
      apply (indexLaw_rename_iff who m.newUsername law).trans
      constructor
      · intro can k' n' user' a' sameId same written answer
        subst sameId
        exact can
      · intro fits
        exact fits k n user a rfl rfl through write

omit [Sha256] in
theorem indexLaw_request_iff (payload : Option Payload) {k : Int} {n : String}
    (who : (w.server.session session).identity = some (k, n)) :
    IndexLaw (afterRequest session payload choices w k n) ↔
      ∀ m, payload = some (.changeUsernameRequest m) → RenameFits w session m choices := by
  unfold afterRequest
  split
  · rename_i m
    simp only [Option.some.injEq, Payload.changeUsernameRequest.injEq, forall_eq']
    exact indexLaw_changeUsername_iff law session choices m who
  · apply iff_of_true ((indexLaw_rooms _).mpr law)
    intro m other
    cases other
  · rename_i not_rename _
    apply iff_of_true law
    intro m asked
    exact absurd asked (not_rename m)

end Steps

theorem indexLaw_jobStep_iff (w : World anyAnswers) (e : JobEvent) (law : IndexLaw w.server) :
    IndexLaw (jobStep w e).server ↔ JobFits w e := by
  obtain ⟨job, choices⟩ := e
  rw [jobStep, final_job]
  cases job with
  | disconnect session => exact indexLaw_disconnect_iff law session
  | dispatch session envelope =>
    obtain ⟨messageId, payload⟩ := envelope
    simp only [serverAfter, JobFits]
    split
    · rename_i m
      exact indexLaw_login_iff law session choices m
    · rename_i not_login
      cases who : (w.server.session session).identity with
      | none =>
        apply iff_of_true law
        split
        · exact absurd rfl (not_login _)
        · intro k n user a someone
          rw [who] at someone
          cases someone
        · trivial
      | some identity =>
        obtain ⟨k, n⟩ := identity
        apply (indexLaw_request_iff law session choices payload who).trans
        split
        · exact absurd rfl (not_login _)
        · simp
        · rename_i not_rename
          simp only [iff_true]
          intro m asked
          exact absurd asked (not_rename m)

omit [Sha256] in
theorem indexLaw_start : IndexLaw (⟨.start, ()⟩ : World anyAnswers).server := by
  constructor
  · intro k id held
    simp [Server.start, SessionManager.empty] at held
  · intro n id held
    simp [Server.start, SessionManager.empty] at held

/-- From an empty server, a run of jobs keeps the two indexes right throughout exactly
    when every login has room, every rename is of a listed session to a name that lists
    nobody else, and every disconnect erases two keys of the same session. -/
theorem indexes_hold_iff_jobs_fit (events : List JobEvent) :
    EveryState jobStep (fun w => IndexLaw w.server) ⟨.start, ()⟩ events ↔
      EveryStep jobStep JobFits ⟨.start, ()⟩ events :=
  everyState_iff_everyStep indexLaw_jobStep_iff indexLaw_start events

end Runs

section Relogin

local instance : Sha256 := ⟨id⟩

def loginAs (session : SessionId) (userId : Int) (username : String) : JobEvent :=
  ⟨.dispatch session ⟨"", some (.loginRequest ⟨username, "pw"⟩)⟩, fun _ => ⟨fun q => match q with
    | .findByUsername name => .ok (some ⟨userId, name, "pw", ""⟩)
    | q => .ok q.fallback, none, ⟨0, 0⟩⟩⟩

def relogin : List JobEvent := [loginAs 7 1 "ann", loginAs 7 2 "bob"]

theorem relogin_breaks_indexes :
    ¬ EveryState jobStep (fun w => IndexLaw w.server) ⟨.start, ()⟩ relogin := by
  intro kept
  have law := everyState_last kept
  obtain ⟨n, who, _⟩ := law.byId 1 7 (by decide)
  have now : ((after jobStep ⟨.start, ()⟩ relogin).server.session 7).identity =
      some (2, "bob") := by decide
  rw [now] at who
  cases who

end Relogin

end SessionIndexes
