import ChatServer.Sessions.Replies

/-!
A broadcast of the whole server, which goes by the set of sessions. Connecting does not
enter a session into the set and neither does a login, so it stays empty.
-/
namespace ServerBroadcasts
open AtomicCalls EventRuns ChatProtocol ChatState ChatCalls ChatServices ChatEffects
  AccountHandlers JobEffects SessionMaps
open ClientRooms (forClient)
open ExactDisconnect (History historyStep annLogsIn)
open RequestReplies (forClient_map)

def broadcast (s : Server) (e : Envelope) : List (SessionId × Envelope) :=
  (s.sessionManager.sessions.toList.filter (fun id => (s.session id).authenticated)).map
    (fun id => (id, e))

theorem forClient_broadcast (s : Server) (e : Envelope) (id : SessionId) :
    forClient id (broadcast s e) =
      if id ∈ s.sessionManager.sessions ∧ (s.session id).authenticated = true then [e] else [] := by
  have listed : (s.sessionManager.sessions.toList.filter
      (fun id => (s.session id).authenticated)).Nodup := by
    apply List.Nodup.filter
    apply s.sessionManager.sessions.distinct_toList.imp
    intro a b apart same
    exact apart (by simp [same])
  unfold broadcast
  rw [forClient_map, listed.count]
  simp only [List.mem_filter, Std.ExtTreeSet.mem_toList]
  split <;> rfl

section Runs
variable [Sha256]

inductive ServerEvent where
  | accept (session : SessionId)
  | job (e : JobEvent)

/-- `handle_accept` starts the session and enters it nowhere. -/
def serverStep (h : History) : ServerEvent → History
  | .accept _ => h
  | .job e => historyStep h e

/-- Logged in, and its disconnect has not been handled. -/
def Online (h : History) (id : SessionId) : Prop :=
  (h.world.server.session id).authenticated = true ∧ id ∉ h.gone

/-- A broadcast is sent once to each session that is online and to no other, and who is
    listed by user id is in the set. -/
structure ReachesOnline (h : History) : Prop where
  online : ∀ e id, Online h id → forClient id (broadcast h.world.server e) = [e]
  others : ∀ e id, ¬ Online h id → forClient id (broadcast h.world.server e) = []
  listed : ∀ (user : Int) (id : SessionId),
    h.world.server.sessionManager.sessionsByUserId[user]? = some id →
      id ∈ h.world.server.sessionManager.sessions

def SetEmpty (h : History) : Prop := ∀ id, id ∉ h.world.server.sessionManager.sessions

def NobodyOnline (h : History) : Prop :=
  (∀ id, ¬ Online h id) ∧
    ∀ user : Int, h.world.server.sessionManager.sessionsByUserId[user]? = none

omit [Sha256] in
theorem reachesOnline_iff {h : History} (empty : SetEmpty h) :
    ReachesOnline h ↔ NobodyOnline h := by
  have silent : ∀ e id, forClient id (broadcast h.world.server e) = [] := by
    intro e id
    rw [forClient_broadcast, if_neg (fun both => empty id both.1)]
  constructor
  · intro reaches
    constructor
    · intro id online
      have sent := reaches.online (envelope (.publicMessage ⟨""⟩)) id online
      rw [silent] at sent
      cases sent
    · intro user
      cases listed : h.world.server.sessionManager.sessionsByUserId[user]? with
      | none => rfl
      | some id => exact absurd (reaches.listed user id listed) (empty id)
  · intro nobody
    obtain ⟨offline, unlisted⟩ := nobody
    refine ⟨fun _ id online => absurd online (offline id), fun e id _ => silent e id, ?_⟩
    intro user id listed
    rw [unlisted user] at listed
    cases listed

/-- No login of the job opens a session. -/
def OpensNone (h : History) : ServerEvent → Prop
  | .accept _ => True
  | .job e => ∀ session messageId m,
    e.job = .dispatch session ⟨messageId, some (.loginRequest m)⟩ →
    opened m (answered (e.choices 0) (.findByUsername m.username) h.world.store) = none

omit [Sha256] in
theorem sessions_rename (s : Server) (id : SessionId) (newUsername : String) :
    (s.updateUsername id newUsername).sessionManager.sessions = s.sessionManager.sessions := by
  unfold Server.updateUsername
  split <;> rfl

omit [Sha256] in
theorem mem_sessions_remove {s : Server} {id other : SessionId}
    (there : other ∈ (s.removeSession id).sessionManager.sessions) :
    other ∈ s.sessionManager.sessions := by
  have kept : ∀ rest : SessionManager, rest.sessions = s.sessionManager.sessions →
      other ∈ rest.sessions.erase id → other ∈ s.sessionManager.sessions := by
    intro rest same erased
    rw [← same]
    exact Std.ExtTreeSet.mem_of_mem_erase erased
  unfold Server.removeSession at there
  dsimp only at there
  split at there
  · exact kept _ rfl there
  · exact kept _ rfl there

theorem mem_sessions_after {job : Job} {choices : Nat → Choice anyAnswers} {w : World anyAnswers}
    {id : SessionId} (there : id ∈ (serverAfter job choices w).sessionManager.sessions) :
    id ∈ w.server.sessionManager.sessions := by
  cases job with
  | disconnect session =>
    simp only [serverAfter, afterDisconnect] at there
    split at there
    · exact mem_sessions_remove (s := { w.server with roomService := _ }) there
    · exact mem_sessions_remove there
  | dispatch session envelope =>
    simp only [serverAfter] at there
    split at there
    · unfold afterLogin at there
      split at there
      · exact there
      · exact there
    · split at there
      · simp only [afterRequest] at there
        split at there
        · unfold afterRename serverRenamed at there
          split at there
          · split at there
            · rw [sessions_rename] at there
              exact there
            · exact there
          · exact there
        · exact there
        · exact there
      · exact there

theorem setEmpty_step (h : History) (e : ServerEvent) (empty : SetEmpty h) :
    SetEmpty (serverStep h e) := by
  cases e with
  | accept session => exact empty
  | job e =>
    intro id there
    simp only [serverStep, historyStep, jobStep, final_job] at there
    exact empty id (mem_sessions_after there)

section Steps
variable {h : History} (nobody : NobodyOnline h) (session : SessionId)
  (choices : Nat → Choice anyAnswers)
include nobody

omit [Sha256] in
theorem nobodyOnline_same {s : Server} {gone : List SessionId}
    (flags : ∀ id, (s.session id).authenticated = (h.world.server.session id).authenticated)
    (listed : ∀ user : Int, s.sessionManager.sessionsByUserId[user]? = none)
    (kept : ∀ id ∈ h.gone, id ∈ gone) : NobodyOnline ⟨⟨s, ()⟩, gone⟩ := by
  refine ⟨?_, listed⟩
  intro id online
  obtain ⟨present, connected⟩ := online
  exact nobody.1 id ⟨(flags id).symm.trans present, fun there => connected (kept id there)⟩

omit [Sha256] in
theorem nobodyOnline_disconnect :
    NobodyOnline ⟨⟨afterDisconnect session h.world.server, ()⟩, session :: h.gone⟩ := by
  apply nobodyOnline_same nobody
  · intro id
    unfold afterDisconnect
    split <;> rfl
  · intro user
    unfold afterDisconnect
    split
    · rename_i userId username who
      apply (byId_remove (s := { h.world.server with roomService := _ }) who user).trans
      split
      · rfl
      · exact nobody.2 user
    · rename_i unknown
      rw [(indexes_remove_anonymous unknown).1]
      exact nobody.2 user
  · intro id there
    exact List.mem_cons_of_mem session there

omit [Sha256] in
theorem nobodyOnline_rename (newUsername : String) :
    NobodyOnline ⟨⟨h.world.server.updateUsername session newUsername, ()⟩, h.gone⟩ := by
  apply nobodyOnline_same nobody
  · intro id
    cases named : (h.world.server.session session).username with
    | none => rw [updateUsername_unnamed newUsername named]
    | some old =>
      rw [session_rename newUsername id named]
      split
      · rename_i it
        rw [it]
        rfl
      · rfl
  · intro user
    rw [byId_rename]
    exact nobody.2 user
  · exact fun _ => id

theorem nobodyOnline_login_iff (m : LoginRequest) :
    NobodyOnline ⟨⟨afterLogin session m choices h.world, ()⟩, h.gone⟩ ↔
      opened m (answered (choices 0) (.findByUsername m.username) h.world.store) = none := by
  unfold afterLogin
  cases opened m (answered (choices 0) (.findByUsername m.username) h.world.store) with
  | none => exact iff_of_true nobody rfl
  | some user =>
    apply iff_of_false
    · intro after
      have unlisted := after.2 user.id
      dsimp only at unlisted
      rw [byId_register, if_pos rfl] at unlisted
      cases unlisted
    · exact Option.some_ne_none user

end Steps

theorem nobodyOnline_step (h : History) (e : ServerEvent) (nobody : NobodyOnline h) :
    NobodyOnline (serverStep h e) ↔ OpensNone h e := by
  cases e with
  | accept session => exact iff_of_true nobody trivial
  | job e =>
    obtain ⟨job, choices⟩ := e
    have effect := final_job job choices h.world
    have reached : serverStep h (.job ⟨job, choices⟩) =
        ⟨⟨(jobStep h.world ⟨job, choices⟩).server, ()⟩, (historyStep h ⟨job, choices⟩).gone⟩ := rfl
    rw [reached, jobStep, effect]
    cases job with
    | disconnect session =>
      apply iff_of_true (nobodyOnline_disconnect nobody session)
      intro session' messageId' m' same
      cases same
    | dispatch session envelope =>
      obtain ⟨messageId, payload⟩ := envelope
      simp only [serverAfter, historyStep]
      split
      · rename_i m
        apply (nobodyOnline_login_iff nobody session choices m).trans
        constructor
        · intro none session' messageId' m' same
          cases same
          exact none
        · intro all
          exact all session messageId m rfl
      · rename_i not_login
        apply iff_of_true
        · cases who : (h.world.server.session session).identity with
          | none => exact nobody
          | some identity =>
            simp only [afterRequest]
            split
            · unfold afterRename serverRenamed
              split
              · split
                · exact nobodyOnline_rename nobody session _
                · exact nobody
              · exact nobody
            · exact nobody
            · exact nobody
        · intro session' messageId' m' same
          cases same
          exact absurd rfl (not_login m')

/-- From the start, through accepted connections, requests and disconnects: broadcasts
    reach everybody online throughout exactly when nobody ever logs in. -/
theorem broadcasts_reach_online_iff (events : List ServerEvent) :
    EveryState serverStep ReachesOnline ⟨⟨.start, ()⟩, []⟩ events ↔
      EveryStep serverStep OpensNone ⟨⟨.start, ()⟩, []⟩ events := by
  have empty : SetEmpty ⟨⟨.start, ()⟩, []⟩ := by
    intro id
    simp [Server.start, SessionManager.empty]
  have start : ReachesOnline ⟨⟨.start, ()⟩, []⟩ := by
    apply (reachesOnline_iff empty).mpr
    constructor
    · intro id online
      cases online.1
    · intro user
      simp [Server.start, SessionManager.empty]
  apply everyState_iff_everyStep_beside setEmpty_step _ empty start
  intro h e empty reaches
  rw [reachesOnline_iff (setEmpty_step h e empty)]
  exact nobodyOnline_step h e ((reachesOnline_iff empty).mp reaches)

end Runs

section Login

local instance : Sha256 := ⟨id⟩

/-- Ann logs in, and a broadcast does not reach her. -/
theorem ann_not_reached :
    ¬ EveryState serverStep ReachesOnline ⟨⟨.start, ()⟩, []⟩ [.accept 7, .job (annLogsIn 7)] := by
  intro all
  have reaches := everyState_last all
  have sent := reaches.online (envelope (.publicMessage ⟨""⟩)) 7 ⟨by decide, by decide⟩
  cases sent

end Login

end ServerBroadcasts
