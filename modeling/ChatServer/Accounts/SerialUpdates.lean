import ChatServer.Accounts.Handlers
import ChatServer.Atomic.Runs
import ChatServer.Atomic.WorkerPool
import ChatServer.Model.Database

/-!
Password changes and renames that run at the same time. A handler reads the row, and
writes all three columns back later; the name of its session follows later still. If no
handler writes back what has changed since it read, the writes are a serial order: each
request could have run as a whole at the moment of its write.
-/
namespace SerialUpdates
open AtomicCalls EventRuns WorkerPool ChatProtocol ChatState ChatCalls ChatServices ChatEffects
  ChatDatabase AccountHandlers

inductive Change where
  | password (m : ChangePasswordRequest)
  | username (m : ChangeUsernameRequest)
  deriving DecidableEq

structure ChangeJob where
  session : SessionId
  change : Change
  deriving DecidableEq

def ChangeJob.handler [Sha256] (job : ChangeJob) : Handler :=
  match job.change with
  | .password m => handleChangePassword job.session m
  | .username m => handleChangeUsername job.session m

def ChangeJob.report (job : ChangeJob) : Envelope :=
  match job.change with
  | .password _ => envelope (.changePasswordResponse ⟨true, "Password changed successfully."⟩)
  | .username m => envelope (.changeUsernameResponse ⟨true,
      "Username changed successfully to " ++ m.newUsername ++ ".", ""⟩)

def ChangeJob.tail (job : ChangeJob) : Handler :=
  match job.change with
  | .password _ => .call (.send job.session job.report) .done
  | .username m => .call (.updateUsername job.session m.newUsername) (fun _ =>
      .call (.send job.session job.report) .done)

@[simp] def Reads : Call → Prop
  | .isAuthenticated _ => True
  | .getUsername _ => True
  | .generateSalt => True
  | .repository (.findByUsername _) => True
  | .send _ e => ∃ message, e = errorEnvelope message
  | _ => False

/-- The handler has not written yet; when it does, the tail is left. -/
def Reading (tail : Handler) : Handler → Prop
  | .done _ => True
  | .call c rest => (Reads c ∧ ∀ a, Reading tail (rest a)) ∨
      ((∃ user, c = .repository (.updateUser user)) ∧ ∀ a, rest a = tail)

theorem reading_error (tail : Handler) (session : SessionId) (message : String) :
    Reading tail (sendError session message) := Or.inl ⟨⟨message, rfl⟩, fun _ => trivial⟩

section Shape
variable [Sha256]

theorem reading_changePasswordOf (session : SessionId) (m : ChangePasswordRequest) (user : User) :
    Reading (ChangeJob.tail ⟨session, .password m⟩) (changePasswordOf session m user) := by
  unfold changePasswordOf
  split
  · exact reading_error _ _ _
  · exact Or.inl ⟨trivial, fun salt => Or.inr ⟨⟨_, rfl⟩, fun _ => rfl⟩⟩

theorem reading_changePassword (session : SessionId) (m : ChangePasswordRequest) :
    Reading (ChangeJob.tail ⟨session, .password m⟩) (handleChangePassword session m) := by
  rw [handleChangePassword_eq]
  refine Or.inl ⟨trivial, ?_⟩
  intro present
  cases present with
  | false => exact reading_error _ _ _
  | true =>
    refine Or.inl ⟨trivial, fun username => Or.inl ⟨trivial, ?_⟩⟩
    intro found
    cases found with
    | none => exact reading_error _ _ _
    | some user => exact reading_changePasswordOf session m user

omit [Sha256] in
theorem reading_changeUsernameOf (session : SessionId) (m : ChangeUsernameRequest) (user : User) :
    Reading (ChangeJob.tail ⟨session, .username m⟩) (changeUsernameOf session m user) := by
  unfold changeUsernameOf
  split
  · exact reading_error _ _ _
  · exact Or.inr ⟨⟨_, rfl⟩, fun _ => rfl⟩

omit [Sha256] in
theorem reading_changeUsername (session : SessionId) (m : ChangeUsernameRequest) :
    Reading (ChangeJob.tail ⟨session, .username m⟩) (handleChangeUsername session m) := by
  rw [handleChangeUsername_eq]
  refine Or.inl ⟨trivial, ?_⟩
  intro present
  cases present with
  | false => exact reading_error _ _ _
  | true =>
    refine Or.inl ⟨trivial, fun username => Or.inl ⟨trivial, ?_⟩⟩
    intro found
    cases found with
    | none => exact reading_error _ _ _
    | some user =>
      refine Or.inl ⟨trivial, ?_⟩
      intro taken
      cases taken with
      | some other => exact reading_error _ _ _
      | none => exact reading_changeUsernameOf session m user

theorem reading_handler (job : ChangeJob) : Reading job.tail job.handler := by
  obtain ⟨session, change⟩ := job
  cases change with
  | password m => exact reading_changePassword session m
  | username m => exact reading_changeUsername session m

end Shape

section Serial
variable [Collation] [Sha256]

/-- A request that was carried out: the number it was posted under and the salt it drew. -/
structure Carried where
  number : Nat
  job : ChangeJob
  salt : String

def working (salt : String) : Nat → Choice database :=
  fun _ => ⟨⟨none, 0, fun _ => 0⟩, some salt, ⟨0, 0⟩⟩

def serialStep (w : World database) (d : Carried) : World database :=
  d.job.handler.final (chat database) (working d.salt) w

def Succeeds (w : World database) (d : Carried) : Prop :=
  (d.job.session, d.job.report) ∈ d.job.handler.output (chat database) (working d.salt) w

/-- The row that a request of a session with this name would write if it ran now. -/
def rowNow (job : ChangeJob) (salt username : String) (t : Tables) : Option User :=
  match job.change with
  | .password m => repassworded m (.ok (t.users.find username)) (some salt)
  | .username m => renamed m (.ok (t.users.find username)) (.ok (t.users.find m.newUsername))

omit [Sha256] in
theorem answered_find (salt : String) (n : Nat) (username : String) (t : Tables) :
    answered (working salt n) (.findByUsername username) t = .ok (t.users.find username) := by
  simp [answered, working, database, Tables.Admits, Tables.answer, catchLadder]

omit [Sha256] in
theorem answered_stored (salt : String) (n : Nat) {user : User} {t : Tables}
    (admits : t.Admits (.updateUser user)) :
    answered (working salt n) (.updateUser user) t = .ok (t.users.findId user.id).isSome := by
  simp [answered, working, database, admits, Tables.answer, catchLadder]

omit [Sha256] in
theorem next_stored_same {first second : Outcome} {user : User} {t : Tables}
    (one : Stored first (.updateUser user) t) (other : second.raises = none) :
    database.next second (.updateUser user) t = database.next first (.updateUser user) t := by
  have two : Stored second (.updateUser user) t := ⟨other, one.2⟩
  rw [next_stored one, next_stored two]
  rfl

def serverNow (job : ChangeJob) (s : Server) : Server :=
  match job.change with
  | .password _ => s
  | .username m => s.updateUsername job.session m.newUsername

theorem serialStep_eq {w : World database} {d : Carried} {userId : Int} {username : String}
    {user : User} {outcome : Outcome}
    (who : (w.server.session d.job.session).identity = some (userId, username))
    (row : rowNow d.job d.salt username w.store = some user)
    (stored : Stored outcome (.updateUser user) w.store) :
    serialStep w d = ⟨serverNow d.job w.server,
      database.next outcome (.updateUser user) w.store⟩ := by
  obtain ⟨number, ⟨session, change⟩, salt⟩ := d
  cases change with
  | password m =>
    have final := final_handleChangePassword session (working salt) w who m
    rw [answered_find salt 2 username w.store] at final
    simp only [rowNow] at row
    simp only [row, show (working salt 3).salt = some salt from rfl] at final
    simp only [serialStep, ChangeJob.handler, serverNow, final]
    rw [next_stored_same stored (rfl : (working salt 4).store.raises = none)]
  | username m =>
    have final := final_handleChangeUsername session (working salt) w who m
    rw [answered_find salt 2 username w.store, answered_find salt 3 m.newUsername w.store] at final
    simp only [rowNow] at row
    simp only [row, answered_stored salt 4 stored.2] at final
    simp only [serialStep, ChangeJob.handler, serverNow, final, serverRenamed]
    rw [next_stored_same stored (rfl : (working salt 4).store.raises = none)]

theorem succeeds_now {w : World database} {d : Carried} {userId : Int} {username : String}
    {user : User} {outcome : Outcome}
    (who : (w.server.session d.job.session).identity = some (userId, username))
    (row : rowNow d.job d.salt username w.store = some user)
    (stored : Stored outcome (.updateUser user) w.store) : Succeeds w d := by
  obtain ⟨number, ⟨session, change⟩, salt⟩ := d
  have written := answered_stored salt 4 stored.2
  cases change with
  | password m =>
    have now : repassworded m (answered (working salt 2) (.findByUsername username) w.store)
        (working salt 3).salt = some user := by
      rw [answered_find salt 2 username w.store]
      exact row
    exact reports_handleChangePassword session (working salt) w who now written
  | username m =>
    have now : renamed m (answered (working salt 2) (.findByUsername username) w.store)
        (answered (working salt 3) (.findByUsername m.newUsername) w.store) = some user := by
      rw [answered_find salt 2 username w.store, answered_find salt 3 m.newUsername w.store]
      exact row
    exact reports_handleChangeUsername session (working salt) w who now written

end Serial

section Simulation
variable [Collation]

abbrev ChangeTask := Task (chat database) ChangeJob

abbrev ChangePool := Pool (chat database) ChangeJob

/-- A rename that has written the row and not yet named its session. -/
def Renaming (t : ChangeTask) (id : SessionId) (name : String) : Prop :=
  t.rest = .call (.updateUsername id name) (fun _ =>
      .call (.send t.tag.session t.tag.report) .done) ∧
    t.tag.session = id

def Reporting (t : ChangeTask) : Prop := t.rest = .call (.send t.tag.session t.tag.report) .done

def Answered (log : List (Entry (chat database) ChangeJob)) (n : Nat) (job : ChangeJob) : Prop :=
  ∃ e ∈ log, e.number = n ∧ e.tag = job ∧ e.event.call = .send job.session job.report

def Unfinished (t : ChangeTask) : Prop := (∃ id name, Renaming t id name) ∨ Reporting t

def Phase (order : List Carried) (t : ChangeTask) : Prop :=
  (Reading t.tag.tail t.rest ∧ t.number ∉ order.map Carried.number) ∨
    (Unfinished t ∧ ∃ salt, (⟨t.number, t.tag, salt⟩ : Carried) ∈ order) ∨ t.rest = .done ()

theorem not_renaming_of_reading {t : ChangeTask} (reading : Reading t.tag.tail t.rest)
    (id : SessionId) (name : String) : ¬ Renaming t id name := by
  intro halfway
  rw [halfway.1] at reading
  rcases reading with ⟨reads, _⟩ | ⟨⟨user, update⟩, _⟩
  · exact reads
  · cases update

theorem not_renaming_of_reporting {t : ChangeTask} (reporting : Reporting t) (id : SessionId)
    (name : String) : ¬ Renaming t id name := by
  intro halfway
  have same := halfway.1.symm.trans reporting
  cases same

theorem not_renaming_of_done {t : ChangeTask} (done : t.rest = .done ()) (id : SessionId)
    (name : String) : ¬ Renaming t id name := by
  intro halfway
  have same := halfway.1.symm.trans done
  cases same

variable [Sha256]

/-- The requests of `order`, one after the other, have done to the tables and to the names
    of the sessions what the pool has done, names still to be set aside. -/
structure Simulates (w : World database) (order : List Carried) (p : ChangePool) : Prop where
  numbered : Numbered p
  store : (after serialStep w order).store = p.state.store
  settled : ∀ id, (∀ t ∈ p.running, ∀ name, ¬ Renaming t id name) →
    (after serialStep w order).server.session id = p.state.server.session id
  pending : ∀ t ∈ p.running, ∀ id name, Renaming t id name →
    (p.state.server.session id).username.isSome = true ∧
      (after serialStep w order).server.session id =
        (p.state.server.session id).setUsername name
  once : ∀ t ∈ p.running, ∀ u ∈ p.running, ∀ id a b, Renaming t id a → Renaming u id b →
    t.number = u.number
  phases : ∀ t ∈ p.running, Phase order t
  waiting : ∀ t ∈ p.queue, t.rest = t.tag.handler ∧ t.number ∉ order.map Carried.number
  below : ∀ d ∈ order, d.number < p.posted
  apart : (order.map Carried.number).Nodup
  answered : ∀ n job, Answered p.log n job → ∃ salt, (⟨n, job, salt⟩ : Carried) ∈ order
  carried : ∀ d ∈ order, Answered p.log d.number d.job ∨
    ∃ t ∈ p.running, t.number = d.number ∧ t.tag = d.job ∧ Unfinished t
  succeeded : EveryStep serialStep Succeeds w order

theorem simulates_idle (w : World database) : Simulates w [] (Pool.idle w) := by
  constructor
  · constructor
    · exact List.nodup_nil
    · simp [Pool.idle]
  · rfl
  · intro id _
    rfl
  · simp [Pool.idle]
  · simp [Pool.idle]
  · simp [Pool.idle]
  · simp [Pool.idle]
  · simp
  · exact List.nodup_nil
  · simp [Answered, Pool.idle]
  · simp
  · trivial

variable {w : World database} {order : List Carried} {p : ChangePool}

theorem simulates_post (h : Simulates w order p) {workers : Nat} (job : ChangeJob)
    (choices : Nat → Choice database) :
    Simulates w order (p.step workers ChangeJob.handler (.post job choices)) := by
  refine { h with numbered := numbered_step h.numbered _, waiting := ?_, below := ?_ }
  · intro t member
    rcases List.mem_append.mp member with old | new
    · exact h.waiting t old
    · rw [List.mem_singleton.mp new]
      refine ⟨rfl, ?_⟩
      intro listed
      obtain ⟨d, present, same⟩ := List.mem_map.mp listed
      have below := h.below d present
      simp only at same
      omega
  · intro d member
    exact Nat.lt_succ_of_lt (h.below d member)

theorem simulates_start (h : Simulates w order p) {workers : Nat} :
    Simulates w order (p.step workers ChangeJob.handler .start) := by
  have numbered : Numbered (p.step workers ChangeJob.handler .start) :=
    numbered_step h.numbered .start
  simp only [Pool.step, Pool.start] at numbered ⊢
  split
  · exact h
  · rename_i t queue waiting
    split
    · rename_i free
      simp only [waiting, free, ↓reduceIte] at numbered
      obtain ⟨body, fresh⟩ := h.waiting t (by simp [waiting])
      have reading : Reading t.tag.tail t.rest := body ▸ reading_handler t.tag
      have quiet : ∀ id name, ¬ Renaming t id name := not_renaming_of_reading reading
      refine { h with
        numbered := numbered
        settled := ?_
        pending := ?_
        once := ?_
        phases := ?_
        waiting := ?_
        carried := ?_ }
      · intro id nobody
        exact h.settled id (fun u member => nobody u (List.mem_append_left _ member))
      · intro u member id name halfway
        rcases List.mem_append.mp member with old | new
        · exact h.pending u old id name halfway
        · rw [List.mem_singleton.mp new] at halfway
          exact absurd halfway (quiet id name)
      · intro u hu v hv id a b first second
        rcases List.mem_append.mp hu with old | new
        · rcases List.mem_append.mp hv with old' | new'
          · exact h.once u old v old' id a b first second
          · rw [List.mem_singleton.mp new'] at second
            exact absurd second (quiet id b)
        · rw [List.mem_singleton.mp new] at first
          exact absurd first (quiet id a)
      · intro u member
        rcases List.mem_append.mp member with old | new
        · exact h.phases u old
        · rw [List.mem_singleton.mp new]
          exact Or.inl ⟨reading, fresh⟩
      · intro u member
        exact h.waiting u (by rw [waiting]; exact List.mem_cons_of_mem t member)
      · intro d listed
        rcases h.carried d listed with answered | ⟨u, member, rest⟩
        · exact Or.inl answered
        · exact Or.inr ⟨u, List.mem_append_left _ member, rest⟩
    · exact h

/-- A running request steps on, or leaves the pool, without touching anything; what it
    logs, if anything, is covered already. -/
theorem simulates_quiet (h : Simulates w order p) {q : ChangePool} {t : ChangeTask}
    (numbered : Numbered q) (quiet : ∀ id name, ¬ Renaming t id name)
    (state : q.state = p.state) (posted : q.posted = p.posted) (queue : q.queue = p.queue)
    (running : ∀ u ∈ q.running, (u ∈ p.running ∧ u.number ≠ t.number) ∨
      (Phase order u ∧ ∀ id name, ¬ Renaming u id name))
    (stays : ∀ u ∈ p.running, u.number ≠ t.number → u ∈ q.running)
    (same : ∀ u ∈ p.running, u.number = t.number → u = t)
    (answered : ∀ n job, Answered q.log n job → ∃ salt, (⟨n, job, salt⟩ : Carried) ∈ order)
    (carried : ∀ d ∈ order, Answered p.log d.number d.job ∨ (t.number = d.number ∧ t.tag = d.job ∧
      Unfinished t) → Answered q.log d.number d.job) :
    Simulates w order q := by
  constructor
  · exact numbered
  · rw [state]
    exact h.store
  · intro id nobody
    rw [state]
    refine h.settled id (fun u member name halfway => ?_)
    by_cases other : u.number = t.number
    · rw [same u member other] at halfway
      exact quiet id name halfway
    · exact nobody u (stays u member other) name halfway
  · intro u member id name halfway
    rw [state]
    rcases running u member with ⟨old, _⟩ | ⟨_, no⟩
    · exact h.pending u old id name halfway
    · exact absurd halfway (no id name)
  · intro u hu v hv id a b first second
    rcases running u hu with ⟨old, _⟩ | ⟨_, no⟩
    · rcases running v hv with ⟨old', _⟩ | ⟨_, no⟩
      · exact h.once u old v old' id a b first second
      · exact absurd second (no id b)
    · exact absurd first (no id a)
  · intro u member
    rcases running u member with ⟨old, _⟩ | ⟨phase, _⟩
    · exact h.phases u old
    · exact phase
  · rw [queue]
    exact h.waiting
  · rw [posted]
    exact h.below
  · exact h.apart
  · exact answered
  · intro d listed
    rcases h.carried d listed with before | ⟨u, member, number, job, unfinished⟩
    · exact Or.inl (carried d listed (Or.inl before))
    · by_cases other : u.number = t.number
      · rw [same u member other] at number job unfinished
        exact Or.inl (carried d listed (Or.inr ⟨number, job, unfinished⟩))
      · exact Or.inr ⟨u, stays u member other, number, job, unfinished⟩
  · exact h.succeeded

omit [Sha256] in
theorem renaming_tail {t : ChangeTask} (left : t.rest = t.tag.tail) {id : SessionId}
    {name : String} :
    Renaming t id name ↔ t.tag.session = id ∧
      ∃ m, t.tag.change = .username m ∧ m.newUsername = name := by
  obtain ⟨number, ⟨session, change⟩, choices, rest⟩ := t
  simp only at left
  subst left
  cases change with
  | password m => simp [Renaming, ChangeJob.tail]
  | username m =>
    simp only [Renaming, ChangeJob.tail, Program.call.injEq, Call.updateUsername.injEq,
      Change.username.injEq, exists_eq_left']
    constructor
    · intro halfway
      exact ⟨halfway.2, halfway.1.1.2⟩
    · intro same
      obtain ⟨rfl, rfl⟩ := same
      simp

omit [Sha256] in
theorem unfinished_tail {t : ChangeTask} (left : t.rest = t.tag.tail) : Unfinished t := by
  cases change : t.tag.change with
  | password m =>
    apply Or.inr
    rw [Reporting, left, ChangeJob.tail, change]
  | username m =>
    exact Or.inl ⟨t.tag.session, m.newUsername, (renaming_tail left).mpr ⟨rfl, m, change, rfl⟩⟩

omit [Collation] [Sha256] in
theorem session_updateUsername (s : Server) (id : SessionId) (newUsername : String)
    (named : (s.session id).username.isSome = true) (other : SessionId) :
    (s.updateUsername id newUsername).session other =
      if other = id then (s.session id).setUsername newUsername else s.session other := by
  obtain ⟨name, has_name⟩ := Option.isSome_iff_exists.mp named
  simp only [Server.updateUsername, has_name, Server.setSession, Function.update_apply]

omit [Collation] [Sha256] in
theorem session_serverNow (job : ChangeJob) (s : Server)
    (named : (s.session job.session).username.isSome = true) {id : SessionId}
    (other : id ≠ job.session ∨ ∃ m, job.change = .password m) :
    (serverNow job s).session id = s.session id := by
  unfold serverNow
  cases change : job.change with
  | password m => rfl
  | username m =>
    rcases other with apart | ⟨m', password⟩
    · simp only [session_updateUsername s job.session m.newUsername named, if_neg apart]
    · rw [change] at password
      cases password

/-- The move writes a row only where `C` holds of the task and the row. -/
def AtWrite (C : ChangePool → ChangeTask → User → Prop) (p : ChangePool)
    (move : Move (chat database) ChangeJob) : Prop :=
  ∀ place t user rest, move = .advance place → p.running[place]? = some t →
    t.rest = .call (.repository (.updateUser user)) rest → C p t user

abbrev WriteStored (p : ChangePool) (move : Move (chat database) ChangeJob) : Prop :=
  AtWrite (fun p t user => Stored (t.choices 0).store (.updateUser user) p.state.store) p move

/-- The row about to be written is the one the request would write if it ran as a whole
    now, and no rename of its session is halfway. -/
def Undisturbed (p : ChangePool) (t : ChangeTask) (user : User) : Prop :=
  (∃ userId username salt, (p.state.server.session t.tag.session).identity =
      some (userId, username) ∧ rowNow t.tag salt username p.state.store = some user) ∧
    ∀ u ∈ p.running, ∀ name, ¬ Renaming u t.tag.session name

abbrev WriteUndisturbed (p : ChangePool) (move : Move (chat database) ChangeJob) : Prop :=
  AtWrite Undisturbed p move

omit [Sha256] in
theorem answer_stored {choice : Choice database} {user : User} {s : World database}
    (stored : Stored choice.store (.updateUser user) s.store) :
    ∃ a, (chat database).answer choice (.repository (.updateUser user)) s = .ok a := by
  obtain ⟨quiet, admits⟩ := stored
  refine ⟨(s.store.users.findId user.id).isSome, ?_⟩
  simp only [callAnswer, database, quiet]
  rw [if_pos admits]
  rfl

section Advance
variable {place : Nat} {t : ChangeTask}

omit [Sha256] in
theorem same_task (numbered : Numbered p) (here : p.running[place]? = some t) :
    ∀ u ∈ p.running, u.number = t.number → u = t := by
  intro u member same
  obtain ⟨i, found⟩ := List.mem_iff_getElem?.mp member
  by_cases place_same : i = place
  · rw [place_same, here] at found
    exact (Option.some.inj found).symm
  · exact absurd same (other_number (running_apart numbered) here found place_same)

omit [Sha256] in
theorem phase_append {order : List Carried} {u : ChangeTask} (d : Carried) (phase : Phase order u)
    (other : u.number ≠ d.number) : Phase (order ++ [d]) u := by
  rcases phase with ⟨reading, fresh⟩ | ⟨unfinished, salt, listed⟩ | done
  · exact Or.inl ⟨reading, by simp [fresh, other]⟩
  · exact Or.inr (Or.inl ⟨unfinished, salt, List.mem_append_left _ listed⟩)
  · exact Or.inr (Or.inr done)

omit [Sha256] in
theorem answered_append {log : List (Entry (chat database) ChangeJob)} {n : Nat} {job : ChangeJob}
    {e : Entry (chat database) ChangeJob} (h : Answered log n job) : Answered (log ++ [e]) n job := by
  obtain ⟨made, listed, rest⟩ := h
  exact ⟨made, List.mem_append_left _ listed, rest⟩

omit [Sha256] in
theorem answered_made {log : List (Entry (chat database) ChangeJob)} {n : Nat} {job : ChangeJob}
    {e : Entry (chat database) ChangeJob} (h : Answered (log ++ [e]) n job)
    (other : e.event.call ≠ .send job.session job.report) : Answered log n job := by
  obtain ⟨made, listed, number, tag, sent⟩ := h
  rcases List.mem_append.mp listed with old | new
  · exact ⟨made, old, number, tag, sent⟩
  · rw [List.mem_singleton.mp new] at sent
    exact absurd sent other

theorem once_set (h : Simulates w order p) (here : p.running[place]? = some t) {t' : ChangeTask}
    (only : ∀ v ∈ p.running, ∀ id x y, Renaming t' id x → ¬ Renaming v id y) :
    ∀ u ∈ p.running.set place t', ∀ v ∈ p.running.set place t', ∀ id x y,
      Renaming u id x → Renaming v id y → u.number = v.number := by
  have apart := running_apart h.numbered
  intro u hu v hv id x y first second
  rcases mem_set_number apart here hu with new | ⟨old, _⟩
  · rcases mem_set_number apart here hv with new' | ⟨old', _⟩
    · rw [new, new']
    · exact absurd second (only v old' id x y (new ▸ first))
  · rcases mem_set_number apart here hv with new' | ⟨old', _⟩
    · exact absurd first (only u old id y x (new' ▸ second))
    · exact h.once u old v old' id x y first second

/-- The write of a request that is not disturbed is the request as a whole. -/
theorem simulates_write (h : Simulates w order p) (here : p.running[place]? = some t)
    {user : User} {rest : Bool → Handler}
    (program : t.rest = .call (.repository (.updateUser user)) rest)
    (left : ∀ a, rest a = t.tag.tail) (unwritten : t.number ∉ order.map Carried.number)
    (stored : Stored (t.choices 0).store (.updateUser user) p.state.store)
    (undisturbed : Undisturbed p t user) :
    ∃ order, Simulates w order (p.advance place) := by
  obtain ⟨⟨userId, username, salt, who, row⟩, alone⟩ := undisturbed
  obtain ⟨a, answer⟩ := answer_stored stored
  have numbered : Numbered (p.step 0 ChangeJob.handler (.advance place)) :=
    numbered_step h.numbered (.advance place)
  have still : (after serialStep w order).server.session t.tag.session =
      p.state.server.session t.tag.session := h.settled t.tag.session alone
  have step : serialStep (after serialStep w order) ⟨t.number, t.tag, salt⟩ =
      ⟨serverNow t.tag (after serialStep w order).server,
        database.next (t.choices 0).store (.updateUser user) p.state.store⟩ := by
    rw [serialStep_eq (still ▸ who) (h.store ▸ row) (h.store ▸ stored), h.store]
  have done : after serialStep w (order ++ [⟨t.number, t.tag, salt⟩]) =
      ⟨serverNow t.tag (after serialStep w order).server,
        database.next (t.choices 0).store (.updateUser user) p.state.store⟩ := by
    rw [after_append, ← step]
    rfl
  have member := List.mem_of_getElem? here
  have apart := running_apart h.numbered
  have reading_quiet : ∀ id name, ¬ Renaming t id name := by
    intro id name halfway
    have same := halfway.1.symm.trans program
    cases same
  have stays : ∀ v, ∀ u ∈ p.running, ∀ id name, Renaming u id name →
      u ∈ p.running.set place v := by
    intro v u present id name halfway
    apply mem_set_of_number_ne here present
    intro same
    rw [same_task h.numbered here u present same] at halfway
    exact reading_quiet id name halfway
  have named : ((after serialStep w order).server.session t.tag.session).username.isSome = true := by
    rw [still, (identity_some who).2.2]
    rfl
  have stepped : t.after (rest a) ∈ p.running.set place (t.after (rest a)) :=
    List.mem_set (List.getElem?_eq_some_iff.mp here).1 _
  refine ⟨order ++ [⟨t.number, t.tag, salt⟩], ?_⟩
  simp only [Pool.step] at numbered
  rw [advance_ok here program answer] at numbered ⊢
  constructor
  · exact numbered
  · rw [done]
    rfl
  · intro id nobody
    have before : ∀ u ∈ p.running, ∀ name, ¬ Renaming u id name := fun u present name halfway =>
      nobody u (stays _ u present id name halfway) name halfway
    have apart : id ≠ t.tag.session ∨ ∃ m, t.tag.change = .password m := by
      cases change : t.tag.change with
      | password m => exact Or.inr ⟨m, rfl⟩
      | username m =>
        refine Or.inl (fun same => ?_)
        exact nobody _ stepped m.newUsername ((renaming_tail (left a)).mpr
          ⟨same.symm, m, change, rfl⟩)
    rw [done]
    exact (session_serverNow t.tag _ named apart).trans (h.settled id before)
  · intro u present id name halfway
    rw [done]
    rcases mem_set_number apart here present with new | ⟨old, _⟩
    · subst new
      obtain ⟨own, m, change, renamed⟩ := (renaming_tail (left a)).mp halfway
      simp only [Task.after] at own change
      subst own renamed
      refine ⟨still ▸ named, ?_⟩
      simp only [serverNow, change, session_updateUsername _ _ _ named, ↓reduceIte, still]
      rfl
    · obtain ⟨has_name, as_set⟩ := h.pending u old id name halfway
      have other : id ≠ t.tag.session := by
        intro same
        rw [same] at halfway
        exact alone u old name halfway
      exact ⟨has_name, (session_serverNow t.tag _ named (Or.inl other)).trans as_set⟩
  · apply once_set h here
    intro v old id x y first
    obtain ⟨own, _⟩ := (renaming_tail (left a)).mp first
    exact own ▸ alone v old y
  · intro u present
    rcases mem_set_number apart here present with new | ⟨old, other⟩
    · rw [new]
      exact Or.inr (Or.inl ⟨unfinished_tail (left a), salt, List.mem_append_right _ (by simp [Task.after])⟩)
    · exact phase_append ⟨t.number, t.tag, salt⟩ (h.phases u old) other
  · intro u waits
    obtain ⟨body, fresh⟩ := h.waiting u waits
    refine ⟨body, ?_⟩
    have other : u.number ≠ t.number := by
      have all := List.map_append ▸ h.numbered.apart
      exact (fun same => (List.nodup_append.mp all).2.2 t.number (List.mem_map_of_mem member)
        u.number (List.mem_map_of_mem waits) same.symm)
    simp [fresh, other]
  · intro d listed
    rcases List.mem_append.mp listed with old | new
    · exact h.below d old
    · rw [List.mem_singleton.mp new]
      exact h.numbered.given t (List.mem_append_left _ member)
  · rw [List.map_append]
    refine List.nodup_append.mpr ⟨h.apart, by simp, ?_⟩
    intro n old m new same
    simp only [List.map_cons, List.map_nil, List.mem_singleton] at new
    exact unwritten (new ▸ same ▸ old)
  · intro n job answered
    obtain ⟨salt', listed⟩ := h.answered n job (answered_made answered (by simp [Task.made]))
    exact ⟨salt', List.mem_append_left _ listed⟩
  · intro d listed
    rcases List.mem_append.mp listed with old | new
    · rcases h.carried d old with before | ⟨u, present, number, job, unfinished⟩
      · exact Or.inl (answered_append before)
      · refine Or.inr ⟨u, mem_set_of_number_ne here present ?_, number, job, unfinished⟩
        intro same
        exact unwritten (same ▸ number ▸ List.mem_map_of_mem old)
    · rw [List.mem_singleton.mp new]
      exact Or.inr ⟨_, stepped, rfl, rfl, unfinished_tail (left a)⟩
  · exact (everyStep_append w order _).mpr ⟨h.succeeded,
      succeeds_now (still ▸ who) (h.store ▸ row) (h.store ▸ stored), trivial⟩

omit [Sha256] in
theorem not_unfinished_of_reading {t : ChangeTask} (reading : Reading t.tag.tail t.rest) :
    ¬ Unfinished t := by
  intro unfinished
  rcases unfinished with ⟨id, name, halfway⟩ | reporting
  · exact not_renaming_of_reading reading id name halfway
  · rw [reporting] at reading
    rcases reading with ⟨⟨message, same⟩, _⟩ | ⟨⟨user, update⟩, _⟩
    · obtain ⟨number, ⟨session, change⟩, choices, rest⟩ := t
      cases change <;> cases same
    · cases update

theorem simulates_name (h : Simulates w order p) (here : p.running[place]? = some t)
    {id : SessionId} {name : String} (halfway : Renaming t id name) :
    Simulates w order (p.advance place) := by
  obtain ⟨program, own⟩ := halfway
  have member := List.mem_of_getElem? here
  obtain ⟨named, as_set⟩ := h.pending t member id name ⟨program, own⟩
  have numbered : Numbered (p.step 0 ChangeJob.handler (.advance place)) :=
    numbered_step h.numbered (.advance place)
  have apart := running_apart h.numbered
  obtain ⟨username, has_name⟩ := Option.isSome_iff_exists.mp named
  have answer : (chat database).answer (t.choices 0) (.updateUsername id name) p.state = .ok () := by
    simp [has_name, Except.map]
  have reporting : Reporting (t.after (.call (.send t.tag.session t.tag.report) .done)) := rfl
  have quiet := not_renaming_of_reporting reporting
  have unique : ∀ u ∈ p.running, u.number ≠ t.number → ∀ other a, Renaming u other a →
      other ≠ id := by
    intro u old apart other a second same
    exact apart (h.once u old t member id a name (same ▸ second) ⟨program, own⟩)
  simp only [Pool.step] at numbered
  rw [advance_ok here program answer] at numbered ⊢
  refine { h with
    numbered := numbered
    settled := ?_
    pending := ?_
    once := ?_
    phases := ?_
    answered := ?_
    carried := ?_ }
  · intro other nobody
    simp only [serverNext, session_updateUsername _ _ _ named]
    by_cases same : other = id
    · rw [if_pos same, same, as_set]
    · rw [if_neg same]
      refine h.settled other (fun u old a second => ?_)
      by_cases here' : u.number = t.number
      · rw [same_task h.numbered here u old here'] at second
        exact same (second.2.symm.trans own)
      · exact nobody u (mem_set_of_number_ne here old here') a second
  · intro u present other a second
    rcases mem_set_number apart here present with new | ⟨old, different⟩
    · exact absurd second (new ▸ quiet other a)
    · have before := h.pending u old other a second
      simp only [serverNext, session_updateUsername _ _ _ named,
        if_neg (unique u old different other a second)]
      exact before
  · apply once_set h here
    intro v old other a b first
    exact absurd first (quiet other a)
  · intro u present
    rcases mem_set_number apart here present with new | ⟨old, _⟩
    · rcases h.phases t member with ⟨reading, _⟩ | ⟨_, listed⟩ | done
      · exact absurd ⟨program, own⟩ (not_renaming_of_reading reading id name)
      · rw [new]
        exact Or.inr (Or.inl ⟨Or.inr reporting, listed⟩)
      · exact absurd ⟨program, own⟩ (not_renaming_of_done done id name)
    · exact h.phases u old
  · intro n job answered
    exact h.answered n job (answered_made answered (by simp [Task.made]))
  · intro d listed
    rcases h.carried d listed with before | ⟨u, present, number, job, unfinished⟩
    · exact Or.inl (answered_append before)
    · by_cases same : u.number = t.number
      · rw [same_task h.numbered here u present same] at number job
        exact Or.inr ⟨_, List.mem_set (List.getElem?_eq_some_iff.mp here).1 _, number, job,
          Or.inr reporting⟩
      · exact Or.inr ⟨u, mem_set_of_number_ne here present same, number, job, unfinished⟩

theorem simulates_report (h : Simulates w order p) (here : p.running[place]? = some t)
    (reporting : Reporting t) : Simulates w order (p.advance place) := by
  have member := List.mem_of_getElem? here
  have numbered : Numbered (p.step 0 ChangeJob.handler (.advance place)) :=
    numbered_step h.numbered (.advance place)
  have apart := running_apart h.numbered
  have carried : ∃ salt, (⟨t.number, t.tag, salt⟩ : Carried) ∈ order := by
    rcases h.phases t member with ⟨reading, _⟩ | ⟨_, listed⟩ | done
    · exact absurd (Or.inr reporting) (not_unfinished_of_reading reading)
    · exact listed
    · cases done.symm.trans reporting
  simp only [Pool.step] at numbered
  rw [advance_ok here reporting rfl] at numbered ⊢
  apply simulates_quiet h numbered (not_renaming_of_reporting reporting) rfl rfl rfl
  · intro u present
    rcases mem_set_number apart here present with new | old
    · rw [new]
      exact Or.inr ⟨Or.inr (Or.inr rfl), not_renaming_of_done rfl⟩
    · exact Or.inl old
  · intro u present other
    exact mem_set_of_number_ne here present other
  · exact same_task h.numbered here
  · intro n job answered
    obtain ⟨made, listed, number, tag, sent⟩ := answered
    rcases List.mem_append.mp listed with old | new
    · exact h.answered n job ⟨made, old, number, tag, sent⟩
    · rw [List.mem_singleton.mp new] at number tag
      rw [← number, ← tag]
      exact carried
  · intro d listed cases_
    rcases cases_ with before | ⟨number, job, _⟩
    · exact answered_append before
    · exact ⟨t.made _ _, List.mem_append_right _ (List.mem_singleton.mpr rfl), number, job,
        job ▸ rfl⟩

omit [Sha256] in
theorem same_world {c : Call} (reads : Reads c) (choice : Choice database) (s : World database) :
    (chat database).next choice c s = s := by
  cases c with
  | repository q => cases q <;> first | rfl | exact absurd reads id
  | _ => first | rfl | exact absurd reads id

theorem simulates_read (h : Simulates w order p) (here : p.running[place]? = some t) {c : Call}
    {rest : c.Answer → Handler} (program : t.rest = .call c rest) (reads : Reads c)
    (left : ∀ a, Reading t.tag.tail (rest a)) (unwritten : t.number ∉ order.map Carried.number) :
    Simulates w order (p.advance place) := by
  have numbered : Numbered (p.step 0 ChangeJob.handler (.advance place)) :=
    numbered_step h.numbered (.advance place)
  have apart := running_apart h.numbered
  have reading : Reading t.tag.tail t.rest := by
    rw [program]
    exact Or.inl ⟨reads, left⟩
  have quiet := not_renaming_of_reading reading
  have silent : ∀ n job, Answered (p.log ++ [t.made c p.state]) n job →
      ∃ salt, (⟨n, job, salt⟩ : Carried) ∈ order := by
    intro n job answered
    refine h.answered n job (answered_made answered (fun sent => ?_))
    simp only [Task.made] at sent
    rw [sent] at reads
    obtain ⟨message, same⟩ := reads
    obtain ⟨session, change⟩ := job
    cases change <;> cases same
  have kept : ∀ d ∈ order, Answered p.log d.number d.job ∨ (t.number = d.number ∧ t.tag = d.job ∧
      Unfinished t) → Answered (p.log ++ [t.made c p.state]) d.number d.job := by
    intro d _ before
    rcases before with before | ⟨_, _, unfinished⟩
    · exact answered_append before
    · exact absurd unfinished (not_unfinished_of_reading reading)
  simp only [Pool.step] at numbered
  cases answer : (chat database).answer (t.choices 0) c p.state with
  | ok a =>
    rw [advance_ok here program answer] at numbered ⊢
    apply simulates_quiet h numbered quiet (same_world reads _ _) rfl rfl _ _
      (same_task h.numbered here) silent kept
    · intro u present
      rcases mem_set_number apart here present with new | old
      · rw [new]
        exact Or.inr ⟨Or.inl ⟨left a, unwritten⟩, not_renaming_of_reading (left a)⟩
      · exact Or.inl old
    · intro u present other
      exact mem_set_of_number_ne here present other
  | error e =>
    rw [advance_error here program answer] at numbered ⊢
    apply simulates_quiet h numbered quiet (same_world reads _ _) rfl rfl _ _
      (same_task h.numbered here) silent kept
    · intro u present
      exact Or.inl (mem_eraseIdx_number apart here present)
    · intro u present other
      exact mem_eraseIdx_of_number_ne here present other

theorem simulates_done (h : Simulates w order p) (here : p.running[place]? = some t)
    (done : t.rest = .done ()) : Simulates w order (p.advance place) := by
  have numbered : Numbered (p.step 0 ChangeJob.handler (.advance place)) :=
    numbered_step h.numbered (.advance place)
  have apart := running_apart h.numbered
  simp only [Pool.step] at numbered
  rw [advance_done here done] at numbered ⊢
  apply simulates_quiet h numbered (not_renaming_of_done done) rfl rfl rfl
  · intro u present
    exact Or.inl (mem_eraseIdx_number apart here present)
  · intro u present other
    exact mem_eraseIdx_of_number_ne here present other
  · exact same_task h.numbered here
  · exact h.answered
  · intro d _ before
    rcases before with before | ⟨_, _, unfinished⟩
    · exact before
    · rcases unfinished with ⟨id, name, halfway⟩ | reporting
      · exact absurd halfway (not_renaming_of_done done id name)
      · cases done.symm.trans reporting

end Advance

section AtWrite
variable {C : ChangePool → ChangeTask → User → Prop}

omit [Sha256] in
theorem atWrite_post (job : ChangeJob) (choices : Nat → Choice database) :
    AtWrite C p (.post job choices) := by
  intro place t user rest move
  cases move

omit [Sha256] in
theorem atWrite_start : AtWrite C p .start := by
  intro place t user rest move
  cases move

variable {place : Nat} {t : ChangeTask}

omit [Sha256] in
theorem atWrite_done (here : p.running[place]? = some t) (done : t.rest = .done ()) :
    AtWrite C p (.advance place) := by
  intro place' t' user rest move here' program
  cases move
  rw [here] at here'
  cases here'
  cases done.symm.trans program

omit [Sha256] in
theorem atWrite_other {c : Call} {rest : c.Answer → Handler} (here : p.running[place]? = some t)
    (program : t.rest = .call c rest) (other : ∀ user, c ≠ .repository (.updateUser user)) :
    AtWrite C p (.advance place) := by
  intro place' t' user rest' move here' program'
  cases move
  rw [here] at here'
  cases here'
  cases program.symm.trans program'
  exact absurd rfl (other user)

omit [Sha256] in
theorem atWrite_update {user : User} {rest : Bool → Handler} (here : p.running[place]? = some t)
    (program : t.rest = .call (.repository (.updateUser user)) rest) (ok : C p t user) :
    AtWrite C p (.advance place) := by
  intro place' t' user' rest' move here' program'
  cases move
  rw [here] at here'
  cases here'
  cases program.symm.trans program'
  exact ok

end AtWrite

def Careful (p : ChangePool) (move : Move (chat database) ChangeJob) : Prop :=
  WriteStored p move ∧ WriteUndisturbed p move

theorem simulates_step (h : ∃ order, Simulates w order p) {workers : Nat}
    {move : Move (chat database) ChangeJob} (careful : Careful p move) :
    ∃ order, Simulates w order (p.step workers ChangeJob.handler move) := by
  obtain ⟨order, h⟩ := h
  cases move with
  | post job choices => exact ⟨order, simulates_post h job choices⟩
  | start => exact ⟨order, simulates_start h⟩
  | advance place =>
    simp only [Pool.step]
    cases here : p.running[place]? with
    | none =>
      rw [advance_idle here]
      exact ⟨order, h⟩
    | some t =>
      rcases h.phases t (List.mem_of_getElem? here) with ⟨reading, unwritten⟩ | ⟨unfinished, _⟩ |
        done
      · cases program : t.rest with
        | done u => exact ⟨order, simulates_done h here program⟩
        | call c rest =>
          rw [program] at reading
          rcases reading with ⟨reads, left⟩ | ⟨⟨user, write⟩, left⟩
          · exact ⟨order, simulates_read h here program reads left unwritten⟩
          · subst write
            exact simulates_write h here program left unwritten
              (careful.1 place t user rest rfl here program)
              (careful.2 place t user rest rfl here program)
      · rcases unfinished with ⟨id, name, halfway⟩ | reporting
        · exact ⟨order, simulates_name h here halfway⟩
        · exact ⟨order, simulates_report h here reporting⟩
      · exact ⟨order, simulates_done h here done⟩

def Finished (p : ChangePool) : Prop := p.running = [] ∧ p.queue = []

/-- The requests answered with success, run one after the other in this order, leave the
    same rows and the same names of the sessions. -/
structure SameOutcome (w : World database) (order : List Carried) (p : ChangePool) : Prop where
  once : (order.map Carried.number).Nodup
  answered : ∀ n job, Answered p.log n job ↔ ∃ salt, (⟨n, job, salt⟩ : Carried) ∈ order
  rows : ∀ id, (after serialStep w order).store.users.findId id = p.state.store.users.findId id
  names : ∀ id, ((after serialStep w order).server.session id).username =
    (p.state.server.session id).username

theorem sameOutcome_of_simulates (h : Simulates w order p) (finished : Finished p) :
    SameOutcome w order p := by
  obtain ⟨nobody, _⟩ := finished
  constructor
  · exact h.apart
  · intro n job
    constructor
    · exact h.answered n job
    · intro listed
      obtain ⟨salt, present⟩ := listed
      rcases h.carried _ present with answered | ⟨t, member, _⟩
      · exact answered
      · rw [nobody] at member
        cases member
  · intro id
    rw [h.store]
  · intro id
    rw [h.settled id]
    intro t member
    rw [nobody] at member
    cases member

/-- From any server and any tables, for any number of workers and any interleaving: where
    no write is disturbed, the requests answered with success are a serial order, in which
    each of them succeeds. -/
theorem undisturbed_writes_serialize (w : World database) (workers : Nat)
    (moves : List (Move (chat database) ChangeJob))
    (stored : EveryStep (Pool.step workers ChangeJob.handler) WriteStored (Pool.idle w) moves)
    (undisturbed : EveryStep (Pool.step workers ChangeJob.handler) WriteUndisturbed
      (Pool.idle w) moves)
    (finished : Finished ((Pool.idle w).run workers ChangeJob.handler moves)) :
    ∃ order, SameOutcome w order ((Pool.idle w).run workers ChangeJob.handler moves) ∧
      EveryStep serialStep Succeeds w order := by
  have careful := (everyStep_and _ _).mpr ⟨stored, undisturbed⟩
  have simulated := everyState_of_everyStep
    (P := fun p : ChangePool => ∃ order, Simulates w order p)
    (fun p move h ok => simulates_step h ok) ⟨[], simulates_idle w⟩ careful
  obtain ⟨order, h⟩ := everyState_last simulated
  exact ⟨order, sameOutcome_of_simulates h finished, h.succeeded⟩

end Simulation

theorem eq_pair_of_mem {order : List Carried} (once : (order.map Carried.number).Nodup)
    (two : ∀ d ∈ order, d.number < 2) {x y : Carried} (hx : x ∈ order) (hy : y ∈ order)
    (apart : x.number ≠ y.number) : order = [x, y] ∨ order = [y, x] := by
  cases order with
  | nil => cases hx
  | cons a order =>
    cases order with
    | nil =>
      rw [List.mem_singleton.mp hx, List.mem_singleton.mp hy] at apart
      exact absurd rfl apart
    | cons b order =>
      cases order with
      | nil =>
        rcases List.mem_pair.mp hx with rfl | rfl <;> rcases List.mem_pair.mp hy with rfl | rfl
        · exact absurd rfl apart
        · exact Or.inl rfl
        · exact Or.inr rfl
        · exact absurd rfl apart
      | cons c order =>
        simp only [List.map_cons, List.nodup_cons, List.mem_cons, not_or] at once
        have ha := two a (by simp)
        have hb := two b (by simp)
        have hc := two c (by simp)
        omega

section Examples

local instance : Collation := ⟨id⟩

local instance : Sha256 := ⟨id⟩

def annAccount : Tables :=
  database.next ⟨none, 0, fun _ => 0⟩ (.addUser ⟨0, "ann", "pw", ""⟩) Tables.empty

def annOnline : World database :=
  ⟨Server.start.registerAuthenticatedSession 1 1 "ann", annAccount⟩

def renameTo (name : String) : ChangeJob := ⟨1, .username ⟨name⟩⟩

def passwordTo (newPassword : String) : ChangeJob := ⟨1, .password ⟨"pw", newPassword⟩⟩

def beaAccount : Tables :=
  database.next ⟨none, 0, fun _ => 0⟩ (.updateUser ⟨1, "bea", "pw", ""⟩) annAccount

/-- A rename and a change of the password on two workers: the row is looked up for the
    password when the rename has named the session. -/
def renameAndPassword : List (Move (chat database) ChangeJob) :=
  [.post (renameTo "bea") (working ""), .post (passwordTo "new") (working "salt"), .start, .start,
    .advance 0, .advance 1, .advance 0, .advance 0, .advance 0, .advance 0, .advance 0,
    .advance 1, .advance 0, .advance 1, .advance 0, .advance 0, .advance 0, .advance 0, .advance 0]

theorem rename_and_password_serialize :
    ∃ order, SameOutcome annOnline order
        ((Pool.idle annOnline).run 2 ChangeJob.handler renameAndPassword) ∧
      EveryStep serialStep Succeeds annOnline order := by
  have renames : annAccount.Admits (.updateUser ⟨1, "bea", "pw", ""⟩) := by decide
  have changes : beaAccount.Admits
      (.updateUser ⟨1, "bea", hashPassword "new" "salt", "salt"⟩) := by decide
  refine undisturbed_writes_serialize annOnline 2 renameAndPassword ?_ ?_ ⟨rfl, rfl⟩
  · refine ⟨atWrite_post _ _, atWrite_post _ _, atWrite_start, atWrite_start, ?_, ?_, ?_, ?_, ?_,
      ?_, ?_, ?_, ?_, ?_, ?_, ?_, ?_, ?_, ?_, trivial⟩
    · exact atWrite_other rfl rfl (fun _ same => nomatch same)
    · exact atWrite_other rfl rfl (fun _ same => nomatch same)
    · exact atWrite_other rfl rfl (fun _ same => nomatch same)
    · exact atWrite_other rfl rfl (fun _ same => nomatch same)
    · exact atWrite_other rfl rfl (fun _ same => nomatch same)
    · exact atWrite_update rfl rfl ⟨rfl, renames⟩
    · exact atWrite_other rfl rfl (fun _ same => nomatch same)
    · exact atWrite_other rfl rfl (fun _ same => nomatch same)
    · exact atWrite_other rfl rfl (fun _ same => nomatch same)
    · exact atWrite_other rfl rfl (fun _ same => nomatch same)
    · exact atWrite_done rfl rfl
    · exact atWrite_other rfl rfl (fun _ same => nomatch same)
    · exact atWrite_update rfl rfl ⟨rfl, changes⟩
    · exact atWrite_other rfl rfl (fun _ same => nomatch same)
    · exact atWrite_done rfl rfl
  · refine ⟨atWrite_post _ _, atWrite_post _ _, atWrite_start, atWrite_start, ?_, ?_, ?_, ?_, ?_,
      ?_, ?_, ?_, ?_, ?_, ?_, ?_, ?_, ?_, ?_, trivial⟩
    · exact atWrite_other rfl rfl (fun _ same => nomatch same)
    · exact atWrite_other rfl rfl (fun _ same => nomatch same)
    · exact atWrite_other rfl rfl (fun _ same => nomatch same)
    · exact atWrite_other rfl rfl (fun _ same => nomatch same)
    · exact atWrite_other rfl rfl (fun _ same => nomatch same)
    · refine atWrite_update rfl rfl ⟨⟨1, "ann", "", rfl, rfl⟩, ?_⟩
      intro u member name halfway
      rcases List.mem_pair.mp member with here | here
      · rw [here] at halfway
        cases halfway.1
      · rw [here] at halfway
        cases halfway.1
    · exact atWrite_other rfl rfl (fun _ same => nomatch same)
    · exact atWrite_other rfl rfl (fun _ same => nomatch same)
    · exact atWrite_other rfl rfl (fun _ same => nomatch same)
    · exact atWrite_other rfl rfl (fun _ same => nomatch same)
    · exact atWrite_done rfl rfl
    · exact atWrite_other rfl rfl (fun _ same => nomatch same)
    · refine atWrite_update rfl rfl ⟨⟨1, "bea", "salt", rfl, rfl⟩, ?_⟩
      intro u member name halfway
      rw [List.mem_singleton.mp member] at halfway
      cases halfway.1
    · exact atWrite_other rfl rfl (fun _ same => nomatch same)
    · exact atWrite_done rfl rfl

/-- Two renames of one session: both rows are found and both names are free, "cat" is
    written after "bea", and the session is named in the other order. -/
def twoRenames : List (Move (chat database) ChangeJob) :=
  [.post (renameTo "bea") (working ""), .post (renameTo "cat") (working ""), .start, .start,
    .advance 0, .advance 0, .advance 0, .advance 0, .advance 1, .advance 1, .advance 1,
    .advance 1, .advance 0, .advance 1, .advance 1, .advance 1, .advance 1,
    .advance 0, .advance 0, .advance 0]

theorem bea_cat (s t : String) :
    ((after serialStep annOnline [⟨0, renameTo "bea", s⟩, ⟨1, renameTo "cat", t⟩]).server.session
      1).username = some "cat" := rfl

theorem cat_bea (s t : String) :
    (after serialStep annOnline [⟨1, renameTo "cat", t⟩, ⟨0, renameTo "bea", s⟩]).store.users.findId
      1 = some ⟨1, "bea", "pw", ""⟩ := rfl

theorem two_renames_not_serializable :
    Finished ((Pool.idle annOnline).run 2 ChangeJob.handler twoRenames) ∧
      ¬ ∃ order, SameOutcome annOnline order
        ((Pool.idle annOnline).run 2 ChangeJob.handler twoRenames) := by
  refine ⟨⟨rfl, rfl⟩, ?_⟩
  intro some_order
  obtain ⟨order, same⟩ := some_order
  have bea : Answered ((Pool.idle annOnline).run 2 ChangeJob.handler twoRenames).log 0
      (renameTo "bea") := by
    refine ⟨_, List.mem_of_getElem? (i := 13) rfl, ?_⟩
    exact ⟨rfl, rfl, rfl⟩
  have cat : Answered ((Pool.idle annOnline).run 2 ChangeJob.handler twoRenames).log 1
      (renameTo "cat") := by
    refine ⟨_, List.mem_of_getElem? (i := 11) rfl, ?_⟩
    exact ⟨rfl, rfl, rfl⟩
  have two : ∀ e ∈ ((Pool.idle annOnline).run 2 ChangeJob.handler twoRenames).log,
      e.number < 2 := by decide
  obtain ⟨s, first⟩ := (same.answered 0 (renameTo "bea")).mp bea
  obtain ⟨t, second⟩ := (same.answered 1 (renameTo "cat")).mp cat
  have numbers : ∀ d ∈ order, d.number < 2 := by
    intro d listed
    obtain ⟨e, made, number, _⟩ := (same.answered d.number d.job).mpr ⟨d.salt, listed⟩
    exact number ▸ two e made
  have rows := same.rows 1
  have names := same.names 1
  rcases eq_pair_of_mem same.once numbers first second Nat.zero_ne_one with forth | back
  · rw [forth, bea_cat] at names
    have held : (((Pool.idle annOnline).run 2 ChangeJob.handler twoRenames).state.server.session
      1).username = some "bea" := rfl
    rw [held] at names
    exact absurd names (by decide)
  · rw [back, cat_bea] at rows
    have stored : ((Pool.idle annOnline).run 2 ChangeJob.handler
      twoRenames).state.store.users.findId 1 = some ⟨1, "cat", "pw", ""⟩ := rfl
    rw [stored] at rows
    exact absurd rows (by decide)

end Examples

end SerialUpdates
