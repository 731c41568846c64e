import ChatServer.Atomic.Histories
import ChatServer.Atomic.RelyGuarantee
import ChatServer.Sessions.Jobs
import ChatServer.Sessions.Maps

/-!
Values that may be missing. A handler reads a session's fields only after it has found
the session authenticated, and whoever is authenticated stays so. The one value used
unchecked is the sender of a stored message, who is looked up twice: what is used is the
second answer.
-/
namespace Dereferences
open AtomicCalls EventRuns WorkerPool TaskHistories RelyGuarantee ChatProtocol ChatState ChatCalls
  ChatServices ChatEffects JobEffects SessionMaps

variable {E : Environment}

/-- A posted job, or the receiver of a message that logs it before it posts. -/
inductive Work where
  | posted (job : Job)
  | message (session : SessionId)

def Work.handler [Sha256] : Work → Handler
  | .posted job => job.handler
  | .message session => onMessage session

/-- The call is made on a session that has the fields it reads, and dereferences no empty
    value. -/
def Present (s : Server) : Call → Prop
  | .getUserId id => (s.session id).userId.isSome = true
  | .getUsername id => (s.session id).username.isSome = true
  | .updateUsername id _ => (s.session id).username.isSome = true
  | .disconnectRoom id user => s.roomService.userToRoomMap[user]? ≠ none →
    (s.session id).username.isSome = true
  | .removeSession id => (s.session id).authenticated = true →
    (s.session id).userId.isSome = true ∧ (s.session id).username.isSome = true
  | .dereferenceEmpty => False
  | _ => True

/-- No call has met a missing value, and no running task is about to. -/
structure NothingMissing (p : Pool (chat E) Work) : Prop where
  made : ∀ e ∈ p.log, Present e.event.state.server e.event.call
  next : ∀ t ∈ p.running, ∀ c rest, t.rest = .call c rest → Present p.state.server c

def FindsUser (event : Event (chat E)) : Bool :=
  match event.call with
  | .repository (.findByUserId id) =>
    match answered event.choice (.findByUserId id) event.state.store with
    | .ok (some _) => true
    | _ => false
  | _ => false

def usersFound (events : List (Event (chat E))) : Nat := events.countP FindsUser

/-- A lookup by id that finds nobody does not come between the two lookups of a sender:
    those of its task that found somebody come in pairs. -/
def SenderStays (p : Pool (chat E) Work) (move : Move (chat E) Work) : Prop :=
  ∀ place t id rest, move = .advance place → p.running[place]? = some t →
    t.rest = .call (.repository (.findByUserId id)) rest →
    answered (t.choices 0) (.findByUserId id) p.state.store = .ok none →
      Even (usersFound (own p.log t.number))

section Pairs

/-- After `n` lookups that found a user, a missing one is used only at an odd place. -/
def Paired {α : Type} : Program Call Call.Answer α → Nat → Prop
  | .done _, _ => True
  | .call (.repository (.findByUserId _)) rest, n =>
    (∀ user, Paired (rest (some user)) (n + 1)) ∧
      (Even n → Paired (rest none) n) ∧
      (¬ Even n → ∃ more, rest none = .call .dereferenceEmpty more)
  | .call .dereferenceEmpty _, _ => False
  | .call _ rest, n => ∀ a, Paired (rest a) n

variable {known : SessionId → Prop} {n : Nat}

theorem paired_of_others {p : Program Call Call.Answer α} (others : p.Uses (OtherCall known)) :
    Paired p n := by
  induction p with
  | done a => trivial
  | call c rest ih =>
    obtain ⟨allowed, more⟩ := others
    have behind : ∀ a, Paired (rest a) n := fun a => ih a (more a)
    cases c with
    | repository q =>
      cases q with
      | findByUserId id => exact allowed.elim
      | findLatestByRoomId roomId limit => exact allowed.elim
      | _ => exact behind
    | dereferenceEmpty => exact allowed.elim
    | _ => exact behind

theorem paired_historyMessages (roomname : String) (messages : List Message)
    {next : List MessageBroadcast → Handler} (even : Even n)
    (goes_on : ∀ history n, Even n → Paired (next history) n) :
    Paired (historyMessages roomname messages >>= next) n := by
  induction messages generalizing n next with
  | nil => exact goes_on [] n even
  | cons msg rest ih =>
    have tail : ∀ name n, Even n → Paired (historyMessages roomname rest >>= fun others =>
        next (historyEntry roomname msg name :: others)) n := by
      intro name n even
      exact ih even (fun history n even => goes_on _ n even)
    have odd : ¬ Even (n + 1) := by
      rw [Nat.even_add_one]
      exact fun not_even => not_even even
    simp only [historyMessages, bind_assoc, senderName, perform_bind, call_bind]
    refine ⟨?_, ?_, ?_⟩
    · intro first
      refine ⟨?_, ?_, ?_⟩
      · intro user
        apply tail user.username
        rw [Nat.even_add_one]
        exact odd
      · intro even_now
        exact absurd even_now odd
      · intro _
        exact ⟨_, rfl⟩
    · intro _
      exact tail "Unknown" n even
    · intro not_even
      exact absurd even not_even

theorem paired_handleHistoryRequest (session : SessionId) (m : HistoryMessageRequest) :
    Paired (handleHistoryRequest session m) 0 := by
  intro present
  cases present with
  | false => trivial
  | true =>
    intro user inside
    cases inside with
    | false => trivial
    | true =>
      intro current roomId messages
      apply paired_historyMessages m.roomName _ Even.zero
      intro history n _ _
      trivial

/-- Of all programs of the server only a history looks senders up, each in a pair. -/
theorem paired_handler [Sha256] (work : Work) : Paired work.handler 0 := by
  cases work with
  | message session =>
    intro present
    cases present with
    | false => trivial
    | true =>
      intro name id
      trivial
  | posted job =>
    by_cases asks : ∃ session messageId m,
        job = .dispatch session ⟨messageId, some (.historyMessageRequest m)⟩
    · obtain ⟨session, messageId, m, same⟩ := asks
      subst same
      intro present
      cases present with
      | false =>
        have refusal : (sendError session "Authentication required.").Uses
            (OtherCall (fun _ => True)) := others_sendError session _
        exact paired_of_others refusal
      | true => exact paired_handleHistoryRequest session m
    · have others : job.handler.Uses (OtherCall (fun _ => True)) :=
        others_job (fun session messageId m same => asks ⟨session, messageId, m, same⟩)
      exact paired_of_others others

def Missed : (c : Call) → c.Answer → Prop
  | .repository (.findByUserId _), none => True
  | _, _ => False

theorem usersFound_cons (event : Event (chat E)) (events : List (Event (chat E))) :
    usersFound (event :: events) =
      (if FindsUser event = true then 1 else 0) + usersFound events := by
  simp only [usersFound, List.countP_cons]
  omega

theorem paired_answered {c : Call} {rest : c.Answer → Handler} {s : World E} {choice : Choice E}
    {a : c.Answer} (paired : Paired (.call c rest) n)
    (answer : (chat E).answer choice c s = .ok a) :
    (¬ (Missed c a ∧ ¬ Even n) ∧
        Paired (rest a) (n + if FindsUser (⟨s, choice, c⟩ : Event (chat E)) = true then 1 else 0)) ∨
      (Missed c a ∧ ¬ Even n) ∧ ∃ more, rest a = .call .dereferenceEmpty more := by
  cases c with
  | repository q =>
    cases q with
    | findByUserId id =>
      obtain ⟨found, even, odd⟩ := paired
      have same : answered choice (.findByUserId id) s.store = .ok a := answer
      cases a with
      | some user =>
        left
        refine ⟨fun missed => missed.1, ?_⟩
        simp only [FindsUser, same, ↓reduceIte]
        exact found user
      | none =>
        by_cases place : Even n
        · left
          refine ⟨fun missed => missed.2 place, ?_⟩
          simp only [FindsUser, same]
          exact even place
        · right
          exact ⟨⟨trivial, place⟩, odd place⟩
    | _ => exact Or.inl ⟨fun missed => missed.1, paired a⟩
  | dereferenceEmpty => exact paired.elim
  | _ => exact Or.inl ⟨fun missed => missed.1, paired a⟩

theorem paired_leads {p q : Handler} {events : List (Event (chat E))} (paired : Paired p n)
    (leads : Leads p events q) :
    Paired q (n + usersFound events) ∨ ∃ more, q = .call .dereferenceEmpty more := by
  induction events generalizing p n with
  | nil =>
    have same : p = q := leads
    exact Or.inl (same ▸ paired)
  | cons event events ih =>
    cases p with
    | done a => exact leads.elim
    | call c rest =>
      obtain ⟨s, choice, a, same, answer, leads⟩ := leads
      subst same
      rcases paired_answered paired answer with ⟨_, left_paired⟩ | ⟨_, more, empty⟩
      · have later := ih left_paired leads
        rw [usersFound_cons, ← Nat.add_assoc]
        exact later
      · rw [empty] at leads
        cases events with
        | nil => exact Or.inr ⟨more, (show _ = q from leads).symm⟩
        | cons next events =>
          obtain ⟨_, _, impossible, _⟩ := leads
          exact impossible.elim

theorem paired_not_dereferences {rest : Empty → Handler} :
    ¬ Paired (.call .dereferenceEmpty rest) n := fun paired => paired

end Pairs

section Moves
variable [Sha256] {workers : Nat}

structure NoneEmpty (p : Pool (chat E) Work) : Prop where
  made : ∀ e ∈ p.log, e.event.call ≠ .dereferenceEmpty
  next : ∀ t ∈ p.running, ∀ rest, t.rest ≠ .call .dereferenceEmpty rest

section Calls
variable {p : Pool (chat E) Work} {place : Nat} {t : Task (chat E) Work} {c : Call}
  {rest : c.Answer → Handler} (here : p.running[place]? = some t) (calls : t.rest = .call c rest)
include here calls

omit [Sha256] in
theorem senderStays_ok_iff {a : c.Answer}
    (answer : (chat E).answer (t.choices 0) c p.state = .ok a) :
    SenderStays p (.advance place) ↔ (Missed c a → Even (usersFound (own p.log t.number))) := by
  constructor
  · intro stays missed
    cases c with
    | repository q =>
      cases q with
      | findByUserId id =>
        cases a with
        | none => exact stays place t id rest rfl here calls answer
        | some user => exact missed.elim
      | _ => exact missed.elim
    | _ => exact missed.elim
  · intro even place' t' id rest' move here' calls' missing
    cases move
    rw [here] at here'
    cases here'
    rw [calls] at calls'
    cases calls'
    have same : (chat E).answer (t.choices 0) (.repository (.findByUserId id)) p.state =
        .ok none := missing
    rw [answer] at same
    cases same
    exact even trivial

omit [Sha256] in
theorem senderStays_error {e : Exception}
    (answer : (chat E).answer (t.choices 0) c p.state = .error e) :
    SenderStays p (.advance place) := by
  intro place' t' id rest' move here' calls' missing
  cases move
  rw [here] at here'
  cases here'
  rw [calls] at calls'
  cases calls'
  have same : (chat E).answer (t.choices 0) (.repository (.findByUserId id)) p.state =
      .ok none := missing
  rw [answer] at same
  cases same

variable (none_empty : NoneEmpty p)
include none_empty

omit [Sha256] in
theorem made_none_empty : ∀ e ∈ p.log ++ [t.made c p.state], e.event.call ≠ .dereferenceEmpty := by
  intro e present
  rcases List.mem_append.mp present with old | new
  · exact none_empty.made e old
  · intro same
    rw [List.mem_singleton.mp new] at same
    have same : c = .dereferenceEmpty := same
    subst same
    exact none_empty.next t (List.mem_of_getElem? here) rest calls

omit [Sha256] in
theorem noneEmpty_error {e : Exception}
    (answer : (chat E).answer (t.choices 0) c p.state = .error e) :
    NoneEmpty (p.advance place) := by
  rw [advance_error here calls answer]
  constructor
  · exact made_none_empty here calls none_empty
  · intro u left
    exact none_empty.next u (List.mem_of_mem_eraseIdx left)

theorem noneEmpty_ok_iff (histories : Histories Work.handler p) {a : c.Answer}
    (answer : (chat E).answer (t.choices 0) c p.state = .ok a) :
    NoneEmpty (p.advance place) ↔ (Missed c a → Even (usersFound (own p.log t.number))) := by
  have member := List.mem_of_getElem? here
  have leads := (histories.running t member).1
  rw [calls] at leads
  have paired : Paired (.call c rest) (usersFound (own p.log t.number)) := by
    rcases paired_leads (paired_handler t.tag) leads with paired | ⟨more, same⟩
    · rwa [Nat.zero_add] at paired
    · exact absurd (calls.trans same) (none_empty.next t member more)
  rw [advance_ok here calls answer]
  rcases paired_answered paired answer with ⟨kept, left_paired⟩ | ⟨lost, more, empty⟩
  · apply iff_of_true
    · refine ⟨made_none_empty here calls none_empty, ?_⟩
      intro u present
      rcases List.mem_or_eq_of_mem_set present with old | new
      · exact none_empty.next u old
      · intro more same
        rw [new] at same
        have same : rest a = .call .dereferenceEmpty more := same
        rw [same] at left_paired
        exact paired_not_dereferences left_paired
    · intro missed
      by_contra odd
      exact kept ⟨missed, odd⟩
  · apply iff_of_false
    · intro after
      obtain ⟨inside, _⟩ := List.getElem?_eq_some_iff.mp here
      exact after.next _ (List.mem_set inside _) more empty
    · intro even
      exact lost.2 (even lost.1)

end Calls

theorem noneEmpty_step_iff {p : Pool (chat E) Work} {move : Move (chat E) Work}
    (histories : Histories Work.handler p) (none_empty : NoneEmpty p) :
    NoneEmpty (p.step workers Work.handler move) ↔ SenderStays p move := by
  cases move with
  | post tag choices =>
    apply iff_of_true ⟨none_empty.made, none_empty.next⟩
    intro place t id rest move
    cases move
  | start =>
    have kept : NoneEmpty (p.step workers Work.handler .start) := by
      simp only [Pool.step, Pool.start]
      split
      · exact none_empty
      · rename_i t queue waiting
        split
        · refine ⟨none_empty.made, ?_⟩
          intro u member
          rcases List.mem_append.mp member with old | new
          · exact none_empty.next u old
          · intro rest calls
            obtain ⟨whole, _⟩ := histories.waiting t (by simp [waiting])
            have paired := paired_handler t.tag
            rw [← whole, ← List.mem_singleton.mp new, calls] at paired
            exact paired_not_dereferences paired
        · exact none_empty
    apply iff_of_true kept
    intro place t id rest move
    cases move
  | advance place =>
    simp only [Pool.step]
    cases here : p.running[place]? with
    | none =>
      rw [advance_idle here]
      apply iff_of_true none_empty
      intro place' t id rest move here'
      cases move
      rw [here] at here'
      cases here'
    | some t =>
      cases calls : t.rest with
      | done u =>
        rw [advance_done here calls]
        apply iff_of_true
        · exact ⟨none_empty.made, fun u left => none_empty.next u (List.mem_of_mem_eraseIdx left)⟩
        · intro place' t' id rest move here' calls'
          cases move
          rw [here] at here'
          cases here'
          rw [calls] at calls'
          cases calls'
      | call c rest =>
        cases answer : (chat E).answer (t.choices 0) c p.state with
        | error e =>
          exact iff_of_true (noneEmpty_error here calls none_empty answer)
            (senderStays_error here calls answer)
        | ok a =>
          rw [senderStays_ok_iff here calls answer]
          exact noneEmpty_ok_iff here calls none_empty histories answer

end Moves

section Sessions

def Reads (known : SessionId → Prop) : Call → Prop
  | .getUserId id => known id
  | .getUsername id => known id
  | .updateUsername id _ => known id
  | .disconnectRoom id _ => known id
  | _ => True

def Authenticated (v : View (chat E) Work) (id : SessionId) : Prop :=
  (v.1.server.session id).authenticated = true

def ReadsAuthenticated (_ : Work) (v : View (chat E) Work) (c : Call) : Prop :=
  Reads (Authenticated v) c

def StayAuthenticated (v w : View (chat E) Work) : Prop :=
  ∀ id, Authenticated v id → Authenticated w id

theorem authenticated_next (c : Call) (s : Server) {id : SessionId}
    (present : (s.session id).authenticated = true) :
    ((serverNext c s).session id).authenticated = true := by
  cases c with
  | registerAuthenticatedSession other user username =>
    simp only [serverNext, session_register]
    split
    · rfl
    · exact present
  | updateUsername other newUsername =>
    cases named : (s.session other).username with
    | none =>
      simp only [serverNext, updateUsername_unnamed newUsername named]
      exact present
    | some username =>
      simp only [serverNext, session_rename newUsername id named]
      split
      · rename_i same
        subst same
        exact present
      · exact present
  | disconnectRoom other user =>
    simp only [serverNext]
    split <;> exact present
  | _ => exact present

theorem stayAuthenticated_called (v : View (chat E) Work) (number : Nat) (work : Work)
    (choice : Choice E) (c : Call) : StayAuthenticated v (called v number work choice c) :=
  fun _ present => authenticated_next c v.1.server present

theorem reads_mono {known more : SessionId → Prop} (grows : ∀ id, known id → more id) {c : Call}
    (reads : Reads known c) : Reads more c := by
  cases c with
  | getUserId id => exact grows id reads
  | getUsername id => exact grows id reads
  | updateUsername id _ => exact grows id reads
  | disconnectRoom id _ => exact grows id reads
  | _ => trivial

theorem reads_others {known : SessionId → Prop} {c : Call} (other : OtherCall known c) :
    Reads known c := by
  cases c with
  | getUserId id => exact other
  | getUsername id => exact other
  | updateUsername id _ => exact other
  | disconnectRoom id _ => exact other
  | _ => trivial

/-- A program that may rely on these sessions being authenticated. -/
def Trusts (E : Environment) (known : SessionId → Prop) (p : Handler) : Prop :=
  ∀ number work (v : View (chat E) Work), (∀ id, known id → Authenticated v id) →
    Guarded StayAuthenticated ReadsAuthenticated number work p v

variable {known : SessionId → Prop}

theorem trusts_call {c : Call} {rest : c.Answer → Handler} (reads : Reads known c)
    (more : ∀ a, Trusts E known (rest a)) : Trusts E known (.call c rest) := by
  intro number work v present now since
  have still : ∀ id, known id → Authenticated now id := fun id k => since id (present id k)
  refine ⟨reads_mono still reads, ?_⟩
  intro choice a _
  exact more a number work _ (fun id k => stayAuthenticated_called now number work choice c id
    (still id k))

theorem trusts_asked {session : SessionId} {rest : Bool → Handler}
    (yes : Trusts E (fun id => known id ∨ id = session) (rest true))
    (no : Trusts E known (rest false)) :
    Trusts E known (.call (.isAuthenticated session) rest) := by
  intro number work v present now since
  have still : ∀ id, known id → Authenticated now id := fun id k => since id (present id k)
  refine ⟨trivial, ?_⟩
  intro choice answered_with answer
  have later := stayAuthenticated_called now number work choice (.isAuthenticated session)
  cases answered_with with
  | false => exact no number work _ (fun id k => later id (still id k))
  | true =>
    have here : Authenticated now session := by
      simpa [Authenticated] using answer
    apply yes number work
    intro id either
    rcases either with k | same
    · exact later id (still id k)
    · rw [same]
      exact later session here

theorem trusts_reads {p : Handler} (reads : p.Uses (Reads known)) : Trusts E known p := by
  induction p with
  | done a =>
    intro number work v present
    trivial
  | call c rest ih => exact trusts_call reads.1 (fun a => ih a (reads.2 a))

theorem trusts_others {p : Handler} (others : p.Uses (OtherCall known)) : Trusts E known p :=
  trusts_reads (uses_mono (fun _ => reads_others) others)

section Handlers
variable {session : SessionId} (own : known session)
include own

theorem reads_of_historyCall (c : Call) (history : HistoryCall session c) : Reads known c := by
  cases c with
  | getUserId id => exact history ▸ own
  | getUsername id => exact history.elim
  | updateUsername id newUsername => exact history.elim
  | disconnectRoom id user => exact history.elim
  | _ => trivial

theorem trusts_handlePrivateMessage (m : PrivateMessageRequest) :
    Trusts E known (handlePrivateMessage session m) := by
  have refused : ∀ {k : SessionId → Prop} (message : String) (code : Int), k session →
      Trusts E k (do
        let _ ← call (.getUsername session)
        sendCodedError session message code) := by
    intro k message code known_here
    exact trusts_reads ⟨known_here, fun _ => ⟨trivial, fun _ => trivial⟩⟩
  refine trusts_call trivial ?_
  intro present
  cases present with
  | false => exact trusts_reads trivial
  | true =>
    refine trusts_call own (fun senderId => trusts_call own (fun senderName =>
      trusts_call trivial (fun roomname => ?_)))
    change Trusts E known (ite _ _ _)
    split
    · exact refused _ _ own
    · refine trusts_call trivial ?_
      intro found
      cases found with
      | none => exact refused _ _ own
      | some accept =>
        refine trusts_asked ?_ (refused _ _ own)
        refine trusts_call (Or.inr rfl) ?_
        intro acceptId
        change Trusts E _ (ite _ _ _)
        split
        · exact refused _ _ (Or.inl own)
        · exact trusts_reads ⟨trivial, fun _ => ⟨trivial, fun _ => ⟨trivial, fun _ => trivial⟩⟩⟩

theorem trusts_dispatchAuthenticated [Sha256] (payload : Option Payload) :
    Trusts E known (dispatchAuthenticated session payload) := by
  by_cases history : ∃ m, payload = some (.historyMessageRequest m)
  · obtain ⟨m, same⟩ := history
    subst same
    exact trusts_reads
      (uses_mono (reads_of_historyCall own) (historyCalls_handleHistoryRequest session m))
  · by_cases private_message : ∃ m, payload = some (.privateMessageRequest m)
    · obtain ⟨m, same⟩ := private_message
      subst same
      exact trusts_handlePrivateMessage own m
    · exact trusts_others (others_dispatchAuthenticated own (fun m same => history ⟨m, same⟩)
        (fun m same => absurd ⟨m, same⟩ private_message))

end Handlers

/-- Every program of the server reads the fields of sessions it found authenticated. -/
theorem trusts_handler [Sha256] (work : Work) : Trusts E (fun _ => False) work.handler := by
  have asked : ∀ session : SessionId, False ∨ session = session := fun session => Or.inr rfl
  cases work with
  | message session =>
    refine trusts_asked ?_ (trusts_reads trivial)
    exact trusts_reads ⟨asked session, fun _ => ⟨asked session, fun _ => trivial⟩⟩
  | posted job =>
    cases job with
    | disconnect session =>
      refine trusts_asked ?_ (trusts_reads ⟨trivial, fun _ => trivial⟩)
      exact trusts_others ((others_onDisconnect (asked session)).2 true)
    | dispatch session e =>
      obtain ⟨messageId, payload⟩ := e
      have gate : Trusts E (fun _ => False)
          (requireAuthentication session (dispatchAuthenticated session payload)) := by
        refine trusts_asked (trusts_dispatchAuthenticated (asked session) payload) ?_
        exact trusts_others (others_sendError session _)
      cases payload with
      | none => exact gate
      | some payload =>
        cases payload with
        | loginRequest m => exact trusts_others (others_handleLogin session m)
        | registrationRequest m => exact trusts_others (others_handleRegister session m)
        | _ => exact gate

end Sessions

section Runs
variable [Sha256]

def LogReads (v : View (chat E) Work) : Prop :=
  ∀ e ∈ v.2, Reads (fun id => (e.event.state.server.session id).authenticated = true) e.event.call

theorem reads_run (workers : Nat) (w : World E) (moves : List (Move (chat E) Work)) :
    EveryState (Pool.step workers Work.handler)
      (Sound StayAuthenticated ReadsAuthenticated Work.handler LogReads) (Pool.idle w) moves := by
  have keep : ∀ (v : View (chat E) Work) (number : Nat) (work : Work) (choice : Choice E)
      (c : Call), LogReads v → ReadsAuthenticated work v c → True →
      LogReads (called v number work choice c) ∧
        StayAuthenticated v (called v number work choice c) := by
    intro v number work choice c logged reads _
    refine ⟨?_, stayAuthenticated_called v number work choice c⟩
    intro e present
    rcases List.mem_append.mp present with old | new
    · exact logged e old
    · rw [List.mem_singleton.mp new]
      exact reads
  have bodies : ∀ number work (v : View (chat E) Work),
      Guarded StayAuthenticated ReadsAuthenticated number work work.handler v := by
    intro number work v
    exact trusts_handler work number work v (fun _ nobody => nobody.elim)
  have trans : ∀ u v x : View (chat E) Work, StayAuthenticated u v → StayAuthenticated v x →
      StayAuthenticated u x := fun _ _ _ first second id present => second id (first id present)
  have refl : ∀ v : View (chat E) Work, StayAuthenticated v v := fun _ _ present => present
  have start : Sound StayAuthenticated ReadsAuthenticated Work.handler LogReads
      (Pool.idle w : Pool (chat E) Work) := by
    constructor
    · simp [LogReads, view, Pool.idle]
    · simp [Pool.idle]
    · simp [Pool.idle]
  have calls : EveryStep (Pool.step workers Work.handler) (SafeMove (fun _ _ => True))
      (Pool.idle w) moves :=
    everyStep_of_forall (safeMove_of_forall (fun _ _ => trivial)) (Pool.idle w) moves
  exact everyState_of_everyStep
    (fun p move sound step => sound_step trans keep refl bodies sound step) start calls

omit [Sha256] in
theorem present_of_reads {s : Server} {c : Call}
    (reads : Reads (fun id => (s.session id).authenticated = true) c)
    (other : c ≠ .dereferenceEmpty) : Present s c := by
  cases c with
  | getUserId id => exact ((s.session id).identified reads).1
  | getUsername id => exact ((s.session id).identified reads).2
  | updateUsername id newUsername => exact ((s.session id).identified reads).2
  | disconnectRoom id user => exact fun _ => ((s.session id).identified reads).2
  | removeSession id => exact (s.session id).identified
  | dereferenceEmpty => exact absurd rfl other
  | _ => trivial

omit [Sha256] in
theorem not_present_empty (s : Server) {c : Call} (present : Present s c) :
    c ≠ .dereferenceEmpty := by
  intro same
  subst same
  exact present

theorem nothingMissing_iff {p : Pool (chat E) Work}
    (sound : Sound StayAuthenticated ReadsAuthenticated Work.handler LogReads p) :
    NothingMissing p ↔ NoneEmpty p := by
  constructor
  · intro nothing
    constructor
    · intro e made
      exact not_present_empty _ (nothing.made e made)
    · intro t running rest calls
      exact nothing.next t running _ rest calls
  · intro none_empty
    constructor
    · intro e made
      exact present_of_reads (sound.inv e made) (none_empty.made e made)
    · intro t running c rest calls
      have guarded := sound.running t running
      rw [calls] at guarded
      have reads := (guarded (view p) (fun _ present => present)).1
      apply present_of_reads reads
      intro same
      subst same
      exact none_empty.next t running rest calls

/-- With any number of workers, from any state, in any interleaving and with any answers:
    no call meets a missing value, now or next, exactly when no lookup by id misses the
    user between the two of a pair. -/
theorem nothing_missing_iff_senders_stay (workers : Nat) (w : World E)
    (moves : List (Move (chat E) Work)) :
    EveryState (Pool.step workers Work.handler) NothingMissing (Pool.idle w) moves ↔
      EveryStep (Pool.step workers Work.handler) SenderStays (Pool.idle w) moves := by
  have sound := reads_run workers w moves
  have start : NoneEmpty (Pool.idle w : Pool (chat E) Work) := by
    constructor
    · simp [Pool.idle]
    · simp [Pool.idle]
  have steps : EveryState (Pool.step workers Work.handler) NoneEmpty (Pool.idle w) moves ↔
      EveryStep (Pool.step workers Work.handler) SenderStays (Pool.idle w) moves :=
    everyState_iff_everyStep_beside (fun p move histories => histories_step histories move)
      (fun p move histories none_empty => noneEmpty_step_iff histories none_empty)
      (histories_idle w) start moves
  rw [← steps]
  constructor
  · intro states
    exact everyState_mono (fun p both => (nothingMissing_iff both.1).mp both.2)
      (everyState_and sound states)
  · intro states
    exact everyState_mono (fun p both => (nothingMissing_iff both.1).mpr both.2)
      (everyState_and sound states)

end Runs

section LostConnection

local instance : Sha256 := ⟨id⟩

def annInHall : World anyAnswers :=
  ⟨serverNext (.createRoom 1 "hall" 1 1) (Server.start.registerAuthenticatedSession 1 1 "ann"), ()⟩

/-- Ann has written one message; the connection is lost between the two lookups of her. -/
def lostBetween : Nat → Choice anyAnswers := fun n => ⟨fun q => match q with
  | .findLatestByRoomId roomId _ => .ok [⟨1, roomId, 1, "hello", 0⟩]
  | .findByUserId id => if n = 8 then .error .connectionError else .ok (some ⟨id, "ann", "pw", ""⟩)
  | q => .ok q.fallback, none, ⟨0, 0⟩⟩

def asksForHistory : List (Move (chat anyAnswers) Work) :=
  [.post (.posted (.dispatch 1 ⟨"", some (.historyMessageRequest ⟨"hall", 20⟩)⟩)) lostBetween,
    .start] ++ List.replicate 10 (.advance 0)

/-- The lost second answer is dereferenced. -/
theorem lost_sender_dereferenced : ¬ EveryState (Pool.step 1 Work.handler) NothingMissing
    (Pool.idle annInHall) asksForHistory := by
  intro states
  have last := everyState_last states
  have used : ∃ e ∈ (after (Pool.step 1 Work.handler) (Pool.idle annInHall) asksForHistory).log,
      e.event.call = .dereferenceEmpty := by decide
  obtain ⟨e, made, call⟩ := used
  exact not_present_empty _ (last.made e made) call

end LostConnection

end Dereferences
