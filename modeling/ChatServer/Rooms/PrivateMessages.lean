import ChatServer.Rooms.Maps
import ChatServer.Sessions.Indexes

/-!
Whom a private message reaches. The handler asks for the sender's room and looks the
receiver up by name, but asks neither which name the session found has now nor which
room its user is in. The message stays in the room exactly when both are as asked.
-/
namespace PrivateMessages
open AtomicCalls EventRuns ChatProtocol ChatState ChatCalls ChatServices ChatEffects JobEffects
  SessionIndexes RoomMaps

def Refused (session : SessionId) (sent : List (SessionId × Envelope)) : Prop :=
  ∃ error, sent = [(session, envelope (.errorResponse error))]

/-- One message for the sender and the same for one other session, whose user has the name
    asked for and is in the room that the message carries. -/
def Reaches (s : Server) (session : SessionId) (toUsername : String)
    (sent : List (SessionId × Envelope)) : Prop :=
  ∃ receiver user m room, receiver ≠ session ∧
    sent.Perm [(receiver, envelope (.messageBroadcast m)),
      (session, envelope (.messageBroadcast m))] ∧
    (s.session receiver).identity = some (user, toUsername) ∧
    m.roomName = some room ∧ s.roomService.userToRoomMap[user]? = some room

/-- The session found under this name, if it is another user's, has this name, and its
    user is in the sender's room, if the sender is in one. -/
def FindsRoomMate (s : Server) (userId : Int) (toUsername : String) : Prop :=
  ∀ room receiver other name, s.roomService.userToRoomMap[userId]? = some room → room ≠ "" →
    s.sessionManager.sessionsByUsername[toUsername]? = some receiver →
    (s.session receiver).identity = some (other, name) → other ≠ userId →
      name = toUsername ∧ s.roomService.userToRoomMap[other]? = some room

section Handlings
variable {s : Server} {session : SessionId} {userId : Int} {username : String}

theorem refused_error (message : String) (code : Int) :
    Refused session [(session, codedError message code)] := ⟨_, rfl⟩

theorem not_refused_pair (receiver : SessionId) (first second : Envelope) :
    ¬ Refused session [(receiver, first), (session, second)] := by
  intro refused
  obtain ⟨error, same⟩ := refused
  simp at same

theorem reaches_pair_iff {receiver : SessionId} {other : Int} {name room toUsername : String}
    {m : MessageBroadcast} (apart : receiver ≠ session)
    (found : (s.session receiver).identity = some (other, name)) (labelled : m.roomName = some room) :
    Reaches s session toUsername [(receiver, envelope (.messageBroadcast m)),
        (session, envelope (.messageBroadcast m))] ↔
      name = toUsername ∧ s.roomService.userToRoomMap[other]? = some room := by
  constructor
  · intro reaches
    obtain ⟨other_session, user, b, place, different, perm, who, named, there⟩ := reaches
    have sent := perm.mem_iff.mpr List.mem_cons_self
    simp only [List.mem_cons, Prod.mk.injEq, different, false_and, List.not_mem_nil,
      or_false] at sent
    obtain ⟨same, message⟩ := sent
    have same_message : b = m := by simpa [envelope] using message
    subst same same_message
    rw [found] at who
    cases who
    rw [labelled] at named
    cases named
    exact ⟨rfl, there⟩
  · intro right
    obtain ⟨named, there⟩ := right
    subst named
    exact ⟨receiver, other, m, room, apart, List.Perm.refl _, found, labelled, there⟩

theorem findsRoomMate_roomless {toUsername : String}
    (roomless : s.roomService.getUserCurrentRoomName userId = "") :
    FindsRoomMate s userId toUsername := by
  intro room receiver other name inside named
  rw [(currentName_iff named).mpr inside] at roomless
  exact absurd roomless named

theorem refused_or_reaches_iff (who : (s.session session).identity = some (userId, username))
    (m : PrivateMessageRequest) (now : Timestamp) :
    (Refused session (privateSends s session userId username m now) ∨
      Reaches s session m.toUsername (privateSends s session userId username m now)) ↔
      FindsRoomMate s userId m.toUsername := by
  unfold privateSends
  by_cases roomless : s.roomService.getUserCurrentRoomName userId = ""
  · simp only [roomless, ↓reduceIte]
    exact iff_of_true (Or.inl (refused_error _ _)) (findsRoomMate_roomless roomless)
  · have inside := (currentName_iff roomless).mp rfl
    simp only [roomless, ↓reduceIte]
    cases listed : s.sessionManager.sessionsByUsername[m.toUsername]? with
    | none =>
      apply iff_of_true (Or.inl (refused_error _ _))
      intro room receiver other name _ _ found
      rw [listed] at found
      cases found
    | some accept =>
      cases found : (s.session accept).identity with
      | none =>
        simp only [found]
        apply iff_of_true (Or.inl (refused_error _ _))
        intro room receiver other name _ _ there someone
        rw [listed] at there
        cases there
        rw [found] at someone
        cases someone
      | some identity =>
        obtain ⟨other, name⟩ := identity
        simp only [found]
        by_cases self : other = userId
        · simp only [self, ↓reduceIte]
          apply iff_of_true (Or.inl (refused_error _ _))
          intro room receiver another name' _ _ there someone different
          rw [listed] at there
          cases there
          rw [found] at someone
          cases someone
          exact absurd self different
        · have apart : accept ≠ session := by
            intro same
            rw [same, who] at found
            cases found
            exact self rfl
          simp only [self, ↓reduceIte]
          rw [or_iff_right (not_refused_pair _ _ _), reaches_pair_iff apart found rfl]
          constructor
          · intro right room receiver another name' there _ here someone _
            rw [inside] at there
            cases there
            rw [listed] at here
            cases here
            rw [found] at someone
            cases someone
            exact right
          · intro mates
            exact mates _ accept other name inside roomless listed found self

end Handlings

section Runs
variable [Sha256]

def SentRight (w : World anyAnswers) (e : JobEvent) : Prop :=
  ∀ session messageId m,
    e.job = .dispatch session ⟨messageId, some (.privateMessageRequest m)⟩ →
    (w.server.session session).authenticated = true →
      Refused session (e.job.handler.output (chat anyAnswers) e.choices w) ∨
      Reaches w.server session m.toUsername (e.job.handler.output (chat anyAnswers) e.choices w)

def SentToRoomMate (w : World anyAnswers) (e : JobEvent) : Prop :=
  ∀ session messageId m userId username,
    e.job = .dispatch session ⟨messageId, some (.privateMessageRequest m)⟩ →
    (w.server.session session).identity = some (userId, username) →
      FindsRoomMate w.server userId m.toUsername

theorem output_private {session : SessionId} {messageId : String} {m : PrivateMessageRequest}
    {choices : Nat → Choice anyAnswers} {w : World anyAnswers} {userId : Int} {username : String}
    (who : (w.server.session session).identity = some (userId, username)) :
    (Job.dispatch session ⟨messageId, some (.privateMessageRequest m)⟩).handler.output
        (chat anyAnswers) choices w =
      privateSends w.server session userId username m (choices 8).now :=
  (output_requireAuthentication (identity_some who).1).trans
    (output_handlePrivateMessage m (later choices) who)

theorem sentRight_iff (w : World anyAnswers) (e : JobEvent) :
    SentRight w e ↔ SentToRoomMate w e := by
  obtain ⟨job, choices⟩ := e
  constructor
  · intro right session messageId m userId username asked who
    have sent := right session messageId m asked (identity_some who).1
    simp only at asked
    subst asked
    rw [output_private who] at sent
    exact (refused_or_reaches_iff who m _).mp sent
  · intro mate session messageId m asked present
    obtain ⟨userId, username, who⟩ := identity_authenticated present
    have finds := mate session messageId m userId username asked who
    simp only at asked
    subst asked
    rw [output_private who]
    exact (refused_or_reaches_iff who m _).mpr finds

theorem sentRight_eq : SentRight = SentToRoomMate :=
  funext (fun w => funext (fun e => propext (sentRight_iff w e)))

/-- In every run of jobs, one after the other: each private message goes to the user it
    names, in the sender's room, exactly when the session found under that name has it
    and its user is in that room. -/
theorem private_messages_right_iff (events : List JobEvent) :
    EveryStep jobStep SentRight ⟨.start, ()⟩ events ↔
      EveryStep jobStep SentToRoomMate ⟨.start, ()⟩ events := by
  rw [sentRight_eq]

/-- Whoever is found under a name is in the sender's room. -/
def ReceiverInRoom (w : World anyAnswers) (e : JobEvent) : Prop :=
  ∀ session messageId m userId username room receiver other name,
    e.job = .dispatch session ⟨messageId, some (.privateMessageRequest m)⟩ →
    (w.server.session session).identity = some (userId, username) →
    w.server.roomService.userToRoomMap[userId]? = some room → room ≠ "" →
    w.server.sessionManager.sessionsByUsername[m.toUsername]? = some receiver →
    (w.server.session receiver).identity = some (other, name) → other ≠ userId →
      w.server.roomService.userToRoomMap[other]? = some room

omit [Sha256] in
theorem receiverInRoom_iff (w : World anyAnswers) (e : JobEvent) (law : IndexLaw w.server) :
    SentToRoomMate w e ↔ ReceiverInRoom w e := by
  constructor
  · intro mate session messageId m userId username room receiver other name asked who inside
      named listed found apart
    exact (mate session messageId m userId username asked who room receiver other name inside named
      listed found apart).2
  · intro inside session messageId m userId username asked who room receiver other name there
      named listed found apart
    have same := (law.byName m.toUsername receiver listed).1
    rw [(identity_some found).2.2] at same
    cases same
    exact ⟨rfl, inside session messageId m userId username room receiver other _ asked who there
      named listed found apart⟩

/-- While the indexes hold, only the receiver's room is left to ask for. -/
theorem private_messages_right_iff_in_room (events : List JobEvent)
    (fits : EveryStep jobStep JobFits ⟨.start, ()⟩ events) :
    EveryStep jobStep SentRight ⟨.start, ()⟩ events ↔
      EveryStep jobStep ReceiverInRoom ⟨.start, ()⟩ events := by
  have laws := (everyState_iff_everyStep indexLaw_jobStep_iff indexLaw_start events).mpr fits
  rw [sentRight_eq]
  exact everyStep_iff_of_everyState receiverInRoom_iff laws

end Runs

section Elsewhere

local instance : Sha256 := ⟨id⟩

def annAsks (payload : Payload) : JobEvent :=
  ⟨.dispatch 1 ⟨"", some payload⟩, fun _ => ⟨fun q => match q with
    | .findByRoomName name => .ok (some ⟨1, name, 1⟩)
    | q => .ok q.fallback, none, ⟨0, 0⟩⟩⟩

/-- Ann and Bob log in, Ann joins the hall and writes to Bob, who is in no room. -/
def whispers : List JobEvent :=
  [loginAs 1 1 "ann", loginAs 2 2 "bob", annAsks (.roomOperationRequest ⟨.join, "hall"⟩),
    annAsks (.privateMessageRequest ⟨"bob", "psst"⟩)]

theorem whisper_leaves_room : ¬ EveryStep jobStep SentRight ⟨.start, ()⟩ whispers := by
  intro right
  rw [sentRight_eq] at right
  have last := ((everyStep_append _ (whispers.take 3) (whispers.drop 3)).mp right).2.1
  have inside := (last 1 "" ⟨"bob", "psst"⟩ 1 "ann" rfl (by decide) "hall" 2 2 "bob" (by decide)
    (by decide) (by decide) (by decide) (by decide)).2
  exact absurd inside (by decide)

end Elsewhere

end PrivateMessages
