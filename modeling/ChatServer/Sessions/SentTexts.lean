import ChatServer.Sessions.HandlerCalls

/-!
The texts of the broadcasts that a handler sends: each is the text of the request that the
handler works for.
-/
namespace SentTexts
open AtomicCalls ChatProtocol ChatState ChatCalls ChatServices ChatEffects AccountHandlers
  JobEffects HandlerCalls

/-- The text that a request wants to have sent to others. -/
def contentOf (e : Envelope) : Option String :=
  match e.payload with
  | some (.publicMessage m) => some m.content
  | some (.privateMessageRequest m) => some m.content
  | _ => none

def Carries (content : Option String) (e : Envelope) : Prop :=
  ∀ b, e.payload = some (.messageBroadcast b) → content = some b.content

def SendsFor (content : Option String) : Call → Prop
  | .send _ e => Carries content e
  | _ => True

section Handlers
variable {content : Option String} {session : SessionId}

theorem carries_plain {p : Payload} (plain : ∀ b, p ≠ .messageBroadcast b) :
    Carries content (envelope p) := by
  intro b same
  exact absurd (Option.some.inj same) (plain b)

theorem carries_presence (event : UserEventType) (userId : Int) (username shown : String) :
    Carries content (presence event userId username shown) := carries_plain (by simp)

theorem carries_error (message : String) (code : Int) :
    Carries content (codedError message code) := carries_plain (by simp)

theorem sends_roomCall {m : RoomOperationRequest} (c : Call) (room : RoomCall session m c) :
    SendsFor content c := by
  cases c with
  | send id e =>
    rcases room with ⟨event, userId, username, shown, told⟩ | ⟨_, success, name, message, told⟩
    · rw [told]
      exact carries_presence event userId username shown
    · rw [told]
      exact carries_plain (by simp)
  | _ => trivial

theorem carries_told {text : String} {e : Envelope}
    (told : (∃ message code, e = codedError message code) ∨
      ∃ b, e = envelope (.messageBroadcast b) ∧ b.content = text) : Carries (some text) e := by
  rcases told with ⟨message, code, same⟩ | ⟨b, same, here⟩
  · rw [same]
    exact carries_error message code
  · intro other shown
    rw [same] at shown
    cases shown
    rw [here]

theorem sends_publicCall {m : PublicMessage} (c : Call) (talks : PublicCall session m c) :
    SendsFor (some m.content) c := by
  cases c with
  | send id e => exact carries_told talks
  | _ => trivial

theorem sends_privateCall {m : PrivateMessageRequest} (c : Call) (talks : PrivateCall m c) :
    SendsFor (some m.content) c := by
  cases c with
  | send id e => exact carries_told talks
  | _ => trivial

theorem sends_historyCall (c : Call) (history : HistoryCall session c) : SendsFor content c := by
  cases c with
  | send id e =>
    obtain ⟨_, response, same⟩ := history
    rw [same]
    exact carries_plain (by simp)
  | _ => trivial

theorem sends_accountCall (c : Call) (account : AccountCall session c) : SendsFor content c := by
  cases c with
  | send id e =>
    intro b same
    simp [AccountReply, same] at account
  | _ => trivial

theorem sends_leaveCall (c : Call) (leave : LeaveCall session c) : SendsFor content c := by
  cases c with
  | send id e => exact leave.elim
  | _ => trivial

theorem uses_refusal (message : String) :
    (sendError session message).Uses (SendsFor content) :=
  ⟨carries_plain (by simp), fun _ => trivial⟩

theorem uses_authenticated {handler : Handler} (uses : handler.Uses (SendsFor content)) :
    (requireAuthentication session handler).Uses (SendsFor content) := by
  refine ⟨trivial, ?_⟩
  intro present
  cases present with
  | false => exact uses_refusal _
  | true => exact uses

theorem uses_login [Sha256] (m : LoginRequest) :
    (handleLogin session m).Uses (SendsFor content) := by
  simp only [handleLogin, perform_bind, Program.Uses, SendsFor, true_and]
  intro found
  cases found with
  | none => exact uses_refusal _
  | some user =>
    dsimp only
    split
    · exact ⟨trivial, fun _ => ⟨carries_plain (by simp), fun _ => trivial⟩⟩
    · exact uses_refusal _

theorem uses_dispatch [Sha256] (e : Envelope) :
    (dispatchMessage session e).Uses (SendsFor (contentOf e)) := by
  obtain ⟨messageId, payload⟩ := e
  cases payload with
  | none => exact uses_authenticated trivial
  | some p =>
    cases p with
    | loginRequest m => exact uses_login m
    | registrationRequest m => exact uses_mono sends_accountCall (accountCalls_handleRegister m)
    | changePasswordRequest m =>
      exact uses_authenticated (uses_mono sends_accountCall (accountCalls_handleChangePassword m))
    | changeUsernameRequest m =>
      exact uses_authenticated (uses_mono sends_accountCall (accountCalls_handleChangeUsername m))
    | publicMessage m =>
      exact uses_authenticated
        (uses_mono sends_publicCall (publicCalls_handlePublicMessage session m))
    | privateMessageRequest m =>
      exact uses_authenticated
        (uses_mono sends_privateCall (privateCalls_handlePrivateMessage session m))
    | roomOperationRequest m =>
      exact uses_authenticated (uses_mono sends_roomCall (roomCalls_handleRoomOperation session m))
    | historyMessageRequest m =>
      exact uses_authenticated
        (uses_mono sends_historyCall (historyCalls_handleHistoryRequest session m))
    | _ => exact uses_authenticated trivial

end Handlers

def JobSends : Job → Call → Prop
  | .dispatch _ e => SendsFor (contentOf e)
  | .disconnect _ => SendsFor none

theorem uses_job [Sha256] (job : Job) : job.handler.Uses (JobSends job) := by
  cases job with
  | dispatch id e => exact uses_dispatch e
  | disconnect id => exact uses_mono sends_leaveCall (leaveCalls_onDisconnect id)

/-- What a call sends carries the text, as the notices of a disconnect do. -/
theorem carries_emitted {content : Option String} {c : Call} (sends : SendsFor content c)
    (s : Server) : ∀ m ∈ callEmit c s, Carries content m.2 := by
  intro m there
  cases c with
  | send id e =>
    rw [List.mem_singleton.mp there]
    exact sends
  | disconnectRoom id userId =>
    simp only [callEmit, disconnectNotices] at there
    split at there
    · obtain ⟨listener, _, same⟩ := List.mem_map.mp there
      rw [← same]
      exact carries_presence _ _ _ _
    · cases there
  | _ => cases there

end SentTexts
