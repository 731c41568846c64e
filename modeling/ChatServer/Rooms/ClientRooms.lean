import ChatServer.Model.Client
import ChatServer.Rooms.Maps
import ChatServer.Sessions.Acting
import ChatServer.Sessions.Maps

/-!
The room the client shows and the room the server has its user in. The client learns of
its room from the responses alone; the others work at the same time, on any number of
workers, for their own sessions and users.
-/
namespace ClientRooms
open AtomicCalls EventRuns WorkerPool RelyGuarantee ChatProtocol ChatState ChatCalls ChatServices
  ChatEffects ChatClient JobEffects RoomMaps SessionMaps ActingSessions

variable {E : Environment} {s : SessionId}

abbrev Other (s : SessionId) := {job : Job // job.session ≠ s}

def Other.handler [Sha256] (t : Other s) : Handler := t.val.handler

/-- A client, the server's tasks for it, the responses on their way, and everybody else. -/
structure Link (E : Environment) (s : SessionId) where
  client : Client
  waiting : Bool
  inbox : List Envelope
  posted : Nat
  own : Nat → Handler
  others : Pool (chat E) (Other s)

inductive Step (E : Environment) (s : SessionId) where
  | command (c : Command)
  | serve (number : Nat) (choice : Choice E)
  | other (move : Move (chat E) (Other s))
  | receive

def Link.world (l : Link E s) : World E := l.others.state

section Steps
variable [Sha256]

def Link.post (l : Link E s) (sent : List Envelope) : Link E s :=
  sent.foldl (fun l e => { l with
    posted := l.posted + 1
    own := Function.update l.own l.posted (dispatchMessage s e) }) l

def forClient (s : SessionId) (sent : List (SessionId × Envelope)) : List Envelope :=
  (sent.filter (fun m => m.1 = s)).map Prod.snd

def Link.command (l : Link E s) (c : Command) : Link E s :=
  match l.waiting, l.client.handleUserInput c with
  | false, some e => { l.post [e] with waiting := true }
  | _, _ => l

def Link.serve (l : Link E s) (number : Nat) (choice : Choice E) : Link E s :=
  match l.own number with
  | .done _ => l
  | .call c rest => { l with
      inbox := l.inbox ++ forClient s (callEmit c l.world.server)
      others := { l.others with state := (chat E).next choice c l.world }
      own := Function.update l.own number (match (chat E).answer choice c l.world with
        | .ok a => rest a
        | .error _ => .done ()) }

def Link.other (workers : Nat) (l : Link E s) (move : Move (chat E) (Other s)) : Link E s :=
  let others := l.others.step workers Other.handler move
  { l with
    inbox := l.inbox ++ forClient s
      ((others.log.drop l.others.log.length).flatMap (fun e => e.event.output))
    others := others }

def roomResponse (e : Envelope) : Option RoomOperationResponse :=
  match e.payload with
  | some (.roomOperationResponse m) => some m
  | _ => none

def Link.receive (l : Link E s) : Link E s :=
  match l.inbox with
  | [] => l
  | e :: rest =>
    let (client, sent) := l.client.handleServerMessage e
    { l.post sent with
      client := client
      inbox := rest
      waiting := l.waiting && (roomResponse e).isNone }

def Link.step (workers : Nat) (l : Link E s) : Step E s → Link E s
  | .command c => l.command c
  | .serve number choice => l.serve number choice
  | .other move => l.other workers move
  | .receive => l.receive

end Steps

/-- Nobody else logs in as the user. -/
def OnlyHere (user : Int) (l : Link E s) : Step E s → Prop
  | .other move =>
    SafeMove (fun _ c => ∀ id username, c ≠ .registerAuthenticatedSession id user username)
      l.others move
  | _ => True

/-- With nothing to be answered, the client shows the room of the user. -/
def Agree (user : Int) (l : Link E s) : Prop :=
  l.waiting = false →
    l.client.currentRoom = l.world.server.roomService.getUserCurrentRoomName user

/-- The response to be handled refuses no CREATE, except of the room that is shown. -/
def ReadsWell (l : Link E s) : Step E s → Prop
  | .receive => ∀ e rest m, l.inbox = e :: rest → roomResponse e = some m →
    m.success = false → m.operation = .create → m.roomName = l.client.currentRoom
  | _ => True

section Programs

@[simp] def nameAfter (user : Int) (now : String) : Call → String
  | .joinRoom who roomname _ _ => if who = user then roomname else now
  | .createRoom who roomname _ _ => if who = user then roomname else now
  | .leaveRoom who roomname => if who = user ∧ now = roomname then "" else now
  | _ => now

@[simp] def Steady (s : SessionId) : Call → Prop
  | .registerAuthenticatedSession _ _ _ => False
  | .updateUsername _ _ => False
  | .removeSession _ => False
  | .disconnectRoom _ _ => False
  | .send id e => id = s → roomResponse e = none
  | _ => True

def Silent (s : SessionId) (c : Call) : Prop := KeepsMemory c ∧ Steady s c

def Expected (s : SessionId) (user : Int) : (c : Call) → c.Answer → Prop
  | .getUserId id, a => id = s → a = user
  | _, _ => True

/-- The client reads the response rightly when it shows `room` and the user is in `now`; of
    a refused CREATE it is asked only that nothing has changed. -/
def Fair (room now : String) (m : RoomOperationResponse) : Prop :=
  if m.success = false ∧ m.operation = .create then now = room
  else ((⟨room⟩ : Client).handleRoomOperationResponse m).1.currentRoom = now

/-- The rest of a task ends with a fair response, the others leaving the user's room alone. -/
def Settles (s : SessionId) (user : Int) (room : String) : Handler → String → Prop
  | .done _, _ => True
  | .call c rest, now =>
    (Steady s c ∧ ∀ a, Expected s user c a → Settles s user room (rest a) (nameAfter user now c)) ∨
    (∃ e m, c = .send s e ∧ roomResponse e = some m ∧ Fair room now m ∧
      ∀ a, (rest a).Uses (Silent s))

variable {user : Int} {room now : String}

theorem nameAfter_silent {c : Call} (silent : Silent s c) : nameAfter user now c = now := by
  cases c <;> simp_all [Silent]

theorem settles_bind {p : Handler} {f : Unit → Handler} (silent : p.Uses (Silent s))
    (rest : Settles s user room (f ()) now) : Settles s user room (p >>= f) now := by
  induction p with
  | done a => exact rest
  | call c more ih =>
    refine Or.inl ⟨silent.1.2, ?_⟩
    intro a _
    rw [nameAfter_silent silent.1]
    exact ih a (silent.2 a)

theorem settles_of_silent {p : Handler} (silent : p.Uses (Silent s)) :
    Settles s user room p now := by
  have whole : Settles s user room (p >>= fun u => .done u) now := settles_bind silent trivial
  exact (bind_done p) ▸ whole

theorem settles_response {m : RoomOperationResponse} (fair : Fair room now m) :
    Settles s user room (sendRoomResponse s m.success m.operation m.roomName m.message) now :=
  Or.inr ⟨_, m, rfl, rfl, fair, fun _ => trivial⟩

theorem silent_notifyRoom (event : UserEventType) (roomname : String) :
    (notifyRoom s event user roomname).Uses (Silent s) := by
  have sent : ∀ username shown id, Silent s (.send id (presence event user username shown)) := by
    simp [Silent, presence, envelope, roomResponse]
  exact uses_notifyRoom ⟨trivial, trivial⟩ (fun _ => ⟨trivial, trivial⟩) sent roomname

theorem settles_notified (event : UserEventType) {operation : RoomOperation} {roomName text : String}
    (fair : Fair room now ⟨true, operation, roomName, text⟩) :
    Settles s user room (notifyRoom s event user roomName >>= fun _ =>
      sendRoomResponse s true operation roomName text) now :=
  settles_bind (silent_notifyRoom event roomName) (settles_response fair)

theorem settles_for {p : Int → Handler} (body : Settles s user room (p user) now) :
    Settles s user room (do
      if ← call (.isAuthenticated s) then
        let id ← call (.getUserId s)
        p id
      else pure ()) now := by
  refine Or.inl ⟨trivial, ?_⟩
  intro present _
  cases present with
  | false => trivial
  | true =>
    refine Or.inl ⟨trivial, ?_⟩
    intro id same
    rw [same rfl]
    exact body

theorem settles_join (roomName : String) :
    Settles s user room (handleRoomOperation s ⟨.join, roomName⟩) room := by
  apply settles_for
  refine Or.inl ⟨trivial, ?_⟩
  intro found _
  cases found with
  | none =>
    exact settles_response (m := ⟨false, .join, "", _⟩)
      (by simp [Fair, Client.handleRoomOperationResponse])
  | some row =>
    refine Or.inl ⟨trivial, ?_⟩
    intro _ _
    apply settles_notified
    simp [Fair, Client.handleRoomOperationResponse]

theorem settles_leave :
    Settles s user room (handleRoomOperation s ⟨.leave, room⟩) room := by
  apply settles_for
  refine Or.inl ⟨trivial, ?_⟩
  intro _ _
  apply settles_notified
  simp [Fair, Client.handleRoomOperationResponse]

theorem settles_create (roomName : String) :
    Settles s user room (handleRoomOperation s ⟨.create, roomName⟩) room := by
  have refused : ∀ text, Settles s user room (sendRoomResponse s false .create roomName text) room := by
    intro text
    exact settles_response (m := ⟨false, .create, roomName, text⟩) (by simp [Fair])
  apply settles_for
  refine Or.inl ⟨trivial, ?_⟩
  intro found _
  cases found with
  | some row => exact refused _
  | none =>
    refine Or.inl ⟨trivial, ?_⟩
    intro added _
    cases added with
    | none => exact refused _
    | some roomId =>
      refine Or.inl ⟨trivial, ?_⟩
      intro _ _
      apply settles_response (m := ⟨true, .create, roomName, _⟩)
      simp [Fair, Client.handleRoomOperationResponse]

variable [Sha256]

theorem settles_gate {m : RoomOperationRequest}
    (behind : Settles s user room (handleRoomOperation s m) now) :
    Settles s user room (dispatchMessage s (envelope (.roomOperationRequest m))) now := by
  refine Or.inl ⟨trivial, ?_⟩
  intro present _
  cases present with
  | true => exact behind
  | false =>
    have refused : Silent s (.send s (errorEnvelope "Authentication required.")) := by
      simp [Silent, errorEnvelope, envelope, roomResponse]
    exact Or.inl ⟨refused.2, fun _ _ => trivial⟩

theorem settles_request {client : Client} {c : Command} {e : Envelope}
    (sent : client.handleUserInput c = some e) :
    Settles s user client.currentRoom (dispatchMessage s e) client.currentRoom := by
  cases c with
  | create roomName =>
    cases sent
    exact settles_gate (settles_create roomName)
  | join roomName =>
    cases sent
    exact settles_gate (settles_join roomName)
  | leave =>
    simp only [Client.handleUserInput] at sent
    split at sent
    · cases sent
    · cases sent
      exact settles_gate settles_leave

theorem silent_history (m : HistoryMessageRequest) :
    (dispatchMessage s (envelope (.historyMessageRequest m))).Uses (Silent s) := by
  have silent : ∀ c, HistoryCall s c → Silent s c := by
    intro c history
    cases c with
    | repository q => cases q <;> simp_all [Silent]
    | send id e =>
      obtain ⟨_, response, same⟩ := history
      exact ⟨trivial, fun _ => by rw [same]; rfl⟩
    | _ => simp_all [Silent]
  refine ⟨⟨trivial, trivial⟩, ?_⟩
  intro present
  cases present with
  | true => exact uses_mono silent (historyCalls_handleHistoryRequest s m)
  | false => exact ⟨⟨trivial, fun _ => rfl⟩, fun _ => trivial⟩

end Programs

section Calls
variable (srv : Server) {user : Int} {c : Call}

theorem currentName_eq (r : RoomService) (user : Int) :
    r.getUserCurrentRoomName user = r.userToRoomMap[user]?.getD "" := by
  unfold RoomService.getUserCurrentRoomName
  cases r.userToRoomMap[user]? <;> rfl

theorem responses_emit (c : Call) :
    (forClient s (callEmit c srv)).filterMap roomResponse = match c with
      | .send id e => if id = s then (roomResponse e).toList else []
      | _ => [] := by
  cases c with
  | send id e =>
    by_cases same : id = s
    · cases answer : roomResponse e <;> simp [forClient, same, answer]
    · simp [forClient, same]
  | disconnectRoom id who =>
    simp only [callEmit, List.filterMap_eq_nil_iff, forClient, List.mem_map, List.mem_filter]
    intro e sent
    obtain ⟨notice, ⟨sent, _⟩, same⟩ := sent
    subst same
    unfold disconnectNotices at sent
    split at sent
    · obtain ⟨receiver, _, same⟩ := List.mem_map.mp sent
      rw [← same]
      rfl
    · cases sent
  | _ => rfl

theorem sessions_steady (steady : Steady s c) : (serverNext c srv).session = srv.session := by
  cases c <;> simp_all

theorem currentName_steady (steady : Steady s c) :
    (serverNext c srv).roomService.getUserCurrentRoomName user =
      nameAfter user (srv.roomService.getUserCurrentRoomName user) c := by
  simp only [currentName_eq]
  cases c with
  | joinRoom who roomname row id =>
    simp only [serverNext, map_join, nameAfter, eq_comm (a := user)]
    split <;> rfl
  | createRoom who roomname roomId id =>
    simp only [serverNext, map_create, nameAfter, eq_comm (a := user)]
    split <;> rfl
  | leaveRoom who roomname =>
    simp only [serverNext, map_leave, nameAfter]
    by_cases same : user = who
    · subst same
      cases found : srv.roomService.userToRoomMap[user]? with
      | none => simp
      | some old =>
        by_cases there : old = roomname <;> simp [there]
    · simp [same, Ne.symm same]
  | disconnectRoom id who => exact steady.elim
  | updateUsername id name => exact steady.elim
  | _ => rfl

/-- Nobody but this session has, or ever had, the user's id. -/
structure Apart (user : Int) (v : View (chat E) (Other s)) : Prop where
  now : ∀ id, id ≠ s → (v.1.server.session id).userId ≠ some user
  before : ∀ id, id ≠ s → ¬ Seen v.2 id user

variable [Sha256] {v : View (chat E) (Other s)} {number : Nat} {t : Other s} {choice : Choice E}
  (acts : Acts Subtype.val t v c) (apart : Apart user v)
include acts apart

theorem currentName_other :
    (serverNext c v.1.server).roomService.getUserCurrentRoomName user =
      v.1.server.roomService.getUserCurrentRoomName user := by
  have different : ∀ who, Seen v.2 t.val.session who → user ≠ who := by
    intro who seen same
    exact apart.before _ t.property (same ▸ seen)
  simp only [currentName_eq]
  cases c with
  | joinRoom who roomname row id =>
    simp only [serverNext, map_join, if_neg (different who (acts.1 ▸ acts.2))]
  | createRoom who roomname roomId id =>
    simp only [serverNext, map_create, if_neg (different who (acts.1 ▸ acts.2))]
  | leaveRoom who roomname =>
    simp only [serverNext, map_leave, different who acts, false_and, ↓reduceIte]
  | disconnectRoom id who =>
    simp only [serverNext]
    split
    · simp only [RoomService.disconnect, map_vacate, if_neg (different who (acts.1 ▸ acts.2))]
    · rfl
  | updateUsername id name =>
    simp only [serverNext, Server.updateUsername]
    split <;> rfl
  | _ => rfl

omit apart in
theorem session_other : (serverNext c v.1.server).session s = v.1.server.session s := by
  have own : t.val.session ≠ s := t.property
  cases c with
  | registerAuthenticatedSession id who username =>
    simp only [serverNext, session_register, acts.1, own.symm, ↓reduceIte]
  | updateUsername id newUsername =>
    have same : id = t.val.session := acts
    cases named : (v.1.server.session id).username with
    | none => simp only [serverNext, updateUsername_unnamed newUsername named]
    | some username =>
      have apart : s ≠ id := fun back => own (same.symm.trans back.symm)
      simp only [serverNext, session_rename newUsername s named, apart, ↓reduceIte]
  | disconnectRoom id who =>
    simp only [serverNext]
    split <;> rfl
  | _ => rfl

omit [Sha256] acts in
theorem apart_called (elsewhere : ∀ id username, c ≠ .registerAuthenticatedSession id user username) :
    Apart user (called v number t choice c) := by
  constructor
  · intro id other there
    rcases userId_next c v.1.server there with before | ⟨username, registers⟩
    · exact apart.now id other before
    · exact elsewhere id username registers
  · intro id other seen
    obtain ⟨e, made, there⟩ := seen
    rcases List.mem_append.mp made with old | new
    · exact apart.before id other ⟨e, old, there⟩
    · rw [List.mem_singleton.mp new] at there
      exact apart.now id other there

omit apart in
theorem responses_other : (forClient s (callEmit c v.1.server)).filterMap roomResponse = [] := by
  have own : t.val.session ≠ s := t.property
  rw [responses_emit]
  cases c with
  | send id e =>
    dsimp only
    split
    · rename_i same
      cases answer : roomResponse e with
      | none => rfl
      | some m =>
        unfold roomResponse at answer
        split at answer
        · rename_i m' payload
          exact absurd ((acts.1 m' payload).symm.trans same) own
        · cases answer
    · rfl
  | _ => rfl

end Calls

section Runs
variable {user : Int} {l : Link E s}

def Link.room (l : Link E s) (user : Int) : String :=
  l.world.server.roomService.getUserCurrentRoomName user

def Link.responses (l : Link E s) : List RoomOperationResponse := l.inbox.filterMap roomResponse

/-- An unanswered request is being served, or its response is on its way. -/
inductive Pending (user : Int) (l : Link E s) : Prop where
  | served (none : l.responses = []) (number : Nat)
      (settles : Settles s user l.client.currentRoom (l.own number) (l.room user))
      (silent : ∀ n, n ≠ number → (l.own n).Uses (Silent s))
  | answered (m : RoomOperationResponse) (one : l.responses = [m])
      (fair : Fair l.client.currentRoom (l.room user) m)
      (silent : ∀ n, (l.own n).Uses (Silent s))

section Serve
variable {number : Nat} {choice : Choice E} {c : Call} {rest : c.Answer → Handler}

def Link.left (l : Link E s) (choice : Choice E) (c : Call) (rest : c.Answer → Handler) : Handler :=
  match (chat E).answer choice c l.world with
  | .ok a => rest a
  | .error _ => .done ()

theorem serve_call (here : l.own number = .call c rest) :
    l.serve number choice = { l with
      inbox := l.inbox ++ forClient s (callEmit c l.world.server)
      others := { l.others with state := (chat E).next choice c l.world }
      own := Function.update l.own number (l.left choice c rest) } := by
  simp only [Link.serve, here]
  rfl

theorem silent_left (silent : ∀ a, (rest a).Uses (Silent s)) :
    (l.left choice c rest).Uses (Silent s) := by
  unfold Link.left
  split
  · exact silent _
  · trivial

theorem settles_left {room now : String} (self : (l.world.server.session s).userId = some user)
    (settles : ∀ a, Expected s user c a → Settles s user room (rest a) now) :
    Settles s user room (l.left choice c rest) now := by
  unfold Link.left
  split
  · rename_i a answer
    apply settles
    cases c with
    | getUserId id =>
      intro same
      subst same
      simp only [callAnswer, self, fieldOr, Except.ok.injEq] at answer
      exact answer.symm
    | _ => trivial
  · trivial

theorem silent_update {own : Nat → Handler} {left : Handler} (silent : ∀ n, (own n).Uses (Silent s))
    (here : left.Uses (Silent s)) (n : Nat) : (Function.update own number left n).Uses (Silent s) := by
  by_cases same : n = number
  · rw [same, Function.update_self]
    exact here
  · rw [Function.update_of_ne same]
    exact silent n

theorem responses_steady (steady : Steady s c) :
    (forClient s (callEmit c l.world.server)).filterMap roomResponse = [] := by
  rw [responses_emit]
  cases c with
  | send id e =>
    dsimp only
    split
    · rename_i same
      rw [steady same]
      rfl
    · rfl
  | _ => rfl

section Served
variable (here : l.own number = .call c rest)
include here

theorem own_serve : (l.serve number choice).own =
    Function.update l.own number (l.left choice c rest) := by
  rw [serve_call here]

theorem own_serve_of_ne {n : Nat} (other : n ≠ number) :
    (l.serve number choice).own n = l.own n := by
  rw [own_serve here, Function.update_of_ne other]

theorem silent_serve (silent : ∀ n, (l.own n).Uses (Silent s)) (n : Nat) :
    ((l.serve number choice).own n).Uses (Silent s) := by
  have own := silent number
  rw [here] at own
  rw [own_serve here]
  exact silent_update silent (silent_left own.2) n

theorem serve_client : (l.serve number choice).client = l.client := by
  rw [serve_call here]

theorem serve_waiting : (l.serve number choice).waiting = l.waiting := by
  rw [serve_call here]

theorem serve_responses : (l.serve number choice).responses =
    l.responses ++ (forClient s (callEmit c l.world.server)).filterMap roomResponse := by
  rw [serve_call here]
  exact List.filterMap_append

theorem serve_room (steady : Steady s c) :
    (l.serve number choice).room user = nameAfter user (l.room user) c := by
  rw [serve_call here]
  exact currentName_steady l.world.server steady

end Served

variable [Sha256]

theorem sound_serve (h : Sound Grows (Acts Subtype.val) Other.handler (Apart user) l.others)
    (same : (serverNext c l.world.server).session = l.world.server.session) :
    Sound Grows (Acts Subtype.val) Other.handler (Apart user)
      { l.others with state := (chat E).next choice c l.world } := by
  have kept : Apart user ((chat E).next choice c l.world, l.others.log) := by
    constructor
    · intro id other
      change ((serverNext c l.world.server).session id).userId ≠ some user
      rw [same]
      exact h.inv.now id other
    · exact h.inv.before
  exact sound_elsewhere grows_trans h (fun _ made => made) kept

end Serve

variable [Sha256]

structure Follows (user : Int) (l : Link E s) : Prop where
  self : (l.world.server.session s).userId = some user
  others : Sound Grows (Acts Subtype.val) Other.handler (Apart user) l.others
  idle : l.waiting = false → l.responses = [] ∧ ∀ n, (l.own n).Uses (Silent s)
  busy : l.waiting = true → Pending user l

theorem follows_command (h : Follows user l) (agree : Agree user l) (c : Command) :
    Follows user (l.command c) := by
  unfold Link.command
  split
  · rename_i e free sent
    obtain ⟨none, silent⟩ := h.idle free
    have room : l.room user = l.client.currentRoom := (agree free).symm
    constructor
    · exact h.self
    · exact h.others
    · intro busy
      cases busy
    · intro _
      refine .served none l.posted ?_ ?_
      · have here : Function.update l.own l.posted (dispatchMessage s e) l.posted =
          dispatchMessage s e := Function.update_self _ _ _
        change Settles s user l.client.currentRoom (Function.update l.own l.posted _ l.posted) (l.room user)
        rw [here, room]
        exact settles_request sent
      · intro n other
        change (Function.update l.own l.posted _ n).Uses (Silent s)
        rw [Function.update_of_ne other]
        exact silent n
  · exact h

theorem agree_command (agree : Agree user l) (c : Command) : Agree user (l.command c) := by
  unfold Link.command
  split
  · intro busy
    cases busy
  · exact agree

section Serve
variable {number : Nat} {choice : Choice E} {c : Call} {rest : c.Answer → Handler}
  (here : l.own number = .call c rest)
include here

theorem follows_of_served (h : Follows user l)
    (same : (serverNext c l.world.server).session = l.world.server.session)
    (idle : l.waiting = false → (l.serve number choice).responses = [] ∧
      ∀ n, ((l.serve number choice).own n).Uses (Silent s))
    (busy : l.waiting = true → Pending user (l.serve number choice)) :
    Follows user (l.serve number choice) := by
  constructor
  · rw [serve_call here]
    change ((serverNext c l.world.server).session s).userId = some user
    rw [same]
    exact h.self
  · rw [serve_call here]
    exact sound_serve h.others same
  · rw [serve_waiting here]
    exact idle
  · rw [serve_waiting here]
    exact busy

theorem follows_silent (h : Follows user l) (silent : Silent s c)
    (left : ∀ a, (rest a).Uses (Silent s)) :
    Follows user (l.serve number choice) ∧ (l.serve number choice).room user = l.room user := by
  have same := sessions_steady l.world.server silent.2
  have room : (l.serve number choice).room user = l.room user := by
    rw [serve_room here silent.2, nameAfter_silent silent]
  have responses : (l.serve number choice).responses = l.responses := by
    rw [serve_responses here, responses_steady silent.2, List.append_nil]
  refine ⟨follows_of_served here h same ?_ ?_, room⟩
  · intro free
    rw [responses]
    exact ⟨(h.idle free).1, silent_serve here (h.idle free).2⟩
  · intro waiting
    cases h.busy waiting with
    | served none k settles others =>
      apply Pending.served (by rw [responses, none]) k
      · rw [serve_client here, room]
        by_cases one : k = number
        · rw [one, own_serve here, Function.update_self]
          exact settles_of_silent (silent_left left)
        · rw [own_serve_of_ne here one]
          exact settles
      · intro n other
        by_cases one : n = number
        · rw [one, own_serve here, Function.update_self]
          exact silent_left left
        · rw [own_serve_of_ne here one]
          exact others n other
    | answered m one fair others =>
      apply Pending.answered m (by rw [responses, one]) _ (silent_serve here others)
      rw [serve_client here, room]
      exact fair

theorem follows_settles (h : Follows user l) (waiting : l.waiting = true) (none : l.responses = [])
    (settles : Settles s user l.client.currentRoom (.call c rest) (l.room user))
    (others : ∀ n, n ≠ number → (l.own n).Uses (Silent s)) :
    Follows user (l.serve number choice) := by
  have others' : ∀ n, n ≠ number → ((l.serve number choice).own n).Uses (Silent s) := by
    intro n other
    rw [own_serve_of_ne here other]
    exact others n other
  have not_free : l.waiting ≠ false := by simp [waiting]
  rcases settles with ⟨steady, next⟩ | ⟨e, m, sends, answer, fair, after⟩
  · apply follows_of_served here h (sessions_steady l.world.server steady)
    · intro free
      exact absurd free not_free
    · intro _
      apply Pending.served _ number _ others'
      · rw [serve_responses here, responses_steady steady, none]
        rfl
      · rw [serve_client here, serve_room here steady, own_serve here, Function.update_self]
        exact settles_left h.self next
  · subst sends
    apply follows_of_served here h rfl
    · intro free
      exact absurd free not_free
    · intro _
      apply Pending.answered m
      · rw [serve_responses here, responses_emit, none]
        simp [answer]
      · rw [serve_client here, serve_call here]
        exact fair
      · intro n
        by_cases one : n = number
        · rw [one, own_serve here, Function.update_self]
          exact silent_left after
        · exact others' n one

end Serve

theorem follows_serve (h : Follows user l) (number : Nat) (choice : Choice E) :
    Follows user (l.serve number choice) := by
  cases here : l.own number with
  | done u =>
    have same : l.serve number choice = l := by simp only [Link.serve, here]
    rw [same]
    exact h
  | call c rest =>
    have quiet : (l.own number).Uses (Silent s) → Follows user (l.serve number choice) := by
      intro silent
      rw [here] at silent
      exact (follows_silent here h silent.1 silent.2).1
    cases waiting : l.waiting with
    | false => exact quiet ((h.idle waiting).2 number)
    | true =>
      cases h.busy waiting with
      | served none k settles others =>
        by_cases one : number = k
        · subst one
          rw [here] at settles
          exact follows_settles here h waiting none settles others
        · exact quiet (others number one)
      | answered m only fair others => exact quiet (others number)

theorem agree_serve (h : Follows user l) (agree : Agree user l) (number : Nat) (choice : Choice E) :
    Agree user (l.serve number choice) := by
  cases here : l.own number with
  | done u =>
    have same : l.serve number choice = l := by simp only [Link.serve, here]
    rw [same]
    exact agree
  | call c rest =>
    intro free
    rw [serve_waiting here] at free
    have silent := (h.idle free).2 number
    rw [here] at silent
    have room : (l.serve number choice).room user = l.room user :=
      (follows_silent here h silent.1 silent.2).2
    rw [serve_client here]
    exact (agree free).trans room.symm

section Others
variable {workers : Nat} {move : Move (chat E) (Other s)}

theorem other_elsewhere (workers : Nat) (move : Move (chat E) (Other s)) (h : Follows user l) :
    (l.other workers move).room user = l.room user ∧
      (l.other workers move).world.server.session s = l.world.server.session s ∧
      (l.other workers move).responses = l.responses := by
  have responses : (l.other workers move).responses = l.responses ++
      (forClient s (((l.others.step workers Other.handler move).log.drop l.others.log.length).flatMap
        (fun e => e.event.output))).filterMap roomResponse := List.filterMap_append
  have moved : (view (l.others.step workers Other.handler move) = view l.others ∧ _) ∨ _ :=
    sound_step_cases grows_refl h.others move
  rcases moved with ⟨same, _⟩ | ⟨t, c, acts, called, safe⟩
  · have state : (l.others.step workers Other.handler move).state = l.others.state :=
      congrArg Prod.fst same
    have log : (l.others.step workers Other.handler move).log = l.others.log := congrArg Prod.snd same
    refine ⟨?_, ?_, ?_⟩
    · simp only [Link.room, Link.world, Link.other, state]
    · simp only [Link.world, Link.other, state]
    · rw [responses, log]
      simp [forClient]
  · have state : (l.others.step workers Other.handler move).state =
        (chat E).next (t.choices 0) c l.others.state := congrArg Prod.fst called
    have log : (l.others.step workers Other.handler move).log =
        l.others.log ++ [⟨t.number, t.tag, ⟨l.others.state, t.choices 0, c⟩⟩] :=
      congrArg Prod.snd called
    refine ⟨?_, ?_, ?_⟩
    · simp only [Link.room, Link.world, Link.other, state]
      exact currentName_other acts h.others.inv
    · simp only [Link.world, Link.other, state]
      exact session_other acts
    · rw [responses, log, List.drop_left]
      have quiet := responses_other acts
      simp only [List.flatMap_cons, List.flatMap_nil, List.append_nil]
      exact (congrArg (l.responses ++ ·) quiet).trans (List.append_nil _)

theorem agree_other (h : Follows user l) (agree : Agree user l) :
    Agree user (l.other workers move) := by
  intro free
  exact (agree free).trans (other_elsewhere workers move h).1.symm

theorem follows_other (h : Follows user l) (only : OnlyHere user l (.other move)) :
    Follows user (l.other workers move) := by
  obtain ⟨room, session, responses⟩ := other_elsewhere workers move h
  constructor
  · rw [session]
    exact h.self
  · have keep : ∀ (v : View (chat E) (Other s)) number t choice c, Apart user v →
        Acts Subtype.val t v c →
        (∀ id username, c ≠ .registerAuthenticatedSession id user username) →
        Apart user (called v number t choice c) ∧ Grows v (called v number t choice c) := by
      intro v number t choice c apart _ elsewhere
      exact ⟨apart_called apart elsewhere, grows_called v number t choice c⟩
    exact sound_step grows_trans keep grows_refl guarded_job h.others only
  · intro free
    rw [responses]
    exact h.idle free
  · intro waiting
    cases h.busy waiting with
    | served none k settles others =>
      exact .served (by rw [responses, none]) k (room ▸ settles) others
    | answered m one fair others => exact .answered m (by rw [responses, one]) (room ▸ fair) others

end Others

section Receive

theorem others_post (l : Link E s) (sent : List Envelope) : (l.post sent).others = l.others := by
  induction sent generalizing l with
  | nil => rfl
  | cons e rest ih => exact ih _

theorem silent_post {sent : List Envelope} (silent : ∀ n, (l.own n).Uses (Silent s))
    (asked : ∀ e ∈ sent, (dispatchMessage s e).Uses (Silent s)) (n : Nat) :
    ((l.post sent).own n).Uses (Silent s) := by
  induction sent generalizing l with
  | nil => exact silent n
  | cons e rest ih =>
    apply ih
    · exact silent_update silent (asked e List.mem_cons_self)
    · intro later member
      exact asked later (List.mem_cons_of_mem e member)

theorem silent_asked {client : Client} {m : RoomOperationResponse} {e : Envelope}
    (sent : e ∈ (client.handleRoomOperationResponse m).2) :
    (dispatchMessage s e).Uses (Silent s) := by
  unfold Client.handleRoomOperationResponse at sent
  split at sent
  · rw [List.mem_singleton.mp sent]
    exact silent_history _
  · split at sent
    · cases sent
    · split at sent <;> cases sent

variable {e : Envelope} {rest : List Envelope} (first : l.inbox = e :: rest)
include first

theorem receive_other (other : roomResponse e = none) : l.receive = { l with inbox := rest } := by
  have shown : l.client.handleServerMessage e = (l.client, []) := by
    obtain ⟨messageId, payload⟩ := e
    cases payload with
    | none => rfl
    | some payload =>
      cases payload with
      | roomOperationResponse resp => cases other
      | _ => rfl
  simp [Link.receive, first, shown, other, Link.post]

theorem receive_response {m : RoomOperationResponse} (answer : roomResponse e = some m) :
    l.receive = { l.post (l.client.handleRoomOperationResponse m).2 with
      client := (l.client.handleRoomOperationResponse m).1
      inbox := rest
      waiting := false } := by
  have read : l.client.handleServerMessage e = l.client.handleRoomOperationResponse m := by
    unfold roomResponse at answer
    split at answer
    · rename_i payload
      cases answer
      simp only [Client.handleServerMessage, payload]
    · cases answer
  simp [Link.receive, first, read, answer]

theorem pending_of_response (h : Follows user l) {m : RoomOperationResponse}
    (answer : roomResponse e = some m) :
    rest.filterMap roomResponse = [] ∧ Fair l.client.currentRoom (l.room user) m ∧
      ∀ n, (l.own n).Uses (Silent s) := by
  have responses : l.responses = m :: rest.filterMap roomResponse := by
    simp [Link.responses, first, answer]
  cases waiting : l.waiting with
  | false => simp [(h.idle waiting).1] at responses
  | true =>
    cases h.busy waiting with
    | served none k settles others => simp [none] at responses
    | answered m' one fair silent =>
      rw [one] at responses
      injection responses with same nothing
      subst same
      exact ⟨nothing.symm, fair, silent⟩

end Receive

theorem follows_receive (h : Follows user l) : Follows user l.receive := by
  cases first : l.inbox with
  | nil =>
    have same : l.receive = l := by simp [Link.receive, first]
    rw [same]
    exact h
  | cons e rest =>
    cases answer : roomResponse e with
    | none =>
      have responses : rest.filterMap roomResponse = l.responses := by
        simp [Link.responses, first, answer]
      rw [receive_other first answer]
      refine ⟨h.self, h.others, ?_, ?_⟩
      · intro free
        exact ⟨responses.trans (h.idle free).1, (h.idle free).2⟩
      · intro waiting
        cases h.busy waiting with
        | served none k settles others => exact .served (responses.trans none) k settles others
        | answered m one fair silent => exact .answered m (responses.trans one) fair silent
    | some m =>
      obtain ⟨nothing, fair, silent⟩ := pending_of_response first h answer
      have others := others_post l (l.client.handleRoomOperationResponse m).2
      rw [receive_response first answer]
      constructor
      · simp only [Link.world, others]
        exact h.self
      · simp only [others]
        exact h.others
      · intro _
        exact ⟨nothing, silent_post silent (fun e sent => silent_asked sent)⟩
      · intro waiting
        cases waiting

/-- A response leaves the client right exactly when it is no refusal of another room's CREATE. -/
theorem agree_receive_iff (h : Follows user l) (agree : Agree user l) :
    Agree user l.receive ↔ ReadsWell l .receive := by
  cases first : l.inbox with
  | nil =>
    have same : l.receive = l := by simp [Link.receive, first]
    rw [same]
    constructor
    · intro _ e rest m there
      rw [first] at there
      cases there
    · intro _
      exact agree
  | cons e rest =>
    cases answer : roomResponse e with
    | none =>
      rw [receive_other first answer]
      constructor
      · intro _ e' rest' m there found
        rw [first] at there
        cases there
        rw [answer] at found
        cases found
      · intro _
        exact agree
    | some m =>
      obtain ⟨_, fair, _⟩ := pending_of_response first h answer
      have world : l.receive.room user = l.room user := by
        rw [receive_response first answer]
        simp only [Link.room, Link.world, others_post]
      have after : Agree user l.receive ↔
          (l.client.handleRoomOperationResponse m).1.currentRoom = l.room user := by
        rw [← world, receive_response first answer]
        exact ⟨fun agree => agree rfl, fun same _ => same⟩
      have reads : ReadsWell l .receive ↔
          (m.success = false → m.operation = .create → m.roomName = l.client.currentRoom) := by
        constructor
        · intro well
          exact well e rest m first answer
        · intro well e' rest' m' there found
          rw [first] at there
          cases there
          rw [answer] at found
          cases found
          exact well
      rw [after, reads]
      unfold Fair at fair
      split at fair
      · rename_i refused
        have shown : (l.client.handleRoomOperationResponse m).1.currentRoom = m.roomName := by
          simp [Client.handleRoomOperationResponse, refused.1, refused.2]
        rw [shown, fair]
        exact ⟨fun same _ _ => same, fun well => well refused.1 refused.2⟩
      · rename_i granted
        constructor
        · intro _ refused create
          exact absurd ⟨refused, create⟩ granted
        · intro _
          exact fair

/-- A client that shows the room of its user, with nothing under way. -/
def Link.start (user : Int) (w : World E) : Link E s :=
  ⟨⟨w.server.roomService.getUserCurrentRoomName user⟩, false, [], 0, fun _ => .done (), Pool.idle w⟩

theorem follows_start {w : World E} (self : (w.server.session s).userId = some user)
    (alone : ∀ id, id ≠ s → (w.server.session id).userId ≠ some user) :
    Follows user (Link.start user w : Link E s) := by
  have apart : Apart user ((w, []) : View (chat E) (Other s)) :=
    ⟨alone, fun id _ seen => by simp [Seen] at seen⟩
  constructor
  · exact self
  · constructor
    · exact apart
    · intro t member
      cases member
    · intro t member
      cases member
  · intro _
    exact ⟨rfl, fun _ => trivial⟩
  · intro waiting
    cases waiting

/-- Whatever the others do and the repositories answer: the client shows the room of its
    user, whenever all is answered, exactly when it is never told that another room than
    the one it shows could not be created. -/
theorem client_in_step_iff (workers : Nat) {w : World E}
    (self : (w.server.session s).userId = some user)
    (alone : ∀ id, id ≠ s → (w.server.session id).userId ≠ some user) {steps : List (Step E s)}
    (only : EveryStep (Link.step workers) (OnlyHere user) (Link.start user w) steps) :
    EveryState (Link.step workers) (Agree user) (Link.start user w) steps ↔
      EveryStep (Link.step workers) ReadsWell (Link.start user w) steps := by
  have keep : ∀ (l : Link E s) (step : Step E s), OnlyHere user l step → Follows user l →
      Agree user l → Follows user (l.step workers step) := by
    intro l step only h agree
    cases step with
    | command c => exact follows_command h agree c
    | serve number choice => exact follows_serve h number choice
    | other move => exact follows_other h only
    | receive => exact follows_receive h
  have exact_step : ∀ (l : Link E s) (step : Step E s), OnlyHere user l step → Follows user l →
      Agree user l → (Agree user (l.step workers step) ↔ ReadsWell l step) := by
    intro l step only h agree
    cases step with
    | command c => exact iff_of_true (agree_command agree c) trivial
    | serve number choice => exact iff_of_true (agree_serve h agree number choice) trivial
    | other move => exact iff_of_true (agree_other h agree) trivial
    | receive => exact agree_receive_iff h agree
  exact everyState_iff_everyStep_given keep exact_step (follows_start self alone) (fun _ => rfl) only

end Runs

section Refused

local instance : Sha256 := ⟨id⟩

def allThere : Choice anyAnswers := ⟨fun q => match q with
    | .findByRoomName name => .ok (some ⟨1, name, 2⟩)
    | q => .ok q.fallback, none, ⟨0, 0⟩⟩

def annHere : World anyAnswers := ⟨Server.start.registerAuthenticatedSession 1 1 "ann", ()⟩

/-- Ann, in no room, tries to create a room that exists, and is told that its name is taken. -/
def createsHall : List (Step anyAnswers 1) :=
  [.command (.create "hall"), .serve 0 allThere, .serve 0 allThere, .serve 0 allThere,
    .serve 0 allThere, .serve 0 allThere, .receive]

theorem client_in_step_iff_creates :
    EveryState (Link.step 1) (Agree 1) (Link.start 1 annHere) createsHall ↔
      EveryStep (Link.step 1) ReadsWell (Link.start 1 annHere) createsHall := by
  have alone : ∀ id, id ≠ 1 → (annHere.server.session id).userId ≠ some 1 := by
    intro id other
    simp [annHere, session_register, other, Server.start, Session.fresh]
  exact client_in_step_iff 1 rfl alone ⟨trivial, trivial, trivial, trivial, trivial, trivial, trivial,
    trivial⟩

/-- Ann's client shows the hall, where she is not. -/
theorem refused_room_shown :
    EveryStep (Link.step 1) (OnlyHere 1) (Link.start 1 annHere) createsHall ∧
      ¬ EveryState (Link.step 1) (Agree 1) (Link.start 1 annHere) createsHall := by
  constructor
  · exact ⟨trivial, trivial, trivial, trivial, trivial, trivial, trivial, trivial⟩
  · intro all
    have last := everyState_last all
    have shown :
        (after (Link.step 1) (Link.start 1 annHere) createsHall).client.currentRoom = "hall" := by
      decide
    have nowhere : (after (Link.step 1) (Link.start 1 annHere)
        createsHall).world.server.roomService.getUserCurrentRoomName 1 = "" := by decide
    have agree := last (by decide)
    rw [shown, nowhere] at agree
    exact absurd agree (by decide)

end Refused

end ClientRooms
