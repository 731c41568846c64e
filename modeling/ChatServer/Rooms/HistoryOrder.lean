import ChatServer.Atomic.NewestRows
import ChatServer.Model.Database
import ChatServer.Model.Effects

/-!
Which messages a history shows, and in which order. The query sorts by `created_at` alone,
newest first, and stops at the limit; the handler turns the rows round. Messages of one
second come in any order, so a history is right for every order exactly when each message
it should show was stored in a later second than all before it, or looks the same.
-/
namespace HistoryOrder
open AtomicCalls ChatProtocol ChatState ChatCalls ChatServices ChatEffects ChatDatabase NewestRows

section Orders
variable [Collation]

def stored (t : Tables) (roomId : Int) : List Message :=
  t.messages.filter (fun m => m.roomId = roomId)

def rowLimit (m : HistoryMessageRequest) : Nat := (if 0 < m.limit then m.limit else 50).toNat

def shownName (t : Tables) (senderId : Int) : String :=
  match t.users.findId senderId with
  | some user => user.username
  | none => "Unknown"

def shown (t : Tables) (roomname : String) (msg : Message) : MessageBroadcast :=
  historyEntry roomname msg (shownName t msg.senderId)

def latest (t : Tables) (roomId : Int) (limit : Nat) : List Message :=
  (stored t roomId).drop ((stored t roomId).length - limit)

def Undisturbed (choices : Nat → Choice database) : Prop :=
  ∀ n, (choices n).store.raises = none

/-- Whatever order the database gives equal times, the response lists the latest messages
    in the order in which they were stored. -/
def ListsLatest (w : World database) (session : SessionId) (m : HistoryMessageRequest)
    (roomId : Int) : Prop :=
  ∀ choices, Undisturbed choices →
    (handleHistoryRequest session m).output (chat database) choices w =
      [(session, envelope (.historyMessageResponse ⟨m.roomName,
        (latest w.store roomId (rowLimit m)).map (shown w.store m.roomName)⟩))]

/-- Each of the latest messages was stored in a later second than all before it, or looks
    like those of its second. -/
def NewestByTime (t : Tables) (roomname : String) (roomId : Int) (limit : Nat) : Prop :=
  ∀ earlier msg later, stored t roomId = earlier ++ msg :: later → later.length < limit →
    ∀ old ∈ earlier, old.createdAt < msg.createdAt ∨ shown t roomname old = shown t roomname msg

/-- The row orders that the query permits. -/
def Permitted (t : Tables) (roomId : Int) (limit : Nat) (rows : List Message) : Prop :=
  ∃ order : List Message, order.Perm (stored t roomId) ∧
    order.Pairwise (fun a b => b.createdAt ≤ a.createdAt) ∧ rows = order.take limit

variable {t : Tables} {r : Int}

omit [Collation] in
theorem newestFirst_total (rank : Message → Nat) : Std.Total (newestFirst rank) := by
  constructor
  intro a b
  unfold newestFirst
  omega

omit [Collation] in
theorem newestFirst_trans (rank : Message → Nat) : IsTrans Message (newestFirst rank) := by
  constructor
  intro a b c
  unfold newestFirst
  omega

def ranked (rank : Message → Nat) (rows : List Message) : List Message :=
  rows.insertionSort (newestFirst rank)

omit [Collation] in
theorem ranked_perm (rank : Message → Nat) (rows : List Message) : (ranked rank rows).Perm rows :=
  List.perm_insertionSort _ rows

omit [Collation] in
theorem ranked_sorted (rank : Message → Nat) (rows : List Message) :
    (ranked rank rows).Pairwise (fun a b => b.createdAt ≤ a.createdAt) := by
  have total := newestFirst_total rank
  have trans := newestFirst_trans rank
  apply (List.pairwise_insertionSort (newestFirst rank) rows).imp
  intro a b before
  unfold newestFirst at before
  omega

omit [Collation] in
/-- Any order by time is the order of some rank, when no row is there twice. -/
theorem ranked_of_order {rows order : List Message} (distinct : rows.Nodup)
    (perm : order.Perm rows) (sorted : order.Pairwise (fun a b => b.createdAt ≤ a.createdAt)) :
    ranked (fun m => order.idxOf m) rows = order := by
  have total := newestFirst_total (fun m => order.idxOf m)
  have trans := newestFirst_trans (fun m => order.idxOf m)
  have unique : order.Nodup := perm.nodup_iff.mpr distinct
  have placed : order.Pairwise (newestFirst (fun m => order.idxOf m)) := by
    rw [List.pairwise_iff_getElem] at sorted ⊢
    intro i j hi hj before
    have times := sorted i j hi hj before
    simp only [newestFirst, unique.idxOf_getElem i hi, unique.idxOf_getElem j hj]
    omega
  have antisymm : ∀ a b, a ∈ ranked (fun m => order.idxOf m) rows → b ∈ order →
      newestFirst (fun m => order.idxOf m) a b → newestFirst (fun m => order.idxOf m) b a →
        a = b := by
    intro a b there here first second
    simp only [newestFirst] at first second
    have same : order.idxOf a = order.idxOf b := by omega
    have inside : a ∈ order := perm.mem_iff.mpr ((ranked_perm _ rows).mem_iff.mp there)
    exact (List.idxOf_inj inside).mp same
  exact ((ranked_perm _ rows).trans perm.symm).eq_of_pairwise antisymm
    (List.pairwise_insertionSort _ rows) placed

theorem permitted_iff (distinct : (stored t r).Nodup) (limit : Int) (now : Int)
    (rows : List Message) :
    Permitted t r limit.toNat rows ↔
      ∃ rank, rows = t.answer ⟨none, now, rank⟩ (.findLatestByRoomId r limit) := by
  constructor
  · intro permitted
    obtain ⟨order, perm, sorted, same⟩ := permitted
    refine ⟨fun m => order.idxOf m, ?_⟩
    have whole := ranked_of_order distinct perm sorted
    rw [same]
    exact congrArg (List.take limit.toNat) whole.symm
  · intro answered
    obtain ⟨rank, same⟩ := answered
    exact ⟨ranked rank (stored t r), ranked_perm _ _, ranked_sorted _ _, same⟩

/-- The time that a shown message carries, back in nanoseconds. -/
def sentAt (m : MessageBroadcast) : Int :=
  match m.timestamp with
  | some time => time.seconds * 1000000000 + time.nanos
  | none => 0

theorem sentAt_shown (roomname : String) (msg : Message) :
    sentAt (shown t roomname msg) = msg.createdAt := by
  have parts := Int.mul_tdiv_add_tmod msg.createdAt 1000000000
  simp only [sentAt, shown, historyEntry, convertTimePointToTimestamp]
  omega

theorem descending_shown (roomname : String) (order : List Message) :
    Descending sentAt (order.map (shown t roomname)) ↔
      order.Pairwise (fun a b => b.createdAt ≤ a.createdAt) := by
  simp only [Descending, List.pairwise_map, sentAt_shown]

theorem newest_iff_byTime (roomname : String) (limit : Nat) :
    Newest sentAt ((stored t r).map (shown t roomname)) limit ↔
      NewestByTime t roomname r limit := by
  constructor
  · intro newest earlier msg later same few old member
    have split : (stored t r).map (shown t roomname) =
        earlier.map (shown t roomname) ++ shown t roomname msg :: later.map (shown t roomname) := by
      simp [same]
    have compared := newest _ _ _ split (by simpa using few) _ (List.mem_map_of_mem member)
    rwa [sentAt_shown, sentAt_shown] at compared
  · intro newest earlier row later same few old member
    obtain ⟨before, behind, parts, first, second⟩ := List.map_eq_append_iff.mp same
    obtain ⟨msg, rest, end_part, row_shown, later_shown⟩ := List.map_eq_cons_iff.mp second
    subst end_part row_shown later_shown first
    obtain ⟨from_msg, inside, old_shown⟩ := List.mem_map.mp member
    subst old_shown
    have compared := newest before msg rest parts (by simpa using few) from_msg inside
    rwa [sentAt_shown, sentAt_shown]

theorem answered_quiet {choices : Nat → Choice database} (quiet : Undisturbed choices) (n : Nat)
    (q : Query) (admits : t.Admits q) :
    answered (choices n) q t = .ok (t.answer (choices n).store q) := by
  simp [answered, database, quiet n, admits, catchLadder]

theorem namedHistory_quiet {choices : Nat → Choice database} (quiet : Undisturbed choices)
    (roomname : String) (rows : List Message) :
    namedHistory roomname rows choices t = some (rows.map (shown t roomname)) := by
  induction rows generalizing choices with
  | nil => rfl
  | cons msg rest ih =>
    have after_one : Undisturbed (later choices) := fun n => quiet (n + 1)
    have after_two : Undisturbed (later (later choices)) := fun n => quiet (n + 2)
    have looked : ∀ n, answered (choices n) (.findByUserId msg.senderId) t =
        .ok (t.users.findId msg.senderId) := fun n => answered_quiet quiet n _ trivial
    simp only [namedHistory, looked]
    cases found : t.users.findId msg.senderId with
    | none => simp [ih after_one, shown, shownName, found]
    | some user => simp [ih after_two, shown, shownName, found]

section Requests
variable {w : World database} {session : SessionId} {userId : Int} {username : String}
  {m : HistoryMessageRequest}

theorem output_history {choices : Nat → Choice database} (quiet : Undisturbed choices)
    (who : (w.server.session session).identity = some (userId, username))
    (inside : w.server.roomService.userToRoomMap[userId]? = some m.roomName) :
    (handleHistoryRequest session m).output (chat database) choices w =
      [(session, envelope (.historyMessageResponse ⟨m.roomName,
        (((ranked (choices 5).store.rank
          (stored w.store (w.server.roomService.getUserCurrentRoomId userId))).take
            (rowLimit m)).reverse).map (shown w.store m.roomName)⟩))] := by
  obtain ⟨present, id, -⟩ := identity_some who
  have rows := answered_quiet (t := w.store) quiet 5 (.findLatestByRoomId
    (w.server.roomService.getUserCurrentRoomId userId) (if 0 < m.limit then m.limit else 50)) trivial
  have named := fun messages =>
    namedHistory_quiet (t := w.store) (fun n => quiet (n + 6)) m.roomName messages
  have sends : ∀ history (choices : Nat → Choice database),
      (call (.send session (envelope (.historyMessageResponse ⟨m.roomName, history⟩)))).output
        (chat database) choices w =
      [(session, envelope (.historyMessageResponse ⟨m.roomName, history⟩))] := by
    intro history choices
    simp
  have output := fun messages =>
    output_historyMessages m.roomName messages (fun n => choices (n + 6)) _ _ sends
  unfold answered at rows
  unfold handleHistoryRequest
  simp only [perform_bind, output_call, callEmit, callAnswer, present, ↓reduceIte, id, fieldOr,
    serverNext, storeNext, List.nil_append, inside, decide_true, later_apply]
  simp only [Nat.reduceAdd, zero_add, rows]
  have answer := output (w.store.answer (choices 5).store (.findLatestByRoomId
    (w.server.roomService.getUserCurrentRoomId userId)
    (if 0 < m.limit then m.limit else 50))).reverse
  rw [named] at answer
  exact answer

/-- The response is right for every order exactly when the latest messages are the newest
    by time. -/
theorem history_latest_iff
    (who : (w.server.session session).identity = some (userId, username))
    (inside : w.server.roomService.userToRoomMap[userId]? = some m.roomName)
    (keys : (w.store.messages.map Message.id).Nodup) :
    ListsLatest w session m (w.server.roomService.getUserCurrentRoomId userId) ↔
      NewestByTime w.store m.roomName (w.server.roomService.getUserCurrentRoomId userId)
        (rowLimit m) := by
  have distinct : (stored w.store (w.server.roomService.getUserCurrentRoomId userId)).Nodup :=
    (List.Nodup.of_map _ keys).filter _
  have by_time := newest_iff_byTime (t := w.store) m.roomName
    (rowLimit m) (r := w.server.roomService.getUserCurrentRoomId userId)
  apply Iff.trans _ ((newest_view_iff (shown w.store m.roomName) _ (rowLimit m)).trans by_time)
  constructor
  · intro lists order perm sorted
    have times := (descending_shown m.roomName order).mp sorted
    let choices : Nat → Choice database :=
      fun _ => ⟨⟨none, 0, fun msg => order.idxOf msg⟩, none, ⟨0, 0⟩⟩
    have quiet : Undisturbed choices := fun _ => rfl
    have said := (output_history quiet who inside).symm.trans (lists choices quiet)
    rw [ranked_of_order distinct perm times] at said
    simpa [latest, envelope] using said
  · intro gives choices quiet
    have sorted : Descending sentAt ((ranked (choices 5).store.rank
        (stored w.store (w.server.roomService.getUserCurrentRoomId userId))).map
          (shown w.store m.roomName)) := (descending_shown _ _).mpr (ranked_sorted _ _)
    rw [output_history quiet who inside, gives _ (ranked_perm _ _) sorted]
    rfl

end Requests

end Orders

section Seconds

local instance : Collation := ⟨id⟩

def twoMessages (first second : Int) : Tables :=
  database.next ⟨none, second, fun _ => 0⟩ (.addMessage ⟨0, 1, 1, "two", 0⟩)
    (database.next ⟨none, first, fun _ => 0⟩ (.addMessage ⟨0, 1, 1, "one", 0⟩)
      (database.next ⟨none, 0, fun _ => 0⟩ (.addRoom ⟨0, "hall", 1⟩)
        (database.next ⟨none, 0, fun _ => 0⟩ (.addUser ⟨0, "ann", "pw", ""⟩) .empty)))

def annInHall (first second : Int) : World database :=
  ⟨serverNext (.createRoom 1 "hall" 1 1) (Server.start.registerAuthenticatedSession 1 1 "ann"),
    twoMessages first second⟩

theorem history_latest_iff_two_seconds :
    ListsLatest (annInHall 0 1000000000) 1 ⟨"hall", 20⟩ 1 ↔
      NewestByTime (annInHall 0 1000000000).store "hall" 1 20 := by
  have room : (annInHall 0 1000000000).server.roomService.getUserCurrentRoomId 1 = 1 := by decide
  have who : ((annInHall 0 1000000000).server.session 1).identity = some (1, "ann") := by decide
  have inside : (annInHall 0 1000000000).server.roomService.userToRoomMap[(1 : Int)]? =
      some "hall" := by decide
  have exactly := history_latest_iff who (m := ⟨"hall", 20⟩) inside (by decide)
  rw [room] at exactly
  exact exactly

/-- Two messages of one second, which the database may give in either order. -/
theorem one_second_out_of_order : ¬ ListsLatest (annInHall 0 0) 1 ⟨"hall", 20⟩ 1 := by
  intro lists
  have shows := lists (fun _ => ⟨⟨none, 0, fun msg => msg.id.toNat⟩, none, ⟨0, 0⟩⟩) (fun _ => rfl)
  revert shows
  decide

end Seconds

end HistoryOrder
