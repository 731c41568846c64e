import ChatServer.Atomic.ExpectedAnswers
import ChatServer.Sessions.Links
import ChatServer.Sessions.SentTexts

/-!
The server with everybody connected to it. A session that passes on an envelope posts its
dispatch, one that closes posts the disconnect, and what a handler sends goes to the
session's socket; the workers, the sockets and the clients take turns in any way.
-/
namespace ChatDeployment
open AtomicCalls EventRuns WorkerPool ExpectedAnswers ProtoWire LengthFrames ChatProtocol ChatState
  ChatCalls ChatServices ChatWire SessionStreams StreamFraming ConnectionLinks SentTexts

abbrev Link (parse : Bytes → Option Envelope) :=
  Connection (clientEndpoint parse) (sessionEndpoint parse)

/-- `jobs` are all that were ever posted, in order. -/
structure Deployment (parse : Bytes → Option Envelope) (E : Environment) where
  pool : Pool (chat E) Job
  link : SessionId → Link parse
  jobs : List Job

/-- Something happens on a connection, or a worker takes a step. A job that is posted
    meets the choices. -/
inductive Happening (E : Environment) where
  | traffic (id : SessionId) (event : ConnectionLinks.Event) (choices : Nat → Choice E)
  | start
  | advance (place : Nat)

def jobOf (id : SessionId) : Action → Option Job
  | .message e => some (.dispatch id e)
  | .disconnect => some (.disconnect id)
  | _ => none

variable {parse : Bytes → Option Envelope} {E : Environment}

def sessionActions (c : Link parse) : ConnectionLinks.Event → List Action
  | .session act => (c.session.event act).elim [] (actionsOf c.session.wire)
  | _ => []

def forSession (id : SessionId) (sent : List (SessionId × Envelope)) : List Envelope :=
  sent.filterMap (fun m => if m.1 = id then some m.2 else none)

def sendEvents (sent : List Envelope) : List ConnectionLinks.Event :=
  sent.map (fun e => .session (.send e))

def outputs (log : List (Entry (chat E) Job)) : List (SessionId × Envelope) :=
  log.flatMap (fun e => e.event.output)

def Deployment.start (w : World E) : Deployment parse E := ⟨.idle w, fun _ => .start _ _, []⟩

section Steps
variable [Sha256] [Serializer] (workers : Nat)

def Deployment.post (d : Deployment parse E) (job : Job) (choices : Nat → Choice E) : Deployment parse E :=
  { d with
    pool := d.pool.step workers Job.handler (.post job choices)
    jobs := d.jobs ++ [job] }

def Deployment.traffic (d : Deployment parse E) (id : SessionId) (event : ConnectionLinks.Event)
    (choices : Nat → Choice E) : Deployment parse E :=
  ((sessionActions (d.link id) event).filterMap (jobOf id)).foldl
    (fun d job => d.post workers job choices)
    { d with link := Function.update d.link id ((d.link id).step event) }

def Deployment.advance (d : Deployment parse E) (place : Nat) : Deployment parse E :=
  let pool := d.pool.advance place
  { d with
    pool := pool
    link := fun id => after Connection.step (d.link id)
      (sendEvents (forSession id (outputs (pool.log.drop d.pool.log.length)))) }

/-- Only the handlers call `Session::send`. -/
def Deployment.step (d : Deployment parse E) : Happening E → Deployment parse E
  | .traffic id event choices => match sessionSend event with
    | some _ => d
    | none => d.traffic workers id event choices
  | .start => { d with pool := d.pool.start workers }
  | .advance place => d.advance place

variable (parse) in
def deploymentAfter (w : World E) (happenings : List (Happening E)) : Deployment parse E :=
  after (Deployment.step workers) (.start w) happenings

end Steps

def clientSends (id : SessionId) : Happening E → Option Envelope
  | .traffic other event _ => if other = id then clientSend event else none
  | _ => none

def requestOf (id : SessionId) : Job → Option Envelope
  | .dispatch session e => if session = id then some e else none
  | .disconnect _ => none

section Sessions

def sessionOf (w : Wire (sessionEndpoint parse)) : SessionStreams.Session := w.endpoint

def closedCount (w : Wire (sessionEndpoint parse)) : Nat :=
  if (sessionOf w).isClosed then 1 else 0

variable [Serializer]

theorem session_step (c : Link parse) (event : ConnectionLinks.Event) :
    (c.step event).session.wire.dispatched =
      c.session.wire.dispatched ++ (sessionActions c event).filterMap messageOf := by
  cases event with
  | session act =>
    simp only [Connection.step, sessionActions, step_event]
    cases c.session.event act with
    | none => simp
    | some brings => exact (wireStep_endpoint c.session.wire brings).2
  | toSession count =>
    exact (wireStep_endpoint c.session.wire
      (.arrive ((c.client.out.drop c.session.wire.arrived.length).take count))).2
  | _ => simp [Connection.step, sessionActions]

omit [Serializer] in
theorem closes_wire (w : Wire (sessionEndpoint parse)) (event : WireEvent) :
    (actionsOf w event).count .disconnect + closedCount w = closedCount (wireStep w event) := by
  unfold closedCount sessionOf
  rw [(wireStep_endpoint w event).1, actionsOf]
  cases completionOf w event with
  | none => exact Nat.zero_add _
  | some completion =>
    have counted : ((sessionOf w).actions parse completion).count .disconnect = _ :=
      count_disconnect_step (sessionOf w) completion
    have closes := closed_step parse (sessionOf w) completion
    change ((sessionOf w).actions parse completion).count .disconnect +
      (if (sessionOf w).isClosed then 1 else 0) =
        if ((sessionOf w).next parse completion).isClosed then 1 else 0
    rw [counted]
    cases was : (sessionOf w).isClosed <;> simp [was] at closes ⊢ <;> simp [closes]

theorem closes_once (c : Link parse) (event : ConnectionLinks.Event) :
    (sessionActions c event).count .disconnect + closedCount c.session.wire =
      closedCount (c.step event).session.wire := by
  cases event with
  | session act =>
    simp only [Connection.step, sessionActions, step_event]
    cases c.session.event act with
    | none => exact Nat.zero_add _
    | some brings => exact closes_wire c.session.wire brings
  | toSession count => exact closes_wire c.session.wire (.arrive _)
  | _ => exact Nat.zero_add _

theorem session_sendEvents (c : Link parse) (sent : List Envelope) :
    after Connection.step c (sendEvents sent) =
      { c with session := { c.session with
          sent := c.session.sent ++ sent
          strand := c.session.strand ++ sent.map package } } := by
  induction sent generalizing c with
  | nil => simp [sendEvents, after]
  | cons e rest ih =>
    have here := ih (c.step (.session (.send e)))
    simp only [Connection.step, Peer.step, List.append_assoc, List.singleton_append] at here
    exact here

end Sessions

section Jobs

theorem requestOf_jobOf (id : SessionId) (actions : List Action) :
    (actions.filterMap (jobOf id)).filterMap (requestOf id) = actions.filterMap messageOf := by
  rw [List.filterMap_filterMap]
  congr 1
  funext action
  cases action <;> simp [jobOf, requestOf, messageOf]

theorem requestOf_other {id other : SessionId} (apart : id ≠ other) (actions : List Action) :
    (actions.filterMap (jobOf id)).filterMap (requestOf other) = [] := by
  rw [List.filterMap_filterMap, List.filterMap_eq_nil_iff]
  intro action _
  cases action <;> simp [jobOf, requestOf, apart]

theorem count_jobOf (id : SessionId) (actions : List Action) :
    (actions.filterMap (jobOf id)).count (.disconnect id) = actions.count .disconnect := by
  induction actions with
  | nil => rfl
  | cons action rest ih =>
    cases action with
    | message e => simpa [jobOf] using ih
    | disconnect => simpa [jobOf] using ih
    | _ =>
      rw [List.filterMap_cons_none rfl, List.count_cons_of_ne (by simp)]
      exact ih

theorem count_other {id other : SessionId} (apart : id ≠ other) (actions : List Action) :
    (actions.filterMap (jobOf id)).count (.disconnect other) = 0 := by
  rw [List.count_eq_zero]
  intro there
  obtain ⟨action, _, posts⟩ := List.mem_filterMap.mp there
  cases action <;> simp [jobOf, apart] at posts

end Jobs

section Pools

theorem log_grows (p : Pool (chat E) Job) (place : Nat) :
    (p.advance place).log = p.log ++ (p.advance place).log.drop p.log.length := by
  have inside : p.log <+: (p.advance place).log := by
    cases here : p.running[place]? with
    | none => rw [advance_idle here]
    | some t =>
      cases program : t.rest with
      | done u => rw [advance_done here program]
      | call c rest =>
        cases answer : (chat E).answer (t.choices 0) c p.state with
        | ok a =>
          rw [advance_ok here program answer]
          exact List.prefix_append _ _
        | error e =>
          rw [advance_error here program answer]
          exact List.prefix_append _ _
  obtain ⟨more, whole⟩ := inside
  rw [← whole, List.drop_left]

theorem outputs_advance (p : Pool (chat E) Job) (place : Nat) :
    outputs (p.advance place).log =
      outputs p.log ++ outputs ((p.advance place).log.drop p.log.length) := by
  have grows := log_grows p place
  unfold outputs
  rw [← List.flatMap_append, ← grows]

theorem start_log (p : Pool (chat E) Job) (workers : Nat) : (p.start workers).log = p.log := by
  simp only [Pool.start]
  split
  · rfl
  · split <;> rfl

theorem forSession_append (id : SessionId) (first second : List (SessionId × Envelope)) :
    forSession id (first ++ second) = forSession id first ++ forSession id second :=
  List.filterMap_append

end Pools

section Tracks
variable [Serializer]

/-- What the jobs, the sockets and the log say of one another. -/
structure Tracks (d : Deployment parse E) : Prop where
  linked : ∀ id, Linked (d.link id)
  answered : ∀ id, (d.link id).session.sent = forSession id (outputs d.pool.log)
  asked : ∀ id, d.jobs.filterMap (requestOf id) = (d.link id).session.wire.dispatched
  closed : ∀ id, d.jobs.count (.disconnect id) = closedCount (d.link id).session.wire

theorem tracks_start (w : World E) : Tracks (.start w : Deployment parse E) := by
  constructor
  · exact fun id => linked_start _ _
  · exact fun id => rfl
  · exact fun id => rfl
  · exact fun id => rfl

theorem tracks_advance {d : Deployment parse E} (tracks : Tracks d) (place : Nat) :
    Tracks (d.advance place) := by
  have sends := fun id => session_sendEvents (d.link id)
    (forSession id (outputs ((d.pool.advance place).log.drop d.pool.log.length)))
  constructor
  · exact fun id => linked_after (tracks.linked id) _
  · intro id
    simp only [Deployment.advance, sends, tracks.answered]
    rw [← forSession_append, ← outputs_advance]
  · intro id
    simp only [Deployment.advance, sends, tracks.asked]
  · intro id
    simp only [Deployment.advance, sends, tracks.closed]

end Tracks

section Runs
variable [Sha256] [Serializer] (workers : Nat)

def postMove (choices : Nat → Choice E) (job : Job) : Move (chat E) Job := .post job choices

omit [Serializer] in
theorem posts_all (d : Deployment parse E) (jobs : List Job) (choices : Nat → Choice E) :
    jobs.foldl (fun d job => d.post workers job choices) d =
      { d with
        pool := d.pool.run workers Job.handler (jobs.map (postMove choices))
        jobs := d.jobs ++ jobs } := by
  induction jobs generalizing d with
  | nil => simp [Pool.run]
  | cons job rest ih =>
    rw [List.foldl_cons, ih]
    simp [Deployment.post, Pool.run, postMove]

omit [Serializer] in
theorem posts_log (p : Pool (chat E) Job) (jobs : List Job) (choices : Nat → Choice E) :
    (p.run workers Job.handler (jobs.map (postMove choices))).log = p.log := by
  induction jobs generalizing p with
  | nil => rfl
  | cons job rest ih => exact ih (p.step workers Job.handler (postMove choices job))

theorem tracks_traffic {d : Deployment parse E} (tracks : Tracks d) (id : SessionId)
    {event : ConnectionLinks.Event} (arrives : sessionSend event = none)
    (choices : Nat → Choice E) : Tracks (d.traffic workers id event choices) := by
  rw [Deployment.traffic, posts_all]
  constructor
  · intro other
    by_cases same : other = id
    · subst same
      simpa using linked_step (tracks.linked other) event
    · simpa [same] using tracks.linked other
  · intro other
    simp only [posts_log]
    by_cases same : other = id
    · subst same
      have sent := session_sent (d.link other) [event]
      rw [List.filterMap_cons_none arrives, List.filterMap_nil, List.append_nil] at sent
      have kept : ((d.link other).step event).session.sent = (d.link other).session.sent := sent
      rw [Function.update_self, kept]
      exact tracks.answered other
    · simpa [same] using tracks.answered other
  · intro other
    simp only [List.filterMap_append]
    by_cases same : other = id
    · subst same
      rw [requestOf_jobOf, tracks.asked, Function.update_self, session_step]
    · rw [requestOf_other (fun back => same back.symm), tracks.asked, List.append_nil,
        Function.update_of_ne same]
  · intro other
    simp only [List.count_append]
    by_cases same : other = id
    · subst same
      rw [count_jobOf, tracks.closed, Function.update_self, ← closes_once, Nat.add_comm]
    · rw [count_other (fun back => same back.symm), tracks.closed, Nat.add_zero,
        Function.update_of_ne same]

theorem tracks_step {d : Deployment parse E} (tracks : Tracks d) (happening : Happening E) :
    Tracks (d.step workers happening) := by
  cases happening with
  | traffic id event choices =>
    simp only [Deployment.step]
    cases arrives : sessionSend event with
    | some e => exact tracks
    | none => exact tracks_traffic workers tracks id arrives choices
  | start =>
    constructor
    · exact tracks.linked
    · intro id
      simp only [Deployment.step, start_log]
      exact tracks.answered id
    · exact tracks.asked
    · exact tracks.closed
  | advance place => exact tracks_advance tracks place

variable (parse) in
theorem tracks_after (w : World E) (happenings : List (Happening E)) :
    Tracks (deploymentAfter parse workers w happenings) := by
  induction happenings using List.reverseRecOn with
  | nil => exact tracks_start w
  | append_singleton happenings happening ih =>
    rw [deploymentAfter, after_snoc]
    exact tracks_step workers ih happening

theorem step_client_sent (d : Deployment parse E) (happening : Happening E) (id : SessionId) :
    ((d.step workers happening).link id).client.sent =
      (d.link id).client.sent ++ (clientSends id happening).toList := by
  cases happening with
  | traffic other event choices =>
    simp only [Deployment.step, clientSends]
    cases arrives : sessionSend event with
    | some e =>
      have quiet : clientSend event = none := by
        cases event with
        | client act => cases arrives
        | _ => rfl
      simp [quiet]
    | none =>
      simp only [Deployment.traffic, posts_all]
      by_cases same : other = id
      · subst same
        rw [Function.update_self, if_pos rfl, client_sent_step]
      · rw [Function.update_of_ne (fun back => same back.symm), if_neg same]
        simp
  | start => simp [Deployment.step, clientSends]
  | advance place =>
    simp only [Deployment.step, Deployment.advance, session_sendEvents, clientSends,
      Option.toList_none, List.append_nil]

theorem clients_sent (w : World E) (happenings : List (Happening E)) (id : SessionId) :
    ((deploymentAfter parse workers w happenings).link id).client.sent =
      happenings.filterMap (clientSends id) := by
  induction happenings using List.reverseRecOn with
  | nil => rfl
  | append_singleton happenings happening ih =>
    rw [deploymentAfter, after_snoc, step_client_sent, List.filterMap_append]
    change ((deploymentAfter parse workers w happenings).link id).client.sent ++ _ = _
    rw [ih]
    cases sends : clientSends id happening <;> simp [sends]

def postedJob : Move (chat E) Job → Option Job
  | .post job _ => some job
  | _ => none

/-- The pool of the deployed server does what a pool does by itself, for these jobs. -/
structure RunsPool (w : World E) (d : Deployment parse E) (moves : List (Move (chat E) Job)) :
    Prop where
  pool : d.pool = (Pool.idle w).run workers Job.handler moves
  jobs : moves.filterMap postedJob = d.jobs

omit [Serializer] in
theorem runsPool_snoc {w : World E} {d d' : Deployment parse E} {moves more : List (Move (chat E) Job)}
    (runs : RunsPool workers w d moves) (pool : d'.pool = d.pool.run workers Job.handler more)
    (jobs : d'.jobs = d.jobs ++ more.filterMap postedJob) :
    RunsPool workers w d' (moves ++ more) := by
  constructor
  · rw [pool, runs.pool, Pool.run, Pool.run, Pool.run, List.foldl_append]
  · rw [jobs, List.filterMap_append, runs.jobs]

theorem runsPool_step {w : World E} {d : Deployment parse E} {moves : List (Move (chat E) Job)}
    (runs : RunsPool workers w d moves) (happening : Happening E) :
    ∃ more, RunsPool workers w (d.step workers happening) (moves ++ more) := by
  cases happening with
  | traffic id event choices =>
    simp only [Deployment.step]
    cases sessionSend event with
    | some e => exact ⟨[], by simpa using runs⟩
    | none =>
      refine ⟨((sessionActions (d.link id) event).filterMap (jobOf id)).map (postMove choices),
        runsPool_snoc workers runs ?_ ?_⟩
      · rw [Deployment.traffic, posts_all]
      · rw [Deployment.traffic, posts_all, List.filterMap_map]
        have posted : postedJob ∘ postMove (E := E) choices = some := rfl
        rw [posted, List.filterMap_some]
  | start => exact ⟨[.start], runsPool_snoc workers runs rfl (by simp [Deployment.step, postedJob])⟩
  | advance place =>
    exact ⟨[.advance place], runsPool_snoc workers runs rfl
      (by simp [Deployment.step, Deployment.advance, postedJob])⟩

variable (parse) in
theorem runsPool_after (w : World E) (happenings : List (Happening E)) :
    ∃ moves, RunsPool workers w (deploymentAfter parse workers w happenings) moves := by
  induction happenings using List.reverseRecOn with
  | nil => exact ⟨[], rfl, rfl⟩
  | append_singleton happenings happening ih =>
    obtain ⟨moves, runs⟩ := ih
    rw [deploymentAfter, after_snoc]
    obtain ⟨more, longer⟩ := runsPool_step workers runs happening
    exact ⟨moves ++ more, longer⟩

structure Due (jobs : List Job) (job : Job) (c : Call) : Prop where
  posted : job ∈ jobs
  sends : JobSends job c

omit [Serializer] in
theorem made_due {w : World E} {d : Deployment parse E} {moves : List (Move (chat E) Job)}
    (runs : RunsPool workers w d moves) :
    ∀ entry ∈ d.pool.log, Due d.jobs entry.tag entry.event.call := by
  rw [runs.pool]
  apply made_of_uses
  intro job choices there
  have posted : job ∈ d.jobs := by
    rw [← runs.jobs]
    exact List.mem_filterMap.mpr ⟨_, there, rfl⟩
  exact uses_mono (fun c sends => ⟨posted, sends⟩) (uses_job job)

section Results
variable (w : World E) (happenings : List (Happening E))

theorem jobs_asked (id : SessionId) :
    (deploymentAfter parse workers w happenings).jobs.filterMap (requestOf id) <+:
      Through parse (happenings.filterMap (clientSends id)) := by
  have tracks := tracks_after parse workers w happenings
  rw [tracks.asked, ← clients_sent workers w happenings id]
  exact conveyed_begins (tracks.linked id).requests

/-- The handlers run for what the session parsed of the first requests that a client sent,
    each once and in order, and for the end of a session once at most; otherwise the workers
    run as if the jobs had been posted by hand. -/
theorem requests_served_once (parse : Bytes → Option Envelope) :
    (∃ moves, RunsPool workers w (deploymentAfter parse workers w happenings) moves) ∧
      ∀ id, (deploymentAfter parse workers w happenings).jobs.filterMap (requestOf id) <+:
          Through parse (happenings.filterMap (clientSends id)) ∧
        (deploymentAfter parse workers w happenings).jobs.count (.disconnect id) ≤ 1 := by
  refine ⟨runsPool_after parse workers w happenings, ?_⟩
  intro id
  refine ⟨jobs_asked workers w happenings id, ?_⟩
  rw [(tracks_after parse workers w happenings).closed id]
  unfold closedCount
  split <;> omega

variable {w happenings}

variable (parse happenings) in
/-- The client has sent an envelope that its session parses as the request. -/
def Asked (id : SessionId) (request : Envelope) : Prop :=
  ∃ sent ∈ happenings.filterMap (clientSends id), parse (serialize sent) = some request

theorem made_asked {entry : Entry (chat E) Job}
    (made : entry ∈ (deploymentAfter parse workers w happenings).pool.log) {id : SessionId}
    {request : Envelope} (tag : entry.tag = .dispatch id request) :
    Asked parse happenings id request := by
  obtain ⟨moves, runs⟩ := runsPool_after parse workers w happenings
  have posted := (made_due workers runs entry made).posted
  rw [tag] at posted
  have job : request ∈
      (deploymentAfter parse workers w happenings).jobs.filterMap (requestOf id) :=
    List.mem_filterMap.mpr ⟨_, posted, by simp [requestOf]⟩
  exact mem_through ((jobs_asked workers w happenings id).subset job)

/-- A handler has sent the envelope, and the client parses it as what it is shown. -/
structure ShownFrom (d : Deployment parse E) (id : SessionId) (e sent : Envelope) : Prop where
  parsed : parse (serialize sent) = some e
  emitted : ∃ entry ∈ d.pool.log, (id, sent) ∈ entry.event.output

theorem shown_emitted {id : SessionId} {e : Envelope}
    (shown : e ∈ ((deploymentAfter parse workers w happenings).link id).client.wire.dispatched) :
    ∃ sent, ShownFrom (deploymentAfter parse workers w happenings) id e sent := by
  have tracks := tracks_after parse workers w happenings
  have received := (conveyed_begins (tracks.linked id).responses).subset shown
  rw [tracks.answered id] at received
  obtain ⟨sent, there, read⟩ := mem_through received
  obtain ⟨m, emitted, same⟩ := List.mem_filterMap.mp there
  obtain ⟨entry, made, here⟩ := List.mem_flatMap.mp emitted
  split at same
  · rename_i receiver
    cases Option.some.inj same
    cases receiver
    exact ⟨_, read, entry, made, here⟩
  · cases same

end Results

/-- A client passes on what it parses of the first envelopes that the handlers sent to its
    session, each once and in the order they were sent, and of all of them when nothing is
    under way any more. -/
theorem answers_in_order (parse : Bytes → Option Envelope) (w : World E)
    (happenings : List (Happening E)) (id : SessionId) :
    ((deploymentAfter parse workers w happenings).link id).client.wire.dispatched <+:
        Through parse
          (forSession id (outputs (deploymentAfter parse workers w happenings).pool.log)) ∧
      (Delivered ((deploymentAfter parse workers w happenings).link id).session
          ((deploymentAfter parse workers w happenings).link id).client →
        ((deploymentAfter parse workers w happenings).link id).client.wire.dispatched =
          Through parse
            (forSession id (outputs (deploymentAfter parse workers w happenings).pool.log))) := by
  have tracks := tracks_after parse workers w happenings
  rw [← tracks.answered id]
  constructor
  · exact conveyed_begins (tracks.linked id).responses
  · exact conveyed_all (tracks.linked id).responses

/-- Clients are shown what handlers sent to them, and no handler sends out a text of which
    no client sent a request. -/
def Authentic (d : Deployment parse E) (happenings : List (Happening E)) : Prop :=
  ∀ id, ∀ e ∈ (d.link id).client.wire.dispatched, ∃ sent, ShownFrom d id e sent ∧
    ∀ b, sent.payload = some (.messageBroadcast b) →
      ∃ sender request, Asked parse happenings sender request ∧
        contentOf request = some b.content

theorem broadcasts_authentic (parse : Bytes → Option Envelope) (w : World E)
    (happenings : List (Happening E)) :
    Authentic (deploymentAfter parse workers w happenings) happenings := by
  intro id e shown
  obtain ⟨sent, source⟩ := shown_emitted workers shown
  obtain ⟨entry, made, emitted⟩ := source.emitted
  refine ⟨sent, source, ?_⟩
  intro b broadcast
  obtain ⟨moves, runs⟩ := runsPool_after parse workers w happenings
  have allowed := (made_due workers runs entry made).sends
  cases tag : entry.tag with
  | dispatch sender request =>
    rw [tag] at allowed
    have text := carries_emitted allowed entry.event.state.server _ emitted b broadcast
    exact ⟨sender, request, made_asked workers made tag, text⟩
  | disconnect left =>
    rw [tag] at allowed
    have text := carries_emitted allowed entry.event.state.server _ emitted b broadcast
    cases text

end Runs

end ChatDeployment
