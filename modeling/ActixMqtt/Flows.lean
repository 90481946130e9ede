import ActixMqtt.Core

/-! # One flow of a client

The actors of the publish status map, told only what concerns one identifier: messages
from the other actors, the passing of time, and the attempts at a publish that take this
identifier. `mirrors_run` takes every run of a client to a run of the flow in which the
handlers, timers and retries of the other identifiers do not occur.
-/

namespace ActixMqtt

open ActorSystem

/-! ## Identifiers of what is in flight -/

/-- The identifier of a packet that belongs to a publish; level 0 has 0. -/
def VariablePacket.flow : VariablePacket → Option UInt16
  | .publish packet =>
      match packet.qos with
      | .level0 => some 0
      | .level1 id | .level2 id => some id
  | .puback id | .pubrec id | .pubrel id | .pubcomp id => some id
  | _ => none

def Request.flow : Request → Option UInt16
  | .packet msg => msg.packet.flow
  | _ => none

def Body.flow : Body → Option UInt16
  | .request req => req.flow
  | .publishStatus op _ => some op.key
  | _ => none

def Future.flow (future : Future) : Option UInt16 := future.question.2.flow

def Job.flow : Job → Option UInt16
  | .resend _ _ req => req.flow
  | .timer _ _ future | .spawned future | .resumed future _ => future.flow
  | .notify _ => none

/-- The identifier that an attempt at a publish takes. -/
def attemptFlow (env : Env) (counter : Nat) (msg : Publish) : UInt16 :=
  if msg.qos = .level0 || msg.retryCount > maxRetryCount ||
    (env.topicNameError msg.topic).isSome then 0 else (nextId env.wordBits counter).1

/-! ## The flow -/

/-- What a flow gets from its surroundings. -/
inductive FlowInput where
  | enter (a : Actor) (m : Msg)
  | clock (now : Nat)
  /-- SendPublishActor handles a publish, with the process-wide counter at that moment. -/
  | attempt (counter : Nat) (origin : Origin) (msg : Publish)
  deriving DecidableEq, Repr

abbrev FlowWorld := World Actor Msg Task FlowInput Event State

abbrev FlowLabel := Label Actor Msg Task FlowInput

/-- A publish that is to be attempted again has no identifier yet. -/
def leaves : ClientEffect → Bool
  | .post .sendPublish _ | .spawn ⟨_, .resend _ .sendPublish _⟩ => true
  | _ => false

def inside (reaction : State × Out) : State × Out :=
  (reaction.1, reaction.2.filter fun e => !leaves e)

def flowSystem (env : Env) : System Actor Msg Task FlowInput Event State where
  handle a m res s := inside (handle env a m res s)
  resume t res s := inside (resume env t res s)
  accept i res s := match i with
    | .enter a m => some (s, [.post a m])
    | .clock now => some ({ s with now := now }, [])
    | .attempt counter o msg => some <| inside <|
        handle env .sendPublish ⟨o, .request (.publish msg)⟩ res { s with counter := counter }
  ready := ready
  owner := owner
  orphan := orphan

/-- A step of a flow and what its try_sends return. -/
structure FlowMove where
  label : FlowLabel
  res : Actor → Option SendError

def flowStep (env : Env) (v : FlowWorld) (mv : FlowMove) : Option FlowWorld :=
  v.fire (flowSystem env) mv.res mv.label

def flowInit (env : Env) (seed : Nat) : FlowWorld where
  live := (init env seed).live
  mail _ := []
  tasks := []
  log := []
  state := (init env seed).state

/-- The identifier of a move; a StopMessage and the clock have none. -/
def FlowMove.flow (env : Env) (mv : FlowMove) : Option UInt16 :=
  match mv.label with
  | .take _ m | .give (.enter _ m) => m.body.flow
  | .run t => t.job.flow
  | .give (.clock _) => none
  | .give (.attempt counter _ msg) => some (attemptFlow env counter msg)

/-! ## What is kept of a run -/

/-- The message is a StopMessage or has the identifier. -/
def Body.concerns (id : UInt16) (b : Body) : Bool := b = .stop || b.flow = some id

/-- The message enters the flow from the other actors. -/
def enters (id : UInt16) : ClientEffect → Option FlowMove
  | .post a m =>
      if a.core && m.body.concerns id then some ⟨.give (.enter a m), fun _ => none⟩ else none
  | _ => none

/-- What the flow notices of a step of another actor. -/
def fromOutside (env : Env) (id : UInt16) (w : ClientWorld) (mv : ClientMove) : List FlowMove :=
  match w.reaction (system env) (w.results mv.full) mv.label with
  | some (s, es) => ⟨.give (.clock s.now), fun _ => none⟩ :: es.filterMap (enters id)
  | none => []

/-- What is left of a step when all other identifiers are erased. The results of its try_sends and
    the identifier that is taken stay. -/
def keep (env : Env) (id : UInt16) (w : ClientWorld) (mv : ClientMove) : List FlowMove :=
  match mv.label with
  | .take .sendPublish ⟨o, .request (.publish msg)⟩ =>
      if attemptFlow env w.state.counter msg = id then
        [⟨.give (.attempt w.state.counter o msg), w.results mv.full⟩] else []
  | .take a m =>
      if a.core then if m.body.concerns id then [⟨.take a m, w.results mv.full⟩] else []
      else fromOutside env id w mv
  | .run t =>
      if t.job.core then if t.job.flow = some id then [⟨.run t, w.results mv.full⟩] else []
      else fromOutside env id w mv
  | .give _ => fromOutside env id w mv

/-- The run without the events of the other identifiers. -/
def eraseOthers (env : Env) (seed : Nat) (id : UInt16) (ls : List ClientMove) : List FlowMove :=
  follow (clientStep env) (keep env id) (init env seed) ls

/-- The packets of publishes with the identifier that have been queued, newest first. -/
def queuedOf (id : UInt16) {I : Type} (log : List (Record Actor Msg Task I Event)) :
    List VariablePacket :=
  log.filterMap fun
    | .emitted (.queued _ packet) => if packet.flow = some id then some packet else none
    | _ => none

/-! ## What a lens shows of a flow -/

/-- The actors of the publish status map with what has a shown identifier, and their stops. -/
def flowLens (shown : Option UInt16 → Bool) : Lens Actor Msg Task Event where
  actor := Actor.core
  msg m := m.body = .stop || shown m.body.flow
  task t := if t.job.core && shown t.job.flow then some t else none
  event
    | .queued _ packet => packet.flow.isSome && shown packet.flow
    | _ => false

/-- What concerns one identifier. -/
abbrev one (id : UInt16) : Lens Actor Msg Task Event := flowLens fun flow => flow = some id

/-- All that the actors of the publish status map have in flight. -/
abbrev whole : Lens Actor Msg Task Event := flowLens fun _ => true

section Lens

variable {shown : Option UInt16 → Bool}

theorem orphan_flow {a : Actor} {m : Msg} (known : anchored.mail a m) {t : Task}
    (left : t ∈ orphan m) :
    t.job.core = a.core ∧ t.job.flow = m.body.flow ∧ m.body ≠ .stop := by
  obtain ⟨future, replies, rfl⟩ := orphan_reply left
  obtain ⟨awaits, question⟩ := known.1.of_reply replies
  refine ⟨?_, congrArg (fun q => q.2.flow) question, ?_⟩
  · show future.core = a.core
    rw [← Future.question_core awaits, question]
  · rintro stops
    rw [stops] at replies
    cases replies

theorem flowLens_orphan {a : Actor} {m : Msg} (known : anchored.mail a m) {t : Task}
    (left : t ∈ orphan m) : (flowLens shown).task t =
      if a.core && (flowLens shown).msg m then some t else none := by
  obtain ⟨core, flow, running⟩ := orphan_flow known left
  simp [flowLens, core, flow, running]

theorem flowLens_fits (env : Env) (shown : Option UInt16 → Bool) :
    (flowLens shown).Fits (system env) anchored where
  shown a m known core visible := by
    refine (List.filterMap_congr fun t left => ?_).trans List.filterMap_some
    exact (flowLens_orphan known left).trans (if_pos ((Bool.and_eq_true _ _).mpr ⟨core, visible⟩))
  hidden a m known hidden := by
    refine List.filterMap_eq_nil_iff.mpr fun t left => ?_
    exact (flowLens_orphan known left).trans
      (if_neg fun both => hidden ((Bool.and_eq_true _ _).mp both))
  owner t t' known image := by
    simp only [flowLens] at image
    split at image
    · rename_i visible
      obtain ⟨core, -⟩ := (Bool.and_eq_true _ _).mp visible
      cases image
      obtain ⟨o, job⟩ := t
      cases job with
      | timer deadline owner future =>
          refine ⟨rfl, fun a owned => ?_⟩
          rw [known.2 a owned]
          exact Future.self_core known.1 core
      | notify notice => cases core
      | resend | spawned | resumed => exact ⟨rfl, fun a owned => nomatch owned⟩
    · cases image

theorem flowLens_fits_flow (env : Env) (shown : Option UInt16 → Bool) :
    (flowLens shown).Fits (flowSystem env) anchored :=
  ⟨(flowLens_fits env shown).shown, (flowLens_fits env shown).hidden,
    (flowLens_fits env shown).owner⟩

theorem anchored_keeps_flow (env : Env) : anchored.Keeps (flowSystem env) :=
  fun _ _ known _ left => anchored_orphans known left

end Lens

/-! ## What a step of one identifier is about -/

/-- The effect is about the identifier, unless it leaves the flow or belongs to no publish. -/
def Carries (flow : Option UInt16) : ClientEffect → Prop
  | .post a m => a.core → m.body ≠ .stop ∧ m.body.flow = if a = .sendPublish then none else flow
  | .spawn t => t.job.core → t.job.flow = if leaves (.spawn t) then none else flow
  | .emit (.queued _ packet) => packet.flow.isSome → packet.flow = flow
  | .emit _ => True
  | .halt a => a.core = false

/-- The identifier of what a handler does with a message. -/
def Body.handledFlow (env : Env) (counter : Nat) : Body → Option UInt16
  | .request (.publish msg) => some (attemptFlow env counter msg)
  | b => b.flow

section Carries

variable {env : Env} {ctx : Ctx} {s : State} {e : ClientEffect} {flow : Option UInt16} {id : UInt16}

theorem leaves_post (a : Actor) (m : Msg) : leaves (.post a m) = (a = .sendPublish) := by
  cases a <;> simp [leaves]

theorem Carries.hidden (carries : Carries flow e) (other : flow ≠ some id) :
    (one id).effect e = none := by
  cases e with
  | post a m =>
      by_cases core : a.core
      · obtain ⟨running, same⟩ := carries core
        have apart : m.body.flow ≠ some id := by
          rw [same]
          split
          · exact fun absent => nomatch absent
          · exact other
        simp [Lens.effect, flowLens, running, apart]
      · simp [Lens.effect, flowLens, core]
  | spawn t =>
      by_cases core : t.job.core
      · have apart : t.job.flow ≠ some id := by
          rw [show t.job.flow = _ from carries core]
          split
          · exact fun absent => nomatch absent
          · exact other
        simp [Lens.effect, flowLens, apart]
      · simp [Lens.effect, flowLens, core]
  | emit event =>
      cases event with
      | queued o packet =>
          have apart : packet.flow ≠ some id := fun same =>
            other ((show packet.flow = flow from carries (by rw [same]; rfl)) ▸ same)
          simp [Lens.effect, flowLens, apart]
      | _ => rfl
  | halt a =>
      have outer : a.core = false := carries
      simp [Lens.effect, flowLens, outer]

/-- What is about the identifier is shown, or it leaves the flow. -/
theorem Carries.kept (carries : Carries (some id) e) :
    (if leaves e then none else whole.effect e) = (one id).effect e := by
  cases e with
  | post a m =>
      by_cases core : a.core
      · obtain ⟨running, same⟩ := carries core
        by_cases again : a = .sendPublish
        · rw [if_pos again] at same
          simp [leaves, again, Lens.effect, flowLens, running, same]
        · rw [if_neg again] at same
          simp [leaves_post, again, Lens.effect, flowLens, same]
      · simp [Lens.effect, flowLens, core]
  | spawn t =>
      by_cases core : t.job.core
      · have same := carries core
        split at same
        · rename_i again
          simp [again, Lens.effect, flowLens, same]
        · rename_i stays
          simp [stays, Lens.effect, flowLens, same, core]
      · simp [Lens.effect, flowLens, core]
  | emit event =>
      cases event with
      | queued o packet =>
          by_cases publish : packet.flow.isSome
          · have same : packet.flow = some id := carries publish
            simp [leaves, Lens.effect, flowLens, same]
          · have absent : packet.flow = none := by simpa using publish
            simp [leaves, Lens.effect, flowLens, absent]
      | _ => rfl
  | halt a =>
      have outer : a.core = false := carries
      simp [leaves, Lens.effect, flowLens, outer]

theorem carries_out {a : Actor} {m : Msg} (outer : a.core = false) : Carries flow (.post a m) :=
  fun core => absurd core (by simp [outer])

theorem attemptFlow_taken {counter : Nat} {msg : Publish} (below : ¬ msg.retryCount > maxRetryCount)
    (valid : env.topicNameError msg.topic = none) (qos : msg.qos ≠ .level0) :
    attemptFlow env counter msg = (nextId env.wordBits counter).1 := by
  simp [attemptFlow, below, valid, qos]

theorem Attempts.carries {b : Body} {a : Attempt} (attempts : Attempts env ctx s b a)
    (core : ctx.self.core) : Carries (b.handledFlow env s.counter) (.post a.status ⟨ctx.origin, a.note⟩) ∧
      a.packet.flow = b.handledFlow env s.counter ∧
      a.check.flow = b.handledFlow env s.counter ∧
      a.retry.flow = if ctx.self = .sendPublish then none else b.handledFlow env s.counter := by
  cases attempts with
  | publish1 msg self below valid qos | publish2 msg self below valid qos =>
      have taken : Body.handledFlow env s.counter (.request (.publish msg)) =
          some (s.nextId env).1 :=
        congrArg some (attemptFlow_taken below valid (by simp [qos]))
      rw [taken, if_pos self]
      exact ⟨fun _ => ⟨fun same => (nomatch same), rfl⟩, rfl, rfl, rfl⟩
  | pubrec id retryCount self below | pubrel id retryCount self below =>
      rw [if_neg (by simp [self])]
      exact ⟨fun _ => ⟨fun same => (nomatch same), rfl⟩, rfl, rfl, rfl⟩
  | subscribe msg self below valid | unsubscribe msg self below valid
  | sendPing lastRetryCount self below => simp [self, Actor.core] at core

theorem Produces.carries {b : Body} (produces : Produces env ctx s b e) (core : ctx.self.core)
    (source : b.Genuine ctx.origin.cause ctx.self) (running : b ≠ .stop) :
    Carries (b.handledFlow env s.counter) e := by
  cases produces with
  | error | accept | wrote => exact True.intro
  | askStop | send | report | insist | connected => exact carries_out rfl
  | note attempts => exact (attempts.carries core).1
  | check attempts => exact fun _ => (attempts.carries core).2.2.1
  | queued sends =>
      cases sends with
      | attempt attempts => exact fun _ => (attempts.carries core).2.1
      | publish0 msg self below qos => exact fun _ => congrArg some (by simp [attemptFlow, qos])
      | puback packet id retryCount self below qos =>
          intro _
          simp [Body.handledFlow, Body.flow, Request.flow, VariablePacket.flow, qos]
      | disconnect | connect => exact fun publish => by cases publish
  | resend retries =>
      intro _
      cases retries with
      | attempt attempts =>
          refine ((attempts.carries core).2.2.2).trans ?_
          cases ctx.self <;> rfl
      | recv1 packet id retryCount self below qos =>
          rw [self]
          rfl
      | response packet retryCount response =>
          generalize ctx.self = a at response core ⊢
          unfold responseTo at response
          split at response <;> cases response <;> rfl
      | disconnect msg self through => simp [self, Actor.core] at core
  | giveUp gives =>
      refine fun _ => ⟨by cases gives <;> exact fun same => (by cases same), ?_⟩
      cases gives with
      | publish msg self above => exact congrArg some (by
          simp [attemptFlow, above, StatusOperationMessage.key])
      | recv packet retryCount id self above qos =>
          rcases qos with ⟨qos, rfl⟩ | qos | qos <;>
            simp [Body.handledFlow, Body.flow, Request.flow, VariablePacket.flow, qos,
              StatusOperationMessage.key]
      | pubrec | pubrel => rfl
      | subscribe msg self | unsubscribe msg self | sendPing lastRetryCount self
      | pingreq lastRetryCount self => simp [self, Actor.core] at core
  | response packet retryCount response =>
      unfold responseTo at response
      split at response <;> cases response <;>
        exact fun _ => ⟨fun same => (by cases same), rfl⟩
  | recv0 packet retryCount self below qos =>
      refine fun _ => ⟨fun same => (by cases same), ?_⟩
      simp [Body.handledFlow, Body.flow, Request.flow, VariablePacket.flow, qos,
        StatusOperationMessage.key]
  | recv2 packet retryCount id self below qos =>
      intro _
      simp [Body.handledFlow, Body.flow, Request.flow, VariablePacket.flow, qos, leaves,
        Job.flow, Future.flow, Future.question, StatusOperationMessage.key]
  | answer op future self => exact fun _ => congrArg (fun q => q.2.flow) source.2
  | unitAnswer op future status => exact fun _ => congrArg (fun q => q.2.flow) source.2
  | existence id future found => exact fun _ => congrArg (fun q => q.2.flow) source.2
  | halt | passStop | haltStop => exact absurd rfl running
  | subscribe msg self | unsubscribe msg self | ping lastRetryCount self | connecting msg self
  | connectTimer msg self | leave msg self | connack code retryCount op self
  | haltConnack code retryCount self | dispatch msg dst name self =>
      simp [self, Actor.core] at core

theorem Continues.carries {future : Future} {answer : Answer}
    (continues : Continues ctx future answer e) (core : future.core)
    (awaits : ctx.origin.cause.Awaits future) (fits : answer.Fits future) :
    Carries future.flow e := by
  cases continues with
  | error | accept => exact True.intro
  | askStop | send | sendPing | stopConnect => exact carries_out rfl
  | checked status self id check retryMsg answer passes =>
      obtain ⟨-, check⟩ := awaits
      cases check <;> exact fun _ => ⟨fun same => (by cases same), rfl⟩
  | publishChecked => exact fun _ => ⟨fun same => (by cases same), rfl⟩
  | phase2 id msg status pending =>
      refine fun _ => ⟨fun same => (by cases same), ?_⟩
      simp [Body.flow, Request.flow, RecvPublishActor.request, VariablePacket.flow, awaits.2,
        Future.flow, Future.question, StatusOperationMessage.key]
  | timeout future dst req => cases fits
  | redeliver | resend =>
      intro _
      simp [Job.flow, Request.flow, RecvPublishActor.request, VariablePacket.flow, awaits.2.1,
        Future.flow, Future.question, StatusOperationMessage.key, leaves, Body.flow]
  | note => exact fun _ => ⟨fun same => (by cases same), rfl⟩
  | queued | timer => exact fun _ => rfl
  | pingPending => cases core

theorem Runs.carries {res : Actor → Option SendError} {o : Origin} {job : Job}
    (runs : Runs env res s o job e) (core : job.core) (source : job.Genuine o.cause) :
    Carries job.flow e := by
  cases runs with
  | resend deadline dst req =>
      refine fun _ => ⟨fun same => (by cases same), ?_⟩
      split
      · rename_i again
        obtain ⟨-, home⟩ := source
        cases req with
        | packet msg =>
            rw [again, Request.home] at home
            unfold DispatchActor.target at home
            split at home <;> cases home
        | _ => rfl
      · rfl
  | timer | closed | waits => exact fun _ => rfl
  | notify notice produces => cases core
  | asks future accepts =>
      have asked : future.question.1 = .publishStatus := of_decide_eq_true core
      refine fun _ => ⟨?_, (if_neg (by simp [asked])).symm⟩
      cases future with
      | statusCheck status self id check retryMsg => cases status <;> exact fun same => by cases same
      | _ => exact fun same => by cases same
  | resumed future answer continues => exact continues.carries core source.1 source.2

theorem Produces.halts (produces : Produces env ctx s .stop e) (core : ctx.self.core) :
    e = .halt ctx.self ∨ ∀ flow, Carries flow e := by
  cases produces with
  | halt other => exact .inl rfl
  | error => exact .inr fun _ => True.intro
  | askStop => exact .inr fun _ => carries_out rfl
  | passStop recipient self first member => simp [self, Actor.core] at core
  | haltStop self first => simp [self, Actor.core] at core
  | note attempts | check attempts => cases attempts
  | send sends | queued sends =>
      cases sends with
      | attempt attempts => cases attempts
  | resend retries =>
      cases retries with
      | attempt attempts => cases attempts
  | giveUp gives => cases gives

end Carries

/-! ## The handlers of one identifier -/

section Handlers

variable {env : Env} {ctx : Ctx} {s s' : State} {id : UInt16} {es : Out}

theorem inside_shown
    (kept : ∀ e ∈ es, (if leaves e then none else whole.effect e) = (one id).effect e) :
    (es.filter fun e => !leaves e).filterMap whole.effect = es.filterMap (one id).effect := by
  rw [List.filterMap_filter]
  refine List.filterMap_congr fun e member => ?_
  rw [← kept e member]
  cases leaves e <;> rfl

theorem handleBody_unread (env : Env) (ctx : Ctx) (core : ctx.self.core) {b : Body}
    (plain : ∀ op future, ctx.self = .publishStatus → b ≠ .publishStatus op future)
    (quiet : ∀ msg, b ≠ .request (.publish msg)) (s s' : State) :
    (handleBody env ctx b s').2 = (handleBody env ctx b s).2 := by
  obtain ⟨self, o, now, res⟩ := ctx
  cases self
  case publishStatus =>
      cases b with
      | publishStatus op future => exact absurd rfl (plain op future rfl)
      | _ => rfl
  case sendPublish =>
      simp only [handleBody, SendPublishActor.receive]
      split
      · exact absurd rfl (quiet _)
      · rfl
      · rfl
  case recvPublish =>
      simp only [handleBody, RecvPublishActor.receive]
      split <;> rfl
  case puback =>
      simp only [handleBody, PubackActor.receive]
      split <;> rfl
  case pubrec =>
      simp only [handleBody, PubrecActor.receive]
      split <;> rfl
  case pubrel =>
      simp only [handleBody, PubrelActor.receive]
      split <;> rfl
  case pubcomp =>
      simp only [handleBody, PubcompActor.receive]
      split <;> rfl
  all_goals cases core

theorem handleBody_entries (env : Env) (ctx : Ctx) {b : Body}
    (plain : ∀ op future, ctx.self = .publishStatus → b ≠ .publishStatus op future) (s : State) :
    (handleBody env ctx b s).1.publishStatus = s.publishStatus := by
  by_cases status : ctx.self = .publishStatus
  · obtain ⟨self, o, now, res⟩ := ctx
    obtain rfl : self = .publishStatus := status
    cases b with
    | publishStatus op future => exact absurd rfl (plain op future rfl)
    | _ => rfl
  · exact (handleBody_changedBy env ctx b s).publishStatus status

theorem Body.handledFlow_eq {b : Body} (quiet : ∀ msg, b ≠ .request (.publish msg)) (counter : Nat) :
    b.handledFlow env counter = b.flow := by
  unfold Body.handledFlow
  split
  · exact absurd rfl (quiet _)
  · rfl

/-- The publish status actor does the same on account of an operation on the identifier. -/
theorem operation_mirrored (env : Env) (o : Origin)
    (op : StatusOperationMessage PublishPacketStatus) (future : Option Future)
    (res : Actor → Option SendError)
    (entry : s'.publishStatus.lookup op.key = s.publishStatus.lookup op.key)
    (question : ∀ f ∈ future, f.core ∧ f.flow = some op.key) :
    (inside (handle env .publishStatus ⟨o, .publishStatus op future⟩ res s')).2.filterMap
        whole.effect =
      (handle env .publishStatus ⟨o, .publishStatus op future⟩ res s).2.filterMap
        (one op.key).effect ∧
    (handle env .publishStatus ⟨o, .publishStatus op future⟩ res s').1.publishStatus.lookup op.key =
      (handle env .publishStatus ⟨o, .publishStatus op future⟩ res s).1.publishStatus.lookup
        op.key := by
  have answered : (PacketStatusActor.handle s'.publishStatus op).2 =
      (PacketStatusActor.handle s.publishStatus op).2 := by
    simp only [PacketStatusActor.answer_handle]
    cases op with
    | getAndRemovePacketStatus id => exact entry
    | _ => rfl
  constructor
  · cases future with
    | none => rfl
    | some future =>
        obtain ⟨core, flow⟩ := question future rfl
        have shown (status : Option (PacketStatus PublishPacketStatus)) :
            whole.effect (.spawn ⟨o, .resumed future (.publishStatus status)⟩) =
              (one op.key).effect (.spawn ⟨o, .resumed future (.publishStatus status)⟩) := by
          simp [Lens.effect, flowLens, Job.core, Job.flow, core, flow]
        show List.filterMap whole.effect [.spawn ⟨o, .resumed future (.publishStatus
            (PacketStatusActor.handle s'.publishStatus op).2)⟩] =
          List.filterMap (one op.key).effect [.spawn ⟨o, .resumed future (.publishStatus
            (PacketStatusActor.handle s.publishStatus op).2)⟩]
        rw [answered, List.filterMap_cons, List.filterMap_cons, shown]
        rfl
  · show (PacketStatusActor.handle s'.publishStatus op).1.lookup op.key =
      (PacketStatusActor.handle s.publishStatus op).1.lookup op.key
    rw [PacketStatusActor.lookup_handle, PacketStatusActor.lookup_handle, if_pos rfl, if_pos rfl]

/-- A handler does the same on account of a message that concerns the identifier. -/
theorem handle_mirrored (env : Env) {a : Actor} {m : Msg} (res : Actor → Option SendError)
    (core : a.core) (known : anchored.mail a m) (concerns : m.body.concerns id)
    (clock : s'.now = s.now) (entry : s'.publishStatus.lookup id = s.publishStatus.lookup id) :
    (inside (handle env a m res s')).2.filterMap whole.effect =
      (handle env a m res s).2.filterMap (one id).effect ∧
    (handle env a m res s').1.now = (handle env a m res s).1.now ∧
    (handle env a m res s').1.publishStatus.lookup id =
      (handle env a m res s).1.publishStatus.lookup id := by
  obtain ⟨o, b⟩ := m
  have changed := handleBody_changedBy env ⟨a, o, s.now, res⟩ b s
  have changed' := handleBody_changedBy env ⟨a, o, s'.now, res⟩ b s'
  have now := changed'.now.trans (clock.trans changed.now.symm)
  by_cases operation : ∃ op future, a = .publishStatus ∧ b = .publishStatus op future
  · obtain ⟨op, future, rfl, rfl⟩ := operation
    obtain rfl : op.key = id := by simpa [Body.concerns, Body.flow] using concerns
    obtain ⟨shown, entries⟩ := operation_mirrored env o op future res entry fun f same => by
      obtain rfl := same
      obtain ⟨⟨awaits, question⟩, -⟩ := known
      exact ⟨by simp [Future.core, question], congrArg (fun q => q.2.flow) question⟩
    exact ⟨shown, now, entries⟩
  · have quiet : ∀ msg, b ≠ .request (.publish msg) := by
      rintro msg rfl
      simp [Body.concerns, Body.flow, Request.flow] at concerns
    have plain : ∀ op future, a = .publishStatus → b ≠ .publishStatus op future :=
      fun op future status same => operation ⟨op, future, status, same⟩
    have unread : (handle env a ⟨o, b⟩ res s').2 = (handle env a ⟨o, b⟩ res s).2 := by
      simp only [handle, clock]
      exact handleBody_unread env ⟨a, o, s.now, res⟩ core plain quiet s s'
    refine ⟨?_, now, ?_⟩
    · rw [inside, unread]
      refine inside_shown fun e member => ?_
      have produces := handleBody_produces env ⟨a, o, s.now, res⟩ s b e member
      by_cases running : b = .stop
      · subst running
        rcases produces.halts core with rfl | carries
        · simp [leaves, Lens.effect, flowLens, core]
        · exact (carries (some id)).kept
      · have carries := produces.carries core known.1 running
        rw [Body.handledFlow_eq quiet, show b.flow = some id by
          simpa [Body.concerns, running] using concerns] at carries
        exact carries.kept
    · simp only [handle]
      rw [handleBody_entries env ⟨a, o, s'.now, res⟩ plain,
        handleBody_entries env ⟨a, o, s.now, res⟩ plain]
      exact entry

theorem attempt_mirrored (env : Env) {o : Origin} {msg : Publish} (res : Actor → Option SendError)
    (known : anchored.mail .sendPublish ⟨o, .request (.publish msg)⟩)
    (takes : attemptFlow env s.counter msg = id) (clock : s'.now = s.now)
    (counter : s'.counter = s.counter)
    (entry : s'.publishStatus.lookup id = s.publishStatus.lookup id) :
    (inside (handle env .sendPublish ⟨o, .request (.publish msg)⟩ res s')).2.filterMap
        whole.effect =
      (handle env .sendPublish ⟨o, .request (.publish msg)⟩ res s).2.filterMap (one id).effect ∧
    (handle env .sendPublish ⟨o, .request (.publish msg)⟩ res s').1.now =
      (handle env .sendPublish ⟨o, .request (.publish msg)⟩ res s).1.now ∧
    (handle env .sendPublish ⟨o, .request (.publish msg)⟩ res s').1.publishStatus.lookup id =
      (handle env .sendPublish ⟨o, .request (.publish msg)⟩ res s).1.publishStatus.lookup id := by
  have core : (⟨.sendPublish, o, s.now, res⟩ : Ctx).self.core := rfl
  have changed := handleBody_changedBy env ⟨.sendPublish, o, s.now, res⟩ (.request (.publish msg)) s
  have changed' :=
    handleBody_changedBy env ⟨.sendPublish, o, s.now, res⟩ (.request (.publish msg)) s'
  obtain ⟨out, -⟩ := handleBody_core env core (fun same => nomatch same) counter
    (.request (.publish msg))
  simp only [handle, clock]
  refine ⟨?_, ?_, ?_⟩
  · rw [inside, out]
    refine inside_shown fun e member => ?_
    have carries := (handleBody_produces env _ s _ e member).carries core known.1
      fun same => nomatch same
    rw [Body.handledFlow, takes] at carries
    exact carries.kept
  · exact changed'.now.trans (clock.trans changed.now.symm)
  · have kept := changed.publishStatus fun same => nomatch same
    have kept' := changed'.publishStatus fun same => nomatch same
    exact (congrArg (AList.lookup id) kept').trans
      (entry.trans (congrArg (AList.lookup id) kept).symm)

theorem handle_hidden (env : Env) {a : Actor} {m : Msg} {res : Actor → Option SendError}
    (core : a.core) (known : anchored.mail a m) (running : m.body ≠ .stop)
    (other : m.body.handledFlow env s.counter ≠ some id) :
    (∀ e ∈ (handle env a m res s).2, (one id).effect e = none) ∧
      (handle env a m res s).1.now = s.now ∧
      (handle env a m res s).1.publishStatus.lookup id = s.publishStatus.lookup id := by
  obtain ⟨o, b⟩ := m
  refine ⟨fun e member => ?_, (handleBody_changedBy env ⟨a, o, s.now, res⟩ b s).now, ?_⟩
  · exact ((handleBody_produces env _ s b e member).carries core known.1 running).hidden other
  · by_cases operation : ∃ op future, a = .publishStatus ∧ b = .publishStatus op future
    · obtain ⟨op, future, rfl, rfl⟩ := operation
      have apart : id ≠ op.key := fun same => other (congrArg some same.symm)
      show (PacketStatusActor.handle s.publishStatus op).1.lookup id = _
      rw [PacketStatusActor.lookup_handle, if_neg apart]
    · exact congrArg (AList.lookup id) (handleBody_entries env ⟨a, o, s.now, res⟩
        (fun op future status same => operation ⟨op, future, status, same⟩) s)

end Handlers

/-! ## Following a run of the client -/

/-- The flow `v` of the identifier is where the client `w` is. -/
structure Mirrors (id : UInt16) (w : ClientWorld) (v : FlowWorld) : Prop where
  client : anchored.Holds w
  flow : anchored.Holds v
  glimpse : (one id).of w = whole.of v
  clock : v.state.now = w.state.now
  entry : v.state.publishStatus.lookup id = w.state.publishStatus.lookup id

section Mirror

variable {env : Env} {id : UInt16} {w w' : ClientWorld} {v : FlowWorld} {mv : ClientMove} {s : State}
  {es : Out}

theorem mirrors_hidden (mirrors : Mirrors id w v) (taken : clientStep env w mv = some w')
    (reacted : w.reaction (system env) (w.results mv.full) mv.label = some (s, es))
    (hidden : ∀ e ∈ es, (one id).effect e = none)
    (unseen : ((one id).label mv.label : Option FlowLabel) = none) (clock : s.now = w.state.now)
    (entry : s.publishStatus.lookup id = w.state.publishStatus.lookup id) : Mirrors id w' v := by
  have state := World.fire_state reacted taken
  refine ⟨anchored_step mirrors.client taken, mirrors.flow, ?_, ?_, ?_⟩
  · rw [Lens.of_fire (J := FlowInput) (flowLens_fits env _) (anchored_keeps env) mirrors.client reacted
      taken (anchored_effects mirrors.client reacted), unseen, List.filterMap_eq_nil_iff.mpr hidden]
    exact mirrors.glimpse
  · rw [state, clock, mirrors.clock]
  · rw [state, entry, mirrors.entry]

theorem mirrors_kept (mirrors : Mirrors id w v) (taken : clientStep env w mv = some w')
    (reacted : w.reaction (system env) (w.results mv.full) mv.label = some (s, es))
    {label : FlowLabel} {s' : State} {es' : Out}
    (reacted' : v.reaction (flowSystem env) (w.results mv.full) label = some (s', es'))
    (effects' : ∀ e ∈ es', anchored.effect e)
    (seen : ((one id).label mv.label : Option FlowLabel) = whole.label label)
    (shown : es'.filterMap whole.effect = es.filterMap (one id).effect) (clock : s'.now = s.now)
    (entry : s'.publishStatus.lookup id = s.publishStatus.lookup id) :
    ∃ v', exec (flowStep env) v [⟨label, w.results mv.full⟩] = some v' ∧ Mirrors id w' v' := by
  obtain ⟨v', followed⟩ : ∃ v', v.fire (flowSystem env) (w.results mv.full) label = some v' :=
    ⟨_, World.fire_eq_some.mpr ⟨s', es', reacted', rfl⟩⟩
  have state := World.fire_state reacted taken
  have state' := World.fire_state reacted' followed
  refine ⟨v', exec_cons_eq_some.mpr ⟨v', followed, rfl⟩, anchored_step mirrors.client taken,
    mirrors.flow.fire (anchored_keeps_flow env) reacted' followed effects', ?_, ?_, ?_⟩
  · rw [Lens.of_fire (J := FlowInput) (flowLens_fits env _) (anchored_keeps env) mirrors.client reacted
      taken (anchored_effects mirrors.client reacted), Lens.of_fire (J := FlowInput)
      (flowLens_fits_flow env _) (anchored_keeps_flow env) mirrors.flow reacted' followed effects',
      seen, shown, mirrors.glimpse]
    rfl
  · rw [state', state, clock]
  · rw [state', state, entry]

theorem label_outside (id : UInt16) {label : Label Actor Msg Task Input}
    (outside : outsideCore label) : ((one id).label label : Option FlowLabel) = none := by
  cases label with
  | take a m => simp [Lens.label, flowLens, show a.core = false from outside]
  | run t => simp [Lens.label, flowLens, show t.job.core = false from outside]
  | give i => rfl

theorem queued_outside {o : Origin} {packet : VariablePacket}
    (reacted : w.reaction (system env) (w.results mv.full) mv.label = some (s, es))
    (queued : .emit (.queued o packet) ∈ es) (outside : outsideCore mv.label) :
    packet.flow = none := by
  rcases queued_reaction reacted queued with
    ⟨a, b, handles, sends⟩ | ⟨id, packet', n, answer, label, rfl⟩
  · have outer : a.core = false := by
      rcases handles.label_eq with label | ⟨notice, label, rfl, -⟩
      · rw [label] at outside
        exact outside
      · cases notice <;> rfl
    cases sends with
    | attempt attempts =>
        cases attempts with
        | subscribe | unsubscribe | sendPing => rfl
        | publish1 msg self | publish2 msg self | pubrec id n self | pubrel id n self =>
            obtain rfl : a = _ := self
            cases outer
    | publish0 msg self | puback packet id n self =>
        obtain rfl : a = _ := self
        cases outer
    | disconnect | connect => rfl
  · rw [label] at outside
    cases outside

theorem effect_outside (id : UInt16) {e : ClientEffect} (outer : Outer e)
    (queued : ∀ o packet, e = .emit (.queued o packet) → packet.flow = none) :
    (one id).effect e = none ∧ enters id e = none ∨
      (enters id e).isSome ∧ (one id).effect e = some e ∧ whole.effect e = some e := by
  cases e with
  | post a m =>
      by_cases shown : a.core && m.body.concerns id
      · refine .inr ⟨?_, if_pos shown, ?_⟩
        · simp [enters, shown]
        · simp [Lens.effect, flowLens, ((Bool.and_eq_true _ _).mp shown).1]
      · exact .inl ⟨if_neg shown, if_neg shown⟩
  | spawn t =>
      refine .inl ⟨?_, rfl⟩
      rcases outer with hidden | ⟨a, m, same⟩
      · have outside : t.job.core = false := by
          simpa [View.lens, Lens.effect, View.whole_task] using hidden
        simp [Lens.effect, flowLens, outside]
      · cases same
  | emit event =>
      refine .inl ⟨?_, rfl⟩
      cases event with
      | queued o packet => simp [Lens.effect, flowLens, queued o packet rfl]
      | _ => rfl
  | halt a =>
      refine .inl ⟨?_, rfl⟩
      rcases outer with hidden | ⟨a', m, same⟩
      · exact hidden
      · cases same

theorem enters_lets (env : Env) {e : ClientEffect} {kept : FlowMove} (entering : enters id e = some kept) :
    ∃ res i, (∀ v, flowStep env v kept = v.fire (flowSystem env) res (.give i)) ∧
      ∀ s, (flowSystem env).accept i res s = some (s, [e]) := by
  cases e with
  | post a m =>
      simp only [enters, Option.ite_none_right_eq_some, Option.some.injEq] at entering
      obtain ⟨-, rfl⟩ := entering
      exact ⟨_, .enter a m, fun _ => rfl, fun _ => rfl⟩
  | _ => cases entering

theorem mirrors_outside (mirrors : Mirrors id w v) (taken : clientStep env w mv = some w')
    (reacted : w.reaction (system env) (w.results mv.full) mv.label = some (s, es))
    (outside : outsideCore mv.label) :
    ∃ v', exec (flowStep env) v (fromOutside env id w mv) = some v' ∧ Mirrors id w' v' := by
  have effects := anchored_effects mirrors.client reacted
  have state := World.fire_state reacted taken
  obtain ⟨v₁, passed⟩ : ∃ v₁, flowStep env v ⟨.give (.clock s.now), fun _ => none⟩ = some v₁ :=
    ⟨_, rfl⟩
  have reacted₁ : v.reaction (flowSystem env) (fun _ => none) (.give (.clock s.now)) =
    some ({ v.state with now := s.now }, []) := rfl
  have holds₁ : anchored.Holds v₁ := mirrors.flow.fire (anchored_keeps_flow env) reacted₁ passed
    (fun e member => nomatch member)
  have glimpse₁ : whole.of v₁ = whole.of v :=
    Lens.of_fire (J := FlowInput) (flowLens_fits_flow env _) (anchored_keeps_flow env)
      mirrors.flow reacted₁ passed (fun e member => nomatch member)
  have state₁ := World.fire_state reacted₁ passed
  have outer := outer_step mirrors.client reacted outside
  obtain ⟨v', run, holds', state', glimpse⟩ := Lens.exec_enter (flowLens_fits_flow env _)
    (anchored_keeps_flow env) (fun _ _ entering => enters_lets env entering) holds₁ effects
    fun e member => effect_outside id (outer e member) fun o packet same =>
      queued_outside reacted (same ▸ member) outside
  have entries := entries_outside reacted outside
  refine ⟨v', ?_, anchored_step mirrors.client taken, holds', ?_, ?_, ?_⟩
  · rw [fromOutside, reacted]
    exact exec_cons_eq_some.mpr ⟨v₁, passed, run⟩
  · rw [Lens.of_fire (J := FlowInput) (flowLens_fits env _) (anchored_keeps env) mirrors.client
      reacted taken effects, label_outside id outside, glimpse, glimpse₁, ← mirrors.glimpse]
    rfl
  · rw [state', state₁, state]
  · rw [state', state₁, state, entries]
    exact mirrors.entry

theorem anchored_handle (env : Env) {a : Actor} {m : Msg} (known : anchored.mail a m)
    (res : Actor → Option SendError) (s : State) :
    ∀ e ∈ (inside (handle env a m res s)).2, anchored.effect e := fun e member =>
  (handleBody_produces env ⟨a, m.origin, s.now, res⟩ s m.body e (List.mem_filter.mp member).1).anchored
    known.1

/-- But for the attempts at a publish, a message is kept when it concerns the identifier. -/
theorem keep_take (env : Env) (id : UInt16) (w : ClientWorld) (full : Actor → Bool) {a : Actor}
    {m : Msg} (other : a = .sendPublish → ∀ msg, m.body ≠ .request (.publish msg)) :
    keep env id w ⟨.take a m, full⟩ =
      if a.core then if m.body.concerns id then [⟨.take a m, w.results full⟩] else []
      else fromOutside env id w ⟨.take a m, full⟩ := by
  unfold keep
  split
  · rename_i label
    cases label
    exact absurd rfl (other rfl _)
  · rename_i label
    cases label
    rfl
  · rename_i label
    cases label
  · rename_i label
    cases label

theorem mirrors_take (mirrors : Mirrors id w v) {a : Actor} {m : Msg} {full : Actor → Bool}
    (taken : clientStep env w ⟨.take a m, full⟩ = some w') (core : a.core) :
    ∃ v', exec (flowStep env) v (keep env id w ⟨.take a m, full⟩) = some v' ∧ Mirrors id w' v' := by
  obtain ⟨s, es, reacted, -⟩ := World.fire_eq_some.mp taken
  obtain ⟨alive, head, handled⟩ := World.reaction_take.mp reacted
  have known := mirrors.client.mail a m (List.mem_of_mem_head? head)
  obtain ⟨rfl, rfl⟩ : (handle env a m (w.results full) w.state).1 = s ∧
      (handle env a m (w.results full) w.state).2 = es := Prod.mk.inj handled
  have hidden (apart : m.body ≠ .stop ∧ m.body.flow ≠ some id)
      (other : m.body.handledFlow env w.state.counter ≠ some id)
      (absent : keep env id w ⟨.take a m, full⟩ = []) :
      ∃ v', exec (flowStep env) v (keep env id w ⟨.take a m, full⟩) = some v' ∧ Mirrors id w' v' := by
    obtain ⟨quiet, clock, entry⟩ := handle_hidden env core known apart.1 other
    refine ⟨v, by rw [absent]; rfl, mirrors_hidden mirrors taken reacted quiet ?_ clock entry⟩
    simp [Lens.label, flowLens, apart]
  by_cases attempts : ∃ msg, m.body = .request (.publish msg)
  · obtain ⟨o, b⟩ := m
    obtain ⟨msg, rfl⟩ := attempts
    obtain rfl : a = .sendPublish := by
      obtain ⟨sent | ⟨-, dispatched | home⟩, -⟩ := known
      · rw [sent] at core
        cases core
      · rw [dispatched] at core
        cases core
      · exact (Option.some.inj home).symm
    by_cases takes : attemptFlow env w.state.counter msg = id
    · rw [show keep env id w ⟨.take .sendPublish ⟨o, .request (.publish msg)⟩, full⟩ =
        [⟨.give (.attempt w.state.counter o msg), w.results full⟩] from if_pos takes]
      have mirrored := attempt_mirrored env (w.results full) known takes
        (show ({ v.state with counter := w.state.counter } : State).now = w.state.now from
          mirrors.clock) rfl mirrors.entry
      have reacted' : v.reaction (flowSystem env) (w.results full)
        (.give (.attempt w.state.counter o msg)) = some _ := rfl
      exact mirrors_kept mirrors taken reacted reacted' (anchored_handle env known _ _) rfl
        mirrored.1 mirrored.2.1 mirrored.2.2
    · exact hidden ⟨fun same => (by cases same), fun same => (by cases same)⟩
        (fun same => takes (Option.some.inj same)) (if_neg takes)
  · have quiet : ∀ msg, m.body ≠ .request (.publish msg) := fun msg same => attempts ⟨msg, same⟩
    have kept : keep env id w ⟨.take a m, full⟩ =
        if m.body.concerns id then [⟨.take a m, w.results full⟩] else [] :=
      (keep_take env id w full fun _ => quiet).trans (if_pos core)
    by_cases concerns : m.body.concerns id
    · obtain ⟨alive', head'⟩ := Lens.take_enabled mirrors.glimpse core core concerns
        (fun _ => by simp [flowLens]) alive head
      have mirrored := handle_mirrored env (w.results full) core known concerns mirrors.clock
        mirrors.entry
      rw [kept, if_pos concerns]
      refine mirrors_kept mirrors taken reacted
        (World.reaction_take.mpr ⟨alive', head', rfl⟩) (anchored_handle env known _ _) ?_
        mirrored.1 mirrored.2.1 mirrored.2.2
      have visible : m.body = .stop ∨ m.body.flow = some id := by
        simpa [Body.concerns] using concerns
      simp [Lens.label, flowLens, core, visible]
    · have apart : m.body ≠ .stop ∧ m.body.flow ≠ some id := by
        simpa [Body.concerns] using concerns
      exact hidden apart (by rw [Body.handledFlow_eq quiet]; exact apart.2)
        (kept.trans (if_neg concerns))

theorem mirrors_task (mirrors : Mirrors id w v) {t : Task} {full : Actor → Bool}
    (taken : clientStep env w ⟨.run t, full⟩ = some w') (core : t.job.core) :
    ∃ v', exec (flowStep env) v (keep env id w ⟨.run t, full⟩) = some v' ∧ Mirrors id w' v' := by
  obtain ⟨s, es, reacted, -⟩ := World.fire_eq_some.mp taken
  obtain ⟨member, due, resumed⟩ := World.reaction_run.mp reacted
  have known := mirrors.client.tasks t member
  have still := resume_core env core (w.results full) (s := w.state) rfl
  obtain ⟨rfl, rfl⟩ : w.state = s ∧ (resume env t (w.results full) w.state).2 = es :=
    Prod.mk.inj (still.symm.trans resumed)
  have runs := resume_runs env t (w.results full) w.state
  have kept : keep env id w ⟨.run t, full⟩ =
      if t.job.flow = some id then [⟨.run t, w.results full⟩] else [] := if_pos core
  rw [kept]
  by_cases concerns : t.job.flow = some id
  · have image : (one id).task t = some t := if_pos (by simp [core, concerns])
    obtain ⟨u, there, same⟩ := Lens.run_enabled mirrors.glimpse member image
    have found : t ∈ v.tasks := by
      simp only [flowLens] at same
      split at same
      · exact Option.some.inj same ▸ there
      · cases same
    have resumed' : (flowSystem env).resume t (w.results full) v.state =
        (v.state, (resume env t (w.results full) w.state).2.filter fun e => !leaves e) :=
      congrArg inside (resume_core env core (w.results full) mirrors.clock)
    have reacted' : v.reaction (flowSystem env) (w.results full) (.run t) = some _ :=
      World.reaction_run.mpr ⟨found, (ready_clock t mirrors.clock).trans due, resumed'⟩
    rw [if_pos concerns]
    refine mirrors_kept mirrors taken reacted reacted' (fun e member => ?_) ?_
      (inside_shown fun e member => ?_) mirrors.clock mirrors.entry
    · exact (runs e (List.mem_filter.mp member).1).anchored known.1
    · simp [Lens.label, flowLens, core, concerns]
    · have carries := (runs e member).carries core known.1
      rw [concerns] at carries
      exact carries.kept
  · rw [if_neg concerns]
    refine ⟨v, rfl, mirrors_hidden mirrors taken reacted (fun e member => ?_) ?_ rfl rfl⟩
    · exact ((runs e member).carries core known.1).hidden concerns
    · simp [Lens.label, flowLens, concerns]

/-- The flow follows every step of the client. -/
theorem mirrors_step (mirrors : Mirrors id w v) (taken : clientStep env w mv = some w') :
    ∃ v', exec (flowStep env) v (keep env id w mv) = some v' ∧ Mirrors id w' v' := by
  obtain ⟨s, es, reacted, -⟩ := World.fire_eq_some.mp taken
  have outside := mirrors_outside mirrors taken reacted
  obtain ⟨label, full⟩ := mv
  cases label with
  | take a m =>
      by_cases core : a.core
      · exact mirrors_take mirrors taken core
      · have outer : keep env id w ⟨.take a m, full⟩ = fromOutside env id w ⟨.take a m, full⟩ := by
          have other : a = .sendPublish → ∀ msg, m.body ≠ .request (.publish msg) := by
            rintro rfl
            exact absurd rfl core
          rw [keep_take env id w full other, if_neg core]
        rw [outer]
        exact outside (Bool.of_not_eq_true core)
  | run t =>
      by_cases core : t.job.core
      · exact mirrors_task mirrors taken core
      · rw [show keep env id w ⟨.run t, full⟩ = fromOutside env id w ⟨.run t, full⟩ from
          if_neg core]
        exact outside (Bool.of_not_eq_true core)
  | give i => exact outside True.intro

end Mirror

theorem mirrors_init (env : Env) (id : UInt16) (seed : Nat) :
    Mirrors id (init env seed) (flowInit env seed) where
  client := anchored_init env seed
  flow := ⟨fun a m member => (nomatch member), fun t member => (nomatch member),
    fun e member => nomatch member⟩
  glimpse := by
    have mail (a : Actor) : (one id).box a ((init env seed).mail a) = [] := by
      cases a <;> simp [Lens.box, flowLens, Actor.core, init]
    have mail' (a : Actor) : whole.box a ((flowInit env seed).mail a) = [] := Lens.box_nil _ a
    simp only [Lens.of, mail, mail']
    rfl
  clock := rfl
  entry := rfl

theorem mirrors_run {env : Env} {seed : Nat} {id : UInt16} {ls : List ClientMove} {w : ClientWorld}
    (run : exec (clientStep env) (init env seed) ls = some w) :
    ∃ v, exec (flowStep env) (flowInit env seed) (eraseOthers env seed id ls) = some v ∧
      Mirrors id w v :=
  exec_follow (fun _ _ _ _ mirrors (_ : True) taken => mirrors_step mirrors taken)
    (mirrors_init env id seed) (Along.of_forall (fun _ _ => True.intro) _ _) run

theorem queuedOf_shown {I : Type} (shown : Option UInt16 → Bool) {id : UInt16}
    (visible : shown (some id)) (log : List (Record Actor Msg Task I Event)) :
    queuedOf id log = (log.filterMap (flowLens shown).record).filterMap fun
      | .inr (.queued _ packet) => if packet.flow = some id then some packet else none
      | _ => none := by
  rw [queuedOf, List.filterMap_filterMap]
  refine List.filterMap_congr fun r _ => ?_
  cases r with
  | emitted e =>
      cases e with
      | queued o packet =>
          by_cases same : packet.flow = some id
          · simp [Lens.record, flowLens, same, visible]
          · cases seen : (flowLens shown).event (.queued o packet) <;>
              simp [Lens.record, seen, same]
      | _ => rfl
  | ran t => cases seen : (flowLens shown).task t <;> simp [Lens.record, seen]
  | _ => rfl

theorem Mirrors.queued {id : UInt16} {w : ClientWorld} {v : FlowWorld} (mirrors : Mirrors id w v) :
    queuedOf id v.log = queuedOf id w.log := by
  rw [queuedOf_shown (fun _ => true) rfl, queuedOf_shown (fun flow => flow = some id) (by simp)]
  exact congrArg (List.filterMap _) (congrArg Glimpse.past mirrors.glimpse).symm

theorem keep_flow {env : Env} {id : UInt16} {w : ClientWorld} {mv : ClientMove} {kept : FlowMove}
    (member : kept ∈ keep env id w mv) : ∀ other ∈ kept.flow env, other = id := by
  have concerned {b : Body} (concerns : b.concerns id) : ∀ other ∈ b.flow, other = id := by
    intro other flow
    rcases (Bool.or_eq_true _ _).mp concerns with stops | same
    · rw [of_decide_eq_true stops] at flow
      cases flow
    · rw [of_decide_eq_true same] at flow
      exact (Option.some.inj flow).symm
  have outside (there : kept ∈ fromOutside env id w mv) : ∀ other ∈ kept.flow env, other = id := by
    unfold fromOutside at there
    split at there
    · rcases List.mem_cons.mp there with rfl | entered
      · intro other flow
        cases flow
      · obtain ⟨e, -, entering⟩ := List.mem_filterMap.mp entered
        cases e with
        | post a m =>
            simp only [enters] at entering
            split at entering
            · rename_i shown
              cases entering
              exact concerned ((Bool.and_eq_true _ _).mp shown).2
            · cases entering
        | _ => cases entering
    · cases there
  unfold keep at member
  split at member
  · split at member
    · rename_i takes
      rw [List.mem_singleton.mp member]
      exact fun other flow => (Option.some.inj flow).symm.trans takes
    · cases member
  · split at member
    · split at member
      · rename_i concerns
        rw [List.mem_singleton.mp member]
        exact concerned concerns
      · cases member
    · exact outside member
  · split at member
    · split at member
      · rename_i same
        rw [List.mem_singleton.mp member]
        exact fun other flow => Option.some.inj (Eq.trans (Eq.symm flow) same)
      · cases member
    · exact outside member
  · exact outside member

/-- Flows do not disturb each other: when everything of the other identifiers is erased from a run,
    the entry of an identifier at every point and its queued packets stay what they are. -/
theorem flows_independent {env : Env} {seed : Nat} (id : UInt16) {ls : List ClientMove}
    {w : ClientWorld} (run : Run env seed ls w) :
    (∀ kept ∈ eraseOthers env seed id ls, ∀ other ∈ kept.flow env, other = id) ∧
    ∀ front back, ls = front ++ back → ∃ w' v' rest, Run env seed front w' ∧
      eraseOthers env seed id ls = eraseOthers env seed id front ++ rest ∧
      exec (flowStep env) (flowInit env seed) (eraseOthers env seed id front) = some v' ∧
      v'.state.publishStatus.lookup id = w'.state.publishStatus.lookup id ∧
      queuedOf id v'.log = queuedOf id w'.log := by
  refine ⟨fun kept member => ?_, ?_⟩
  · obtain ⟨_, _, there⟩ := mem_follow member
    exact keep_flow there
  · rintro front back rfl
    rw [Run, exec_append] at run
    obtain ⟨w', first, -⟩ := Option.bind_eq_some_iff.mp run
    obtain ⟨v', followed, mirrors⟩ := mirrors_run first
    obtain ⟨rest, split⟩ := follow_append (init env seed) front back
    exact ⟨w', v', rest, first, split, followed, mirrors.entry, mirrors.queued⟩

/-- The broker acknowledges one publish, the other is sent again. -/
def twoPublishes : List Turn :=
  [.give (.cause ⟨1, .publish "first" .level1 [1]⟩), .handle .sendPublish, .handle .publishStatus,
    .give (.cause ⟨2, .publish "second" .level2 [2]⟩), .handle .sendPublish,
    .handle .publishStatus, .give (.cause ⟨3, .received (.pubrec 2) 0⟩), .handle .dispatch,
    .handle .pubrec, .handle .publishStatus, .give (.advance commandTimeout), .task 2, .task 0,
    .handle .publishStatus, .task 0, .handle .sendPublish, .handle .publishStatus]

theorem flows_independent_twoPublishes :
    ∃ w v, Run plainEnv 0 (schedule plainEnv (init plainEnv 0) twoPublishes) w ∧
      exec (flowStep plainEnv) (flowInit plainEnv 0)
        (eraseOthers plainEnv 0 2 (schedule plainEnv (init plainEnv 0) twoPublishes)) = some v ∧
      w.state.publishStatus.lookup 2 = some ⟨2, 0, .pendingComp⟩ ∧
      v.state.publishStatus.lookup 2 = w.state.publishStatus.lookup 2 ∧
      queuedOf 2 w.log = [.pubrel 2, .publish ⟨"second", .level2 2, [2]⟩] ∧
      queuedOf 2 v.log = queuedOf 2 w.log := by
  obtain ⟨w, run, entry, packets⟩ :
      ∃ w, Run plainEnv 0 (schedule plainEnv (init plainEnv 0) twoPublishes) w ∧
        w.state.publishStatus.lookup 2 = some ⟨2, 0, .pendingComp⟩ ∧
        queuedOf 2 w.log = [.pubrel 2, .publish ⟨"second", .level2 2, [2]⟩] :=
    ⟨_, rfl, by decide, by decide⟩
  obtain ⟨-, always⟩ := flows_independent 2 run
  obtain ⟨w', v, rest, run', -, followed, entry', packets'⟩ := always _ [] (List.append_nil _).symm
  obtain rfl : w = w' := Option.some.inj (run.symm.trans run')
  exact ⟨w, v, run, followed, entry, entry', packets, packets'⟩

end ActixMqtt
