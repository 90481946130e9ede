import ActixMqtt.Actors.Everywhere
import ActixMqtt.Effects

/-! # What belongs to which origin

Everything in flight fits the origin it stems from: a request repeats what the user
or the broker asked for, a future waits on behalf of such a request and is answered
by the actor it asked, and a queued packet is one the origin explains. `genuine`
collects this as one fact about everything in flight and `genuine_run` proves it for
every run.
-/

namespace ActixMqtt

open ActorSystem

/-- The requests in the chain of a cause. -/
def Cause.Asks (c : Cause) : Request → Prop
  | .publish msg => c = .publish msg.topic msg.qos msg.payload
  | .packet msg => ∃ message, c = .received msg.packet message
  | .batchSubscribe msg => ∃ sub, c = .subscribe sub ∧ msg.subscriptions = [sub]
  | .batchUnsubscribe msg => ∃ unsub, c = .unsubscribe unsub ∧ msg.topics = [unsub.topic]
  | .pingreq _ | .sendPing _ => c = .tick
  | .disconnect _ => True

/-- The packets that may be queued in the chain of a cause. -/
def Cause.Explains (c : Cause) : VariablePacket → Prop
  | .publish packet => ∃ qos id, c = .publish packet.topicName qos packet.payload ∧
      packet.qos = .new qos id
  | .puback id => ∃ packet message, c = .received (.publish packet) message ∧ packet.qos = .level1 id
  | .pubrec id => ∃ packet message, c = .received (.publish packet) message ∧ packet.qos = .level2 id
  | .pubrel id => ∃ message, c = .received (.pubrec id) message
  | .pubcomp id => ∃ message, c = .received (.pubrel id) message
  | .subscribe _ subscriptions => ∃ sub, c = .subscribe sub ∧ subscriptions = [sub]
  | .unsubscribe _ topics => ∃ unsub, c = .unsubscribe unsub ∧ topics = [unsub.topic]
  | .pingreq => c = .tick
  | .connect _ => ∃ msg, c = .connect msg
  | .disconnect => True
  | _ => False

/-- The actor that handles a request. -/
def Request.home : Request → Option Actor
  | .publish _ => some .sendPublish
  | .packet msg => (DispatchActor.target msg.packet).map Prod.fst
  | .batchSubscribe _ => some .subscribe
  | .batchUnsubscribe _ => some .unsubscribe
  | .pingreq _ | .sendPing _ => some .pingreq
  | .disconnect _ => some .disconnect

/-- The status checks that `schedule_status_check` is called for: the status actor, the actor
    that is told, the identifier, the test and the message. -/
inductive CheckOf : Actor → Actor → UInt16 → StatusCheck → Request → Prop where
  | publish (id : UInt16) (msg : Publish) (qos : msg.qos = .level1) :
      CheckOf .publishStatus .sendPublish id .isSome (.publish msg)
  | pubrec (id retryCount : UInt16) :
      CheckOf .publishStatus .pubrec id (.isPending .pendingRec) (.packet ⟨.pubrec id, retryCount⟩)
  | pubrel (id retryCount : UInt16) :
      CheckOf .publishStatus .pubrel id (.isPending .pendingRel) (.packet ⟨.pubrel id, retryCount⟩)
  | subscribe (id : UInt16) (msg : BatchSubscribe) :
      CheckOf .subscribeStatus .subscribe id .isSome (.batchSubscribe msg)
  | unsubscribe (id : UInt16) (msg : BatchUnsubscribe) :
      CheckOf .unsubscribeStatus .unsubscribe id .isSome (.batchUnsubscribe msg)
  | sendPing (lastRetryCount : UInt16) :
      CheckOf .pingStatus .pingreq 0 .isSome (.sendPing lastRetryCount)

/-- The futures in the chain of a cause. -/
def Cause.Awaits (c : Cause) : Future → Prop
  | .statusCheck status self id check retryMsg =>
      c.Asks retryMsg ∧ CheckOf status self id check retryMsg
  | .publishLevel2 _ msg => c.Asks (.publish msg) ∧ msg.qos = .level2
  | .recvLevel2 id packet retryCount =>
      c.Asks (RecvPublishActor.request packet retryCount) ∧ packet.qos = .level2 id ∧
        ¬ retryCount > maxRetryCount
  | .checkStatusPhase2 id msg =>
      c.Asks (RecvPublishActor.request msg.packet msg.retryCount) ∧ msg.packet.qos = .level2 id
  | .pingConnected _ | .pingPending _ => c = .tick
  | .connectAck => ∃ msg, c = .connect msg

/-- The answers a future may get: those of the actor it asks, or that this actor has stopped. -/
def Answer.Fits (future : Future) : Answer → Prop
  | .publishStatus _ => future.question.1 = .publishStatus
  | .unitStatus _ | .existence _ => future.question.1 ≠ .publishStatus
  | .error e => e = .closed

/-- A request at an actor: on its way to the stream, to be dispatched, or at home. -/
def Request.Belongs (req : Request) (c : Cause) (a : Actor) : Prop :=
  a = .send ∨ c.Asks req ∧ (a = .dispatch ∨ req.home = some a)

def Body.Genuine (c : Cause) (a : Actor) (b : Body) : Prop :=
  match b with
  | .request req => req.Belongs c a
  | .subscribe msg => c = .subscribe msg
  | .unsubscribe msg => c = .unsubscribe msg
  | .connect msg => c = .connect msg
  | .publishStatus _ (some future) | .unitStatus _ (some future) | .statusExistence _ future =>
      c.Awaits future ∧ future.question = (a, b)
  | _ => True

def Job.Genuine (c : Cause) : Job → Prop
  | .resend _ dst req => c.Asks req ∧ req.home = some dst
  | .timer _ _ future | .spawned future => c.Awaits future
  | .notify notice => c.Asks notice.request
  | .resumed future answer => c.Awaits future ∧ answer.Fits future

/-- The identifier the user is told for a received PUBLISH. -/
def QoSWithPacketIdentifier.Tells (qos : QoSWithPacketIdentifier) (id : UInt16) : Prop :=
  qos = .level0 ∧ id = 0 ∨ qos = .level1 id ∨ qos = .level2 id

def Event.Genuine : Event → Prop
  | .queued o packet => o.cause.Explains packet
  | .accepted o packet message => (∃ n, o.cause = .received (.publish packet) n) ∧
      ∃ id, packet.qos.Tells id ∧ message = RecvPublishActor.publishMessage id packet
  | _ => True

def genuine : Local Actor Msg Task Event where
  mail a m := m.body.Genuine m.origin.cause a
  task t := t.job.Genuine t.origin.cause
  event := Event.Genuine

theorem genuine_init (env : Env) (seed : Nat) : genuine.Holds (init env seed) where
  mail a m member := by
    simp only [init] at member
    split at member
    · obtain ⟨recipient, _, rfl⟩ := List.mem_map.mp member
      exact True.intro
    · simp at member
  tasks t member := by
    obtain rfl := List.mem_singleton.mp member
    exact (rfl : Cause.tick = .tick)
  log e member := nomatch member

theorem Body.Genuine.of_reply {c : Cause} {a : Actor} {b : Body} {future : Future}
    (genuine : b.Genuine c a) (replies : b.reply = some future) :
    c.Awaits future ∧ future.question = (a, b) := by
  cases b with
  | publishStatus op reply | unitStatus op reply =>
      obtain rfl : reply = some future := replies
      exact genuine
  | statusExistence id reply =>
      obtain rfl : reply = future := Option.some.inj replies
      exact genuine
  | _ => cases replies

theorem genuine_keeps (env : Env) : genuine.Keeps (system env) := by
  rintro a m holds t left
  obtain ⟨future, replies, rfl⟩ := orphan_reply left
  exact ⟨(holds.of_reply replies).1, rfl⟩

section Chain

variable {env : Env} {ctx : Ctx} {s : State} {c : Cause}

theorem Attempts.genuine {b : Body} {a : Attempt} (attempts : Attempts env ctx s b a)
    (source : b.Genuine c ctx.self) :
    c.Explains a.packet ∧ c.Asks a.retry ∧ a.retry.home = some ctx.self ∧ c.Awaits a.check := by
  cases attempts with
  | publish1 msg self below valid qos =>
      obtain sent | ⟨asks, -⟩ := source
      · simp [self] at sent
      · exact ⟨⟨.level1, _, qos ▸ asks, rfl⟩, asks, congrArg some self.symm, asks, .publish _ _ qos⟩
  | publish2 msg self below valid qos =>
      obtain sent | ⟨asks, -⟩ := source
      · simp [self] at sent
      · exact ⟨⟨.level2, _, qos ▸ asks, rfl⟩, asks, congrArg some self.symm, asks, qos⟩
  | pubrec id retryCount self below =>
      obtain sent | ⟨asks, -⟩ := source
      · simp [self] at sent
      · exact ⟨asks, asks, congrArg some self.symm, asks, .pubrec id _⟩
  | pubrel id retryCount self below =>
      obtain sent | ⟨asks, -⟩ := source
      · simp [self] at sent
      · exact ⟨asks, asks, congrArg some self.symm, asks, .pubrel id _⟩
  | subscribe msg self below valid =>
      obtain sent | ⟨asks, -⟩ := source
      · simp [self] at sent
      · refine ⟨?_, asks, congrArg some self.symm, asks, .subscribe _ _⟩
        obtain ⟨sub, cause, single⟩ := asks
        refine ⟨sub, cause, ?_⟩
        rw [single] at valid ⊢
        simp only [List.filter_cons, List.filter_nil] at valid ⊢
        split at valid
        · rw [if_pos (by assumption)]
        · simp at valid
  | unsubscribe msg self below valid =>
      obtain sent | ⟨asks, -⟩ := source
      · simp [self] at sent
      · refine ⟨?_, asks, congrArg some self.symm, asks, .unsubscribe _ _⟩
        obtain ⟨unsub, cause, single⟩ := asks
        refine ⟨unsub, cause, ?_⟩
        rw [single] at valid ⊢
        simp only [List.filter_cons, List.filter_nil] at valid ⊢
        split at valid
        · rw [if_pos (by assumption)]
        · simp at valid
  | sendPing lastRetryCount self below =>
      obtain sent | ⟨asks, -⟩ := source
      · simp [self] at sent
      · exact ⟨asks, asks, congrArg some self.symm, asks, .sendPing _⟩

theorem Sends.explained {b : Body} {packet : VariablePacket} (sends : Sends env ctx s b packet)
    (source : b.Genuine c ctx.self) : c.Explains packet := by
  cases sends with
  | attempt attempts => exact (attempts.genuine source).1
  | publish0 msg self below qos =>
      obtain sent | ⟨asks, -⟩ := source
      · simp [self] at sent
      · exact ⟨.level0, 0, qos ▸ asks, rfl⟩
  | puback packet id retryCount self below qos =>
      obtain sent | ⟨⟨message, cause⟩, -⟩ := source
      · simp [self] at sent
      · exact ⟨packet, message, cause, qos⟩
  | disconnect msg self through => exact True.intro
  | connect msg self => exact ⟨msg, source⟩

theorem Retries.asked {b : Body} {req : Request} (retries : Retries env ctx s b req)
    (source : b.Genuine c ctx.self) : c.Asks req ∧ req.home = some ctx.self := by
  cases retries with
  | attempt attempts => exact ⟨(attempts.genuine source).2.1, (attempts.genuine source).2.2.1⟩
  | recv1 packet id retryCount self below qos =>
      obtain sent | ⟨asks, -⟩ := source
      · simp [self] at sent
      · exact ⟨asks, congrArg some self.symm⟩
  | response packet retryCount response =>
      obtain sent | ⟨asks, -⟩ := source
      · simp [sent, responseTo] at response
      · refine ⟨asks, ?_⟩
        unfold responseTo at response
        split at response <;> simp_all [Request.home, DispatchActor.target]
  | disconnect msg self through => exact ⟨True.intro, congrArg some self.symm⟩

theorem GivesUp.silent {b op : Body} {a : Actor} (gives : GivesUp env ctx s b a op) :
    op.Genuine c a := by
  cases gives <;> exact True.intro

theorem responseTo_silent {a dst : Actor} {packet : VariablePacket} {op : Body}
    (response : responseTo a packet = some (dst, op)) : op.Genuine c dst := by
  unfold responseTo at response
  split at response <;> cases response <;> exact True.intro

theorem Produces.genuine {b : Body} {e : ClientEffect} (produces : Produces env ctx s b e)
    (source : b.Genuine ctx.origin.cause ctx.self) : genuine.effect e := by
  cases produces with
  | note attempts => cases attempts <;> exact True.intro
  | check attempts => exact (attempts.genuine source).2.2.2
  | send sends => exact .inl rfl
  | queued sends => exact sends.explained source
  | resend retries => exact retries.asked source
  | giveUp gives => exact gives.silent
  | response packet retryCount response => exact responseTo_silent response
  | accept packet retryCount id self below qos =>
      obtain sent | ⟨asks, -⟩ := source
      · simp [self] at sent
      · exact ⟨asks, id, qos.imp_right .inl, rfl⟩
  | recv2 packet retryCount id self below qos =>
      obtain sent | ⟨asks, -⟩ := source
      · simp [self] at sent
      · exact ⟨asks, qos, below⟩
  | answer op future self => exact ⟨source.1, by rw [Answer.Fits, source.2]; exact self⟩
  | unitAnswer op future status =>
      refine ⟨source.1, fun status => ?_⟩
      have question := source.2
      cases future with
      | statusCheck status' self' id check retryMsg =>
          cases status' <;> simp_all [Future.question]
      | _ => simp_all [Future.question]
  | existence id future found =>
      refine ⟨source.1, fun status => ?_⟩
      have question := source.2
      cases future with
      | statusCheck status' self' id check retryMsg =>
          cases status' <;> simp_all [Future.question]
      | _ => simp_all [Future.question]
  | insist msg self waiting => exact .inr ⟨True.intro, .inr rfl⟩
  | subscribe msg self => exact ⟨msg, source, rfl⟩
  | unsubscribe msg self => exact ⟨msg, source, rfl⟩
  | ping lastRetryCount self =>
      obtain sent | ⟨asks, -⟩ := source
      · simp [self] at sent
      · exact asks
  | connectTimer msg self => exact ⟨msg, source⟩
  | dispatch msg dst name self target =>
      obtain sent | ⟨asks, -⟩ := source
      · simp [self] at sent
      · exact .inr ⟨asks, .inr (by simp [Request.home, target])⟩
  | _ => exact True.intro

theorem Continues.genuine {future : Future} {answer : Answer} {e : ClientEffect}
    (continues : Continues ctx future answer e) (awaits : ctx.origin.cause.Awaits future)
    (fits : answer.Fits future) : genuine.effect e := by
  cases continues with
  | checked status self id check retryMsg answer passes =>
      refine .inr ⟨awaits.1, .inr ?_⟩
      obtain ⟨-, checkOf⟩ := awaits
      cases checkOf <;> rfl
  | publishChecked id msg status pending => exact .inr ⟨awaits.1, .inr rfl⟩
  | phase2 id msg status pending => exact .inr ⟨awaits.1, .inr rfl⟩
  | timeout future dst req => cases fits
  | accept id packet => exact ⟨awaits.1, id, .inr (.inr awaits.2.1), rfl⟩
  | redeliver id packet => exact ⟨awaits.1, rfl⟩
  | send id retryCount packet answer known => exact .inl rfl
  | queued id retryCount packet answer known =>
      obtain ⟨⟨message, cause⟩, qos, -⟩ := awaits
      exact ⟨packet, message, cause, qos⟩
  | resend id retryCount packet answer known => exact ⟨awaits.1, rfl⟩
  | timer id retryCount packet answer known => exact ⟨awaits.1, awaits.2.1⟩
  | pingPending lastRetryCount answer => exact awaits
  | sendPing lastRetryCount answer => exact .inr ⟨awaits, .inr rfl⟩
  | _ => exact True.intro

theorem Future.question_genuine {future : Future} (awaits : c.Awaits future) :
    future.question.2.Genuine c future.question.1 := by
  cases future with
  | statusCheck status self id check retryMsg => cases status <;> exact ⟨awaits, rfl⟩
  | _ => exact ⟨awaits, rfl⟩

theorem Runs.genuine {res : Actor → Option SendError} {o : Origin} {job : Job} {e : ClientEffect}
    (runs : Runs env res s o job e) (source : job.Genuine o.cause) : genuine.effect e := by
  cases runs with
  | resend deadline dst req => exact .inr ⟨source.1, .inr source.2⟩
  | timer deadline owner future => exact source
  | notify notice produces =>
      refine produces.genuine ?_
      cases notice <;> exact .inr ⟨source, .inr rfl⟩
  | closed future refused => exact ⟨source, rfl⟩
  | waits future refused => exact source
  | asks future accepts => exact Future.question_genuine source
  | resumed future answer continues => exact continues.genuine source.1 source.2

theorem Arrives.genuine {o : Origin} {e : ClientEffect} (arrives : Arrives o e) :
    genuine.effect e := by
  cases arrives with
  | publish topic qos payload cause => exact .inr ⟨cause, .inr rfl⟩
  | subscribe msg cause | unsubscribe msg cause | connect msg cause => exact cause
  | disconnect msg cause => exact .inr ⟨True.intro, .inr rfl⟩
  | received packet message cause => exact .inr ⟨⟨message, cause⟩, .inl rfl⟩
  | tick cause => exact cause
  | _ => exact True.intro

end Chain

/-- Everything a step causes is in line with its origin. -/
theorem genuine_effects {env : Env} {w : ClientWorld} {mv : ClientMove} {s : State} {es : Out}
    (holds : genuine.Holds w)
    (reacted : w.reaction (system env) (w.results mv.full) mv.label = some (s, es)) :
    ∀ e ∈ es, genuine.effect e := by
  intro e member
  have source := holds.source reacted
  obtain ⟨label, full⟩ := mv
  cases reaction_causes reacted e member with
  | take a m produces => exact produces.genuine source
  | run t runs => exact runs.genuine source
  | arrive o arrives => exact arrives.genuine
  | messageClosed => exact True.intro

theorem genuine_step {env : Env} {w w' : ClientWorld} {mv : ClientMove} (holds : genuine.Holds w)
    (taken : clientStep env w mv = some w') : genuine.Holds w' := by
  obtain ⟨s, es, reacted, -⟩ := World.fire_eq_some.mp taken
  exact holds.fire (genuine_keeps env) reacted taken (genuine_effects holds reacted)

theorem genuine_run {env : Env} {seed : Nat} {ls : List ClientMove} {w : ClientWorld}
    (run : Run env seed ls w) : genuine.Holds w :=
  exec_preserves (fun _ _ _ holds taken => genuine_step holds taken) (genuine_init env seed) run

theorem Handles.genuine {env : Env} {w : ClientWorld} {mv : ClientMove} {s : State} {es : Out}
    {a : Actor} {o : Origin} {b : Body} (handles : Handles mv.label a o b) (holds : genuine.Holds w)
    (reacted : w.reaction (system env) (w.results mv.full) mv.label = some (s, es)) :
    b.Genuine o.cause a := by
  have source := holds.source reacted
  rcases handles.label_eq with label | ⟨notice, label, rfl, rfl⟩
  · rw [label] at source
    exact source
  · rw [label] at source
    cases notice <;> exact .inr ⟨source, .inr rfl⟩

/-! ## Who posts what -/

/-- Why a step posts a message to actor `dst`. -/
inductive Posts (env : Env) (w : ClientWorld) (mv : ClientMove) (dst : Actor) : Msg → Prop where
  | handler {self : Actor} {o : Origin} {b : Body} {m : Msg} (handles : Handles mv.label self o b)
      (produces : Produces env ⟨self, o, w.state.now, w.results mv.full⟩ w.state b (.post dst m)) :
      Posts env w mv dst m
  | asks (o : Origin) (future : Future) (b : Body) (label : mv.label = .run ⟨o, .spawned future⟩)
      (awaits : o.cause.Awaits future) (question : future.question = (dst, b)) :
      Posts env w mv dst ⟨o, b⟩
  | resend (o : Origin) (deadline : Nat) (req : Request)
      (label : mv.label = .run ⟨o, .resend deadline dst req⟩) (asks : o.cause.Asks req)
      (home : req.home = some dst) : Posts env w mv dst ⟨o, .request req⟩
  /-- A future sends its request again. -/
  | retry (o : Origin) (future : Future) (answer : Answer) (req : Request)
      (label : mv.label = .run ⟨o, .resumed future answer⟩) (asks : o.cause.Asks req)
      (home : req.home = some dst) (other : dst ≠ .disconnect) :
      Posts env w mv dst ⟨o, .request req⟩
  /-- RecvPublishActor notes a level 2 message. -/
  | note (o : Origin) (id retryCount : UInt16) (packet : PublishPacket) (answer : Answer)
      (label : mv.label = .run ⟨o, .resumed (.recvLevel2 id packet retryCount) answer⟩)
      (qos : packet.qos = .level2 id) (told : dst = .publishStatus) :
      Posts env w mv dst
        ⟨o, .publishStatus (.setPacketStatus id ⟨id, retryCount, .pendingRel⟩) none⟩
  | pubrec (o : Origin) (id retryCount : UInt16) (packet : PublishPacket) (answer : Answer)
      (label : mv.label = .run ⟨o, .resumed (.recvLevel2 id packet retryCount) answer⟩)
      (told : dst = .send) : Posts env w mv dst ⟨o, .request (.packet ⟨.pubrec id, 0⟩)⟩
  /-- A future ends the client, or the wait for CONNACK. -/
  | stop (o : Origin) (told : dst = .stop ∨ dst = .connect) : Posts env w mv dst ⟨o, .stop⟩
  | arrives (o : Origin) {m : Msg} (label : mv.label = .give (.cause o))
      (arrives : Arrives o (.post dst m)) : Posts env w mv dst m

theorem CheckOf.home {status self : Actor} {id : UInt16} {check : StatusCheck} {req : Request}
    (checkOf : CheckOf status self id check req) : req.home = some self ∧ self ≠ .disconnect := by
  cases checkOf <;> simp [Request.home, DispatchActor.target]

theorem Cause.Awaits.asked {c : Cause} {future : Future} (awaits : c.Awaits future) :
    future.question.1 ≠ .send ∧ future.question.1 ≠ .disconnect ∧ future.question.1 ≠ .connect ∧
      future.question.1 ≠ .dispatch ∧ future.question.1 ≠ .stop := by
  cases future with
  | statusCheck status self id check retryMsg =>
      obtain ⟨-, checkOf⟩ := awaits
      cases checkOf <;> simp [Future.question]
  | _ => simp [Future.question]

theorem Request.home_ne {req : Request} {a : Actor} (home : req.home = some a) :
    a ≠ .send ∧ a ≠ .connect ∧ a ≠ .dispatch ∧ a ≠ .stop := by
  cases req with
  | packet msg =>
      obtain ⟨⟨dst, name⟩, target, rfl⟩ := Option.map_eq_some_iff.mp home
      unfold DispatchActor.target at target
      split at target <;> cases target <;> simp
  | _ =>
      cases home
      simp

theorem post_step {env : Env} {w : ClientWorld} {mv : ClientMove} {s : State} {es : Out} {dst : Actor}
    {m : Msg} (holds : genuine.Holds w)
    (reacted : w.reaction (system env) (w.results mv.full) mv.label = some (s, es))
    (posted : .post dst m ∈ es) : Posts env w mv dst m := by
  have source := holds.source reacted
  obtain ⟨label, full⟩ := mv
  cases reaction_causes reacted _ posted with
  | take self m' produces => exact .handler (.take self m'.origin m'.body) produces
  | run t runs =>
      obtain ⟨o, job⟩ := t
      generalize shape : (Effect.post dst m : ClientEffect) = e at runs
      cases runs with
      | notify notice produces =>
          subst shape
          exact .handler (.notify o notice) produces
      | asks future accepts =>
          cases shape
          exact .asks o future _ rfl source rfl
      | resend deadline dst' req =>
          cases shape
          exact .resend o deadline req rfl source.1 source.2
      | resumed future answer continues =>
          subst shape
          generalize shape : (Effect.post dst m : ClientEffect) = e at continues
          obtain ⟨awaits, fits⟩ := source
          cases continues with
          | askStop =>
              cases shape
              exact .stop o (.inl rfl)
          | stopConnect answer =>
              cases shape
              exact .stop o (.inr rfl)
          | checked status self id check retryMsg answer passes =>
              cases shape
              exact .retry o _ answer retryMsg rfl awaits.1 awaits.2.home.1 awaits.2.home.2
          | publishChecked id msg status pending =>
              cases shape
              exact .retry o _ _ _ rfl awaits.1 rfl (by simp)
          | phase2 id msg status pending =>
              cases shape
              exact .retry o _ _ _ rfl awaits.1 rfl (by simp)
          | sendPing lastRetryCount answer =>
              cases shape
              exact .retry o _ answer _ rfl awaits rfl (by simp)
          | note id retryCount packet answer known =>
              cases shape
              exact .note o id retryCount packet answer rfl awaits.2.1 rfl
          | send id retryCount packet answer known =>
              cases shape
              exact .pubrec o id retryCount packet answer rfl rfl
          | _ => cases shape
      | _ => cases shape
  | arrive o arrives => exact .arrives o rfl arrives

end ActixMqtt
