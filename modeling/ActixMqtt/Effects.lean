import ActixMqtt.Steps

/-! # What a handler can cause

One inversion lemma for the handlers and one for the futures: every effect is one of
the constructors of `Produces` or of `Continues`, with the guards under which it
occurs. Statements about all handlers are proved by cases on these relations, and
no later proof unfolds a handler that it is not about.

The actors that send a packet and wait for its acknowledgement have one shape, an
`Attempt`: note the phase, send the packet, look at the phase after a while. A
refused send replaces the attempt by its retry.
-/

namespace ActixMqtt

open ActorSystem

/-- An attempt of an actor at a packet that is to be acknowledged. -/
structure Attempt where
  status : Actor
  note : Body
  packet : VariablePacket
  retry : Request
  check : Future

/-- The effects of an attempt; the two tags name the sends in error messages. -/
def Attempt.out (ctx : Ctx) (statusTag sendTag : String) (a : Attempt) : Out :=
  trySend ctx a.status a.note (handleSendErrorWithResend ctx statusTag ctx.self a.retry) <|
    trySendPacket ctx a.packet (handleSendErrorWithResend ctx sendTag ctx.self a.retry)
      [.spawn ⟨ctx.origin, .timer (ctx.now + commandTimeout) (some ctx.self) a.check⟩]

/-- An attempt asks to end the client, is replaced by its retry, or goes through. When it is
    replaced after its note was posted, it is SendActor that refused. -/
theorem Attempt.exits (ctx : Ctx) (statusTag sendTag : String) (a : Attempt) :
    .post .stop ⟨ctx.origin, .stop⟩ ∈ a.out ctx statusTag sendTag ∨
    (.spawn ⟨ctx.origin, .resend (ctx.now + resendDelay) ctx.self a.retry⟩ ∈
        a.out ctx statusTag sendTag ∧
      ((∀ dst m, .post dst m ∉ a.out ctx statusTag sendTag) ∨
        ctx.res a.status = none ∧ ctx.res .send = some .full)) ∨
    a.out ctx statusTag sendTag =
      .post a.status ⟨ctx.origin, a.note⟩ :: (queuePacket ctx a.packet ++
        [.spawn ⟨ctx.origin, .timer (ctx.now + commandTimeout) (some ctx.self) a.check⟩]) := by
  unfold Attempt.out trySend trySendPacket
  cases ctx.res a.status with
  | some e =>
      cases e with
      | closed => exact .inl (by simp [handleSendErrorWithResend, sendError, doSendStop])
      | full => exact .inr (.inl (by simp [handleSendErrorWithResend, sendError, resend]))
  | none =>
      cases ctx.res .send with
      | some e =>
          cases e with
          | closed => exact .inl (by simp [handleSendErrorWithResend, sendError, doSendStop])
          | full => exact .inr (.inl (by simp [handleSendErrorWithResend, sendError, resend]))
      | none => exact .inr (.inr rfl)

/-- The attempts of the actors, with the message that makes them. -/
inductive Attempts (env : Env) (ctx : Ctx) (s : State) : Body → Attempt → Prop where
  | publish1 (msg : Publish) (self : ctx.self = .sendPublish)
      (below : ¬ msg.retryCount > maxRetryCount) (valid : env.topicNameError msg.topic = none)
      (qos : msg.qos = .level1) :
      Attempts env ctx s (.request (.publish msg))
        { status := .publishStatus
          note := .publishStatus (.setPacketStatus (s.nextId env).1
            ⟨(s.nextId env).1, msg.retryCount, .pendingAck⟩) none
          packet := .publish ⟨msg.topic, .level1 (s.nextId env).1, msg.payload⟩
          retry := .publish (SendPublishActor.resendMsg msg)
          check := .statusCheck .publishStatus .sendPublish (s.nextId env).1 .isSome
            (.publish (SendPublishActor.resendMsg msg)) }
  | publish2 (msg : Publish) (self : ctx.self = .sendPublish)
      (below : ¬ msg.retryCount > maxRetryCount) (valid : env.topicNameError msg.topic = none)
      (qos : msg.qos = .level2) :
      Attempts env ctx s (.request (.publish msg))
        { status := .publishStatus
          note := .publishStatus (.setPacketStatus (s.nextId env).1
            ⟨(s.nextId env).1, msg.retryCount, .pendingRec⟩) none
          packet := .publish ⟨msg.topic, .level2 (s.nextId env).1, msg.payload⟩
          retry := .publish (SendPublishActor.resendMsg msg)
          check := .publishLevel2 (s.nextId env).1 (SendPublishActor.resendMsg msg) }
  | pubrec (id retryCount : UInt16) (self : ctx.self = .pubrec)
      (below : ¬ retryCount > maxRetryCount) :
      Attempts env ctx s (.request (.packet ⟨.pubrec id, retryCount⟩))
        { status := .publishStatus
          note := .publishStatus (.setPacketStatus id ⟨id, retryCount, .pendingComp⟩) none
          packet := .pubrel id
          retry := .packet ⟨.pubrec id, retryCount + 1⟩
          check := .statusCheck .publishStatus .pubrec id (.isPending .pendingRec)
            (.packet ⟨.pubrec id, retryCount + 1⟩) }
  | pubrel (id retryCount : UInt16) (self : ctx.self = .pubrel)
      (below : ¬ retryCount > maxRetryCount) :
      Attempts env ctx s (.request (.packet ⟨.pubrel id, retryCount⟩))
        { status := .publishStatus
          note := .publishStatus (.removePacketStatus id) none
          packet := .pubcomp id
          retry := .packet ⟨.pubrel id, retryCount + 1⟩
          check := .statusCheck .publishStatus .pubrel id (.isPending .pendingRel)
            (.packet ⟨.pubrel id, retryCount + 1⟩) }
  | subscribe (msg : BatchSubscribe) (self : ctx.self = .subscribe)
      (below : ¬ msg.retryCount > maxRetryCount)
      (valid : (msg.subscriptions.filter
        fun sub => (env.topicFilterError sub.topic).isNone).isEmpty = false) :
      Attempts env ctx s (.request (.batchSubscribe msg))
        { status := .subscribeStatus
          note := .unitStatus (createUnitStatus (s.nextId env).1 msg.retryCount) none
          packet := .subscribe (s.nextId env).1
            (msg.subscriptions.filter fun sub => (env.topicFilterError sub.topic).isNone)
          retry := .batchSubscribe { msg with retryCount := msg.retryCount + 1 }
          check := .statusCheck .subscribeStatus .subscribe (s.nextId env).1 .isSome
            (.batchSubscribe { msg with retryCount := msg.retryCount + 1 }) }
  | unsubscribe (msg : BatchUnsubscribe) (self : ctx.self = .unsubscribe)
      (below : ¬ msg.retryCount > maxRetryCount)
      (valid : (msg.topics.filter
        fun topic => (env.topicFilterError topic).isNone).isEmpty = false) :
      Attempts env ctx s (.request (.batchUnsubscribe msg))
        { status := .unsubscribeStatus
          note := .unitStatus (createUnitStatus (s.nextId env).1 msg.retryCount) none
          packet := .unsubscribe (s.nextId env).1
            (msg.topics.filter fun topic => (env.topicFilterError topic).isNone)
          retry := .batchUnsubscribe { msg with retryCount := msg.retryCount + 1 }
          check := .statusCheck .unsubscribeStatus .unsubscribe (s.nextId env).1 .isSome
            (.batchUnsubscribe { msg with retryCount := msg.retryCount + 1 }) }
  | sendPing (lastRetryCount : UInt16) (self : ctx.self = .pingreq)
      (below : ¬ lastRetryCount > maxRetryCount) :
      Attempts env ctx s (.request (.sendPing lastRetryCount))
        { status := .pingStatus
          note := .unitStatus (createUnitStatus 0 lastRetryCount) none
          packet := .pingreq
          retry := .sendPing (lastRetryCount + 1)
          check := .statusCheck .pingStatus .pingreq 0 .isSome (.sendPing (lastRetryCount + 1)) }

theorem implSendPacketActor_eq {M T : Type} (actor : SendPacketActor M T) (ctx : Ctx)
    (packet : VariablePacket) (id : UInt16) (msg : M)
    (below : ¬ actor.getRetryCountFromMessage msg > maxRetryCount) :
    implSendPacketActor actor ctx (some (packet, id)) msg =
      Attempt.out ctx actor.name actor.name
        { status := actor.status.actor
          note := actor.status.body
            (actor.createStatusFromIdAndRetryCount id (actor.getRetryCountFromMessage msg)) none
          packet := packet
          retry := actor.request (actor.createRetryMessageFromMessage msg)
          check := .statusCheck actor.status.actor ctx.self id actor.statusCheckFunc
            (actor.request (actor.createRetryMessageFromMessage msg)) } :=
  if_neg below

/-- A message that makes an attempt does nothing else. -/
theorem Attempts.handleBody_eq {env : Env} {ctx : Ctx} {s : State} {b : Body} {a : Attempt}
    (attempts : Attempts env ctx s b a) :
    ∃ statusTag sendTag, (handleBody env ctx b s).2 = a.out ctx statusTag sendTag := by
  obtain ⟨self, o, now, res⟩ := ctx
  cases attempts with
  | publish1 msg self below valid qos | publish2 msg self below valid qos =>
      cases self
      refine ⟨"RecvPublishActor:status_recipient", "RecvPublishActor:send_recipient", ?_⟩
      simp only [handleBody, SendPublishActor.receive, SendPublishActor.handle, if_neg below,
        SendPublishActor.createPacketAndIdFromMessage, valid, qos]
      rfl
  | pubrec id retryCount self below =>
      cases self
      exact ⟨_, _, implSendPacketActor_eq PubrecActor.actor _ _ _ ⟨id, retryCount⟩ below⟩
  | pubrel id retryCount self below =>
      cases self
      exact ⟨_, _, implSendPacketActor_eq PubrelActor.actor _ _ _ ⟨id, retryCount⟩ below⟩
  | subscribe msg self below valid =>
      cases self
      refine ⟨_, _, Eq.trans ?_ (implSendPacketActor_eq SubscribeActor.actor _ _ _ msg below)⟩
      simp only [handleBody, SubscribeActor.receive, SubscribeActor.handleBatch,
        SubscribeActor.createPacketAndIdFromMessage, valid, Bool.false_eq_true, if_false]
  | unsubscribe msg self below valid =>
      cases self
      refine ⟨_, _, Eq.trans ?_ (implSendPacketActor_eq UnsubscribeActor.actor _ _ _ msg below)⟩
      simp only [handleBody, UnsubscribeActor.receive, UnsubscribeActor.handleBatch,
        UnsubscribeActor.createPacketAndIdFromMessage, valid, Bool.false_eq_true, if_false]
  | sendPing lastRetryCount self below =>
      cases self
      exact ⟨_, _, implSendPacketActor_eq PingreqActor.actor _ _ _ lastRetryCount below⟩

/-- The actor that handles a response packet, the status actor it tells, and the operation. -/
def responseTo : Actor → VariablePacket → Option (Actor × Body)
  | .pingresp, .pingresp => some (.pingStatus, .unitStatus (.removePacketStatus 0) none)
  | .puback, .puback id => some (.publishStatus, .publishStatus (.removePacketStatus id) none)
  | .pubcomp, .pubcomp id => some (.publishStatus, .publishStatus (.removePacketStatus id) none)
  | .suback, .suback id => some (.subscribeStatus, .unitStatus (.removePacketStatus id) none)
  | .unsuback, .unsuback id => some (.unsubscribeStatus, .unitStatus (.removePacketStatus id) none)
  | _, _ => none

/-- The operation with which an actor gives up a message whose retries are used up. -/
inductive GivesUp (env : Env) (ctx : Ctx) (s : State) : Body → Actor → Body → Prop where
  | publish (msg : Publish) (self : ctx.self = .sendPublish)
      (above : msg.retryCount > maxRetryCount) :
      GivesUp env ctx s (.request (.publish msg)) .publishStatus
        (.publishStatus (.removePacketStatus 0) none)
  | recv (packet : PublishPacket) (retryCount id : UInt16) (self : ctx.self = .recvPublish)
      (above : retryCount > maxRetryCount)
      (qos : packet.qos = .level0 ∧ id = 0 ∨ packet.qos = .level1 id ∨ packet.qos = .level2 id) :
      GivesUp env ctx s (.request (.packet ⟨.publish packet, retryCount⟩)) .publishStatus
        (.publishStatus (.removePacketStatus id) none)
  | pubrec (id retryCount : UInt16) (self : ctx.self = .pubrec)
      (above : retryCount > maxRetryCount) :
      GivesUp env ctx s (.request (.packet ⟨.pubrec id, retryCount⟩)) .publishStatus
        (.publishStatus (.removePacketStatus id) none)
  | pubrel (id retryCount : UInt16) (self : ctx.self = .pubrel)
      (above : retryCount > maxRetryCount) :
      GivesUp env ctx s (.request (.packet ⟨.pubrel id, retryCount⟩)) .publishStatus
        (.publishStatus (.removePacketStatus id) none)
  | subscribe (msg : BatchSubscribe) (self : ctx.self = .subscribe)
      (above : msg.retryCount > maxRetryCount) :
      GivesUp env ctx s (.request (.batchSubscribe msg)) .subscribeStatus
        (.unitStatus (.removePacketStatus (s.nextId env).1) none)
  | unsubscribe (msg : BatchUnsubscribe) (self : ctx.self = .unsubscribe)
      (above : msg.retryCount > maxRetryCount) :
      GivesUp env ctx s (.request (.batchUnsubscribe msg)) .unsubscribeStatus
        (.unitStatus (.removePacketStatus (s.nextId env).1) none)
  | sendPing (lastRetryCount : UInt16) (self : ctx.self = .pingreq)
      (above : lastRetryCount > maxRetryCount) :
      GivesUp env ctx s (.request (.sendPing lastRetryCount)) .pingStatus
        (.unitStatus (.removePacketStatus 0) none)
  | pingreq (lastRetryCount : UInt16) (self : ctx.self = .pingreq)
      (above : lastRetryCount > maxRetryCount) :
      GivesUp env ctx s (.request (.pingreq lastRetryCount)) .pingStatus
        (.unitStatus (.removePacketStatus 0) none)

/-- The packets a handler queues. -/
inductive Sends (env : Env) (ctx : Ctx) (s : State) : Body → VariablePacket → Prop where
  | attempt {b : Body} {a : Attempt} (attempts : Attempts env ctx s b a) : Sends env ctx s b a.packet
  | publish0 (msg : Publish) (self : ctx.self = .sendPublish)
      (below : ¬ msg.retryCount > maxRetryCount) (qos : msg.qos = .level0) :
      Sends env ctx s (.request (.publish msg)) (.publish ⟨msg.topic, .level0, msg.payload⟩)
  | puback (packet : PublishPacket) (id retryCount : UInt16) (self : ctx.self = .recvPublish)
      (below : ¬ retryCount > maxRetryCount) (qos : packet.qos = .level1 id) :
      Sends env ctx s (.request (.packet ⟨.publish packet, retryCount⟩)) (.puback id)
  | disconnect (msg : Disconnect) (self : ctx.self = .disconnect)
      (through : msg.force || s.packetSendFinished) :
      Sends env ctx s (.request (.disconnect msg)) .disconnect
  | connect (msg : Connect) (self : ctx.self = .connect) :
      Sends env ctx s (.connect msg)
        (.connect ⟨env.clientName, msg.userName, msg.password, msg.keepAlive⟩)

/-- The message a handler sends to its own actor again after a refused send. -/
inductive Retries (env : Env) (ctx : Ctx) (s : State) : Body → Request → Prop where
  | attempt {b : Body} {a : Attempt} (attempts : Attempts env ctx s b a) : Retries env ctx s b a.retry
  | recv1 (packet : PublishPacket) (id retryCount : UInt16) (self : ctx.self = .recvPublish)
      (below : ¬ retryCount > maxRetryCount) (qos : packet.qos = .level1 id) :
      Retries env ctx s (.request (.packet ⟨.publish packet, retryCount⟩))
        (RecvPublishActor.request packet (retryCount + 1))
  | response (packet : VariablePacket) (retryCount : UInt16) {a : Actor} {op : Body}
      (response : responseTo ctx.self packet = some (a, op)) :
      Retries env ctx s (.request (.packet ⟨packet, retryCount⟩)) (.packet ⟨packet, retryCount + 1⟩)
  | disconnect (msg : Disconnect) (self : ctx.self = .disconnect)
      (through : msg.force || s.packetSendFinished) :
      Retries env ctx s (.request (.disconnect msg)) (.disconnect msg)

/-- Every effect a handler may have. -/
inductive Produces (env : Env) (ctx : Ctx) (s : State) : Body → ClientEffect → Prop where
  | error (b : Body) (tag : String) (kind : ErrorKind) (text : String) :
      Produces env ctx s b (.emit (.error ctx.origin tag kind text))
  | askStop (b : Body) : Produces env ctx s b (.post .stop ⟨ctx.origin, .stop⟩)
  | note {b : Body} {a : Attempt} (attempts : Attempts env ctx s b a) :
      Produces env ctx s b (.post a.status ⟨ctx.origin, a.note⟩)
  | check {b : Body} {a : Attempt} (attempts : Attempts env ctx s b a) :
      Produces env ctx s b
        (.spawn ⟨ctx.origin, .timer (ctx.now + commandTimeout) (some ctx.self) a.check⟩)
  | send {b : Body} {packet : VariablePacket} (sends : Sends env ctx s b packet) :
      Produces env ctx s b (.post .send ⟨ctx.origin, .request (.packet ⟨packet, 0⟩)⟩)
  | queued {b : Body} {packet : VariablePacket} (sends : Sends env ctx s b packet) :
      Produces env ctx s b (.emit (.queued ctx.origin packet))
  | resend {b : Body} {req : Request} (retries : Retries env ctx s b req) :
      Produces env ctx s b
        (.spawn ⟨ctx.origin, .resend (ctx.now + resendDelay) ctx.self req⟩)
  | giveUp {b : Body} {a : Actor} {op : Body} (gives : GivesUp env ctx s b a op) :
      Produces env ctx s b (.post a ⟨ctx.origin, op⟩)
  | response (packet : VariablePacket) (retryCount : UInt16) {a : Actor} {op : Body}
      (response : responseTo ctx.self packet = some (a, op)) :
      Produces env ctx s (.request (.packet ⟨packet, retryCount⟩)) (.post a ⟨ctx.origin, op⟩)
  | recv0 (packet : PublishPacket) (retryCount : UInt16) (self : ctx.self = .recvPublish)
      (below : ¬ retryCount > maxRetryCount) (qos : packet.qos = .level0) :
      Produces env ctx s (.request (.packet ⟨.publish packet, retryCount⟩))
        (.post .publishStatus ⟨ctx.origin, .publishStatus (.removePacketStatus 0) none⟩)
  | accept (packet : PublishPacket) (retryCount id : UInt16) (self : ctx.self = .recvPublish)
      (below : ¬ retryCount > maxRetryCount)
      (qos : packet.qos = .level0 ∧ id = 0 ∨ packet.qos = .level1 id) :
      Produces env ctx s (.request (.packet ⟨.publish packet, retryCount⟩))
        (.emit (.accepted ctx.origin packet (RecvPublishActor.publishMessage id packet)))
  | recv2 (packet : PublishPacket) (retryCount id : UInt16) (self : ctx.self = .recvPublish)
      (below : ¬ retryCount > maxRetryCount) (qos : packet.qos = .level2 id) :
      Produces env ctx s (.request (.packet ⟨.publish packet, retryCount⟩))
        (.spawn ⟨ctx.origin, .spawned (.recvLevel2 id packet retryCount)⟩)
  | report (op : StatusOperationMessage PublishPacketStatus) (future : Option Future)
      (self : ctx.self = .publishStatus) :
      Produces env ctx s (.publishStatus op future)
        (.post .disconnect ⟨ctx.origin, .packetSendStatus
          ⟨(PacketStatusActor.handle s.publishStatus op).1.keys.length == 0⟩⟩)
  | answer (op : StatusOperationMessage PublishPacketStatus) (future : Future)
      (self : ctx.self = .publishStatus) :
      Produces env ctx s (.publishStatus op (some future))
        (.spawn ⟨ctx.origin, .resumed future
          (.publishStatus (PacketStatusActor.handle s.publishStatus op).2)⟩)
  | unitAnswer (op : StatusOperationMessage Unit) (future : Future)
      (status : Option (PacketStatus Unit)) :
      Produces env ctx s (.unitStatus op (some future))
        (.spawn ⟨ctx.origin, .resumed future (.unitStatus status)⟩)
  | existence (id : UInt16) (future : Future) (found : Bool) :
      Produces env ctx s (.statusExistence id future)
        (.spawn ⟨ctx.origin, .resumed future (.existence found)⟩)
  | halt (other : ctx.self ≠ .stop) : Produces env ctx s .stop (.halt ctx.self)
  | passStop (recipient : Actor) (self : ctx.self = .stop) (first : s.stopping = false)
      (member : recipient ∈ s.stopRecipients) :
      Produces env ctx s .stop (.post recipient ⟨ctx.origin, .stop⟩)
  | haltStop (self : ctx.self = .stop) (first : s.stopping = false) :
      Produces env ctx s .stop (.halt .stop)
  | leave (msg : Disconnect) (self : ctx.self = .disconnect)
      (through : msg.force || s.packetSendFinished) :
      Produces env ctx s (.request (.disconnect msg)) (.halt .disconnect)
  | insist (msg : PacketSendStatus) (self : ctx.self = .disconnect)
      (waiting : s.pendingDisconnect && msg.finished) :
      Produces env ctx s (.packetSendStatus msg)
        (.post .disconnect ⟨ctx.origin, .request (.disconnect ⟨true⟩)⟩)
  | subscribe (msg : Subscribe) (self : ctx.self = .subscribe) :
      Produces env ctx s (.subscribe msg)
        (.spawn ⟨ctx.origin, .notify (.batchSubscribe (.new [msg]))⟩)
  | unsubscribe (msg : Unsubscribe) (self : ctx.self = .unsubscribe) :
      Produces env ctx s (.unsubscribe msg)
        (.spawn ⟨ctx.origin, .notify (.batchUnsubscribe (.new [msg.topic]))⟩)
  | ping (lastRetryCount : UInt16) (self : ctx.self = .pingreq) :
      Produces env ctx s (.request (.pingreq lastRetryCount))
        (.spawn ⟨ctx.origin, .spawned (.pingConnected lastRetryCount)⟩)
  | connecting (msg : Connect) (self : ctx.self = .connect) :
      Produces env ctx s (.connect msg)
        (.post .connectStatus ⟨ctx.origin, .unitStatus (.setPacketStatus 0 ⟨0, 0, ()⟩) none⟩)
  | connectTimer (msg : Connect) (self : ctx.self = .connect) :
      Produces env ctx s (.connect msg)
        (.spawn ⟨ctx.origin, .timer (ctx.now + commandTimeout) (some .connect) .connectAck⟩)
  | connack (code : ConnectReturnCode) (retryCount : UInt16)
      (op : StatusOperationMessage Unit) (self : ctx.self = .connack) :
      Produces env ctx s (.request (.packet ⟨.connack code, retryCount⟩))
        (.post .connectStatus ⟨ctx.origin, .unitStatus op none⟩)
  | connected (code : ConnectReturnCode) (retryCount : UInt16) (self : ctx.self = .connack) :
      Produces env ctx s (.request (.packet ⟨.connack code, retryCount⟩))
        (.post .connect ⟨ctx.origin, .stop⟩)
  | haltConnack (code : ConnectReturnCode) (retryCount : UInt16) (self : ctx.self = .connack) :
      Produces env ctx s (.request (.packet ⟨.connack code, retryCount⟩)) (.halt .connack)
  | dispatch (msg : PacketMessage VariablePacket) (dst : Actor) (name : String)
      (self : ctx.self = .dispatch) (target : DispatchActor.target msg.packet = some (dst, name)) :
      Produces env ctx s (.request (.packet msg))
        (.post dst ⟨ctx.origin, .request (.packet ⟨msg.packet, 0⟩)⟩)
  | wrote (msg : PacketMessage VariablePacket) (bytes : List UInt8) (self : ctx.self = .send) :
      Produces env ctx s (.request (.packet msg)) (.emit (.wrote bytes))

theorem Sends.puback_source {env : Env} {ctx : Ctx} {s : State} {b : Body} {id : UInt16}
    (sends : Sends env ctx s b (.puback id)) :
    ctx.self = .recvPublish ∧ ∃ packet retryCount, ¬ retryCount > maxRetryCount ∧
      packet.qos = .level1 id ∧ b = .request (RecvPublishActor.request packet retryCount) := by
  generalize same : VariablePacket.puback id = queued at sends
  cases sends with
  | attempt attempts => cases attempts <;> cases same
  | puback packet id retryCount self below qos =>
      cases same
      exact ⟨self, packet, retryCount, below, qos, rfl⟩
  | _ => cases same

/-- The actors that note the statuses of requests or are given packets by DispatchActor. -/
def Actor.tracksPackets : Actor → Bool
  | .publishStatus | .subscribeStatus | .unsubscribeStatus | .pingStatus => true
  | .recvPublish | .puback | .pubrec | .pubrel | .pubcomp => true
  | .suback | .unsuback | .connack | .pingresp => true
  | _ => false

/-- What a handler posts to the other actors. -/
inductive Signals (env : Env) (ctx : Ctx) (s : State) : Body → Actor → Msg → Prop where
  | askStop (b : Body) : Signals env ctx s b .stop ⟨ctx.origin, .stop⟩
  | passStop (recipient : Actor) (self : ctx.self = .stop) (first : s.stopping = false)
      (member : recipient ∈ s.stopRecipients) :
      Signals env ctx s .stop recipient ⟨ctx.origin, .stop⟩
  | send {b : Body} {packet : VariablePacket} (sends : Sends env ctx s b packet) :
      Signals env ctx s b .send ⟨ctx.origin, .request (.packet ⟨packet, 0⟩)⟩
  | report (op : StatusOperationMessage PublishPacketStatus) (future : Option Future)
      (self : ctx.self = .publishStatus) :
      Signals env ctx s (.publishStatus op future) .disconnect ⟨ctx.origin, .packetSendStatus
        ⟨(PacketStatusActor.handle s.publishStatus op).1.keys.length == 0⟩⟩
  | insist (msg : PacketSendStatus) (self : ctx.self = .disconnect)
      (waiting : s.pendingDisconnect && msg.finished) :
      Signals env ctx s (.packetSendStatus msg) .disconnect
        ⟨ctx.origin, .request (.disconnect ⟨true⟩)⟩
  | connecting (msg : Connect) (self : ctx.self = .connect) :
      Signals env ctx s (.connect msg) .connectStatus
        ⟨ctx.origin, .unitStatus (.setPacketStatus 0 ⟨0, 0, ()⟩) none⟩
  | connack (code : ConnectReturnCode) (retryCount : UInt16)
      (op : StatusOperationMessage Unit) (self : ctx.self = .connack) :
      Signals env ctx s (.request (.packet ⟨.connack code, retryCount⟩)) .connectStatus
        ⟨ctx.origin, .unitStatus op none⟩
  | connected (code : ConnectReturnCode) (retryCount : UInt16) (self : ctx.self = .connack) :
      Signals env ctx s (.request (.packet ⟨.connack code, retryCount⟩)) .connect
        ⟨ctx.origin, .stop⟩

theorem Produces.signals {env : Env} {ctx : Ctx} {s : State} {b : Body} {dst : Actor} {m : Msg}
    (produces : Produces env ctx s b (.post dst m)) (other : dst.tracksPackets = false) :
    Signals env ctx s b dst m := by
  generalize shape : (Effect.post dst m : ClientEffect) = e at produces
  cases produces with
  | note attempts =>
      cases shape
      cases attempts <;> cases other
  | giveUp gives =>
      cases shape
      cases gives <;> cases other
  | response packet retryCount response =>
      cases shape
      unfold responseTo at response
      split at response <;> cases response <;> cases other
  | dispatch msg dst name self target =>
      cases shape
      unfold DispatchActor.target at target
      split at target <;> cases target <;> cases other
  | recv0 =>
      cases shape
      cases other
  | askStop b =>
      cases shape
      exact .askStop b
  | passStop recipient self first member =>
      cases shape
      exact .passStop _ self first member
  | send sends =>
      cases shape
      exact .send sends
  | report op future self =>
      cases shape
      exact .report op future self
  | insist msg self waiting =>
      cases shape
      exact .insist msg self waiting
  | connecting msg self =>
      cases shape
      exact .connecting msg self
  | connack code retryCount op self =>
      cases shape
      exact .connack code retryCount op self
  | connected code retryCount self =>
      cases shape
      exact .connected code retryCount self
  | _ => cases shape

theorem Produces.toSend {env : Env} {ctx : Ctx} {s : State} {b : Body} {m : Msg}
    (produces : Produces env ctx s b (.post .send m)) :
    m.body = .stop ∨ ∃ packet, m = ⟨ctx.origin, .request (.packet ⟨packet, 0⟩)⟩ ∧
      Sends env ctx s b packet := by
  cases produces.signals rfl with
  | send sends => exact .inr ⟨_, rfl, sends⟩
  | passStop recipient self first member => exact .inl rfl

/-! ## Every effect of a list -/

def Ensures (P : ClientEffect → Prop) (es : Out) : Prop := ∀ e ∈ es, P e

/-- `P` allows error messages and the request to end the client. -/
structure Reports (ctx : Ctx) (P : ClientEffect → Prop) : Prop where
  error : ∀ tag kind text, P (.emit (.error ctx.origin tag kind text))
  askStop : P (.post .stop ⟨ctx.origin, .stop⟩)

section Ensures

variable {P : ClientEffect → Prop} {ctx : Ctx}

@[simp] theorem ensures_nil : Ensures P [] := fun _ member => (nomatch member)

@[simp] theorem ensures_cons {e : ClientEffect} {es : Out} :
    Ensures P (e :: es) ↔ P e ∧ Ensures P es := List.forall_mem_cons

@[simp] theorem ensures_append {es fs : Out} :
    Ensures P (es ++ fs) ↔ Ensures P es ∧ Ensures P fs := List.forall_mem_append

theorem ensures_trySend {dst : Actor} {body : Body} {failed : SendError → Out} {next : Out}
    (err : ∀ e, Ensures P (failed e)) (posted : P (.post dst ⟨ctx.origin, body⟩))
    (rest : Ensures P next) : Ensures P (trySend ctx dst body failed next) := by
  unfold trySend
  split
  · exact err _
  · exact ensures_cons.mpr ⟨posted, rest⟩

theorem ensures_doSend {dst : Actor} {body : Body} {failed : SendError → Out} {next : Out}
    (err : ∀ e, Ensures P (failed e)) (posted : P (.post dst ⟨ctx.origin, body⟩))
    (rest : Ensures P next) : Ensures P (doSend ctx dst body failed next) := by
  unfold doSend
  split
  · exact err _
  · exact ensures_cons.mpr ⟨posted, rest⟩

theorem ensures_trySendPacket {packet : VariablePacket} {failed : SendError → Out} {next : Out}
    (err : ∀ e, Ensures P (failed e))
    (sent : P (.post .send ⟨ctx.origin, .request (.packet ⟨packet, 0⟩)⟩))
    (queued : P (.emit (.queued ctx.origin packet))) (rest : Ensures P next) :
    Ensures P (trySendPacket ctx packet failed next) := by
  unfold trySendPacket
  split
  · exact err _
  · exact ensures_cons.mpr ⟨sent, ensures_cons.mpr ⟨queued, rest⟩⟩

theorem ensures_deliver {id : UInt16} {packet : PublishPacket} {failed : SendError → Out}
    {next : Out} (err : ∀ e, Ensures P (failed e))
    (accepted : P (.emit (.accepted ctx.origin packet (RecvPublishActor.publishMessage id packet))))
    (rest : Ensures P next) : Ensures P (RecvPublishActor.deliver ctx id packet failed next) := by
  unfold RecvPublishActor.deliver
  split
  · exact err _
  · exact ensures_cons.mpr ⟨accepted, rest⟩

theorem Reports.sendError (reports : Reports ctx P) (tag : String) (kind : ErrorKind)
    (text : String) : Ensures P (sendError ctx tag kind text) :=
  ensures_cons.mpr ⟨reports.error tag kind text, ensures_nil⟩

theorem Reports.doSendStop (reports : Reports ctx P) : Ensures P (doSendStop ctx) :=
  ensures_cons.mpr ⟨reports.askStop, ensures_nil⟩

theorem Reports.handleSendError (reports : Reports ctx P) (tag : String) (e : SendError) :
    Ensures P (handleSendError ctx tag e) := by
  cases e with
  | full => exact reports.sendError _ _ _
  | closed => exact ensures_append.mpr ⟨reports.sendError _ _ _, reports.doSendStop⟩

theorem Reports.handleSendErrorWithResend (reports : Reports ctx P) {addr : Actor} {msg : Request}
    (again : P (.spawn ⟨ctx.origin, .resend (ctx.now + resendDelay) addr msg⟩)) (tag : String)
    (e : SendError) : Ensures P (handleSendErrorWithResend ctx tag addr msg e) := by
  cases e with
  | full =>
      exact ensures_append.mpr ⟨reports.sendError _ _ _, ensures_cons.mpr ⟨again, ensures_nil⟩⟩
  | closed => exact ensures_append.mpr ⟨reports.sendError _ _ _, reports.doSendStop⟩

theorem Reports.handleMailboxErrorWithResend (reports : Reports ctx P) {addr : Actor}
    {msg : Request} {e : MailboxError}
    (again : e = .timeout → P (.spawn ⟨ctx.origin, .resend (ctx.now + resendDelay) addr msg⟩))
    (tag : String) : Ensures P (handleMailboxErrorWithResend ctx tag addr msg e) := by
  cases e with
  | timeout =>
      exact ensures_append.mpr ⟨reports.sendError _ _ _, ensures_cons.mpr ⟨again rfl, ensures_nil⟩⟩
  | closed => exact ensures_append.mpr ⟨reports.sendError _ _ _, reports.doSendStop⟩

theorem Reports.maxRetryCountExceeded {T : Type} (reports : Reports ctx P) (name : String)
    (status : StatusRecipient T) (id : UInt16)
    (removed : P (.post status.actor
      ⟨ctx.origin, status.body (.removePacketStatus id) none⟩)) :
    Ensures P (maxRetryCountExceeded ctx name status id) :=
  ensures_doSend (reports.handleSendError _) removed ensures_nil

end Ensures

/-! ## The handlers -/

section Handlers

variable {env : Env} {ctx : Ctx} {s : State}

theorem Produces.reports (env : Env) (ctx : Ctx) (s : State) (b : Body) :
    Reports ctx (Produces env ctx s b) :=
  ⟨.error b, .askStop b⟩

theorem Attempts.ensures {b : Body} {a : Attempt} (attempts : Attempts env ctx s b a) :
    Ensures (Produces env ctx s b) (handleBody env ctx b s).2 := by
  obtain ⟨statusTag, sendTag, same⟩ := attempts.handleBody_eq
  rw [same]
  have retried (tag : String) (e : SendError) :
      Ensures (Produces env ctx s b) (handleSendErrorWithResend ctx tag ctx.self a.retry e) :=
    (Produces.reports ..).handleSendErrorWithResend (.resend (.attempt attempts)) tag e
  exact ensures_trySend (retried _) (.note attempts) <|
    ensures_trySendPacket (retried _) (.send (.attempt attempts)) (.queued (.attempt attempts)) <|
      ensures_cons.mpr ⟨.check attempts, ensures_nil⟩

theorem Produces.implSendPacketActor {M T : Type} {actor : SendPacketActor M T} {msg : M} {b : Body}
    {packet : VariablePacket} {id : UInt16}
    (attempts : ¬ actor.getRetryCountFromMessage msg > maxRetryCount →
      Ensures (Produces env ctx s b) (implSendPacketActor actor ctx (some (packet, id)) msg))
    (gives : actor.getRetryCountFromMessage msg > maxRetryCount →
      GivesUp env ctx s b actor.status.actor (actor.status.body (.removePacketStatus id) none)) :
    Ensures (Produces env ctx s b) (implSendPacketActor actor ctx (some (packet, id)) msg) := by
  by_cases above : actor.getRetryCountFromMessage msg > maxRetryCount
  · simp only [ActixMqtt.implSendPacketActor, if_pos above]
    exact (Produces.reports ..).maxRetryCountExceeded _ _ _ (.giveUp (gives above))
  · exact attempts above

theorem Produces.sendPublish (self : ctx.self = .sendPublish) (msg : Publish) :
    Ensures (Produces env ctx s (.request (.publish msg)))
      (SendPublishActor.handle env ctx msg s).2 := by
  obtain ⟨a, o, now, res⟩ := ctx
  cases self
  by_cases above : msg.retryCount > maxRetryCount
  · rw [SendPublishActor.handle, if_pos above]
    exact (Produces.reports ..).maxRetryCountExceeded _ _ _ (.giveUp (.publish msg rfl above))
  · cases valid : env.topicNameError msg.topic with
    | some text =>
        simp only [SendPublishActor.handle, if_neg above,
          SendPublishActor.createPacketAndIdFromMessage, valid]
        exact (Produces.reports ..).sendError _ _ _
    | none =>
        cases qos : msg.qos with
        | level0 =>
            simp only [SendPublishActor.handle, if_neg above,
              SendPublishActor.createPacketAndIdFromMessage, valid, qos]
            exact ensures_trySendPacket ((Produces.reports ..).handleSendError _)
              (.send (.publish0 msg rfl above qos)) (.queued (.publish0 msg rfl above qos))
              ensures_nil
        | level1 => exact (Attempts.publish1 msg rfl above valid qos).ensures
        | level2 => exact (Attempts.publish2 msg rfl above valid qos).ensures

theorem Produces.recvPublish (self : ctx.self = .recvPublish) (packet : PublishPacket)
    (retryCount : UInt16) :
    Ensures (Produces env ctx s (.request (.packet ⟨.publish packet, retryCount⟩)))
      (RecvPublishActor.handle ctx ⟨packet, retryCount⟩) := by
  have reports := Produces.reports env ctx s
    (.request (.packet ⟨.publish packet, retryCount⟩))
  have exceeded (id : UInt16) (above : retryCount > maxRetryCount)
      (qos : packet.qos = .level0 ∧ id = 0 ∨ packet.qos = .level1 id ∨ packet.qos = .level2 id) :=
    reports.maxRetryCountExceeded "RecvPublishActor" publishStatusRecipient id
      (.giveUp (.recv packet retryCount id self above qos))
  unfold RecvPublishActor.handle
  cases qos : packet.qos with
  | level0 =>
      dsimp only
      split
      · rename_i above
        exact exceeded 0 above (.inl ⟨qos, rfl⟩)
      · rename_i below
        exact ensures_append.mpr
          ⟨ensures_doSend (reports.handleSendError _) (.recv0 packet retryCount self below qos)
              ensures_nil,
            ensures_deliver (reports.handleSendError _)
              (.accept packet retryCount 0 self below (.inl ⟨qos, rfl⟩)) ensures_nil⟩
  | level1 id =>
      dsimp only
      split
      · rename_i above
        exact exceeded id above (.inr (.inl qos))
      · rename_i below
        have again (tag : String) (e : SendError) :=
          reports.handleSendErrorWithResend (.resend (.recv1 packet id retryCount self below qos))
            tag e
        exact ensures_trySendPacket (again _) (.send (.puback packet id retryCount self below qos))
          (.queued (.puback packet id retryCount self below qos))
          (ensures_deliver (again _) (.accept packet retryCount id self below (.inr qos))
            ensures_nil)
  | level2 id =>
      dsimp only
      split
      · rename_i above
        exact exceeded id above (.inr (.inr qos))
      · rename_i below
        exact ensures_cons.mpr ⟨.recv2 packet retryCount id self below qos, ensures_nil⟩

theorem Produces.responded {T : Type} {actor : ResponsePacketActor T} {packet : VariablePacket}
    {id retryCount : UInt16} (response : responseTo ctx.self packet =
      some (actor.status.actor, actor.status.body (.removePacketStatus id) none)) :
    Ensures (Produces env ctx s (.request (.packet ⟨packet, retryCount⟩)))
      (implResponsePacketActor actor ctx id (getRetryMsg ⟨packet, retryCount⟩)) :=
  ensures_trySend
    ((Produces.reports ..).handleSendErrorWithResend
      (.resend (.response packet retryCount response)) _)
    (.response packet retryCount response) ensures_nil

theorem Produces.subscribeBatch (self : ctx.self = .subscribe) (msg : BatchSubscribe) :
    Ensures (Produces env ctx s (.request (.batchSubscribe msg)))
      (SubscribeActor.handleBatch env ctx msg s).2 := by
  obtain ⟨a, o, now, res⟩ := ctx
  cases self
  cases valid : (msg.subscriptions.filter
    fun sub => (env.topicFilterError sub.topic).isNone).isEmpty with
  | true =>
      simp only [SubscribeActor.handleBatch, SubscribeActor.createPacketAndIdFromMessage, valid,
        if_true]
      exact ensures_nil
  | false =>
      by_cases above : msg.retryCount > maxRetryCount
      · simp only [SubscribeActor.handleBatch, SubscribeActor.createPacketAndIdFromMessage, valid,
          Bool.false_eq_true, if_false]
        exact Produces.implSendPacketActor (fun below => absurd above below)
          (fun above => .subscribe msg rfl above)
      · exact (Attempts.subscribe msg rfl above valid).ensures

theorem Produces.unsubscribeBatch (self : ctx.self = .unsubscribe) (msg : BatchUnsubscribe) :
    Ensures (Produces env ctx s (.request (.batchUnsubscribe msg)))
      (UnsubscribeActor.handleBatch env ctx msg s).2 := by
  obtain ⟨a, o, now, res⟩ := ctx
  cases self
  cases valid : (msg.topics.filter
    fun topic => (env.topicFilterError topic).isNone).isEmpty with
  | true =>
      simp only [UnsubscribeActor.handleBatch, UnsubscribeActor.createPacketAndIdFromMessage,
        valid, if_true]
      exact ensures_nil
  | false =>
      by_cases above : msg.retryCount > maxRetryCount
      · simp only [UnsubscribeActor.handleBatch, UnsubscribeActor.createPacketAndIdFromMessage,
          valid, Bool.false_eq_true, if_false]
        exact Produces.implSendPacketActor (fun below => absurd above below)
          (fun above => .unsubscribe msg rfl above)
      · exact (Attempts.unsubscribe msg rfl above valid).ensures

theorem Produces.disconnected (self : ctx.self = .disconnect) (msg : Disconnect) :
    Ensures (Produces env ctx s (.request (.disconnect msg)))
      (DisconnectActor.handle ctx msg s).2 := by
  have reports := Produces.reports env ctx s (.request (.disconnect msg))
  unfold DisconnectActor.handle
  split
  · rename_i through
    have sent : Ensures (Produces env ctx s (.request (.disconnect msg)))
        (sendPacket ctx "DisconnectActor::disconnect" .disconnect (.disconnect msg) []) :=
      ensures_trySendPacket
        (reports.handleSendErrorWithResend (.resend (.disconnect msg self through)) _)
        (.send (.disconnect msg self through)) (.queued (.disconnect msg self through)) ensures_nil
    have left : Ensures (Produces env ctx s (.request (.disconnect msg))) [.halt ctx.self] := by
      rw [self]
      exact ensures_cons.mpr ⟨.leave msg self through, ensures_nil⟩
    exact ensures_append.mpr ⟨ensures_append.mpr ⟨sent, reports.doSendStop⟩, left⟩
  · exact ensures_nil

theorem Produces.connectHandled (self : ctx.self = .connect) (msg : Connect) :
    Ensures (Produces env ctx s (.connect msg)) (ConnectActor.handle env ctx msg) := by
  have reports := Produces.reports env ctx s (.connect msg)
  have failed (tag text : String) (e : SendError) : Ensures (Produces env ctx s (.connect msg))
      (sendError ctx tag .interrupted (text ++ env.sendErrorText e) ++ doSendStop ctx) :=
    ensures_append.mpr ⟨reports.sendError _ _ _, reports.doSendStop⟩
  unfold ConnectActor.handle
  refine ensures_doSend (failed _ _) (.connecting msg self) ?_
  split
  · exact failed _ _ _
  · refine ensures_append.mpr ⟨?_, ?_⟩
    · exact ensures_cons.mpr ⟨.send (.connect msg self),
        ensures_cons.mpr ⟨.queued (.connect msg self), ensures_nil⟩⟩
    · rw [self]
      exact ensures_cons.mpr ⟨.connectTimer msg self, ensures_nil⟩

theorem Produces.connacked (self : ctx.self = .connack) (code : ConnectReturnCode)
    (retryCount : UInt16) :
    Ensures (Produces env ctx s (.request (.packet ⟨.connack code, retryCount⟩)))
      (ConnackActor.handle env ctx code) := by
  have reports := Produces.reports env ctx s
    (.request (.packet ⟨.connack code, retryCount⟩))
  unfold ConnackActor.handle
  split
  · exact ensures_append.mpr ⟨reports.sendError _ _ _, reports.doSendStop⟩
  · refine ensures_cons.mpr ⟨.connack code retryCount _ self, ?_⟩
    split
    · rw [self]
      exact ensures_cons.mpr ⟨.connack code retryCount _ self, ensures_cons.mpr
        ⟨.connected code retryCount self,
          ensures_cons.mpr ⟨.haltConnack code retryCount self, ensures_nil⟩⟩⟩
    · exact ensures_append.mpr ⟨reports.sendError _ _ _, reports.doSendStop⟩

theorem Produces.unitStatus (other : ctx.self ≠ .stop) (get : State → PacketStatusMap Unit)
    (set : State → PacketStatusMap Unit → State) (b : Body) :
    Ensures (Produces env ctx s b) (unitStatusHandle ctx get set b s).2 := by
  unfold unitStatusHandle
  split
  · rename_i op future
    cases future with
    | none => exact ensures_nil
    | some future => exact ensures_cons.mpr ⟨.unitAnswer op future _, ensures_nil⟩
  · exact ensures_cons.mpr ⟨.existence _ _ _, ensures_nil⟩
  · exact ensures_cons.mpr ⟨.halt other, ensures_nil⟩
  · exact ensures_nil

/-- Every effect of every handler. -/
theorem handleBody_produces (env : Env) (ctx : Ctx) (s : State) (b : Body) :
    Ensures (Produces env ctx s b) (handleBody env ctx b s).2 := by
  obtain ⟨a, o, now, res⟩ := ctx
  have halts (other : a ≠ .stop) :
      Ensures (Produces env ⟨a, o, now, res⟩ s .stop) (stopHandler ⟨a, o, now, res⟩) :=
    ensures_cons.mpr ⟨.halt other, ensures_nil⟩
  cases a <;> simp only [handleBody]
  case stop =>
      unfold StopActor.receive
      split
      · exact ensures_nil
      · unfold StopActor.handle
        split
        · exact ensures_nil
        · rename_i first
          have first : s.stopping = false := Bool.eq_false_iff.mpr first
          refine ensures_append.mpr ⟨?_, ensures_cons.mpr ⟨.haltStop rfl first, ensures_nil⟩⟩
          intro e member
          obtain ⟨recipient, registered, rfl⟩ := List.mem_map.mp member
          exact .passStop recipient rfl first registered
      · exact ensures_nil
  case send =>
      unfold SendActor.receive
      split
      · unfold SendActor.handle
        refine ensures_append.mpr ⟨?_, ensures_cons.mpr ⟨.wrote _ _ rfl, ensures_nil⟩⟩
        split
        · exact (Produces.reports ..).sendError _ _ _
        · exact ensures_nil
      · exact halts (by decide)
      · exact ensures_nil
  case disconnect =>
      unfold DisconnectActor.receive
      split
      · exact Produces.disconnected rfl _
      · unfold DisconnectActor.handlePacketSendStatus
        dsimp only
        split
        · rename_i waiting
          exact ensures_cons.mpr ⟨.insist _ rfl waiting, ensures_nil⟩
        · exact ensures_nil
      · exact halts (by decide)
      · exact ensures_nil
  case publishStatus =>
      unfold PublishStatusActor.receive
      split
      · rename_i op future
        refine ensures_cons.mpr ⟨.report op future rfl, ?_⟩
        cases future with
        | none => exact ensures_nil
        | some future => exact ensures_cons.mpr ⟨.answer op future rfl, ensures_nil⟩
      · exact halts (by decide)
      · exact ensures_nil
  case subscribeStatus | unsubscribeStatus | connectStatus | pingStatus =>
      exact Produces.unitStatus (by simp) _ _ b
  case sendPublish =>
      unfold SendPublishActor.receive
      split
      · exact Produces.sendPublish rfl _
      · exact halts (by decide)
      · exact ensures_nil
  case recvPublish =>
      unfold RecvPublishActor.receive
      split
      · exact halts (by decide)
      · exact Produces.recvPublish rfl _ _
      · exact ensures_nil
  case puback =>
      unfold PubackActor.receive
      split
      · exact halts (by decide)
      · exact Produces.responded rfl
      · exact ensures_nil
  case pubcomp =>
      unfold PubcompActor.receive
      split
      · exact halts (by decide)
      · exact Produces.responded rfl
      · exact ensures_nil
  case suback =>
      unfold SubackActor.receive
      split
      · exact halts (by decide)
      · exact Produces.responded rfl
      · exact ensures_nil
  case unsuback =>
      unfold UnsubackActor.receive
      split
      · exact halts (by decide)
      · exact Produces.responded rfl
      · exact ensures_nil
  case pingresp =>
      unfold PingrespActor.receive
      split
      · exact halts (by decide)
      · exact Produces.responded rfl
      · exact ensures_nil
  case pubrec =>
      unfold PubrecActor.receive
      split
      · exact halts (by decide)
      · rename_i id retryCount
        exact Produces.implSendPacketActor
          (fun below => (Attempts.pubrec id retryCount rfl below).ensures)
          (fun above => .pubrec id retryCount rfl above)
      · exact ensures_nil
  case pubrel =>
      unfold PubrelActor.receive
      split
      · exact halts (by decide)
      · rename_i id retryCount
        exact Produces.implSendPacketActor
          (fun below => (Attempts.pubrel id retryCount rfl below).ensures)
          (fun above => .pubrel id retryCount rfl above)
      · exact ensures_nil
  case subscribe =>
      unfold SubscribeActor.receive
      split
      · exact ensures_cons.mpr ⟨.subscribe _ rfl, ensures_nil⟩
      · exact Produces.subscribeBatch rfl _
      · exact halts (by decide)
      · exact ensures_nil
  case unsubscribe =>
      unfold UnsubscribeActor.receive
      split
      · exact ensures_cons.mpr ⟨.unsubscribe _ rfl, ensures_nil⟩
      · exact Produces.unsubscribeBatch rfl _
      · exact halts (by decide)
      · exact ensures_nil
  case connect =>
      unfold ConnectActor.receive
      split
      · exact Produces.connectHandled rfl _
      · exact halts (by decide)
      · exact ensures_nil
  case connack =>
      unfold ConnackActor.receive
      split
      · exact halts (by decide)
      · exact Produces.connacked rfl _ _
      · exact ensures_nil
  case pingreq =>
      unfold PingreqActor.receive
      split
      · exact halts (by decide)
      · rename_i lastRetryCount
        unfold PingreqActor.handle
        split
        · rename_i above
          exact (Produces.reports ..).maxRetryCountExceeded _ _ _
            (.giveUp (.pingreq lastRetryCount rfl above))
        · exact ensures_cons.mpr ⟨.ping lastRetryCount rfl, ensures_nil⟩
      · rename_i lastRetryCount
        exact Produces.implSendPacketActor
          (fun below => (Attempts.sendPing lastRetryCount rfl below).ensures)
          (fun above => .sendPing lastRetryCount rfl above)
      · exact ensures_nil
  case dispatch =>
      unfold DispatchActor.receive
      split
      · rename_i msg
        unfold DispatchActor.handle
        split
        · exact ensures_nil
        · rename_i dst name target
          exact ensures_trySend ((Produces.reports ..).handleSendError _)
            (.dispatch msg dst name rfl target) ensures_nil
      · exact halts (by decide)
      · exact ensures_nil
  case recv =>
      unfold RecvActor.receive
      split
      · exact ensures_append.mpr
          ⟨halts (by decide), (Produces.reports ..).doSendStop⟩
      · exact ensures_nil
  case message | clientStop => exact ensures_nil

end Handlers

/-! ## The futures -/

/-- Every effect of a future once it is answered. -/
inductive Continues (ctx : Ctx) : Future → Answer → ClientEffect → Prop where
  | error (future : Future) (answer : Answer) (tag : String) (kind : ErrorKind) (text : String) :
      Continues ctx future answer (.emit (.error ctx.origin tag kind text))
  | askStop (future : Future) (answer : Answer) :
      Continues ctx future answer (.post .stop ⟨ctx.origin, .stop⟩)
  | checked (status self : Actor) (id : UInt16) (check : StatusCheck) (retryMsg : Request)
      (answer : Answer) (passes : check.passes answer) :
      Continues ctx (.statusCheck status self id check retryMsg) answer
        (.post self ⟨ctx.origin, .request retryMsg⟩)
  | publishChecked (id : UInt16) (msg : Publish) (status : PacketStatus PublishPacketStatus)
      (pending : status.payload = .pendingRec) :
      Continues ctx (.publishLevel2 id msg) (.publishStatus (some status))
        (.post .sendPublish ⟨ctx.origin, .request (.publish msg)⟩)
  | phase2 (id : UInt16) (msg : PacketMessage PublishPacket)
      (status : PacketStatus PublishPacketStatus) (pending : status.payload = .pendingRec) :
      Continues ctx (.checkStatusPhase2 id msg) (.publishStatus (some status))
        (.post .recvPublish
          ⟨ctx.origin, .request (RecvPublishActor.request msg.packet msg.retryCount)⟩)
  | timeout (future : Future) (dst : Actor) (req : Request) :
      Continues ctx future (.error .timeout)
        (.spawn ⟨ctx.origin, .resend (ctx.now + resendDelay) dst req⟩)
  | accept (id : UInt16) (packet : PublishPacket) :
      Continues ctx (.recvLevel2 id packet 0) (.publishStatus none)
        (.emit (.accepted ctx.origin packet (RecvPublishActor.publishMessage id packet)))
  | redeliver (id : UInt16) (packet : PublishPacket) :
      Continues ctx (.recvLevel2 id packet 0) (.publishStatus none)
        (.spawn ⟨ctx.origin,
          .resend (ctx.now + resendDelay) .recvPublish (RecvPublishActor.request packet 0)⟩)
  | note (id retryCount : UInt16) (packet : PublishPacket) (answer : Answer)
      (known : ∀ e, answer ≠ .error e) :
      Continues ctx (.recvLevel2 id packet retryCount) answer
        (.post .publishStatus
          ⟨ctx.origin, .publishStatus (.setPacketStatus id ⟨id, retryCount, .pendingRel⟩) none⟩)
  | send (id retryCount : UInt16) (packet : PublishPacket) (answer : Answer)
      (known : ∀ e, answer ≠ .error e) :
      Continues ctx (.recvLevel2 id packet retryCount) answer
        (.post .send ⟨ctx.origin, .request (.packet ⟨.pubrec id, 0⟩)⟩)
  | queued (id retryCount : UInt16) (packet : PublishPacket) (answer : Answer)
      (known : ∀ e, answer ≠ .error e) :
      Continues ctx (.recvLevel2 id packet retryCount) answer
        (.emit (.queued ctx.origin (.pubrec id)))
  | resend (id retryCount : UInt16) (packet : PublishPacket) (answer : Answer)
      (known : ∀ e, answer ≠ .error e) :
      Continues ctx (.recvLevel2 id packet retryCount) answer
        (.spawn ⟨ctx.origin, .resend (ctx.now + resendDelay) .recvPublish
          (RecvPublishActor.request packet (retryCount + 1))⟩)
  | timer (id retryCount : UInt16) (packet : PublishPacket) (answer : Answer)
      (known : ∀ e, answer ≠ .error e) :
      Continues ctx (.recvLevel2 id packet retryCount) answer
        (.spawn ⟨ctx.origin, .timer (ctx.now + commandTimeout) none
          (.checkStatusPhase2 id ⟨packet, retryCount + 1⟩)⟩)
  | pingPending (lastRetryCount : UInt16) (answer : Answer) :
      Continues ctx (.pingConnected lastRetryCount) answer
        (.spawn ⟨ctx.origin, .spawned (.pingPending lastRetryCount)⟩)
  | sendPing (lastRetryCount : UInt16) (answer : Answer) :
      Continues ctx (.pingPending lastRetryCount) answer
        (.post .pingreq ⟨ctx.origin, .request (.sendPing 0)⟩)
  | stopConnect (answer : Answer) :
      Continues ctx .connectAck answer (.post .connect ⟨ctx.origin, .stop⟩)

section Futures

variable {env : Env} {ctx : Ctx}

theorem Continues.reports (ctx : Ctx) (future : Future) (answer : Answer) :
    Reports ctx (Continues ctx future answer) := ⟨.error future answer, .askStop future answer⟩

theorem Continues.acknowledge (self : ctx.self = .recvPublish) (id retryCount : UInt16)
    (packet : PublishPacket) (answer : Answer) (known : ∀ e, answer ≠ .error e) :
    Ensures (Continues ctx (.recvLevel2 id packet retryCount) answer)
      (RecvPublishActor.acknowledge ctx id packet retryCount) := by
  have again (tag : String) (e : SendError) :
      Ensures (Continues ctx (.recvLevel2 id packet retryCount) answer)
        (handleSendErrorWithResend ctx tag ctx.self
          (RecvPublishActor.request packet (retryCount + 1)) e) := by
    rw [self]
    exact (Continues.reports ..).handleSendErrorWithResend (.resend id retryCount packet _ known)
      tag e
  exact ensures_trySend (again _) (.note id retryCount packet _ known) <|
    ensures_trySendPacket (again _) (.send id retryCount packet _ known)
      (.queued id retryCount packet _ known) <|
      ensures_cons.mpr ⟨.timer id retryCount packet _ known, ensures_nil⟩

theorem Future.resume_continues (env : Env) (future : Future) (self : ctx.self = future.self)
    (answer : Answer) : Ensures (Continues ctx future answer) (future.resume env ctx answer) := by
  have reports := Continues.reports ctx future answer
  cases future with
  | statusCheck status self' id check retryMsg =>
      simp only [Future.resume, statusChecked]
      split
      · refine reports.handleMailboxErrorWithResend ?_ _
        rintro rfl
        exact .timeout _ _ _
      · split
        · rename_i passes
          exact ensures_cons.mpr ⟨.checked status self' id check retryMsg _ passes, ensures_nil⟩
        · exact ensures_nil
  | publishLevel2 id msg =>
      simp only [Future.resume, SendPublishActor.level2Checked]
      split
      · split
        · rename_i status pending
          exact ensures_cons.mpr ⟨.publishChecked id msg status pending, ensures_nil⟩
        · exact ensures_nil
      · refine reports.handleMailboxErrorWithResend ?_ _
        rintro rfl
        exact .timeout _ _ _
      · exact ensures_nil
  | recvLevel2 id packet retryCount =>
      simp only [Future.resume, RecvPublishActor.level2Answered]
      split
      · refine reports.handleMailboxErrorWithResend ?_ _
        rintro rfl
        exact .timeout _ _ _
      · split
        · rename_i fresh
          subst fresh
          refine ensures_deliver (fun e => ?_) (.accept id packet)
            (Continues.acknowledge self id 0 packet _ (by simp))
          refine reports.handleSendErrorWithResend ?_ _ e
          rw [self]
          exact .redeliver id packet
        · exact Continues.acknowledge self id retryCount packet _ (by simp)
      · rename_i notError _
        exact Continues.acknowledge self id retryCount packet _ notError
  | checkStatusPhase2 id msg =>
      simp only [Future.resume, RecvPublishActor.checkStatusPhase2]
      split
      · split
        · rename_i status pending
          exact ensures_cons.mpr ⟨.phase2 id msg status pending, ensures_nil⟩
        · exact ensures_nil
      · exact ensures_nil
      · refine reports.handleMailboxErrorWithResend ?_ _
        rintro rfl
        exact .timeout _ _ _
      · exact ensures_nil
  | pingConnected lastRetryCount =>
      simp only [Future.resume, PingreqActor.connectStatusKnown]
      split
      · exact ensures_cons.mpr ⟨.pingPending lastRetryCount _, ensures_nil⟩
      · exact ensures_nil
  | pingPending lastRetryCount =>
      simp only [Future.resume, PingreqActor.pingStatusKnown]
      split
      · exact ensures_cons.mpr ⟨.sendPing lastRetryCount _, ensures_nil⟩
      · refine reports.handleMailboxErrorWithResend ?_ _
        rintro rfl
        exact .timeout _ _ _
      · exact ensures_nil
  | connectAck =>
      simp only [Future.resume, ConnectActor.connectAckKnown]
      split
      · exact ensures_cons.mpr ⟨.stopConnect _, ensures_nil⟩
      · exact ensures_append.mpr ⟨reports.sendError _ _ _, reports.doSendStop⟩
      · exact ensures_append.mpr ⟨reports.sendError _ _ _, reports.doSendStop⟩

end Futures

/-! ## Steps -/

/-- Every effect of a task. -/
inductive Runs (env : Env) (res : Actor → Option SendError) (s : State) (o : Origin) :
    Job → ClientEffect → Prop where
  | resend (deadline : Nat) (dst : Actor) (req : Request) :
      Runs env res s o (.resend deadline dst req) (.post dst ⟨o, .request req⟩)
  | timer (deadline : Nat) (owner : Option Actor) (future : Future) :
      Runs env res s o (.timer deadline owner future) (.spawn ⟨o, .spawned future⟩)
  | notify (notice : Notice) {e : ClientEffect}
      (produces : Produces env ⟨notice.owner, o, s.now, res⟩ s (.request notice.request) e) :
      Runs env res s o (.notify notice) e
  | closed (future : Future) (refused : res future.question.1 = some .closed) :
      Runs env res s o (.spawned future) (.spawn ⟨o, .resumed future (.error .closed)⟩)
  | waits (future : Future) (refused : res future.question.1 = some .full) :
      Runs env res s o (.spawned future) (.spawn ⟨o, .spawned future⟩)
  | asks (future : Future) (accepts : res future.question.1 = none) :
      Runs env res s o (.spawned future) (.post future.question.1 ⟨o, future.question.2⟩)
  | resumed (future : Future) (answer : Answer) {e : ClientEffect}
      (continues : Continues ⟨future.self, o, s.now, res⟩ future answer e) :
      Runs env res s o (.resumed future answer) e

theorem resume_runs (env : Env) (t : Task) (res : Actor → Option SendError) (s : State) :
    Ensures (Runs env res s t.origin t.job) (resume env t res s).2 := by
  obtain ⟨o, job⟩ := t
  unfold resume
  cases job with
  | resend deadline dst req => exact ensures_cons.mpr ⟨.resend deadline dst req, ensures_nil⟩
  | timer deadline owner future =>
      exact ensures_cons.mpr ⟨.timer deadline owner future, ensures_nil⟩
  | notify notice =>
      intro e member
      exact .notify notice (handleBody_produces env _ s _ e member)
  | spawned future =>
      dsimp only
      split
      · rename_i refused
        exact ensures_cons.mpr ⟨.closed future refused, ensures_nil⟩
      · rename_i refused
        exact ensures_cons.mpr ⟨.waits future refused, ensures_nil⟩
      · rename_i accepted
        exact ensures_cons.mpr ⟨.asks future accepted, ensures_nil⟩
  | resumed future answer =>
      intro e member
      exact .resumed future answer (Future.resume_continues env future rfl answer e member)

/-- Every effect of the arrival of an origin. -/
inductive Arrives (o : Origin) : ClientEffect → Prop where
  | error (tag : String) (kind : ErrorKind) (text : String) :
      Arrives o (.emit (.error o tag kind text))
  | askStop : Arrives o (.post .stop ⟨o, .stop⟩)
  | publish (topic : String) (qos : QualityOfService) (payload : List UInt8)
      (cause : o.cause = .publish topic qos payload) :
      Arrives o (.post .sendPublish ⟨o, .request (.publish (.new topic qos payload))⟩)
  | subscribe (msg : Subscribe) (cause : o.cause = .subscribe msg) :
      Arrives o (.post .subscribe ⟨o, .subscribe msg⟩)
  | unsubscribe (msg : Unsubscribe) (cause : o.cause = .unsubscribe msg) :
      Arrives o (.post .unsubscribe ⟨o, .unsubscribe msg⟩)
  | connect (msg : Connect) (cause : o.cause = .connect msg) :
      Arrives o (.post .connect ⟨o, .connect msg⟩)
  | disconnect (msg : Disconnect) (cause : o.cause = .disconnect msg) :
      Arrives o (.post .disconnect ⟨o, .request (.disconnect msg)⟩)
  | received (packet : VariablePacket) (message : Nat) (cause : o.cause = .received packet message) :
      Arrives o (.post .dispatch ⟨o, .request (.packet ⟨packet, 0⟩)⟩)
  | haltRecv (text : String) (cause : o.cause = .parseError text) : Arrives o (.halt .recv)
  | haltSend (text : String) (cause : o.cause = .writeError text) : Arrives o (.halt .send)
  | tick (cause : o.cause = .tick) : Arrives o (.spawn ⟨o, .notify (.pingreq 0)⟩)

theorem arrive_arrives {env : Env} {o : Origin} {res : Actor → Option SendError} {s s' : State}
    {es : Out} (arrived : arrive env o res s = some (s', es)) : Ensures (Arrives o) es := by
  have reports (self : Actor) : Reports ⟨self, o, s.now, res⟩ (Arrives o) := ⟨.error, .askStop⟩
  unfold arrive at arrived
  cases cause : o.cause with
  | setup => simp [cause] at arrived
  | publish topic qos payload =>
      simp only [cause, Option.some.injEq, Prod.mk.injEq] at arrived
      obtain ⟨rfl, rfl⟩ := arrived
      exact ensures_cons.mpr ⟨.publish topic qos payload cause, ensures_nil⟩
  | subscribe msg =>
      simp only [cause, Option.some.injEq, Prod.mk.injEq] at arrived
      obtain ⟨rfl, rfl⟩ := arrived
      exact ensures_cons.mpr ⟨.subscribe msg cause, ensures_nil⟩
  | unsubscribe msg =>
      simp only [cause, Option.some.injEq, Prod.mk.injEq] at arrived
      obtain ⟨rfl, rfl⟩ := arrived
      exact ensures_cons.mpr ⟨.unsubscribe msg cause, ensures_nil⟩
  | connect msg =>
      simp only [cause, Option.some.injEq, Prod.mk.injEq] at arrived
      obtain ⟨rfl, rfl⟩ := arrived
      exact ensures_cons.mpr ⟨.connect msg cause, ensures_nil⟩
  | disconnect msg =>
      simp only [cause, Option.some.injEq, Prod.mk.injEq] at arrived
      obtain ⟨rfl, rfl⟩ := arrived
      exact ensures_cons.mpr ⟨.disconnect msg cause, ensures_nil⟩
  | received packet message =>
      simp only [cause, Option.ite_none_left_eq_some, Option.some.injEq, Prod.mk.injEq] at arrived
      obtain ⟨_, rfl, rfl⟩ := arrived
      exact ensures_trySend (fun e => (reports .recv).sendError _ _ _)
        (.received packet message cause) ensures_nil
  | parseError text =>
      simp only [cause, Option.ite_none_left_eq_some, Option.some.injEq, Prod.mk.injEq] at arrived
      obtain ⟨_, rfl, rfl⟩ := arrived
      refine ensures_append.mpr ⟨ensures_append.mpr ⟨(reports .recv).sendError _ _ _, ?_⟩,
        ensures_append.mpr ⟨ensures_cons.mpr ⟨.haltRecv text cause, ensures_nil⟩,
          (reports .recv).doSendStop⟩⟩
      exact ensures_trySend (fun _ => ensures_nil) .askStop ensures_nil
  | writeError text =>
      simp only [cause, Option.ite_none_left_eq_some, Option.some.injEq, Prod.mk.injEq] at arrived
      obtain ⟨_, rfl, rfl⟩ := arrived
      exact ensures_append.mpr ⟨ensures_append.mpr ⟨(reports .send).sendError _ _ _,
        (reports .send).doSendStop⟩, ensures_cons.mpr ⟨.haltSend text cause, ensures_nil⟩⟩
  | tick =>
      simp only [cause, Option.ite_none_left_eq_some, Option.some.injEq, Prod.mk.injEq] at arrived
      obtain ⟨_, rfl, rfl⟩ := arrived
      exact ensures_cons.mpr ⟨.tick cause, ensures_nil⟩

/-- Every effect of a step. -/
inductive Causes (env : Env) (w : ClientWorld) (full : Actor → Bool) :
    Label Actor Msg Task Input → ClientEffect → Prop where
  | take (a : Actor) (m : Msg) {e : ClientEffect}
      (produces : Produces env ⟨a, m.origin, w.state.now, w.results full⟩ w.state m.body e) :
      Causes env w full (.take a m) e
  | run (t : Task) {e : ClientEffect}
      (runs : Runs env (w.results full) w.state t.origin t.job e) : Causes env w full (.run t) e
  | arrive (o : Origin) {e : ClientEffect} (arrives : Arrives o e) :
      Causes env w full (.give (.cause o)) e
  | messageClosed : Causes env w full (.give .messageClosed) (.halt .message)

theorem reaction_causes {env : Env} {w : ClientWorld} {full : Actor → Bool}
    {label : Label Actor Msg Task Input} {s : State} {es : Out}
    (reacted : w.reaction (system env) (w.results full) label = some (s, es)) :
    Ensures (Causes env w full label) es := by
  intro e member
  cases label with
  | take a m =>
      obtain ⟨-, -, handled⟩ := World.reaction_take.mp reacted
      have produces := handleBody_produces env ⟨a, m.origin, w.state.now, w.results full⟩
        w.state m.body
      rw [show handleBody env _ m.body w.state = (s, es) from handled] at produces
      exact .take a m (produces e member)
  | run t =>
      obtain ⟨-, -, resumed⟩ := World.reaction_run.mp reacted
      have runs := resume_runs env t (w.results full) w.state
      rw [show resume env t _ w.state = (s, es) from resumed] at runs
      exact .run t (runs e member)
  | give i =>
      have accepted : accept env i (w.results full) w.state = some (s, es) := reacted
      cases i with
      | cause o =>
          simp only [accept, Option.ite_none_left_eq_some] at accepted
          exact .arrive o (arrive_arrives accepted.2 e member)
      | messageClosed =>
          simp only [accept, Option.some.injEq, Prod.mk.injEq] at accepted
          obtain ⟨-, rfl⟩ := accepted
          obtain rfl := List.mem_singleton.mp member
          exact .messageClosed
      | nextIdElsewhere | advance duration =>
          simp only [accept, Option.some.injEq, Prod.mk.injEq] at accepted
          obtain ⟨-, rfl⟩ := accepted
          exact absurd member (by simp)

/-- The origin that an effect passes on. -/
def effectOrigin : ClientEffect → Option Origin
  | .post _ m => some m.origin
  | .spawn t => some t.origin
  | .emit (.queued o _) => some o
  | _ => none

section Origin

variable {env : Env} {ctx : Ctx} {s : State} {o : Origin} {e : ClientEffect}

theorem Produces.origin {b : Body} (produces : Produces env ctx s b e) :
    ∀ o ∈ effectOrigin e, o = ctx.origin := by
  cases produces <;> intro o same <;> cases same <;> rfl

theorem Continues.origin {future : Future} {answer : Answer}
    (continues : Continues ctx future answer e) : ∀ o ∈ effectOrigin e, o = ctx.origin := by
  cases continues <;> intro o same <;> cases same <;> rfl

theorem Runs.origin {res : Actor → Option SendError} {job : Job} (runs : Runs env res s o job e) :
    ∀ o' ∈ effectOrigin e, o' = o := by
  cases runs with
  | notify notice produces => exact produces.origin
  | resumed future answer continues => exact continues.origin
  | _ =>
      intro o' same
      cases same
      rfl

theorem Arrives.origin (arrives : Arrives o e) : ∀ o' ∈ effectOrigin e, o' = o := by
  cases arrives <;> intro o' same <;> cases same <;> rfl

theorem Produces.reported {b : Body} {tag text : String} {kind : ErrorKind}
    (produces : Produces env ctx s b (.emit (.error o tag kind text))) : o = ctx.origin := by
  generalize shape : (Effect.emit (.error o tag kind text) : ClientEffect) = e at produces
  cases produces <;> cases shape
  rfl

theorem Runs.reported {res : Actor → Option SendError} {o' : Origin} {job : Job}
    {tag text : String} {kind : ErrorKind}
    (runs : Runs env res s o' job (.emit (.error o tag kind text))) : o = o' := by
  generalize shape : (Effect.emit (.error o tag kind text) : ClientEffect) = e at runs
  cases runs with
  | notify notice produces =>
      subst shape
      exact produces.reported
  | resumed future answer continues =>
      cases continues <;> cases shape
      rfl
  | _ => cases shape

theorem Arrives.reported {o' : Origin} {tag text : String} {kind : ErrorKind}
    (arrives : Arrives o' (.emit (.error o tag kind text))) : o = o' := by
  generalize shape : (Effect.emit (.error o tag kind text) : ClientEffect) = e at arrives
  cases arrives <;> cases shape
  rfl

end Origin

/-- The origin of what a step handles. -/
def stepOrigin : Label Actor Msg Task Input → Option Origin
  | .take _ m => some m.origin
  | .run t => some t.origin
  | .give (.cause o) => some o
  | .give _ => none

/-- The future that awaits the answer to a message. -/
def Body.reply : Body → Option Future
  | .publishStatus _ reply | .unitStatus _ reply => reply
  | .statusExistence _ reply => some reply
  | _ => none

theorem orphan_reply {m : Msg} {t : Task} (left : t ∈ orphan m) :
    ∃ future, m.body.reply = some future ∧ t = ⟨m.origin, .resumed future (.error .closed)⟩ := by
  obtain ⟨o, b⟩ := m
  simp only [orphan] at left
  split at left
  · exact ⟨_, rfl, List.mem_singleton.mp left⟩
  · exact ⟨_, rfl, List.mem_singleton.mp left⟩
  · exact ⟨_, rfl, List.mem_singleton.mp left⟩
  · cases left

theorem orphan_origin {m : Msg} {t : Task} (left : t ∈ orphan m) : t.origin = m.origin := by
  obtain ⟨future, -, rfl⟩ := orphan_reply left
  rfl

section Reaction

variable {env : Env} {w w' : ClientWorld} {mv : ClientMove} {full : Actor → Bool} {s : State}
  {es : Out}

/-- The effects of a step pass on the origin of what it handles. -/
theorem origin_step {label : Label Actor Msg Task Input} {e : ClientEffect} {o : Origin}
    (reacted : w.reaction (system env) (w.results full) label = some (s, es)) (member : e ∈ es)
    (origin : effectOrigin e = some o) : stepOrigin label = some o := by
  cases reaction_causes reacted e member with
  | take a m produces => exact congrArg some (produces.origin o origin).symm
  | run t runs => exact congrArg some (runs.origin o origin).symm
  | arrive o' arrives => exact congrArg some (arrives.origin o origin).symm
  | messageClosed => cases origin

theorem reported_step {label : Label Actor Msg Task Input} {o : Origin} {tag text : String}
    {kind : ErrorKind} (reacted : w.reaction (system env) (w.results full) label = some (s, es))
    (member : .emit (.error o tag kind text) ∈ es) : stepOrigin label = some o := by
  cases reaction_causes reacted _ member with
  | take a m produces => exact congrArg some produces.reported.symm
  | run t runs => exact congrArg some runs.reported.symm
  | arrive o' arrives => exact congrArg some arrives.reported.symm

theorem emitted_step
    (reacted : w.reaction (system env) (w.results mv.full) mv.label = some (s, es))
    (taken : clientStep env w mv = some w') {e : Event} :
    .emitted e ∈ w'.log ↔ .emit e ∈ es ∨ .emitted e ∈ w.log := by
  rw [World.fire_log reacted taken]
  simp only [List.mem_append, List.mem_map, List.mem_reverse, List.mem_cons]
  constructor
  · rintro (⟨e', member, same⟩ | same | before)
    · cases same
      exact .inl (mem_emits.mp member)
    · obtain ⟨label, full⟩ := mv
      cases label <;> cases same
    · exact .inr before
  · rintro (member | before)
    · exact .inl ⟨e, mem_emits.mpr member, rfl⟩
    · exact .inr (.inr before)

theorem took_step (taken : clientStep env w mv = some w') {a : Actor} {m : Msg} :
    .took a m ∈ w'.log ↔ mv.label = .take a m ∨ .took a m ∈ w.log := by
  obtain ⟨s, es, reacted, -⟩ := World.fire_eq_some.mp taken
  rw [World.fire_log reacted taken]
  simp only [List.mem_append, List.mem_map, List.mem_cons]
  constructor
  · rintro (⟨e, -, same⟩ | same | before)
    · cases same
    · obtain ⟨label, full⟩ := mv
      cases label <;> cases same
      exact .inl rfl
    · exact .inr before
  · rintro (label | before)
    · exact .inr (.inl (by rw [label]; rfl))
    · exact .inr (.inr before)

theorem gave_step (taken : clientStep env w mv = some w') {i : Input} :
    .gave i ∈ w'.log ↔ mv.label = .give i ∨ .gave i ∈ w.log := by
  obtain ⟨s, es, reacted, -⟩ := World.fire_eq_some.mp taken
  rw [World.fire_log reacted taken]
  simp only [List.mem_append, List.mem_map, List.mem_cons]
  constructor
  · rintro (⟨e, -, same⟩ | same | before)
    · cases same
    · obtain ⟨label, full⟩ := mv
      cases label <;> cases same
      exact .inl rfl
    · exact .inr before
  · rintro (label | before)
    · exact .inr (.inl (by rw [label]; rfl))
    · exact .inr (.inr before)

/-- The step in which an actor handles a message from its mailbox or one it notified itself of. -/
inductive Handles : Label Actor Msg Task Input → Actor → Origin → Body → Prop where
  | take (a : Actor) (o : Origin) (b : Body) : Handles (.take a ⟨o, b⟩) a o b
  | notify (o : Origin) (notice : Notice) :
      Handles (.run ⟨o, .notify notice⟩) notice.owner o (.request notice.request)

theorem Handles.label_eq {label : Label Actor Msg Task Input} {a : Actor} {o : Origin} {b : Body}
    (handles : Handles label a o b) : label = .take a ⟨o, b⟩ ∨ ∃ notice,
      label = .run ⟨o, .notify notice⟩ ∧ notice.owner = a ∧ b = .request notice.request := by
  cases handles with
  | take a o b => exact .inl rfl
  | notify o notice => exact .inr ⟨notice, rfl, rfl, rfl⟩

theorem Handles.alike {β : Type} {f : Label Actor Msg Task Input → β}
    {label : Label Actor Msg Task Input} {a : Actor} {o : Origin} {b : Body}
    (handles : Handles label a o b)
    (same : ∀ o (notice : Notice), f (.run ⟨o, .notify notice⟩) =
      f (.take notice.owner ⟨o, .request notice.request⟩)) : f label = f (.take a ⟨o, b⟩) := by
  cases handles with
  | take a o b => rfl
  | notify o notice => exact same o notice

theorem Handles.reaction {label : Label Actor Msg Task Input} {a : Actor} {o : Origin} {b : Body}
    (handles : Handles label a o b)
    (reacted : w.reaction (system env) (w.results full) label = some (s, es)) :
    handleBody env ⟨a, o, w.state.now, w.results full⟩ b w.state = (s, es) := by
  cases handles with
  | take a o b => exact (World.reaction_take.mp reacted).2.2
  | notify o notice => exact (World.reaction_run.mp reacted).2.2

/-- A packet is queued by a handler that sends it, or it is the PUBREC of a future. -/
theorem queued_reaction {label : Label Actor Msg Task Input} {o : Origin} {packet : VariablePacket}
    (reacted : w.reaction (system env) (w.results full) label = some (s, es))
    (queued : .emit (.queued o packet) ∈ es) :
    (∃ a b, Handles label a o b ∧ Sends env ⟨a, o, w.state.now, w.results full⟩ w.state b packet) ∨
      ∃ id packet' retryCount answer,
        label = .run ⟨o, .resumed (.recvLevel2 id packet' retryCount) answer⟩ ∧
          packet = .pubrec id := by
  have sends {ctx : Ctx} {b : Body}
      (produces : Produces env ctx w.state b (.emit (.queued o packet))) :
      ctx.origin = o ∧ Sends env ctx w.state b packet := by
    generalize shape : (Effect.emit (.queued o packet) : ClientEffect) = e at produces
    cases produces with
    | queued sends =>
        cases shape
        exact ⟨rfl, sends⟩
    | _ => cases shape
  cases reaction_causes reacted _ queued with
  | take a m produces =>
      obtain ⟨o', b⟩ := m
      obtain ⟨rfl, sent⟩ := sends produces
      exact .inl ⟨a, b, .take a o' b, sent⟩
  | run t runs =>
      obtain ⟨o', job⟩ := t
      generalize shape : (Effect.emit (.queued o packet) : ClientEffect) = e at runs
      cases runs with
      | notify notice produces =>
          subst shape
          obtain ⟨rfl, sent⟩ := sends produces
          exact .inl ⟨_, _, .notify o' notice, sent⟩
      | resumed future answer continues =>
          cases continues with
          | queued id retryCount packet' answer known =>
              cases shape
              exact .inr ⟨id, packet', retryCount, answer, rfl, rfl⟩
          | _ => cases shape
      | _ => cases shape
  | arrive o' arrives => cases arrives

/-- A message is delivered by RecvPublishActor when it handles it, or by a future that is told that the
    message is new. -/
theorem accepted_reaction {label : Label Actor Msg Task Input} {o : Origin} {packet : PublishPacket}
    {message : PublishMessage}
    (reacted : w.reaction (system env) (w.results full) label = some (s, es))
    (accepted : .emit (.accepted o packet message) ∈ es) :
    (∃ id retryCount, label = .take .recvPublish
        ⟨o, .request (RecvPublishActor.request packet retryCount)⟩ ∧
      ¬ retryCount > maxRetryCount ∧ (packet.qos = .level0 ∧ id = 0 ∨ packet.qos = .level1 id)) ∨
    ∃ id, label = .run ⟨o, .resumed (.recvLevel2 id packet 0) (.publishStatus none)⟩ := by
  generalize shape : (Effect.emit (.accepted o packet message) : ClientEffect) = e at accepted
  cases reaction_causes reacted e accepted with
  | take a m produces =>
      obtain ⟨o', b⟩ := m
      cases produces with
      | accept packet' retryCount id self below qos =>
          cases shape
          obtain rfl : a = .recvPublish := self
          exact .inl ⟨id, retryCount, rfl, below, qos⟩
      | _ => cases shape
  | run t runs =>
      obtain ⟨o', job⟩ := t
      cases runs with
      | notify notice produces =>
          subst shape
          cases notice <;> cases produces
      | resumed future answer continues =>
          cases continues with
          | accept id packet' =>
              cases shape
              exact .inr ⟨id, rfl⟩
          | _ => cases shape
      | _ => cases shape
  | arrive o' arrives => cases arrives <;> cases shape
  | messageClosed => cases shape

theorem Attempts.reaction {label : Label Actor Msg Task Input} {a : Actor} {o : Origin} {b : Body}
    {att : Attempt} (attempts : Attempts env ⟨a, o, w.state.now, w.results full⟩ w.state b att)
    (handles : Handles label a o b)
    (reacted : w.reaction (system env) (w.results full) label = some (s, es)) :
    .post .stop ⟨o, .stop⟩ ∈ es ∨
    (.spawn ⟨o, .resend (w.state.now + resendDelay) a att.retry⟩ ∈ es ∧
      ((∀ dst m, .post dst m ∉ es) ∨
        w.results full att.status = none ∧ w.results full .send = some .full)) ∨
    es = [.post att.status ⟨o, att.note⟩, .post .send ⟨o, .request (.packet ⟨att.packet, 0⟩)⟩,
      .emit (.queued o att.packet),
      .spawn ⟨o, .timer (w.state.now + commandTimeout) (some a) att.check⟩] := by
  obtain ⟨statusTag, sendTag, attempted⟩ := attempts.handleBody_eq
  rw [handles.reaction reacted] at attempted
  obtain rfl : es = _ := attempted
  exact Attempt.exits _ statusTag sendTag att

theorem publishStatus_reaction {o : Origin} {op : StatusOperationMessage PublishPacketStatus}
    {future : Option Future} (reacted : w.reaction (system env) (w.results full)
      (.take .publishStatus ⟨o, .publishStatus op future⟩) = some (s, es)) :
    s = { w.state with publishStatus := (PacketStatusActor.handle w.state.publishStatus op).1 } ∧
    es = .post .disconnect ⟨o, .packetSendStatus
        ⟨(PacketStatusActor.handle w.state.publishStatus op).1.keys.length == 0⟩⟩ ::
      (future.map fun future => .spawn ⟨o, .resumed future
        (.publishStatus (PacketStatusActor.handle w.state.publishStatus op).2)⟩).toList := by
  obtain ⟨-, -, handled⟩ := World.reaction_take.mp reacted
  obtain ⟨rfl, rfl⟩ := Prod.mk.inj handled
  refine ⟨rfl, ?_⟩
  cases future <;> rfl

end Reaction

end ActixMqtt
