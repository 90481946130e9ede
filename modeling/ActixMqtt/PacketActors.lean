import ActixMqtt.Sending

/-! # The actors built by macros

`impl_response_packet_actor!` and `impl_send_packet_actor!` are one definition
each; their instances keep the source's names and arguments. The ping actors and
the subscription actors are instances with a few handlers of their own.
-/

namespace ActixMqtt

open ActorSystem

def State.nextId (env : Env) (s : State) : UInt16 × State :=
  let (id, counter) := ActixMqtt.nextId env.wordBits s.counter
  (id, { s with counter := counter })

/-- The arguments of `impl_response_packet_actor!`. -/
structure ResponsePacketActor (T : Type) where
  name : String
  status : StatusRecipient T

def implResponsePacketActor {T : Type} (actor : ResponsePacketActor T) (ctx : Ctx) (id : UInt16)
    (retryMsg : PacketMessage VariablePacket) : Out :=
  resetPacketStatus ctx actor.name actor.status id (.packet retryMsg)

/-- `get_retry_msg_func!`: no cap is tested. -/
def getRetryMsg {T : Type} (msg : PacketMessage T) : PacketMessage T :=
  { msg with retryCount := msg.retryCount + 1 }

def PubackActor.handle (ctx : Ctx) (id retryCount : UInt16) : Out :=
  implResponsePacketActor ⟨"PubackActor", publishStatusRecipient⟩ ctx id
    (getRetryMsg ⟨.puback id, retryCount⟩)

def PubcompActor.handle (ctx : Ctx) (id retryCount : UInt16) : Out :=
  implResponsePacketActor ⟨"PubcompActor", publishStatusRecipient⟩ ctx id
    (getRetryMsg ⟨.pubcomp id, retryCount⟩)

def SubackActor.handle (ctx : Ctx) (id retryCount : UInt16) : Out :=
  implResponsePacketActor ⟨"SubackActor", unitStatusRecipient .subscribeStatus⟩ ctx id
    (getRetryMsg ⟨.suback id, retryCount⟩)

def UnsubackActor.handle (ctx : Ctx) (id retryCount : UInt16) : Out :=
  implResponsePacketActor ⟨"UnsubackActor", unitStatusRecipient .unsubscribeStatus⟩ ctx id
    (getRetryMsg ⟨.unsuback id, retryCount⟩)

def PingrespActor.handle (ctx : Ctx) (retryCount : UInt16) : Out :=
  implResponsePacketActor ⟨"PingrespActor", unitStatusRecipient .pingStatus⟩ ctx 0
    (getRetryMsg ⟨.pingresp, retryCount⟩)

/-- The arguments of `impl_send_packet_actor!` for messages of type `M`. -/
structure SendPacketActor (M T : Type) where
  name : String
  status : StatusRecipient T
  getRetryCountFromMessage : M → UInt16
  createRetryMessageFromMessage : M → M
  createStatusFromIdAndRetryCount : UInt16 → UInt16 → StatusOperationMessage T
  statusCheckFunc : StatusCheck
  request : M → Request

/-- The handler of `impl_send_packet_actor!`, given what `create_packet_and_id_from_message`
    returned. -/
def implSendPacketActor {M T : Type} (actor : SendPacketActor M T) (ctx : Ctx)
    (packetAndId : Option (VariablePacket × UInt16)) (msg : M) : Out :=
  match packetAndId with
  | none => []
  | some (packet, id) =>
      let lastRetryCount := actor.getRetryCountFromMessage msg
      if lastRetryCount > maxRetryCount then
        maxRetryCountExceeded ctx actor.name actor.status id
      else
        let resendMsg := actor.request (actor.createRetryMessageFromMessage msg)
        setPacketStatus ctx actor.name actor.status resendMsg
            (actor.createStatusFromIdAndRetryCount id lastRetryCount) <|
          sendPacket ctx actor.name packet resendMsg <|
          scheduleStatusCheck ctx actor.status.actor id resendMsg actor.statusCheckFunc

/-- The default status of `impl_send_packet_actor!`. -/
def createUnitStatus (id retryCount : UInt16) : StatusOperationMessage Unit :=
  .setPacketStatus id ⟨id, retryCount, ()⟩

def PubrecActor.actor : SendPacketActor (PacketMessage UInt16) PublishPacketStatus where
  name := "PubrecActor"
  status := publishStatusRecipient
  getRetryCountFromMessage := PacketMessage.retryCount
  createRetryMessageFromMessage := getRetryMsg
  createStatusFromIdAndRetryCount id retryCount := .setPacketStatus id ⟨id, retryCount, .pendingComp⟩
  statusCheckFunc := .isPending .pendingRec
  request msg := .packet ⟨.pubrec msg.packet, msg.retryCount⟩

/-- A PUBREC is answered by a PUBREL. -/
def PubrecActor.handle (ctx : Ctx) (msg : PacketMessage UInt16) : Out :=
  implSendPacketActor PubrecActor.actor ctx (some (.pubrel msg.packet, msg.packet)) msg

def PubrelActor.actor : SendPacketActor (PacketMessage UInt16) PublishPacketStatus where
  name := "PubrelActor"
  status := publishStatusRecipient
  getRetryCountFromMessage := PacketMessage.retryCount
  createRetryMessageFromMessage := getRetryMsg
  createStatusFromIdAndRetryCount id _ := .removePacketStatus id
  statusCheckFunc := .isPending .pendingRel
  request msg := .packet ⟨.pubrel msg.packet, msg.retryCount⟩

/-- A PUBREL is answered by a PUBCOMP. -/
def PubrelActor.handle (ctx : Ctx) (msg : PacketMessage UInt16) : Out :=
  implSendPacketActor PubrelActor.actor ctx (some (.pubcomp msg.packet, msg.packet)) msg

def SubscribeActor.actor : SendPacketActor BatchSubscribe Unit where
  name := "SubscribeActor"
  status := unitStatusRecipient .subscribeStatus
  getRetryCountFromMessage := BatchSubscribe.retryCount
  createRetryMessageFromMessage msg := { msg with retryCount := msg.retryCount + 1 }
  createStatusFromIdAndRetryCount := createUnitStatus
  statusCheckFunc := .isSome
  request := .batchSubscribe

/-- Invalid filters are dropped; without a valid one no identifier is taken. -/
def SubscribeActor.createPacketAndIdFromMessage (env : Env) (msg : BatchSubscribe) (s : State) :
    Option (VariablePacket × UInt16) × State :=
  let subscriptions := msg.subscriptions.filter fun sub => (env.topicFilterError sub.topic).isNone
  if subscriptions.isEmpty then (none, s)
  else
    let (id, s) := s.nextId env
    (some (.subscribe id subscriptions, id), s)

theorem SubscribeActor.createPacketAndIdFromMessage_packet {env : Env} {msg : BatchSubscribe}
    {s : State} {packet : VariablePacket} {id : UInt16}
    (created : (createPacketAndIdFromMessage env msg s).1 = some (packet, id)) :
    ∃ subscriptions, packet = .subscribe id subscriptions := by
  simp only [createPacketAndIdFromMessage] at created
  split at created
  · cases created
  · cases created
    exact ⟨_, rfl⟩

def SubscribeActor.handleBatch (env : Env) (ctx : Ctx) (msg : BatchSubscribe) (s : State) :
    State × Out :=
  let (packetAndId, s) := SubscribeActor.createPacketAndIdFromMessage env msg s
  (s, implSendPacketActor SubscribeActor.actor ctx packetAndId msg)

def SubscribeActor.handle (ctx : Ctx) (msg : Subscribe) : Out :=
  [.spawn ⟨ctx.origin, .notify (.batchSubscribe (.new [msg]))⟩]

def UnsubscribeActor.actor : SendPacketActor BatchUnsubscribe Unit where
  name := "UnsubscribeActor"
  status := unitStatusRecipient .unsubscribeStatus
  getRetryCountFromMessage := BatchUnsubscribe.retryCount
  createRetryMessageFromMessage msg := { msg with retryCount := msg.retryCount + 1 }
  createStatusFromIdAndRetryCount := createUnitStatus
  statusCheckFunc := .isSome
  request := .batchUnsubscribe

def UnsubscribeActor.createPacketAndIdFromMessage (env : Env) (msg : BatchUnsubscribe)
    (s : State) : Option (VariablePacket × UInt16) × State :=
  let topics := msg.topics.filter fun topic => (env.topicFilterError topic).isNone
  if topics.isEmpty then (none, s)
  else
    let (id, s) := s.nextId env
    (some (.unsubscribe id topics, id), s)

theorem UnsubscribeActor.createPacketAndIdFromMessage_packet {env : Env} {msg : BatchUnsubscribe}
    {s : State} {packet : VariablePacket} {id : UInt16}
    (created : (createPacketAndIdFromMessage env msg s).1 = some (packet, id)) :
    ∃ topics, packet = .unsubscribe id topics := by
  simp only [createPacketAndIdFromMessage] at created
  split at created
  · cases created
  · cases created
    exact ⟨_, rfl⟩

def UnsubscribeActor.handleBatch (env : Env) (ctx : Ctx) (msg : BatchUnsubscribe) (s : State) :
    State × Out :=
  let (packetAndId, s) := UnsubscribeActor.createPacketAndIdFromMessage env msg s
  (s, implSendPacketActor UnsubscribeActor.actor ctx packetAndId msg)

def UnsubscribeActor.handle (ctx : Ctx) (msg : Unsubscribe) : Out :=
  [.spawn ⟨ctx.origin, .notify (.batchUnsubscribe (.new [msg.topic]))⟩]

def PingreqActor.actor : SendPacketActor UInt16 Unit where
  name := "PingreqActor"
  status := unitStatusRecipient .pingStatus
  getRetryCountFromMessage := id
  createRetryMessageFromMessage lastRetryCount := lastRetryCount + 1
  createStatusFromIdAndRetryCount := createUnitStatus
  statusCheckFunc := .isSome
  request := .sendPing

/-- `Handler<SendPing>` -/
def PingreqActor.handleSendPing (ctx : Ctx) (lastRetryCount : UInt16) : Out :=
  implSendPacketActor PingreqActor.actor ctx (some (.pingreq, 0)) lastRetryCount

/-- `Handler<Pingreq>`: a future first asks whether the client is connected. -/
def PingreqActor.handle (ctx : Ctx) (lastRetryCount : UInt16) : Out :=
  if lastRetryCount > maxRetryCount then
    maxRetryCountExceeded ctx "PingreqActor" (unitStatusRecipient .pingStatus) 0
  else [.spawn ⟨ctx.origin, .spawned (.pingConnected lastRetryCount)⟩]

def PingreqActor.connectStatusKnown (ctx : Ctx) (lastRetryCount : UInt16) : Answer → Out
  | .existence true => [.spawn ⟨ctx.origin, .spawned (.pingPending lastRetryCount)⟩]
  | _ => []

/-- A ping is only tried when no previous one is on-going. -/
def PingreqActor.pingStatusKnown (ctx : Ctx) (lastRetryCount : UInt16) : Answer → Out
  | .unitStatus none => [.post .pingreq ⟨ctx.origin, .request (.sendPing 0)⟩]
  | .error e =>
      handleMailboxErrorWithResend ctx "PingreqActor:status_recipient" .pingreq
        (.pingreq (lastRetryCount + 1)) e
  | _ => []

end ActixMqtt
