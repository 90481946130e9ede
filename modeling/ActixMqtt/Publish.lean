import ActixMqtt.PacketActors

/-! # Publishing

SendPublishActor, which sends the user's messages and retries them, and
RecvPublishActor, which delivers and acknowledges the messages of the broker.
-/

namespace ActixMqtt

open ActorSystem

namespace SendPublishActor

/-- Every attempt at a level 1 or level 2 message takes a new identifier. The last component
    is what is reported for an invalid topic. -/
def createPacketAndIdFromMessage (env : Env) (ctx : Ctx) (msg : Publish) (s : State) :
    Option (PublishPacket × UInt16) × State × Out :=
  match env.topicNameError msg.topic with
  | some e =>
      let topic := msg.topic
      (none, s, sendError ctx "create_packet_and_id_from_message" .invalidInput
        s!"Failed to create topic from {topic}, error: {e}")
  | none =>
      let (id, s) := if msg.qos = .level0 then (0, s) else s.nextId env
      (some (⟨msg.topic, .new msg.qos id, msg.payload⟩, id), s, [])

/-- `resend_msg` -/
def resendMsg (msg : Publish) : Publish := { msg with retryCount := msg.retryCount + 1 }

/-- The part common to level 1 and level 2: note the phase, send the packet, then `timer`. -/
def publish (ctx : Ctx) (id : UInt16) (packet : PublishPacket) (msg : Publish)
    (phase : PublishPacketStatus) (timer : Out) : Out :=
  trySend ctx .publishStatus
      (.publishStatus (.setPacketStatus id ⟨id, msg.retryCount, phase⟩) none)
      (handleSendErrorWithResend ctx "RecvPublishActor:status_recipient" ctx.self
        (.publish (resendMsg msg))) <|
    trySendPacket ctx (.publish packet)
      (handleSendErrorWithResend ctx "RecvPublishActor:send_recipient" ctx.self
        (.publish (resendMsg msg)))
      timer

def level0 (ctx : Ctx) (packet : PublishPacket) : Out :=
  trySendPacket ctx (.publish packet) (handleSendError ctx "RecvPublishActor:send_recipient") []

def level1 (ctx : Ctx) (id : UInt16) (packet : PublishPacket) (msg : Publish) : Out :=
  publish ctx id packet msg .pendingAck <|
    scheduleStatusCheck ctx .publishStatus id (.publish (resendMsg msg)) .isSome

def level2 (ctx : Ctx) (id : UInt16) (packet : PublishPacket) (msg : Publish) : Out :=
  publish ctx id packet msg .pendingRec
    [.spawn ⟨ctx.origin, .timer (ctx.now + commandTimeout) (some ctx.self)
      (.publishLevel2 id (resendMsg msg))⟩]

def handle (env : Env) (ctx : Ctx) (msg : Publish) (s : State) : State × Out :=
  if msg.retryCount > maxRetryCount then
    (s, maxRetryCountExceeded ctx "SendPublishActor" publishStatusRecipient 0)
  else
    match createPacketAndIdFromMessage env ctx msg s with
    | (none, s, errors) => (s, errors)
    | (some (packet, id), s, _) =>
        match msg.qos with
        | .level0 => (s, level0 ctx packet)
        | .level1 => (s, level1 ctx id packet msg)
        | .level2 => (s, level2 ctx id packet msg)

/-- The rest of the level 2 timer's future once it is answered. -/
def level2Checked (ctx : Ctx) (msg : Publish) : Answer → Out
  | .publishStatus (some status) =>
      if status.payload = .pendingRec then
        [.post .sendPublish ⟨ctx.origin, .request (.publish msg)⟩]
      else []
  | .error e =>
      handleMailboxErrorWithResend ctx "SendPublishActor:status_recipient" .sendPublish
        (.publish msg) e
  | _ => []

end SendPublishActor

namespace RecvPublishActor

/-- The packet message in the form in which it is sent again. -/
def request (packet : PublishPacket) (retryCount : UInt16) : Request :=
  .packet ⟨.publish packet, retryCount⟩

def publishMessage (id : UInt16) (packet : PublishPacket) : PublishMessage :=
  ⟨id, packet.topicName, packet.payload⟩

/-- `remote_message_recipient.try_send(publish_message)` -/
def deliver (ctx : Ctx) (id : UInt16) (packet : PublishPacket) (failed : SendError → Out)
    (next : Out) : Out :=
  match ctx.res .message with
  | some e => failed e
  | none => .emit (.accepted ctx.origin packet (publishMessage id packet)) :: next

def level0 (ctx : Ctx) (packet : PublishPacket) : Out :=
  doSend ctx .publishStatus (.publishStatus (.removePacketStatus 0) none)
      (handleSendError ctx "RecvPublishActor:status_recipient") [] ++
    deliver ctx 0 packet (handleSendError ctx "RecvPublishActor:remote_message_recipient") []

/-- The acknowledgement is queued before the delivery is tried. -/
def level1 (ctx : Ctx) (id : UInt16) (packet : PublishPacket) (retryCount : UInt16) : Out :=
  let resendMsg := request packet (retryCount + 1)
  trySendPacket ctx (.puback id)
      (handleSendErrorWithResend ctx "RecvPublishActor:send_recipient" ctx.self resendMsg) <|
    deliver ctx id packet
      (handleSendErrorWithResend ctx "RecvPublishActor:remote_message_recipient" ctx.self resendMsg)
      []

def level2 (ctx : Ctx) (id : UInt16) (packet : PublishPacket) (retryCount : UInt16) : Out :=
  [.spawn ⟨ctx.origin, .spawned (.recvLevel2 id packet retryCount)⟩]

def handle (ctx : Ctx) (msg : PacketMessage PublishPacket) : Out :=
  match msg.packet.qos with
  | .level0 =>
      if msg.retryCount > maxRetryCount then
        maxRetryCountExceeded ctx "RecvPublishActor" publishStatusRecipient 0
      else level0 ctx msg.packet
  | .level1 id =>
      if msg.retryCount > maxRetryCount then
        maxRetryCountExceeded ctx "RecvPublishActor" publishStatusRecipient id
      else level1 ctx id msg.packet msg.retryCount
  | .level2 id =>
      if msg.retryCount > maxRetryCount then
        maxRetryCountExceeded ctx "RecvPublishActor" publishStatusRecipient id
      else level2 ctx id msg.packet msg.retryCount

/-- Note the phase, answer PUBREC, and look at the entry again after `COMMAND_TIMEOUT`. -/
def acknowledge (ctx : Ctx) (id : UInt16) (packet : PublishPacket) (retryCount : UInt16) : Out :=
  let resendMsg := request packet (retryCount + 1)
  trySend ctx .publishStatus
      (.publishStatus (.setPacketStatus id ⟨id, retryCount, .pendingRel⟩) none)
      (handleSendErrorWithResend ctx "RecvPublishActor:status_recipient" ctx.self resendMsg) <|
    trySendPacket ctx (.pubrec id)
      (handleSendErrorWithResend ctx "RecvPublishActor:send_recipient" ctx.self resendMsg)
      -- `delayed_resend`; it is not cancelled when the actor stops
      [.spawn ⟨ctx.origin, .timer (ctx.now + commandTimeout) none
        (.checkStatusPhase2 id ⟨packet, retryCount + 1⟩)⟩]

/-- The rest of `status_future` once it is answered. Only a first attempt that finds no entry
    delivers; when that fails, the retry keeps its counter at zero. -/
def level2Answered (ctx : Ctx) (id : UInt16) (packet : PublishPacket) (retryCount : UInt16) :
    Answer → Out
  | .error e =>
      handleMailboxErrorWithResend ctx "RecvPublishActor:status_recipient" ctx.self
        (request packet (retryCount + 1)) e
  | .publishStatus none =>
      if retryCount = 0 then
        deliver ctx id packet
          (handleSendErrorWithResend ctx "RecvPublishActor:remote_message_recipient" ctx.self
            (request packet (retryCount + 1 - 1)))
          (acknowledge ctx id packet retryCount)
      else acknowledge ctx id packet retryCount
  | _ => acknowledge ctx id packet retryCount

def checkStatusPhase2 (ctx : Ctx) (resendMsg : PacketMessage PublishPacket) : Answer → Out
  | .publishStatus (some status) =>
      if status.payload = .pendingRec then
        [.post .recvPublish ⟨ctx.origin, .request (request resendMsg.packet resendMsg.retryCount)⟩]
      else []
  | .error .closed => []
  | .error e =>
      handleMailboxErrorWithResend ctx "check_status_phase_2" .recvPublish
        (request resendMsg.packet resendMsg.retryCount) e
  | _ => []

end RecvPublishActor

end ActixMqtt
