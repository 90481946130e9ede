import ActixMqtt.Packets

/-! # Actors, messages, tasks and the state of a client

Everything that can be in flight in a client is a message in the mailbox of an
actor or a task. Both carry an `Origin`: the user's call, the received packet or
the timer tick they stem from. Origins are not in the source. They only name
chains of messages, so that a statement can speak about one request and all of
its retries, and no handler looks at them.
-/

namespace ActixMqtt

open ActorSystem

/-- The actors of one client. `message` is the user's recipient of `PublishMessage`,
    `clientStop` the optional recipient that is told about the end of the client. -/
inductive Actor where
  | stop
  | send
  | disconnect
  | publishStatus
  | sendPublish
  | recvPublish
  | puback
  | pubrec
  | pubrel
  | pubcomp
  | subscribeStatus
  | subscribe
  | suback
  | unsubscribeStatus
  | unsubscribe
  | unsuback
  | connectStatus
  | connect
  | connack
  | pingStatus
  | pingreq
  | pingresp
  | dispatch
  | recv
  | message
  | clientStop
  deriving DecidableEq, Repr

/-- What starts a chain of messages. -/
inductive Cause where
  | setup
  | publish (topic : String) (qos : QualityOfService) (payload : List UInt8)
  | subscribe (msg : Subscribe)
  | unsubscribe (msg : Unsubscribe)
  | connect (msg : Connect)
  | disconnect (msg : Disconnect)
  /-- A packet from the broker; `message` numbers the application message it belongs to, so
      that repetitions of one PUBLISH and its PUBREL share the number. -/
  | received (packet : VariablePacket) (message : Nat)
  | parseError (text : String)
  | writeError (text : String)
  | tick
  deriving DecidableEq, Repr

structure Origin where
  serial : Nat
  cause : Cause
  deriving DecidableEq, Repr

inductive PublishPacketStatus where
  | pendingAck
  | pendingRec
  | pendingRel
  | pendingComp
  deriving DecidableEq, Repr

structure PacketStatus (T : Type) where
  id : UInt16
  retryCount : UInt16
  payload : T
  deriving DecidableEq, Repr

inductive StatusOperationMessage (T : Type) where
  | setPacketStatus (id : UInt16) (status : PacketStatus T)
  | getAndRemovePacketStatus (id : UInt16)
  | removePacketStatus (id : UInt16)
  deriving DecidableEq, Repr

/-- `packet_status_map` of a status actor. -/
abbrev PacketStatusMap (T : Type) := AList fun _ : UInt16 => PacketStatus T

/-- The closures given to the status checks: `is_some`, or a test of the phase. -/
inductive StatusCheck where
  | isSome
  | isPending (phase : PublishPacketStatus)
  deriving DecidableEq, Repr

inductive MailboxError where
  | closed
  | timeout
  deriving DecidableEq, Repr

/-- What a request to a status actor returns. -/
inductive Answer where
  | publishStatus (status : Option (PacketStatus PublishPacketStatus))
  | unitStatus (status : Option (PacketStatus Unit))
  | existence (found : Bool)
  | error (e : MailboxError)
  deriving DecidableEq, Repr

/-- The async blocks that await the answer of a status actor, with what they capture. -/
inductive Future where
  /-- The future of `schedule_status_check`. -/
  | statusCheck (status self : Actor) (id : UInt16) (check : StatusCheck) (retryMsg : Request)
  /-- The future of the level 2 timer of SendPublishActor. -/
  | publishLevel2 (id : UInt16) (resendMsg : Publish)
  /-- The future of the level 2 branch of RecvPublishActor. -/
  | recvLevel2 (id : UInt16) (packet : PublishPacket) (retryCount : UInt16)
  | checkStatusPhase2 (id : UInt16) (resendMsg : PacketMessage PublishPacket)
  /-- The future of a Pingreq at its first and at its second await. -/
  | pingConnected (lastRetryCount : UInt16)
  | pingPending (lastRetryCount : UInt16)
  | connectAck
  deriving DecidableEq, Repr

/-- The content of a message. Requests to a status actor carry the future that awaits them. -/
inductive Body where
  | request (req : Request)
  | subscribe (msg : Subscribe)
  | unsubscribe (msg : Unsubscribe)
  | connect (msg : Connect)
  | publishStatus (op : StatusOperationMessage PublishPacketStatus) (reply : Option Future)
  | unitStatus (op : StatusOperationMessage Unit) (reply : Option Future)
  | statusExistence (id : UInt16) (reply : Future)
  | packetSendStatus (msg : PacketSendStatus)
  | addStopRecipient (recipient : Actor)
  | stop
  deriving DecidableEq, Repr

structure Msg where
  origin : Origin
  body : Body
  deriving DecidableEq, Repr

/-- What an actor may `ctx.notify` itself of. -/
inductive Notice where
  | batchSubscribe (msg : BatchSubscribe)
  | batchUnsubscribe (msg : BatchUnsubscribe)
  | pingreq (lastRetryCount : UInt16)
  deriving DecidableEq, Repr

def Notice.owner : Notice → Actor
  | .batchSubscribe _ => .subscribe
  | .batchUnsubscribe _ => .unsubscribe
  | .pingreq _ => .pingreq

def Notice.request : Notice → Request
  | .batchSubscribe msg => .batchSubscribe msg
  | .batchUnsubscribe msg => .batchUnsubscribe msg
  | .pingreq lastRetryCount => .pingreq lastRetryCount

inductive Job where
  /-- The future of `resend`: sleeps, then sends the message again. -/
  | resend (deadline : Nat) (dst : Actor) (req : Request)
  /-- A `run_later` timer, or a sleeping future without an owner, that spawns `future`. -/
  | timer (deadline : Nat) (owner : Option Actor) (future : Future)
  | notify (notice : Notice)
  /-- A spawned future that has not sent its request yet. -/
  | spawned (future : Future)
  /-- A future whose request has been answered. -/
  | resumed (future : Future) (answer : Answer)
  deriving DecidableEq, Repr

structure Task where
  origin : Origin
  job : Job
  deriving DecidableEq, Repr

inductive ErrorKind where
  | notFound
  | notConnected
  | invalidInput
  | invalidData
  | interrupted
  | other
  deriving DecidableEq, Repr

/-- What the outside of the actors sees. `packet` of `accepted` is the PUBLISH that the
    accepted message was made from. -/
inductive Event where
  | queued (origin : Origin) (packet : VariablePacket)
  | accepted (origin : Origin) (packet : PublishPacket) (message : PublishMessage)
  | error (origin : Origin) (tag : String) (kind : ErrorKind) (message : String)
  | wrote (bytes : List UInt8)
  deriving DecidableEq, Repr

/-- What the environment does to a client. -/
inductive Input where
  | cause (origin : Origin)
  /-- The user's message recipient stops. -/
  | messageClosed
  /-- Another client of the process takes an identifier. -/
  | nextIdElsewhere
  | advance (duration : Nat)
  deriving DecidableEq, Repr

/-- The private state of all actors of a client, with the clock and the identifier counter. -/
structure State where
  now : Nat
  /-- Origins with a serial from here on are unused. -/
  serial : Nat
  /-- The process-wide `ID` of `utils`. -/
  counter : Nat
  nextTick : Nat
  publishStatus : PacketStatusMap PublishPacketStatus
  subscribeStatus : PacketStatusMap Unit
  unsubscribeStatus : PacketStatusMap Unit
  connectStatus : PacketStatusMap Unit
  pingStatus : PacketStatusMap Unit
  packetSendFinished : Bool
  pendingDisconnect : Bool
  stopRecipients : List Actor
  stopping : Bool

/-- What a client takes from outside the repository. -/
structure Env where
  /-- The error of `TopicName::new`, `none` for a valid name. -/
  topicNameError : String → Option String
  /-- The error of `TopicFilter::new`, `none` for a valid filter. -/
  topicFilterError : String → Option String
  /-- What `encode` appends to the buffer, and its error. -/
  encode : VariablePacket → List UInt8 × Option String
  sendErrorText : SendError → String
  mailboxErrorText : MailboxError → String
  returnCodeText : ConnectReturnCode → String
  clientName : String
  /-- Whether the user gave a stop recipient. -/
  clientStop : Bool
  wordBits : Nat

/-- What a handler knows while it runs: its own address, the clock, the results of the
    try_sends of this step, and the origin of what it handles. -/
structure Ctx where
  self : Actor
  origin : Origin
  now : Nat
  res : Actor → Option SendError

abbrev ClientEffect := Effect Actor Msg Task Event

/-- The effects of a handler, in order. -/
abbrev Out := List ClientEffect

end ActixMqtt
