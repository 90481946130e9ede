import Mathlib.Algebra.Group.Nat.Defs
import Mathlib.Data.List.AList
import ActixMqtt.Actors.World

/-! # Constants, packets and requests

The control packets of the client with the fields its actors read, and the actix
messages that carry a retry counter. Identifiers and counters are `u16` in the
source and `UInt16` here. Durations are milliseconds.
-/

namespace ActixMqtt

open ActorSystem

def maxRetryCount : UInt16 := 5

def commandTimeout : Nat := 5000

def resendDelay : Nat := 1000

def pingInterval : Nat := 10000

inductive QualityOfService where
  | level0
  | level1
  | level2
  deriving DecidableEq, Repr

inductive QoSWithPacketIdentifier where
  | level0
  | level1 (id : UInt16)
  | level2 (id : UInt16)
  deriving DecidableEq, Repr

def QoSWithPacketIdentifier.new : QualityOfService → UInt16 → QoSWithPacketIdentifier
  | .level0, _ => .level0
  | .level1, id => .level1 id
  | .level2, id => .level2 id

structure PublishPacket where
  topicName : String
  qos : QoSWithPacketIdentifier
  payload : List UInt8
  deriving DecidableEq, Repr

structure ConnectPacket where
  clientName : String
  userName : Option String
  password : Option String
  keepAlive : Option UInt16
  deriving DecidableEq, Repr

inductive ConnectReturnCode where
  | connectionAccepted
  | unacceptableProtocolVersion
  | identifierRejected
  | serviceUnavailable
  | badUserNameOrPassword
  | notAuthorized
  | reserved (code : UInt8)
  deriving DecidableEq, Repr

structure Subscribe where
  topic : String
  qos : QualityOfService
  deriving DecidableEq, Repr

structure Unsubscribe where
  topic : String
  deriving DecidableEq, Repr

/-- The control packets. Acknowledgements are given by their packet identifier. -/
inductive VariablePacket where
  | connect (packet : ConnectPacket)
  | connack (code : ConnectReturnCode)
  | publish (packet : PublishPacket)
  | puback (id : UInt16)
  | pubrec (id : UInt16)
  | pubrel (id : UInt16)
  | pubcomp (id : UInt16)
  | subscribe (id : UInt16) (subscriptions : List Subscribe)
  | suback (id : UInt16)
  | unsubscribe (id : UInt16) (topics : List String)
  | unsuback (id : UInt16)
  | pingreq
  | pingresp
  | disconnect
  deriving DecidableEq, Repr

/-- A packet on its way to the actor that handles it, with the retry counter of that actor. -/
structure PacketMessage (T : Type) where
  packet : T
  retryCount : UInt16
  deriving DecidableEq, Repr

/-- What the user's message recipient is given. -/
structure PublishMessage where
  id : UInt16
  topicName : String
  payload : List UInt8
  deriving DecidableEq, Repr

structure Publish where
  topic : String
  qos : QualityOfService
  payload : List UInt8
  retryCount : UInt16
  deriving DecidableEq, Repr

def Publish.new (topic : String) (qos : QualityOfService) (payload : List UInt8) : Publish :=
  ⟨topic, qos, payload, 0⟩

structure BatchSubscribe where
  subscriptions : List Subscribe
  retryCount : UInt16
  deriving DecidableEq, Repr

def BatchSubscribe.new (subscriptions : List Subscribe) : BatchSubscribe := ⟨subscriptions, 0⟩

structure BatchUnsubscribe where
  topics : List String
  retryCount : UInt16
  deriving DecidableEq, Repr

def BatchUnsubscribe.new (topics : List String) : BatchUnsubscribe := ⟨topics, 0⟩

structure Connect where
  userName : Option String
  password : Option String
  keepAlive : Option UInt16
  deriving DecidableEq, Repr

structure Disconnect where
  force : Bool
  deriving DecidableEq, Repr

structure PacketSendStatus where
  finished : Bool
  deriving DecidableEq, Repr

/-- The messages an actor may send to itself or to another actor again. -/
inductive Request where
  | publish (msg : Publish)
  | packet (msg : PacketMessage VariablePacket)
  | batchSubscribe (msg : BatchSubscribe)
  | batchUnsubscribe (msg : BatchUnsubscribe)
  | pingreq (lastRetryCount : UInt16)
  | sendPing (lastRetryCount : UInt16)
  | disconnect (msg : Disconnect)
  deriving DecidableEq, Repr

/-- `utils::next_id` on a machine word of `wordBits` bits: `fetch_add` wraps around. -/
def nextId (wordBits counter : Nat) : UInt16 × Nat :=
  (UInt16.ofNat (counter % 65535 + 1), (counter + 1) % 2 ^ wordBits)

theorem retry_succ {retryCount : UInt16} (below : ¬ retryCount > maxRetryCount) :
    (retryCount + 1).toNat = retryCount.toNat + 1 := by
  have bound : retryCount.toNat ≤ 5 := by
    simpa [maxRetryCount, UInt16.lt_iff_toNat_lt] using below
  simp only [UInt16.toNat_add]
  simp
  omega

theorem retry_le {retryCount : UInt16} :
    ¬ retryCount > maxRetryCount ↔ retryCount.toNat ≤ 5 := by
  simp [maxRetryCount, UInt16.lt_iff_toNat_lt]

end ActixMqtt
