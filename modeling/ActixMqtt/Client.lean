import ActixMqtt.Connection

/-! # The client as an actor system

`start_actors` wires the actors of one client together: which actor handles which
message, how futures continue, what the environment may do, and the world a client
starts in. A run of a client is a run of `clientStep` from `init`.
-/

namespace ActixMqtt

open ActorSystem

/-- The actor whose address a future captured. -/
def Future.self : Future → Actor
  | .statusCheck _ self _ _ _ => self
  | .publishLevel2 _ _ => .sendPublish
  | .recvLevel2 _ _ _ | .checkStatusPhase2 _ _ => .recvPublish
  | .pingConnected _ | .pingPending _ => .pingreq
  | .connectAck => .connect

/-- The status actor a future asks, and its request. -/
def Future.question (future : Future) : Actor × Body :=
  match future with
  | .statusCheck .publishStatus _ id _ _ | .publishLevel2 id _ | .recvLevel2 id _ _
  | .checkStatusPhase2 id _ =>
      (.publishStatus, .publishStatus (.getAndRemovePacketStatus id) (some future))
  | .statusCheck status _ id _ _ =>
      (status, .unitStatus (.getAndRemovePacketStatus id) (some future))
  | .pingConnected _ => (.connectStatus, .statusExistence 1 future)
  | .pingPending _ => (.pingStatus, .unitStatus (.getAndRemovePacketStatus 0) (some future))
  | .connectAck => (.connectStatus, .unitStatus (.getAndRemovePacketStatus 0) (some future))

/-- What a future does once its request is answered. -/
def Future.resume (env : Env) (ctx : Ctx) : Future → Answer → Out
  | .statusCheck _ self _ check retryMsg, answer => statusChecked ctx self check retryMsg answer
  | .publishLevel2 _ resendMsg, answer => SendPublishActor.level2Checked ctx resendMsg answer
  | .recvLevel2 id packet retryCount, answer =>
      RecvPublishActor.level2Answered ctx id packet retryCount answer
  | .checkStatusPhase2 _ resendMsg, answer =>
      RecvPublishActor.checkStatusPhase2 ctx resendMsg answer
  | .pingConnected lastRetryCount, answer =>
      PingreqActor.connectStatusKnown ctx lastRetryCount answer
  | .pingPending lastRetryCount, answer => PingreqActor.pingStatusKnown ctx lastRetryCount answer
  | .connectAck, answer => ConnectActor.connectAckKnown env ctx answer

/-- The publish status actor also tells DisconnectActor whether its map is empty. -/
def publishStatusHandle (ctx : Ctx) (op : StatusOperationMessage PublishPacketStatus)
    (future : Option Future) (s : State) : State × Out :=
  let (map, result) := PacketStatusActor.handle s.publishStatus op
  ({ s with publishStatus := map },
    .post .disconnect ⟨ctx.origin, .packetSendStatus ⟨map.keys.length == 0⟩⟩ ::
      reply ctx (.publishStatus result) future)

/-- `get` and `set` pick the map of one of the other status actors. -/
def unitStatusHandle (ctx : Ctx) (get : State → PacketStatusMap Unit)
    (set : State → PacketStatusMap Unit → State) (body : Body) (s : State) : State × Out :=
  match body with
  | .unitStatus op future =>
      let (map, result) := PacketStatusActor.handle (get s) op
      (set s map, reply ctx (.unitStatus result) future)
  | .statusExistence id future => (s, reply ctx (.existence (id ∈ get s)) (some future))
  | .stop => (s, stopHandler ctx)
  | _ => (s, [])

/-! ## The `Handler` implementations

Messages an actor has no handler for do not occur. -/

def StopActor.receive (ctx : Ctx) (s : State) : Body → State × Out
  | .addStopRecipient recipient => (StopActor.addStopRecipient recipient s, [])
  | .stop => StopActor.handle ctx s
  | _ => (s, [])

def SendActor.receive (env : Env) (ctx : Ctx) (s : State) : Body → State × Out
  | .request (.packet msg) => (s, SendActor.handle env ctx msg.packet)
  | .stop => (s, stopHandler ctx)
  | _ => (s, [])

def DisconnectActor.receive (ctx : Ctx) (s : State) : Body → State × Out
  | .request (.disconnect msg) => DisconnectActor.handle ctx msg s
  | .packetSendStatus msg => DisconnectActor.handlePacketSendStatus ctx msg s
  | .stop => (s, stopHandler ctx)
  | _ => (s, [])

def PublishStatusActor.receive (ctx : Ctx) (s : State) : Body → State × Out
  | .publishStatus op future => publishStatusHandle ctx op future s
  | .stop => (s, stopHandler ctx)
  | _ => (s, [])

def SendPublishActor.receive (env : Env) (ctx : Ctx) (s : State) : Body → State × Out
  | .request (.publish msg) => SendPublishActor.handle env ctx msg s
  | .stop => (s, stopHandler ctx)
  | _ => (s, [])

def RecvPublishActor.receive (ctx : Ctx) (s : State) : Body → State × Out
  | .stop => (s, stopHandler ctx)
  | .request (.packet ⟨.publish packet, retryCount⟩) =>
      (s, RecvPublishActor.handle ctx ⟨packet, retryCount⟩)
  | _ => (s, [])

def PubackActor.receive (ctx : Ctx) (s : State) : Body → State × Out
  | .stop => (s, stopHandler ctx)
  | .request (.packet ⟨.puback id, retryCount⟩) => (s, PubackActor.handle ctx id retryCount)
  | _ => (s, [])

def PubrecActor.receive (ctx : Ctx) (s : State) : Body → State × Out
  | .stop => (s, stopHandler ctx)
  | .request (.packet ⟨.pubrec id, retryCount⟩) => (s, PubrecActor.handle ctx ⟨id, retryCount⟩)
  | _ => (s, [])

def PubrelActor.receive (ctx : Ctx) (s : State) : Body → State × Out
  | .stop => (s, stopHandler ctx)
  | .request (.packet ⟨.pubrel id, retryCount⟩) => (s, PubrelActor.handle ctx ⟨id, retryCount⟩)
  | _ => (s, [])

def PubcompActor.receive (ctx : Ctx) (s : State) : Body → State × Out
  | .stop => (s, stopHandler ctx)
  | .request (.packet ⟨.pubcomp id, retryCount⟩) => (s, PubcompActor.handle ctx id retryCount)
  | _ => (s, [])

def SubscribeActor.receive (env : Env) (ctx : Ctx) (s : State) : Body → State × Out
  | .subscribe msg => (s, SubscribeActor.handle ctx msg)
  | .request (.batchSubscribe msg) => SubscribeActor.handleBatch env ctx msg s
  | .stop => (s, stopHandler ctx)
  | _ => (s, [])

def SubackActor.receive (ctx : Ctx) (s : State) : Body → State × Out
  | .stop => (s, stopHandler ctx)
  | .request (.packet ⟨.suback id, retryCount⟩) => (s, SubackActor.handle ctx id retryCount)
  | _ => (s, [])

def UnsubscribeActor.receive (env : Env) (ctx : Ctx) (s : State) : Body → State × Out
  | .unsubscribe msg => (s, UnsubscribeActor.handle ctx msg)
  | .request (.batchUnsubscribe msg) => UnsubscribeActor.handleBatch env ctx msg s
  | .stop => (s, stopHandler ctx)
  | _ => (s, [])

def UnsubackActor.receive (ctx : Ctx) (s : State) : Body → State × Out
  | .stop => (s, stopHandler ctx)
  | .request (.packet ⟨.unsuback id, retryCount⟩) => (s, UnsubackActor.handle ctx id retryCount)
  | _ => (s, [])

def ConnectActor.receive (env : Env) (ctx : Ctx) (s : State) : Body → State × Out
  | .connect msg => (s, ConnectActor.handle env ctx msg)
  | .stop => (s, stopHandler ctx)
  | _ => (s, [])

def ConnackActor.receive (env : Env) (ctx : Ctx) (s : State) : Body → State × Out
  | .stop => (s, stopHandler ctx)
  | .request (.packet ⟨.connack code, _⟩) => (s, ConnackActor.handle env ctx code)
  | _ => (s, [])

def PingreqActor.receive (ctx : Ctx) (s : State) : Body → State × Out
  | .stop => (s, stopHandler ctx)
  | .request (.pingreq lastRetryCount) => (s, PingreqActor.handle ctx lastRetryCount)
  | .request (.sendPing lastRetryCount) => (s, PingreqActor.handleSendPing ctx lastRetryCount)
  | _ => (s, [])

def PingrespActor.receive (ctx : Ctx) (s : State) : Body → State × Out
  | .stop => (s, stopHandler ctx)
  | .request (.packet ⟨.pingresp, retryCount⟩) => (s, PingrespActor.handle ctx retryCount)
  | _ => (s, [])

def DispatchActor.receive (ctx : Ctx) (s : State) : Body → State × Out
  | .request (.packet msg) => (s, DispatchActor.handle ctx msg.packet)
  | .stop => (s, stopHandler ctx)
  | _ => (s, [])

def RecvActor.receive (ctx : Ctx) (s : State) : Body → State × Out
  | .stop => (s, RecvActor.stopped ctx)
  | _ => (s, [])

def handleBody (env : Env) (ctx : Ctx) (body : Body) (s : State) : State × Out :=
  match ctx.self with
  | .stop => StopActor.receive ctx s body
  | .send => SendActor.receive env ctx s body
  | .disconnect => DisconnectActor.receive ctx s body
  | .publishStatus => PublishStatusActor.receive ctx s body
  | .subscribeStatus =>
      unitStatusHandle ctx State.subscribeStatus
        (fun s map => { s with subscribeStatus := map }) body s
  | .unsubscribeStatus =>
      unitStatusHandle ctx State.unsubscribeStatus
        (fun s map => { s with unsubscribeStatus := map }) body s
  | .connectStatus =>
      unitStatusHandle ctx State.connectStatus
        (fun s map => { s with connectStatus := map }) body s
  | .pingStatus =>
      unitStatusHandle ctx State.pingStatus (fun s map => { s with pingStatus := map }) body s
  | .sendPublish => SendPublishActor.receive env ctx s body
  | .recvPublish => RecvPublishActor.receive ctx s body
  | .puback => PubackActor.receive ctx s body
  | .pubrec => PubrecActor.receive ctx s body
  | .pubrel => PubrelActor.receive ctx s body
  | .pubcomp => PubcompActor.receive ctx s body
  | .subscribe => SubscribeActor.receive env ctx s body
  | .suback => SubackActor.receive ctx s body
  | .unsubscribe => UnsubscribeActor.receive env ctx s body
  | .unsuback => UnsubackActor.receive ctx s body
  | .connect => ConnectActor.receive env ctx s body
  | .connack => ConnackActor.receive env ctx s body
  | .pingreq => PingreqActor.receive ctx s body
  | .pingresp => PingrespActor.receive ctx s body
  | .dispatch => DispatchActor.receive ctx s body
  | .recv => RecvActor.receive ctx s body
  | .message | .clientStop => (s, [])

def handle (env : Env) (a : Actor) (m : Msg) (res : Actor → Option SendError) (s : State) :
    State × Out :=
  handleBody env ⟨a, m.origin, s.now, res⟩ m.body s

/-- What a task does when it runs. A request to a full mailbox waits for a free place. -/
def resume (env : Env) (t : Task) (res : Actor → Option SendError) (s : State) : State × Out :=
  match t.job with
  | .resend _ dst req => (s, [.post dst ⟨t.origin, .request req⟩])
  | .timer _ _ future => (s, [.spawn ⟨t.origin, .spawned future⟩])
  | .notify notice =>
      handleBody env ⟨notice.owner, t.origin, s.now, res⟩ (.request notice.request) s
  | .spawned future =>
      match res future.question.1 with
      | some .closed => (s, [.spawn ⟨t.origin, .resumed future (.error .closed)⟩])
      | some .full => (s, [.spawn t])
      | none => (s, [.post future.question.1 ⟨t.origin, future.question.2⟩])
  | .resumed future answer => (s, future.resume env ⟨future.self, t.origin, s.now, res⟩ answer)

/-- What an origin does on arrival. A stopped RecvActor, SendActor or PingreqActor neither
    reads, nor writes, nor ticks any more. -/
def arrive (env : Env) (o : Origin) (res : Actor → Option SendError) (s : State) :
    Option (State × Out) :=
  let post (dst : Actor) (body : Body) : Option (State × Out) := some (s, [.post dst ⟨o, body⟩])
  match o.cause with
  | .setup => none
  | .publish topic qos payload => post .sendPublish (.request (.publish (.new topic qos payload)))
  | .subscribe msg => post .subscribe (.subscribe msg)
  | .unsubscribe msg => post .unsubscribe (.unsubscribe msg)
  | .connect msg => post .connect (.connect msg)
  | .disconnect msg => post .disconnect (.request (.disconnect msg))
  | .received packet _ =>
      if res .recv = some .closed then none
      else some (s, RecvActor.handle env ⟨.recv, o, s.now, res⟩ packet)
  | .parseError text =>
      if res .recv = some .closed then none
      else some (s, RecvActor.parseFailed ⟨.recv, o, s.now, res⟩ text)
  | .writeError text =>
      if res .send = some .closed then none
      else some (s, SendActor.error ⟨.send, o, s.now, res⟩ text)
  | .tick =>
      if res .pingreq = some .closed ∨ s.now < s.nextTick then none
      else some ({ s with nextTick := s.nextTick + pingInterval },
        [.spawn ⟨o, .notify (.pingreq 0)⟩])

def accept (env : Env) (i : Input) (res : Actor → Option SendError) (s : State) :
    Option (State × Out) :=
  match i with
  | .cause o =>
      if o.serial < s.serial then none else arrive env o res { s with serial := o.serial + 1 }
  | .messageClosed => some (s, [.halt .message])
  | .nextIdElsewhere => some ((s.nextId env).2, [])
  | .advance duration => some ({ s with now := s.now + duration }, [])

def ready (t : Task) (s : State) : Bool :=
  match t.job with
  | .resend deadline _ _ | .timer deadline _ _ => deadline ≤ s.now
  | _ => true

def owner (t : Task) : Option Actor :=
  match t.job with
  | .timer _ owner _ => owner
  | .notify notice => some notice.owner
  | _ => none

/-- A dropped request to a status actor is answered with an error. -/
def orphan (m : Msg) : List Task :=
  match m.body with
  | .publishStatus _ (some future) | .unitStatus _ (some future) | .statusExistence _ future =>
      [⟨m.origin, .resumed future (.error .closed)⟩]
  | _ => []

abbrev ClientWorld := World Actor Msg Task Input Event State

abbrev ClientMove := Move Actor Msg Task Input

abbrev ClientLog := List (Record Actor Msg Task Input Event)

def system (env : Env) : System Actor Msg Task Input Event State where
  handle := handle env
  resume := resume env
  accept := accept env
  ready := ready
  owner := owner
  orphan := orphan

def clientStep (env : Env) : ClientWorld → ClientMove → Option ClientWorld :=
  World.step (system env)

def setupOrigin : Origin := ⟨0, .setup⟩

/-- The actors that `start_actors` registers with StopActor, in order. -/
def stopRecipients (env : Env) : List Actor :=
  (if env.clientStop then [.clientStop] else []) ++
  [.send, .publishStatus, .sendPublish, .recvPublish, .puback, .pubrec, .pubrel, .pubcomp,
    .subscribeStatus, .subscribe, .suback, .unsubscribeStatus, .unsubscribe, .unsuback,
    .pingStatus, .pingreq, .pingresp, .recv]

/-- A client just after `start_actors`; `seed` is the value of the identifier counter. -/
def init (env : Env) (seed : Nat) : ClientWorld where
  live a := a ≠ .clientStop || env.clientStop
  mail a :=
    if a = .stop then
      (stopRecipients env).map fun recipient => ⟨setupOrigin, .addStopRecipient recipient⟩
    else []
  tasks := [⟨⟨0, .tick⟩, .notify (.pingreq 0)⟩]
  log := []
  state :=
    { now := 0
      serial := 1
      counter := seed
      nextTick := pingInterval
      publishStatus := ∅
      subscribeStatus := ∅
      unsubscribeStatus := ∅
      connectStatus := ∅
      pingStatus := ∅
      packetSendFinished := true
      pendingDisconnect := false
      stopRecipients := []
      stopping := false }

/-- The moves `ls` lead a new client to `w`. -/
def Run (env : Env) (seed : Nat) (ls : List ClientMove) (w : ClientWorld) : Prop :=
  exec (clientStep env) (init env seed) ls = some w

theorem Run.step {env : Env} {seed : Nat} {ls : List ClientMove} {w w' : ClientWorld}
    {mv : ClientMove} (run : Run env seed ls w) (taken : clientStep env w mv = some w') :
    Run env seed (ls ++ [mv]) w' := by
  rw [Run] at run ⊢
  rw [exec_append, run]
  simp [exec, taken]

/-! ## Schedules

A schedule says whose turn it is; the moves follow from what is in flight. -/

/-- `handle` takes the oldest message of a mailbox, `task` the `n`-th task of the pool; the
    mailboxes listed by `refusing` are full during the turn. -/
inductive Turn where
  | handle (a : Actor)
  | task (n : Nat)
  | give (i : Input)
  | refusing (full : List Actor) (turn : Turn)

def Turn.move (w : ClientWorld) : Turn → Option ClientMove
  | .handle a => ((w.mail a).head?).map fun m => ⟨.take a m, fun _ => false⟩
  | .task n => (w.tasks[n]?).map fun t => ⟨.run t, fun _ => false⟩
  | .give i => some ⟨.give i, fun _ => false⟩
  | .refusing full turn => (turn.move w).map fun mv => { mv with full := (full.contains ·) }

/-- The moves of a schedule, up to the first turn that is not enabled. -/
def schedule (env : Env) : ClientWorld → List Turn → List ClientMove
  | _, [] => []
  | w, turn :: turns =>
      match turn.move w with
      | none => []
      | some mv => mv :: ((clientStep env w mv).elim [] fun w' => schedule env w' turns)

/-- An environment in which every name is valid and nothing is encoded. -/
def plainEnv : Env where
  topicNameError _ := none
  topicFilterError _ := none
  encode _ := ([], none)
  sendErrorText _ := ""
  mailboxErrorText _ := ""
  returnCodeText _ := ""
  clientName := "client"
  clientStop := false
  wordBits := 64

end ActixMqtt
