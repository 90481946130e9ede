import ActixMqtt.Actors.Potential
import ActixMqtt.Steps

/-! # Chains of retries

A request, its retries, its timers and the futures that wait for its status form a
chain: each handler consumes one link and leaves at most one. A `ChainWeight`
values links and the packets they queue. `ChainWeight.Sound` collects the local
laws of the handlers, one field each, and `ChainWeight.total_step_le` lifts them to
every step of a client. The steps whose law depends on the state, an answered
status check and a delivery refused after its acknowledgement, are accounted for by
`ChainWeight.excess`.
-/

namespace ActixMqtt

open ActorSystem

instance : Fintype Actor where
  elems := {.stop, .send, .disconnect, .publishStatus, .sendPublish, .recvPublish, .puback,
    .pubrec, .pubrel, .pubcomp, .subscribeStatus, .subscribe, .suback, .unsubscribeStatus,
    .unsubscribe, .unsuback, .connectStatus, .connect, .connack, .pingStatus, .pingreq, .pingresp,
    .dispatch, .recv, .message, .clientStop}
  complete a := by cases a <;> decide

structure ChainWeight where
  request : Origin → Request → Nat
  /-- A future that has not been answered. -/
  future : Origin → Future → Nat
  answered : Origin → Future → Answer → Nat
  packet : Origin → VariablePacket → Nat
  delivery : Origin → PublishPacket → Nat

namespace ChainWeight

variable (W : ChainWeight)

/-- The weight of a request at actor `a`. What SendActor gets is no link, and what
    DispatchActor gets counts as what it passes on. -/
def sentTo (request : Request → Nat) (a : Actor) : Request → Nat
  | .packet msg =>
      match a with
      | .send => 0
      | .dispatch => request (.packet ⟨msg.packet, 0⟩)
      | _ => request (.packet msg)
  | req => request req

def body (o : Origin) (a : Actor) : Body → Nat
  | .request req => sentTo (W.request o) a req
  | .subscribe msg => W.request o (.batchSubscribe (.new [msg]))
  | .unsubscribe msg => W.request o (.batchUnsubscribe (.new [msg.topic]))
  | .connect _ => W.future o .connectAck
  | .publishStatus _ (some future) | .unitStatus _ (some future) | .statusExistence _ future =>
      W.future o future
  | _ => 0

def job (o : Origin) : Job → Nat
  | .resend _ dst req => W.body o dst (.request req)
  | .notify notice => W.request o notice.request
  | .timer _ _ future | .spawned future => W.future o future
  | .resumed future answer => W.answered o future answer

def event : Event → Nat
  | .queued o packet => W.packet o packet
  | .accepted o packet _ => W.delivery o packet
  | _ => 0

def toWeight : Weight Actor Msg Task Event where
  mail a m := W.body m.origin a m.body
  task t := W.job t.origin t.job
  event := W.event

/-- What an attempt that queues `packet` and may become `retry` weighs at most. -/
def Attempt (o : Origin) (packet : VariablePacket) (retry : Request) (check : Future)
    (bound : Nat) : Prop :=
  W.request o retry ≤ bound ∧ W.packet o packet + W.future o check ≤ bound

/-- The local laws, one for each kind of link. -/
structure Sound : Prop where
  disconnect : ∀ o msg, W.request o (.disconnect msg) = 0
  disconnectPacket : ∀ o, W.packet o .disconnect = 0
  connectPacket : ∀ o packet, W.packet o (.connect packet) = 0
  publish0 : ∀ o msg, ¬ msg.retryCount > maxRetryCount → msg.qos = .level0 →
    W.packet o (.publish ⟨msg.topic, .level0, msg.payload⟩) ≤ W.request o (.publish msg)
  publish1 : ∀ o id msg, ¬ msg.retryCount > maxRetryCount → msg.qos = .level1 →
    W.Attempt o (.publish ⟨msg.topic, .level1 id, msg.payload⟩)
      (.publish (SendPublishActor.resendMsg msg))
      (.statusCheck .publishStatus .sendPublish id .isSome
        (.publish (SendPublishActor.resendMsg msg)))
      (W.request o (.publish msg))
  publish2 : ∀ o id msg, ¬ msg.retryCount > maxRetryCount → msg.qos = .level2 →
    W.Attempt o (.publish ⟨msg.topic, .level2 id, msg.payload⟩)
      (.publish (SendPublishActor.resendMsg msg))
      (.publishLevel2 id (SendPublishActor.resendMsg msg))
      (W.request o (.publish msg))
  recv0 : ∀ o packet retryCount, packet.qos = .level0 →
    W.delivery o packet ≤ W.request o (RecvPublishActor.request packet retryCount)
  recv1 : ∀ o packet id retryCount, ¬ retryCount > maxRetryCount → packet.qos = .level1 id →
    W.request o (RecvPublishActor.request packet (retryCount + 1)) ≤
        W.request o (RecvPublishActor.request packet retryCount) ∧
      W.packet o (.puback id) + W.delivery o packet ≤
        W.request o (RecvPublishActor.request packet retryCount)
  recv2 : ∀ o id packet retryCount, ¬ retryCount > maxRetryCount → packet.qos = .level2 id →
    W.future o (.recvLevel2 id packet retryCount) ≤
      W.request o (RecvPublishActor.request packet retryCount)
  response : ∀ o packet retryCount,
    (∃ id, packet = .puback id ∨ packet = .pubcomp id ∨ packet = .suback id ∨
      packet = .unsuback id) ∨ packet = .pingresp →
    W.request o (.packet ⟨packet, retryCount + 1⟩) ≤ W.request o (.packet ⟨packet, retryCount⟩)
  pubrec : ∀ o id retryCount, ¬ retryCount > maxRetryCount →
    W.Attempt o (.pubrel id) (.packet ⟨.pubrec id, retryCount + 1⟩)
      (.statusCheck .publishStatus .pubrec id (.isPending .pendingRec)
        (.packet ⟨.pubrec id, retryCount + 1⟩))
      (W.request o (.packet ⟨.pubrec id, retryCount⟩))
  pubrel : ∀ o id retryCount, ¬ retryCount > maxRetryCount →
    W.Attempt o (.pubcomp id) (.packet ⟨.pubrel id, retryCount + 1⟩)
      (.statusCheck .publishStatus .pubrel id (.isPending .pendingRel)
        (.packet ⟨.pubrel id, retryCount + 1⟩))
      (W.request o (.packet ⟨.pubrel id, retryCount⟩))
  subscribe : ∀ o id subscriptions msg, ¬ msg.retryCount > maxRetryCount →
    W.Attempt o (.subscribe id subscriptions)
      (.batchSubscribe { msg with retryCount := msg.retryCount + 1 })
      (.statusCheck .subscribeStatus .subscribe id .isSome
        (.batchSubscribe { msg with retryCount := msg.retryCount + 1 }))
      (W.request o (.batchSubscribe msg))
  unsubscribe : ∀ o id topics msg, ¬ msg.retryCount > maxRetryCount →
    W.Attempt o (.unsubscribe id topics)
      (.batchUnsubscribe { msg with retryCount := msg.retryCount + 1 })
      (.statusCheck .unsubscribeStatus .unsubscribe id .isSome
        (.batchUnsubscribe { msg with retryCount := msg.retryCount + 1 }))
      (W.request o (.batchUnsubscribe msg))
  sendPing : ∀ o lastRetryCount, ¬ lastRetryCount > maxRetryCount →
    W.Attempt o .pingreq (.sendPing (lastRetryCount + 1))
      (.statusCheck .pingStatus .pingreq 0 .isSome (.sendPing (lastRetryCount + 1)))
      (W.request o (.sendPing lastRetryCount))
  tick : ∀ o lastRetryCount, ¬ lastRetryCount > maxRetryCount →
    W.future o (.pingConnected lastRetryCount) ≤ W.request o (.pingreq lastRetryCount)
  unitAnswered : ∀ o future status,
    W.answered o future (.unitStatus status) ≤ W.future o future
  existence : ∀ o future found, W.answered o future (.existence found) ≤ W.future o future
  closed : ∀ o future, W.answered o future (.error .closed) ≤ W.future o future
  checked : ∀ o status self id check retry answer,
    check.passes answer ∨ answer = .error .timeout →
    W.body o self (.request retry) ≤
      W.answered o (.statusCheck status self id check retry) answer
  publishChecked : ∀ o id msg status, status.payload = .pendingRec →
    W.request o (.publish msg) ≤ W.answered o (.publishLevel2 id msg) (.publishStatus (some status))
  publishTimeout : ∀ o id msg,
    W.request o (.publish msg) ≤ W.answered o (.publishLevel2 id msg) (.error .timeout)
  recvAcknowledged : ∀ o id packet retryCount answer, (∀ e, answer ≠ .error e) →
    (retryCount = 0 → answer ≠ .publishStatus none) →
    W.Attempt o (.pubrec id) (RecvPublishActor.request packet (retryCount + 1))
      (.checkStatusPhase2 id ⟨packet, retryCount + 1⟩)
      (W.answered o (.recvLevel2 id packet retryCount) answer)
  recvDelivered : ∀ o id packet,
    W.request o (RecvPublishActor.request packet 0) ≤
        W.answered o (.recvLevel2 id packet 0) (.publishStatus none) ∧
      ∃ rest, W.delivery o packet + rest ≤
          W.answered o (.recvLevel2 id packet 0) (.publishStatus none) ∧
        W.Attempt o (.pubrec id) (RecvPublishActor.request packet 1)
          (.checkStatusPhase2 id ⟨packet, 1⟩) rest
  recvTimeout : ∀ o id packet retryCount,
    W.request o (RecvPublishActor.request packet (retryCount + 1)) ≤
      W.answered o (.recvLevel2 id packet retryCount) (.error .timeout)
  phase2 : ∀ o id msg answer,
    (∃ status, status.payload = .pendingRec ∧ answer = .publishStatus (some status)) ∨
      answer = .error .timeout →
    W.request o (RecvPublishActor.request msg.packet msg.retryCount) ≤
      W.answered o (.checkStatusPhase2 id msg) answer
  pingConnected : ∀ o lastRetryCount,
    W.future o (.pingPending lastRetryCount) ≤
      W.answered o (.pingConnected lastRetryCount) (.existence true)
  pingPending : ∀ o lastRetryCount,
    W.request o (.sendPing 0) ≤ W.answered o (.pingPending lastRetryCount) (.unitStatus none) ∧
      W.request o (.pingreq (lastRetryCount + 1)) ≤
        W.answered o (.pingPending lastRetryCount) (.error .timeout)

/-- What a new origin brings along. -/
def arrival (o : Origin) : Nat :=
  match o.cause with
  | .publish topic qos payload => W.request o (.publish (.new topic qos payload))
  | .subscribe msg => W.request o (.batchSubscribe (.new [msg]))
  | .unsubscribe msg => W.request o (.batchUnsubscribe (.new [msg.topic]))
  | .connect _ => W.future o .connectAck
  | .received packet _ => W.request o (.packet ⟨packet, 0⟩)
  | .tick => W.request o (.pingreq 0)
  | _ => 0

/-- How much a level 1 delivery that is refused after its PUBACK was queued gains. -/
def redelivery (o : Origin) (packet : PublishPacket) (retryCount : UInt16)
    (res : Actor → Option SendError) : Nat :=
  match packet.qos with
  | .level1 id =>
      if res .send = none ∧ res .message = some .full ∧ ¬ retryCount > maxRetryCount then
        W.packet o (.puback id) + W.request o (RecvPublishActor.request packet (retryCount + 1)) -
          W.request o (RecvPublishActor.request packet retryCount)
      else 0
  | _ => 0

/-- By how much the effects of a handler may weigh more than its message. -/
def handleExcess (ctx : Ctx) (b : Body) (s : State) : Nat :=
  match ctx.self, b with
  | .publishStatus, .publishStatus op (some future) =>
      W.answered ctx.origin future
          (.publishStatus (PacketStatusActor.handle s.publishStatus op).2) -
        W.future ctx.origin future
  | .recvPublish, .request (.packet ⟨.publish packet, retryCount⟩) =>
      W.redelivery ctx.origin packet retryCount ctx.res
  | _, _ => 0

/-- By how much a step may add to the total. -/
def excess (w : ClientWorld) (mv : ClientMove) : Nat :=
  match mv.label with
  | .give (.cause o) => W.arrival o
  | .take a m => W.handleExcess ⟨a, m.origin, w.state.now, w.results mv.full⟩ m.body w.state
  | _ => 0

/-- A step that is not given adds what an answered future gains, or a packet that is delivered
    again. -/
theorem excess_rule {motive : Nat → Prop} {w : ClientWorld} {mv : ClientMove}
    (notGiven : ∀ i, mv.label ≠ .give i) (nothing : motive 0)
    (answered : ∀ o op future,
      mv.label = .take .publishStatus ⟨o, .publishStatus op (some future)⟩ →
        motive (W.answered o future
            (.publishStatus (PacketStatusActor.handle w.state.publishStatus op).2) -
          W.future o future))
    (redelivered : ∀ o packet retryCount,
      mv.label = .take .recvPublish ⟨o, .request (.packet ⟨.publish packet, retryCount⟩)⟩ →
        motive (W.redelivery o packet retryCount (w.results mv.full))) :
    motive (W.excess w mv) := by
  obtain ⟨label, full⟩ := mv
  cases label with
  | give i => exact absurd rfl (notGiven i)
  | run t => exact nothing
  | take a m =>
      obtain ⟨o, b⟩ := m
      show motive (W.handleExcess _ _ _)
      unfold handleExcess
      split
      · rename_i op future self body
        obtain rfl : b = .publishStatus op (some future) := body
        obtain rfl : a = .publishStatus := self
        exact answered o op future rfl
      · rename_i packet retryCount self body
        obtain rfl : b = .request (.packet ⟨.publish packet, retryCount⟩) := body
        obtain rfl : a = .recvPublish := self
        exact redelivered o packet retryCount rfl
      · exact nothing

/-! ## The helpers -/

section Helpers

variable {W} {ctx : Ctx}

@[simp] theorem effect_post (dst : Actor) (m : Msg) :
    W.toWeight.effect (.post dst m) = W.body m.origin dst m.body := rfl

@[simp] theorem effect_spawn (t : Task) :
    W.toWeight.effect (.spawn t) = W.job t.origin t.job := rfl

@[simp] theorem effect_emit (e : Event) : W.toWeight.effect (.emit e) = W.event e := rfl

@[simp] theorem effect_halt (a : Actor) : W.toWeight.effect (.halt a) = 0 := rfl

@[simp] theorem body_recvPublish (o : Origin) (packet : PublishPacket) (retryCount : UInt16) :
    W.body o .recvPublish (.request (RecvPublishActor.request packet retryCount)) =
      W.request o (RecvPublishActor.request packet retryCount) := rfl

@[simp] theorem effects_sendError (tag : String) (kind : ErrorKind) (text : String) :
    W.toWeight.effects (sendError ctx tag kind text) = 0 := rfl

@[simp] theorem effects_doSendStop : W.toWeight.effects (doSendStop ctx) = 0 := rfl

@[simp] theorem effects_handleSendError (tag : String) (e : SendError) :
    W.toWeight.effects (handleSendError ctx tag e) = 0 := by
  cases e <;> simp [handleSendError]

theorem effects_resend (addr : Actor) (msg : Request) :
    W.toWeight.effects (resend ctx addr msg) = W.body ctx.origin addr (.request msg) := rfl

theorem effects_handleSendErrorWithResend_le (tag : String) (addr : Actor) (msg : Request)
    (e : SendError) :
    W.toWeight.effects (handleSendErrorWithResend ctx tag addr msg e) ≤
      W.body ctx.origin addr (.request msg) := by
  cases e <;> simp [handleSendErrorWithResend, effects_resend]

theorem effects_trySend_le {dst : Actor} {body : Body} {failed : SendError → Out} {next : Out}
    {n : Nat} (err : ∀ e, ctx.res dst = some e → W.toWeight.effects (failed e) ≤ n)
    (ok : ctx.res dst = none → W.body ctx.origin dst body + W.toWeight.effects next ≤ n) :
    W.toWeight.effects (trySend ctx dst body failed next) ≤ n := by
  unfold trySend
  cases sent : ctx.res dst with
  | some e => exact err e sent
  | none => simpa using ok sent

theorem effects_doSend_le {dst : Actor} {body : Body} {failed : SendError → Out} {next : Out}
    {n : Nat} (err : W.toWeight.effects (failed .closed) ≤ n)
    (ok : W.body ctx.origin dst body + W.toWeight.effects next ≤ n) :
    W.toWeight.effects (doSend ctx dst body failed next) ≤ n := by
  unfold doSend
  split
  · exact err
  · simpa using ok

theorem effects_trySendPacket_le {packet : VariablePacket} {failed : SendError → Out}
    {next : Out} {n : Nat} (err : ∀ e, ctx.res .send = some e → W.toWeight.effects (failed e) ≤ n)
    (ok : ctx.res .send = none →
      W.packet ctx.origin packet + W.toWeight.effects next ≤ n) :
    W.toWeight.effects (trySendPacket ctx packet failed next) ≤ n := by
  unfold trySendPacket
  cases sent : ctx.res .send with
  | some e => exact err e sent
  | none => simpa [queuePacket, body, sentTo, event] using ok sent

theorem effects_deliver_le {id : UInt16} {packet : PublishPacket} {failed : SendError → Out}
    {next : Out} {n : Nat}
    (err : ∀ e, ctx.res .message = some e → W.toWeight.effects (failed e) ≤ n)
    (ok : W.delivery ctx.origin packet + W.toWeight.effects next ≤ n) :
    W.toWeight.effects (RecvPublishActor.deliver ctx id packet failed next) ≤ n := by
  unfold RecvPublishActor.deliver
  cases sent : ctx.res .message with
  | some e => exact err e sent
  | none => simpa [event] using ok

theorem effects_maxRetryCountExceeded {T : Type} (name : String) (status : StatusRecipient T)
    (id : UInt16) (unawaited : ∀ op, W.body ctx.origin status.actor (status.body op none) = 0) :
    W.toWeight.effects (maxRetryCountExceeded ctx name status id) = 0 := by
  refine Nat.le_zero.mp (effects_doSend_le ?_ ?_)
  · simp
  · simp [unawaited]

theorem effects_implSendPacketActor_le {M T : Type} {actor : SendPacketActor M T} {msg : M}
    {packetAndId : Option (VariablePacket × UInt16)} {n : Nat}
    (unawaited : ∀ op, W.body ctx.origin actor.status.actor (actor.status.body op none) = 0)
    (link : ∀ req, W.body ctx.origin ctx.self (.request req) = W.request ctx.origin req)
    (attempt : ∀ packet id, packetAndId = some (packet, id) →
      ¬ actor.getRetryCountFromMessage msg > maxRetryCount →
      W.Attempt ctx.origin packet (actor.request (actor.createRetryMessageFromMessage msg))
        (.statusCheck actor.status.actor ctx.self id actor.statusCheckFunc
          (actor.request (actor.createRetryMessageFromMessage msg))) n) :
    W.toWeight.effects (implSendPacketActor actor ctx packetAndId msg) ≤ n := by
  unfold implSendPacketActor
  match packetAndId, attempt with
  | none, _ => exact Nat.zero_le n
  | some (packet, id), attempt =>
      dsimp only
      split
      · rw [effects_maxRetryCountExceeded _ _ _ unawaited]
        exact Nat.zero_le n
      · rename_i below
        obtain ⟨again, later⟩ := attempt packet id rfl below
        have retried (tag : String) (e : SendError) :
            W.toWeight.effects (handleSendErrorWithResend ctx tag ctx.self
              (actor.request (actor.createRetryMessageFromMessage msg)) e) ≤ n :=
          (effects_handleSendErrorWithResend_le _ _ _ e).trans (by rwa [link])
        refine effects_trySend_le (fun e _ => retried _ e) (fun _ => ?_)
        rw [unawaited, Nat.zero_add]
        refine effects_trySendPacket_le (fun e _ => retried _ e) (fun _ => ?_)
        simpa [scheduleStatusCheck, job] using later

theorem effects_reply (answer : Answer) (future : Option Future) :
    W.toWeight.effects (reply ctx answer future) =
      future.elim 0 fun future => W.answered ctx.origin future answer := by
  cases future <;> simp [reply, job]

end Helpers

/-! ## The handlers -/

section Handlers

variable {W} (sound : W.Sound) {env : Env} {ctx : Ctx}
include sound

omit sound in
theorem effects_publish_le {id : UInt16} {packet : PublishPacket} {msg : Publish}
    {phase : PublishPacketStatus} {timer : Out} {check : Future} {n : Nat}
    (self : ctx.self = .sendPublish)
    (attempt : W.Attempt ctx.origin (.publish packet) (.publish (SendPublishActor.resendMsg msg))
      check n)
    (timed : W.toWeight.effects timer = W.future ctx.origin check) :
    W.toWeight.effects (SendPublishActor.publish ctx id packet msg phase timer) ≤ n := by
  have retried (tag : String) (e : SendError) :
      W.toWeight.effects (handleSendErrorWithResend ctx tag ctx.self
        (.publish (SendPublishActor.resendMsg msg)) e) ≤ n :=
    (effects_handleSendErrorWithResend_le _ _ _ e).trans (by rw [self]; exact attempt.1)
  refine effects_trySend_le (fun e _ => retried _ e) (fun _ => ?_)
  rw [show W.body ctx.origin .publishStatus _ = 0 from rfl, Nat.zero_add]
  refine effects_trySendPacket_le (fun e _ => retried _ e) (fun _ => ?_)
  rw [timed]
  exact attempt.2

theorem effects_sendPublish_le (self : ctx.self = .sendPublish) (msg : Publish) (s : State) :
    W.toWeight.effects (SendPublishActor.handle env ctx msg s).2 ≤
      W.request ctx.origin (.publish msg) := by
  unfold SendPublishActor.handle
  split
  · rw [effects_maxRetryCountExceeded _ _ _ fun _ => rfl]
    exact Nat.zero_le _
  · rename_i below
    unfold SendPublishActor.createPacketAndIdFromMessage
    cases env.topicNameError msg.topic with
    | some e => simp
    | none =>
        cases qos : msg.qos with
        | level0 =>
            refine effects_trySendPacket_le (by simp) (fun _ => ?_)
            exact sound.publish0 ctx.origin msg below qos
        | level1 =>
            exact effects_publish_le self (sound.publish1 _ _ msg below qos)
              (by simp [scheduleStatusCheck, job, self])
        | level2 =>
            exact effects_publish_le self (sound.publish2 _ _ msg below qos) (by simp [job])

theorem effects_recvPublish_le (self : ctx.self = .recvPublish) (packet : PublishPacket)
    (retryCount : UInt16) :
    W.toWeight.effects (RecvPublishActor.handle ctx ⟨packet, retryCount⟩) ≤
      W.request ctx.origin (RecvPublishActor.request packet retryCount) +
        W.redelivery ctx.origin packet retryCount ctx.res := by
  have exceeded (id : UInt16) : W.toWeight.effects
      (maxRetryCountExceeded ctx "RecvPublishActor" publishStatusRecipient id) = 0 :=
    effects_maxRetryCountExceeded _ _ _ fun _ => rfl
  unfold RecvPublishActor.handle
  cases qos : packet.qos with
  | level0 =>
      dsimp only
      split
      · simp [exceeded]
      · rw [RecvPublishActor.level0, Weight.effects_append]
        have removed : W.toWeight.effects (doSend ctx .publishStatus
            (.publishStatus (.removePacketStatus 0) none)
            (handleSendError ctx "RecvPublishActor:status_recipient") []) ≤ 0 :=
          effects_doSend_le (by simp) (by simp [body])
        have delivered : W.toWeight.effects (RecvPublishActor.deliver ctx 0 packet
            (handleSendError ctx "RecvPublishActor:remote_message_recipient") []) ≤
              W.request ctx.origin (RecvPublishActor.request packet retryCount) :=
          effects_deliver_le (by simp) (by simpa using sound.recv0 ctx.origin packet retryCount qos)
        omega
  | level1 id =>
      dsimp only
      split
      · simp [exceeded]
      · rename_i below
        obtain ⟨again, done⟩ := sound.recv1 ctx.origin packet id retryCount below qos
        have link : W.body ctx.origin ctx.self
            (.request (RecvPublishActor.request packet (retryCount + 1))) =
              W.request ctx.origin (RecvPublishActor.request packet (retryCount + 1)) := by
          rw [self]
          rfl
        refine effects_trySendPacket_le (fun e _ => ?_) (fun sent => ?_)
        · exact (effects_handleSendErrorWithResend_le _ _ _ e).trans (by omega)
        · have refused : ∀ e, ctx.res .message = some e →
              W.packet ctx.origin (.puback id) +
                W.toWeight.effects (handleSendErrorWithResend ctx
                  "RecvPublishActor:remote_message_recipient" ctx.self
                  (RecvPublishActor.request packet (retryCount + 1)) e) ≤
                W.request ctx.origin (RecvPublishActor.request packet retryCount) +
                  W.redelivery ctx.origin packet retryCount ctx.res := by
            intro e failed
            cases e with
            | closed =>
                simp only [handleSendErrorWithResend, Weight.effects_append, effects_sendError,
                  effects_doSendStop]
                omega
            | full =>
                have weigh : W.toWeight.effects (handleSendErrorWithResend ctx
                    "RecvPublishActor:remote_message_recipient" ctx.self
                    (RecvPublishActor.request packet (retryCount + 1)) .full) ≤
                      W.body ctx.origin ctx.self
                        (.request (RecvPublishActor.request packet (retryCount + 1))) :=
                  effects_handleSendErrorWithResend_le ..
                simp only [redelivery, qos, sent, failed, below, not_false_eq_true, and_self,
                  if_true]
                omega
          unfold RecvPublishActor.deliver
          cases failed : ctx.res .message with
          | some e => exact refused e failed
          | none =>
              simp only [Weight.effects_cons, Weight.effects_nil, effect_emit, event]
              omega
  | level2 id =>
      dsimp only
      split
      · simp [exceeded]
      · rename_i below
        have spawned := sound.recv2 ctx.origin id packet retryCount below qos
        simp only [RecvPublishActor.level2, Weight.effects_cons, Weight.effects_nil, effect_spawn,
          job]
        omega

omit sound in
theorem effects_acknowledge_le (self : ctx.self = .recvPublish) {id : UInt16}
    {packet : PublishPacket} {retryCount : UInt16} {n : Nat}
    (attempt : W.Attempt ctx.origin (.pubrec id)
      (RecvPublishActor.request packet (retryCount + 1))
      (.checkStatusPhase2 id ⟨packet, retryCount + 1⟩) n) :
    W.toWeight.effects (RecvPublishActor.acknowledge ctx id packet retryCount) ≤ n := by
  have retried (tag : String) (e : SendError) :
      W.toWeight.effects (handleSendErrorWithResend ctx tag ctx.self
        (RecvPublishActor.request packet (retryCount + 1)) e) ≤ n :=
    (effects_handleSendErrorWithResend_le _ _ _ e).trans (by rw [self]; exact attempt.1)
  refine effects_trySend_le (fun e _ => retried _ e) (fun _ => ?_)
  rw [show W.body ctx.origin .publishStatus _ = 0 from rfl, Nat.zero_add]
  refine effects_trySendPacket_le (fun e _ => retried _ e) (fun _ => ?_)
  simpa [job] using attempt.2

omit sound in
theorem effects_handleMailboxErrorWithResend_le {tag : String} {addr : Actor} {msg : Request}
    {e : MailboxError} {n : Nat} (again : e = .timeout → W.body ctx.origin addr (.request msg) ≤ n) :
    W.toWeight.effects (handleMailboxErrorWithResend ctx tag addr msg e) ≤ n := by
  cases e with
  | closed => simp [handleMailboxErrorWithResend]
  | timeout => simpa [handleMailboxErrorWithResend, effects_resend] using again rfl

theorem effects_level2Answered_le (self : ctx.self = .recvPublish) (id : UInt16)
    (packet : PublishPacket) (retryCount : UInt16) (answer : Answer) :
    W.toWeight.effects (RecvPublishActor.level2Answered ctx id packet retryCount answer) ≤
      W.answered ctx.origin (.recvLevel2 id packet retryCount) answer := by
  unfold RecvPublishActor.level2Answered
  split
  · refine effects_handleMailboxErrorWithResend_le ?_
    rintro rfl
    rw [self]
    exact sound.recvTimeout ctx.origin id packet retryCount
  · split
    · rename_i fresh
      subst fresh
      obtain ⟨again, rest, delivered, attempt⟩ := sound.recvDelivered ctx.origin id packet
      refine effects_deliver_le (fun e _ => ?_) ?_
      · refine (effects_handleSendErrorWithResend_le _ _ _ e).trans ?_
        rw [self, show (0 + 1 - 1 : UInt16) = 0 from rfl]
        exact again
      · have acknowledged := effects_acknowledge_le self
          (show W.Attempt ctx.origin (.pubrec id) (RecvPublishActor.request packet (0 + 1))
            (.checkStatusPhase2 id ⟨packet, 0 + 1⟩) rest from attempt)
        omega
    · rename_i tried
      exact effects_acknowledge_le self
        (sound.recvAcknowledged _ _ _ _ _ (by simp) (fun fresh => absurd fresh tried))
  · rename_i notError notNone
    exact effects_acknowledge_le self
      (sound.recvAcknowledged _ _ _ _ _ (fun e same => notError e same) (fun _ same => notNone same))

theorem effects_futureResume_le {future : Future} (self : ctx.self = future.self) (answer : Answer) :
    W.toWeight.effects (future.resume env ctx answer) ≤
      W.answered ctx.origin future answer := by
  cases future with
  | statusCheck status self' id check retry =>
      simp only [Future.resume, statusChecked]
      split
      · refine effects_handleMailboxErrorWithResend_le ?_
        rintro rfl
        exact sound.checked _ _ _ _ _ _ _ (.inr rfl)
      · split
        · rename_i passes
          simpa using sound.checked ctx.origin status self' id check retry answer (.inl passes)
        · simp
  | publishLevel2 id msg =>
      simp only [Future.resume, SendPublishActor.level2Checked]
      split
      · split
        · rename_i pending
          simpa [body, sentTo] using sound.publishChecked ctx.origin id msg _ pending
        · simp
      · refine effects_handleMailboxErrorWithResend_le ?_
        rintro rfl
        exact sound.publishTimeout ctx.origin id msg
      · simp
  | recvLevel2 id packet retryCount =>
      exact effects_level2Answered_le sound self id packet retryCount answer
  | checkStatusPhase2 id msg =>
      simp only [Future.resume, RecvPublishActor.checkStatusPhase2]
      split
      · split
        · rename_i status pending
          simpa using sound.phase2 ctx.origin id msg _ (.inl ⟨status, pending, rfl⟩)
        · simp
      · simp
      · refine effects_handleMailboxErrorWithResend_le ?_
        rintro rfl
        exact sound.phase2 ctx.origin id msg _ (.inr rfl)
      · simp
  | pingConnected lastRetryCount =>
      simp only [Future.resume, PingreqActor.connectStatusKnown]
      split
      · simpa [job] using sound.pingConnected ctx.origin lastRetryCount
      · simp
  | pingPending lastRetryCount =>
      obtain ⟨ping, again⟩ := sound.pingPending ctx.origin lastRetryCount
      simp only [Future.resume, PingreqActor.pingStatusKnown]
      split
      · simpa [body, sentTo] using ping
      · refine effects_handleMailboxErrorWithResend_le ?_
        rintro rfl
        exact again
      · simp
  | connectAck =>
      have stops : W.toWeight.effects (Future.connectAck.resume env ctx answer) = 0 := by
        simp only [Future.resume, ConnectActor.connectAckKnown]
        split <;> simp [body]
      omega

theorem effects_response_le {T : Type} {actor : ResponsePacketActor T} {packet : VariablePacket}
    {id retryCount : UInt16}
    (unawaited : ∀ op, W.body ctx.origin actor.status.actor (actor.status.body op none) = 0)
    (link : ∀ msg, W.body ctx.origin ctx.self (.request (.packet msg)) =
      W.request ctx.origin (.packet msg))
    (response : (∃ id, packet = .puback id ∨ packet = .pubcomp id ∨ packet = .suback id ∨
      packet = .unsuback id) ∨ packet = .pingresp) :
    W.toWeight.effects (implResponsePacketActor actor ctx id (getRetryMsg ⟨packet, retryCount⟩)) ≤
      W.request ctx.origin (.packet ⟨packet, retryCount⟩) := by
  refine effects_trySend_le (fun e _ => ?_) (fun _ => ?_)
  · refine (effects_handleSendErrorWithResend_le _ _ _ e).trans ?_
    rw [link]
    exact sound.response ctx.origin packet retryCount response
  · simp [unawaited]

theorem effects_pubrec_le (self : ctx.self = .pubrec) (id retryCount : UInt16) :
    W.toWeight.effects (PubrecActor.handle ctx ⟨id, retryCount⟩) ≤
      W.request ctx.origin (.packet ⟨.pubrec id, retryCount⟩) := by
  refine effects_implSendPacketActor_le (fun _ => rfl) (fun req => ?_) ?_
  · rw [self]
    cases req <;> rfl
  · rintro _ _ ⟨⟩ below
    rw [self]
    exact sound.pubrec ctx.origin id retryCount below

theorem effects_pubrel_le (self : ctx.self = .pubrel) (id retryCount : UInt16) :
    W.toWeight.effects (PubrelActor.handle ctx ⟨id, retryCount⟩) ≤
      W.request ctx.origin (.packet ⟨.pubrel id, retryCount⟩) := by
  refine effects_implSendPacketActor_le (fun _ => rfl) (fun req => ?_) ?_
  · rw [self]
    cases req <;> rfl
  · rintro _ _ ⟨⟩ below
    rw [self]
    exact sound.pubrel ctx.origin id retryCount below

theorem effects_sendPing_le (self : ctx.self = .pingreq) (lastRetryCount : UInt16) :
    W.toWeight.effects (PingreqActor.handleSendPing ctx lastRetryCount) ≤
      W.request ctx.origin (.sendPing lastRetryCount) := by
  refine effects_implSendPacketActor_le (fun _ => rfl) (fun req => ?_) ?_
  · rw [self]
    cases req <;> rfl
  · rintro _ _ ⟨⟩ below
    rw [self]
    exact sound.sendPing ctx.origin lastRetryCount below

theorem effects_subscribe_le (self : ctx.self = .subscribe) (msg : BatchSubscribe) (s : State) :
    W.toWeight.effects (SubscribeActor.handleBatch env ctx msg s).2 ≤
      W.request ctx.origin (.batchSubscribe msg) := by
  refine effects_implSendPacketActor_le (fun _ => rfl) (fun req => ?_) ?_
  · rw [self]
    cases req <;> rfl
  · intro packet id created below
    obtain ⟨_, rfl⟩ := SubscribeActor.createPacketAndIdFromMessage_packet created
    rw [self]
    exact sound.subscribe ctx.origin id _ msg below

theorem effects_unsubscribe_le (self : ctx.self = .unsubscribe) (msg : BatchUnsubscribe)
    (s : State) :
    W.toWeight.effects (UnsubscribeActor.handleBatch env ctx msg s).2 ≤
      W.request ctx.origin (.batchUnsubscribe msg) := by
  refine effects_implSendPacketActor_le (fun _ => rfl) (fun req => ?_) ?_
  · rw [self]
    cases req <;> rfl
  · intro packet id created below
    obtain ⟨_, rfl⟩ := UnsubscribeActor.createPacketAndIdFromMessage_packet created
    rw [self]
    exact sound.unsubscribe ctx.origin id _ msg below

theorem effects_disconnect_le (msg : Disconnect) (s : State) :
    W.toWeight.effects (DisconnectActor.handle ctx msg s).2 = 0 := by
  unfold DisconnectActor.handle
  split
  · have sent : W.toWeight.effects (sendPacket ctx "DisconnectActor::disconnect" .disconnect
        (.disconnect msg) []) ≤ 0 := by
      refine effects_trySendPacket_le (fun e _ => ?_) (fun _ => ?_)
      · refine (effects_handleSendErrorWithResend_le _ _ _ e).trans ?_
        simp [body, sentTo, sound.disconnect]
      · simp [sound.disconnectPacket]
    simpa using sent
  · rfl

theorem effects_packetSendStatus (msg : PacketSendStatus) (s : State) :
    W.toWeight.effects (DisconnectActor.handlePacketSendStatus ctx msg s).2 = 0 := by
  unfold DisconnectActor.handlePacketSendStatus
  dsimp only
  split
  · simp [body, sentTo, sound.disconnect]
  · rfl

omit sound in
theorem effects_stop (s : State) : W.toWeight.effects (StopActor.handle ctx s).2 = 0 := by
  unfold StopActor.handle
  split
  · rfl
  · simp [Weight.effects, Function.comp_def, body]

theorem effects_connect_le (msg : Connect) :
    W.toWeight.effects (ConnectActor.handle env ctx msg) ≤ W.future ctx.origin .connectAck := by
  unfold ConnectActor.handle
  refine effects_doSend_le (by simp) ?_
  rw [show W.body ctx.origin .connectStatus _ = 0 from rfl, Nat.zero_add]
  split
  · simp
  · simp [queuePacket, body, sentTo, job, event, sound.connectPacket]

omit sound in
theorem effects_connack (returnCode : ConnectReturnCode) :
    W.toWeight.effects (ConnackActor.handle env ctx returnCode) = 0 := by
  unfold ConnackActor.handle
  split
  · simp
  · split <;> simp [body]

omit sound in
theorem effects_dispatch_le (packet : VariablePacket) :
    W.toWeight.effects (DispatchActor.handle ctx packet) ≤
      W.request ctx.origin (.packet ⟨packet, 0⟩) := by
  unfold DispatchActor.handle
  cases packet <;> simp only [DispatchActor.target, Weight.effects_nil, Nat.zero_le]
  all_goals exact effects_trySend_le (by simp) (fun _ => Nat.le_of_eq (Nat.add_zero _))

omit sound in
theorem effects_send (packet : VariablePacket) :
    W.toWeight.effects (SendActor.handle env ctx packet) = 0 := by
  unfold SendActor.handle
  cases (env.encode packet).2 <;> simp [event]

theorem effects_unitStatusHandle_le (get : State → PacketStatusMap Unit)
    (set : State → PacketStatusMap Unit → State) (b : Body) (s : State) (a : Actor) :
    W.toWeight.effects (unitStatusHandle ctx get set b s).2 ≤ W.body ctx.origin a b := by
  unfold unitStatusHandle
  split
  · rename_i op future
    rw [effects_reply]
    cases future with
    | none => exact Nat.zero_le _
    | some future => exact sound.unitAnswered ctx.origin future _
  · rw [effects_reply]
    exact sound.existence ctx.origin _ _
  · simp [stopHandler]
  · simp

omit sound in
theorem effects_publishStatusHandle_le (self : ctx.self = .publishStatus)
    (op : StatusOperationMessage PublishPacketStatus) (future : Option Future) (s : State) :
    W.toWeight.effects (publishStatusHandle ctx op future s).2 ≤
      W.body ctx.origin .publishStatus (.publishStatus op future) +
        W.handleExcess ctx (.publishStatus op future) s := by
  obtain ⟨a, o, now, res⟩ := ctx
  obtain rfl : a = .publishStatus := self
  unfold publishStatusHandle
  simp only [Weight.effects_cons, effect_post, effects_reply]
  rw [show W.body o .disconnect (.packetSendStatus _) = 0 from rfl, Nat.zero_add]
  cases future with
  | none => exact Nat.zero_le _
  | some future =>
      simp only [Option.elim_some, handleExcess, body]
      omega

/-- The law of every handler. -/
theorem effects_handleBody_le (env : Env) (ctx : Ctx) (b : Body) (s : State) :
    W.toWeight.effects (handleBody env ctx b s).2 ≤
      W.body ctx.origin ctx.self b + W.handleExcess ctx b s := by
  obtain ⟨a, o, now, res⟩ := ctx
  have stopped (ctx : Ctx) (n : Nat) : W.toWeight.effects (stopHandler ctx) ≤ n := by
    simp [stopHandler]
  have exceeds {x : Nat} (n : Nat) (law : x ≤ W.body o a b) : x ≤ W.body o a b + n :=
    law.trans (Nat.le_add_right _ _)
  cases a <;> simp only [handleBody]
  case stop =>
      unfold StopActor.receive
      split
      · simp
      · simp [effects_stop]
      · simp
  case send =>
      unfold SendActor.receive
      split
      · simp [effects_send]
      · exact stopped _ _
      · simp
  case disconnect =>
      unfold DisconnectActor.receive
      split
      · simp [effects_disconnect_le sound]
      · simp [effects_packetSendStatus sound]
      · exact stopped _ _
      · simp
  case publishStatus =>
      unfold PublishStatusActor.receive
      split
      · exact effects_publishStatusHandle_le rfl _ _ _
      · exact stopped _ _
      · simp
  case subscribeStatus | unsubscribeStatus | connectStatus | pingStatus =>
      exact exceeds _ (effects_unitStatusHandle_le sound _ _ b s _)
  case sendPublish =>
      unfold SendPublishActor.receive
      split
      · exact exceeds _ (effects_sendPublish_le sound rfl _ s)
      · exact stopped _ _
      · simp
  case recvPublish =>
      unfold RecvPublishActor.receive
      split
      · exact stopped _ _
      · exact effects_recvPublish_le sound rfl _ _
      · simp
  case puback =>
      unfold PubackActor.receive
      split
      · exact stopped _ _
      · exact exceeds _ (effects_response_le sound (fun _ => rfl) (fun _ => rfl) (by simp))
      · simp
  case pubcomp =>
      unfold PubcompActor.receive
      split
      · exact stopped _ _
      · exact exceeds _ (effects_response_le sound (fun _ => rfl) (fun _ => rfl) (by simp))
      · simp
  case suback =>
      unfold SubackActor.receive
      split
      · exact stopped _ _
      · exact exceeds _ (effects_response_le sound (fun _ => rfl) (fun _ => rfl) (by simp))
      · simp
  case unsuback =>
      unfold UnsubackActor.receive
      split
      · exact stopped _ _
      · exact exceeds _ (effects_response_le sound (fun _ => rfl) (fun _ => rfl) (by simp))
      · simp
  case pingresp =>
      unfold PingrespActor.receive
      split
      · exact stopped _ _
      · exact exceeds _ (effects_response_le sound (fun _ => rfl) (fun _ => rfl) (by simp))
      · simp
  case pubrec =>
      unfold PubrecActor.receive
      split
      · exact stopped _ _
      · exact exceeds _ (effects_pubrec_le sound rfl _ _)
      · simp
  case pubrel =>
      unfold PubrelActor.receive
      split
      · exact stopped _ _
      · exact exceeds _ (effects_pubrel_le sound rfl _ _)
      · simp
  case subscribe =>
      unfold SubscribeActor.receive
      split
      · simp [SubscribeActor.handle, job, Notice.request, body]
      · exact exceeds _ (effects_subscribe_le sound rfl _ s)
      · exact stopped _ _
      · simp
  case unsubscribe =>
      unfold UnsubscribeActor.receive
      split
      · simp [UnsubscribeActor.handle, job, Notice.request, body]
      · exact exceeds _ (effects_unsubscribe_le sound rfl _ s)
      · exact stopped _ _
      · simp
  case connect =>
      unfold ConnectActor.receive
      split
      · exact exceeds _ (effects_connect_le sound _)
      · exact stopped _ _
      · simp
  case connack =>
      unfold ConnackActor.receive
      split
      · exact stopped _ _
      · simp [effects_connack]
      · simp
  case pingreq =>
      unfold PingreqActor.receive
      split
      · exact stopped _ _
      · rename_i lastRetryCount
        unfold PingreqActor.handle
        split
        · rw [effects_maxRetryCountExceeded _ _ _ fun _ => rfl]
          exact Nat.zero_le _
        · rename_i below
          simpa [job, body] using exceeds _ (sound.tick o lastRetryCount below)
      · exact exceeds _ (effects_sendPing_le sound rfl _)
      · simp
  case dispatch =>
      unfold DispatchActor.receive
      split
      · exact exceeds _ (effects_dispatch_le _)
      · exact stopped _ _
      · simp
  case recv =>
      unfold RecvActor.receive
      split
      · simp [RecvActor.stopped]
      · simp
  case message | clientStop => simp

omit sound in
theorem body_question (o : Origin) (future : Future) :
    W.body o future.question.1 future.question.2 = W.future o future := by
  cases future with
  | statusCheck status self id check retry => cases status <;> rfl
  | _ => rfl

theorem effects_resume_le (env : Env) (t : Task) (res : Actor → Option SendError) (s : State) :
    W.toWeight.effects (resume env t res s).2 ≤ W.job t.origin t.job := by
  obtain ⟨o, task⟩ := t
  unfold resume
  cases task with
  | resend deadline dst req => simp [job]
  | timer deadline owner future => simp [job]
  | notify notice =>
      have law := effects_handleBody_le sound env ⟨notice.owner, o, s.now, res⟩
        (.request notice.request) s
      cases notice <;> exact law
  | spawned future =>
      dsimp only
      split
      · simpa [job] using sound.closed o future
      · simp
      · simp [job, body_question]
  | resumed future answer => exact effects_futureResume_le sound rfl answer

theorem effects_arrive_le {o : Origin} {res : Actor → Option SendError} {s s' : State} {es : Out}
    (arrived : arrive env o res s = some (s', es)) : W.toWeight.effects es ≤ W.arrival o := by
  unfold arrive at arrived
  unfold arrival
  cases cause : o.cause with
  | setup => simp [cause] at arrived
  | publish topic qos payload | subscribe msg | unsubscribe msg | connect msg =>
      simp only [cause, Option.some.injEq, Prod.mk.injEq] at arrived
      obtain ⟨rfl, rfl⟩ := arrived
      simp [body, sentTo]
  | disconnect msg =>
      simp only [cause, Option.some.injEq, Prod.mk.injEq] at arrived
      obtain ⟨rfl, rfl⟩ := arrived
      simp [body, sentTo, sound.disconnect]
  | received packet message =>
      simp only [cause, Option.ite_none_left_eq_some, Option.some.injEq, Prod.mk.injEq] at arrived
      obtain ⟨_, rfl, rfl⟩ := arrived
      exact effects_trySend_le (by simp) (fun _ => Nat.le_of_eq (Nat.add_zero _))
  | parseError text =>
      simp only [cause, Option.ite_none_left_eq_some, Option.some.injEq, Prod.mk.injEq] at arrived
      obtain ⟨_, rfl, rfl⟩ := arrived
      have told : W.toWeight.effects
          (trySend ⟨.recv, o, s.now, res⟩ .stop .stop (fun _ => []) []) ≤ 0 :=
        effects_trySend_le (by simp) (by simp [body])
      simpa [RecvActor.parseFailed, RecvActor.stopped] using told
  | writeError text =>
      simp only [cause, Option.ite_none_left_eq_some, Option.some.injEq, Prod.mk.injEq] at arrived
      obtain ⟨_, rfl, rfl⟩ := arrived
      simp [SendActor.error]
  | tick =>
      simp only [cause, Option.ite_none_left_eq_some, Option.some.injEq, Prod.mk.injEq] at arrived
      obtain ⟨_, rfl, rfl⟩ := arrived
      simp [job, Notice.request]

theorem keeps : W.toWeight.Keeps (system env) := by
  intro a m
  obtain ⟨o, b⟩ := m
  simp only [system, orphan, toWeight]
  split
  · simpa [body, job] using sound.closed o _
  · simpa [body, job] using sound.closed o _
  · simpa [body, job] using sound.closed o _
  · simp

theorem reaction_le {w : ClientWorld} {mv : ClientMove} {s : State} {es : Out}
    (reacted : w.reaction (system env) (w.results mv.full) mv.label = some (s, es)) :
    W.toWeight.effects es ≤ W.toWeight.cost mv.label + W.excess w mv := by
  obtain ⟨label, full⟩ := mv
  cases label with
  | take a m =>
      obtain ⟨-, -, handled⟩ := World.reaction_take.mp reacted
      have law := effects_handleBody_le sound env
        ⟨a, m.origin, w.state.now, w.results full⟩ m.body w.state
      rw [show handleBody env _ m.body w.state = (s, es) from handled] at law
      exact law
  | run t =>
      obtain ⟨-, -, resumed⟩ := World.reaction_run.mp reacted
      have law := effects_resume_le sound env t (w.results full) w.state
      rw [show resume env t _ w.state = (s, es) from resumed] at law
      exact law
  | give i =>
      have accepted : accept env i (w.results full) w.state = some (s, es) := reacted
      cases i with
      | cause o =>
          simp only [accept, Option.ite_none_left_eq_some] at accepted
          exact (effects_arrive_le sound accepted.2).trans (Nat.le_add_left _ _)
      | messageClosed | nextIdElsewhere | advance duration =>
          simp only [accept, Option.some.injEq, Prod.mk.injEq] at accepted
          obtain ⟨-, rfl⟩ := accepted
          exact Nat.zero_le _

/-- The links and the packets of a world. -/
def total (W : ChainWeight) (w : ClientWorld) : Nat := W.toWeight.flow w + W.toWeight.past w.log

theorem total_step_le {w w' : ClientWorld} {mv : ClientMove}
    (taken : clientStep env w mv = some w') : W.total w' ≤ W.total w + W.excess w mv := by
  obtain ⟨s, es, reacted, -⟩ := World.fire_eq_some.mp taken
  exact W.toWeight.total_fire_le (keeps sound) reacted taken (reaction_le sound reacted)

end Handlers

/-! ## All origins -/

/-- What all origins of a history brought along. -/
def arrived (log : ClientLog) : Nat :=
  (log.map fun
    | .gave (.cause o) => W.arrival o
    | _ => 0).sum

theorem arrived_step {env : Env} {w w' : ClientWorld} {mv : ClientMove}
    (taken : clientStep env w mv = some w') :
    W.arrived w'.log = W.arrived [mv.label.record] + W.arrived w.log := by
  obtain ⟨s, es, reacted, -⟩ := World.fire_eq_some.mp taken
  have silent : W.arrived ((emits es).reverse.map .emitted) = 0 := by
    simp [arrived, Function.comp_def]
  rw [World.fire_log reacted taken]
  simp only [arrived, List.map_append, List.sum_append, List.map_cons, List.sum_cons, List.map_nil,
    List.sum_nil] at silent ⊢
  omega

theorem total_init (env : Env) (seed : Nat) :
    W.total (init env seed) = W.request ⟨0, .tick⟩ (.pingreq 0) := by
  have boxes (a : Actor) : W.toWeight.box a ((init env seed).mail a) = 0 := by
    by_cases stop : a = .stop
    · subst stop
      simp [init, Weight.box, toWeight, body, Function.comp_def]
    · simp [init, Weight.box, stop]
  simp only [total, Weight.flow, boxes, Finset.sum_const_zero, Nat.zero_add]
  simp [init, Weight.past, toWeight, job, Notice.request]

/-- While no step exceeds the laws, a run adds no more than its origins bring along. -/
theorem total_le_brought {W : ChainWeight} (sound : W.Sound) {env : Env} {seed : Nat}
    {ls : List ClientMove} {w : ClientWorld} {cond : ClientWorld → ClientMove → Prop}
    (calm : ∀ w mv w', cond w mv → clientStep env w mv = some w' → (∀ i, mv.label ≠ .give i) →
      W.excess w mv = 0)
    (allowed : Along (clientStep env) cond (init env seed) ls) (run : Run env seed ls w) :
    W.total w ≤ W.total (init env seed) + W.arrived w.log := by
  refine exec_invariant (fun w => W.total w ≤ W.total (init env seed) + W.arrived w.log)
    ?_ (Nat.le_add_right _ _) allowed run
  intro w mv w' bounded ok taken
  have grown := total_step_le sound taken
  have brought := W.arrived_step taken
  have here : W.excess w mv ≤ W.arrived [mv.label.record] := by
    obtain ⟨label, full⟩ := mv
    cases label with
    | take a m | run t =>
        rw [calm w _ w' ok taken (fun i same => nomatch same)]
        exact Nat.zero_le _
    | give i => cases i <;> exact Nat.le_refl _
  omega

theorem total_le_arrived {W : ChainWeight} (sound : W.Sound) {env : Env} {seed : Nat}
    {ls : List ClientMove} {w : ClientWorld} {cond : ClientWorld → ClientMove → Prop}
    (start : W.total (init env seed) = 0)
    (calm : ∀ w mv w', cond w mv → clientStep env w mv = some w' → (∀ i, mv.label ≠ .give i) →
      W.excess w mv = 0)
    (allowed : Along (clientStep env) cond (init env seed) ls) (run : Run env seed ls w) :
    W.total w ≤ W.arrived w.log := by
  have bounded := total_le_brought sound calm allowed run
  rwa [start, Nat.zero_add] at bounded

/-! ## One origin -/

/-- The weight that sees only what stems from `o`. -/
def only (W : ChainWeight) (o : Origin) : ChainWeight where
  request o' req := if o' = o then W.request o' req else 0
  future o' future := if o' = o then W.future o' future else 0
  answered o' future answer := if o' = o then W.answered o' future answer else 0
  packet o' packet := if o' = o then W.packet o' packet else 0
  delivery o' packet := if o' = o then W.delivery o' packet else 0

section Only

variable {W} (o : Origin)

private theorem ite_mono {p : Prop} [Decidable p] {m n : Nat} (le : m ≤ n) :
    (if p then m else 0) ≤ if p then n else 0 := by
  split
  · exact le
  · exact Nat.le_refl 0

theorem body_only (o' : Origin) (a : Actor) (b : Body) :
    (W.only o).body o' a b = if o' = o then W.body o' a b else 0 := by
  by_cases same : o' = o
  · subst same
    rw [if_pos rfl, show (W.only o').body o' = W.body o' from ?_]
    funext a b
    simp [body, only]
  · rw [if_neg same]
    cases b with
    | request req =>
        simp only [body, only, same, if_false]
        cases req with
        | packet msg => cases a <;> rfl
        | _ => rfl
    | publishStatus op future | unitStatus op future => cases future <;> simp [body, only, same]
    | _ => simp [body, only, same]

theorem job_only (o' : Origin) (job : Job) :
    (W.only o).job o' job = if o' = o then W.job o' job else 0 := by
  cases job with
  | resend deadline dst req => exact body_only o o' dst (.request req)
  | _ => rfl

theorem handleExcess_only (ctx : Ctx) (b : Body) (s : State) :
    (W.only o).handleExcess ctx b s = if ctx.origin = o then W.handleExcess ctx b s else 0 := by
  by_cases same : ctx.origin = o
  · unfold handleExcess
    split
    · simp [only, same]
    · unfold redelivery
      split <;> simp [only, same]
    · simp
  · unfold handleExcess
    split
    · simp [only, same]
    · unfold redelivery
      split <;> simp [only, same]
    · simp

theorem arrival_only (o' : Origin) : (W.only o).arrival o' = if o' = o then W.arrival o' else 0 := by
  by_cases same : o' = o
  · subst same
    unfold arrival
    split <;> simp [only]
  · unfold arrival
    split <;> simp [only, same]

theorem excess_only_le (w : ClientWorld) (mv : ClientMove) :
    (W.only o).excess w mv ≤ W.excess w mv := by
  have kept {p : Prop} [Decidable p] {n : Nat} : (if p then n else 0) ≤ n := by
    split
    · exact Nat.le_refl n
    · exact Nat.zero_le n
  obtain ⟨label, full⟩ := mv
  cases label with
  | take a m => exact (handleExcess_only o _ _ _).trans_le kept
  | run t => exact Nat.le_refl 0
  | give i =>
      cases i with
      | cause o' => exact (arrival_only o o').trans_le kept
      | _ => exact Nat.le_refl 0

theorem Attempt.only {o' : Origin} {packet : VariablePacket} {retry : Request} {check : Future}
    {bound : Nat} (attempt : W.Attempt o' packet retry check bound) :
    (W.only o).Attempt o' packet retry check (if o' = o then bound else 0) := by
  by_cases same : o' = o
  · subst same
    simpa [Attempt, ChainWeight.only] using attempt
  · simp [Attempt, ChainWeight.only, same]

/-- The laws of a weight hold for each origin by itself. -/
theorem Sound.only (sound : W.Sound) : (W.only o).Sound where
  disconnect o' msg := by simp [ChainWeight.only, sound.disconnect]
  disconnectPacket o' := by simp [ChainWeight.only, sound.disconnectPacket]
  connectPacket o' packet := by simp [ChainWeight.only, sound.connectPacket]
  publish0 o' msg below qos := ite_mono (sound.publish0 o' msg below qos)
  publish1 o' id msg below qos := (sound.publish1 o' id msg below qos).only o
  publish2 o' id msg below qos := (sound.publish2 o' id msg below qos).only o
  recv0 o' packet retryCount qos := ite_mono (sound.recv0 o' packet retryCount qos)
  recv1 o' packet id retryCount below qos := by
    obtain ⟨again, done⟩ := sound.recv1 o' packet id retryCount below qos
    refine ⟨ite_mono again, ?_⟩
    by_cases same : o' = o
    · subst same
      simpa [ChainWeight.only] using done
    · simp [ChainWeight.only, same]
  recv2 o' id packet retryCount below qos := ite_mono (sound.recv2 o' id packet retryCount below qos)
  response o' packet retryCount kind := ite_mono (sound.response o' packet retryCount kind)
  pubrec o' id retryCount below := (sound.pubrec o' id retryCount below).only o
  pubrel o' id retryCount below := (sound.pubrel o' id retryCount below).only o
  subscribe o' id subscriptions msg below := (sound.subscribe o' id subscriptions msg below).only o
  unsubscribe o' id topics msg below := (sound.unsubscribe o' id topics msg below).only o
  sendPing o' lastRetryCount below := (sound.sendPing o' lastRetryCount below).only o
  tick o' lastRetryCount below := ite_mono (sound.tick o' lastRetryCount below)
  unitAnswered o' future status := ite_mono (sound.unitAnswered o' future status)
  existence o' future found := ite_mono (sound.existence o' future found)
  closed o' future := ite_mono (sound.closed o' future)
  checked o' status self id check retry answer passes := by
    rw [body_only]
    exact ite_mono (sound.checked o' status self id check retry answer passes)
  publishChecked o' id msg status pending := ite_mono (sound.publishChecked o' id msg status pending)
  publishTimeout o' id msg := ite_mono (sound.publishTimeout o' id msg)
  recvAcknowledged o' id packet retryCount answer notError notNone :=
    (sound.recvAcknowledged o' id packet retryCount answer notError notNone).only o
  recvDelivered o' id packet := by
    obtain ⟨again, rest, delivered, attempt⟩ := sound.recvDelivered o' id packet
    refine ⟨ite_mono (sound.recvDelivered o' id packet).1, if o' = o then rest else 0, ?_,
      attempt.only o⟩
    by_cases same : o' = o
    · subst same
      simpa [ChainWeight.only] using delivered
    · simp [ChainWeight.only, same]
  recvTimeout o' id packet retryCount := ite_mono (sound.recvTimeout o' id packet retryCount)
  phase2 o' id msg answer pending := ite_mono (sound.phase2 o' id msg answer pending)
  pingConnected o' lastRetryCount := ite_mono (sound.pingConnected o' lastRetryCount)
  pingPending o' lastRetryCount :=
    ⟨ite_mono (sound.pingPending o' lastRetryCount).1, ite_mono (sound.pingPending o' lastRetryCount).2⟩

/-- While no step but its arrival exceeds the laws, an origin causes no more than its arrival
    brings along. -/
theorem total_le (sound : W.Sound) {env : Env} {seed : Nat} {ls : List ClientMove}
    {w : ClientWorld} {cond : ClientWorld → ClientMove → Prop}
    (calm : ∀ w mv w', cond w mv → clientStep env w mv = some w' → (∀ i, mv.label ≠ .give i) →
      (W.only o).excess w mv = 0)
    (allowed : Along (clientStep env) cond (init env seed) ls) (run : Run env seed ls w) :
    (W.only o).total w ≤ W.arrival o := by
  -- an origin whose serial number is unused has caused nothing
  have invariant : (W.only o).total w ≤ W.arrival o ∧
      (w.state.serial ≤ o.serial → (W.only o).total w = 0) := by
    refine exec_invariant (fun w => (W.only o).total w ≤ W.arrival o ∧
      (w.state.serial ≤ o.serial → (W.only o).total w = 0)) ?_ ?_ allowed run
    · rintro w mv w' ⟨bounded, unused⟩ ok taken
      have grown := total_step_le (sound.only o) taken
      obtain ⟨fresh, kept⟩ := serial_step taken
      by_cases given : ∃ o', mv.label = .give (.cause o')
      · obtain ⟨o', given⟩ := given
        obtain ⟨new, after⟩ := fresh o' given
        have brought : (W.only o).excess w mv = if o' = o then W.arrival o' else 0 := by
          rw [excess, given]
          exact arrival_only o o'
        rw [brought] at grown
        by_cases same : o' = o
        · subst same
          rw [if_pos rfl, unused new] at grown
          exact ⟨by omega, fun _ => by omega⟩
        · rw [if_neg same] at grown
          exact ⟨by omega, fun old => by have := unused (by omega); omega⟩
      · have quiet : (W.only o).excess w mv = 0 := by
          by_cases input : ∃ i, mv.label = .give i
          · obtain ⟨i, input⟩ := input
            cases i with
            | cause o' => exact absurd ⟨o', input⟩ given
            | _ => rw [excess, input]
          · exact calm w mv w' ok taken (fun i same => input ⟨i, same⟩)
        have same := kept (fun o' given' => given ⟨o', given'⟩)
        rw [same]
        exact ⟨by omega, fun old => by have := unused old; omega⟩
    · rw [total_init]
      show (if (⟨0, .tick⟩ : Origin) = o then W.request ⟨0, .tick⟩ (.pingreq 0) else 0) ≤ _ ∧ _
      by_cases first : (⟨0, .tick⟩ : Origin) = o
      · subst first
        exact ⟨Nat.le_refl _, fun unused => absurd unused (by simp [init])⟩
      · rw [if_neg first]
        exact ⟨Nat.zero_le _, fun _ => if_neg first⟩
  exact invariant.1

end Only

end ChainWeight

end ActixMqtt
