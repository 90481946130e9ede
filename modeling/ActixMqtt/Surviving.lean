import ActixMqtt.Cleanup
import ActixMqtt.Ending

/-! # What ends a client

A client ends because it is disconnected, because the stream cannot be read or written, because
no CONNACK comes, or one that is refused, that cannot be noted or that is not the first, and
because a message is to be delivered to an actor of the user that has stopped. Until then no other
mailbox of the client is closed, so that neither a lost packet nor used up retries end it.
-/

namespace ActixMqtt

open ActorSystem

/-! ## The reasons -/

/-- The handlers that ask StopActor to end a running client. -/
def Body.ends (ctx : Ctx) (s : State) : Body → Bool
  | .request (.disconnect msg) =>
      ctx.self = .disconnect && (msg.force || s.packetSendFinished)
  | .request (.packet ⟨.connack code, _⟩) =>
      match ctx.self with
      | .dispatch => ctx.res .connack = some .closed
      | .connack => (ctx.res .connectStatus).isSome || code ≠ .connectionAccepted
      | _ => false
  | .request (.packet ⟨.publish packet, retryCount⟩) =>
      ctx.self = .recvPublish && retryCount ≤ maxRetryCount && ctx.res .message = some .closed &&
        match packet.qos with
        | .level0 => true
        -- PUBACK is queued before the delivery is tried
        | .level1 _ => (ctx.res .send).isNone
        | .level2 _ => false
  | _ => false

/-- The futures that do. -/
def Job.ends (res : Actor → Option SendError) : Job → Bool
  | .resumed (.recvLevel2 _ _ retryCount) (.publishStatus none) =>
      retryCount = 0 && res .message = some .closed
  | .resumed .connectAck answer => answer ≠ .unitStatus none
  | _ => false

def Cause.ends : Cause → Bool
  | .parseError _ | .writeError _ => true
  | _ => false

def endsClient (w : ClientWorld) (mv : ClientMove) : Bool :=
  match mv.label with
  | .take a m => m.body.ends ⟨a, m.origin, w.state.now, w.results mv.full⟩ w.state
  | .run t => t.job.ends (w.results mv.full)
  | .give (.cause o) => o.cause.ends
  | .give _ => false

/-! ## Who does not ask for the end -/

/-- The effect does not ask StopActor to end the client. -/
def quiet (e : ClientEffect) : Prop := ∀ o, e ≠ .post .stop ⟨o, .stop⟩

theorem ensures_quiet {es : Out} : Ensures quiet es ↔ ∀ o, .post .stop ⟨o, .stop⟩ ∉ es :=
  ⟨fun silent o member => silent _ member o rfl,
    fun silent _ member o same => silent o (same ▸ member)⟩

@[simp] theorem quiet_emit (e : Event) : quiet (.emit e) := nofun

@[simp] theorem quiet_spawn (t : Task) : quiet (.spawn t) := nofun

@[simp] theorem quiet_halt (a : Actor) : quiet (.halt a) := nofun

theorem quiet_post {dst : Actor} {m : Msg} (other : dst ≠ .stop) : quiet (.post dst m) :=
  fun _ same => other (Effect.post.inj same).1

theorem quiet_request {dst : Actor} {o : Origin} (req : Request) :
    quiet (.post dst ⟨o, .request req⟩) := nofun

section Quiet

variable {env : Env} {ctx : Ctx} {s : State} {failed : SendError → Out} {next : Out}

theorem quiet_sendError (tag : String) (kind : ErrorKind) (text : String) :
    Ensures quiet (sendError ctx tag kind text) := by
  simp [sendError]

theorem quiet_handleSendError (tag : String) : Ensures quiet (handleSendError ctx tag .full) :=
  quiet_sendError _ _ _

theorem quiet_handleSendErrorWithResend (tag : String) (addr : Actor) (msg : Request) :
    Ensures quiet (handleSendErrorWithResend ctx tag addr msg .full) := by
  simp [handleSendErrorWithResend, sendError, resend]

theorem quiet_trySend {dst : Actor} {body : Body} (opened : ctx.res dst ≠ some .closed)
    (other : dst ≠ .stop) (full : Ensures quiet (failed .full)) (rest : Ensures quiet next) :
    Ensures quiet (trySend ctx dst body failed next) := by
  unfold trySend
  split
  · rename_i e refused
    cases e with
    | full => exact full
    | closed => exact absurd refused opened
  · exact ensures_cons.mpr ⟨quiet_post other, rest⟩

theorem quiet_doSend {dst : Actor} {body : Body} (opened : ctx.res dst ≠ some .closed)
    (other : dst ≠ .stop) (rest : Ensures quiet next) :
    Ensures quiet (doSend ctx dst body failed next) := by
  unfold doSend
  split
  · rename_i refused
    exact absurd refused opened
  · exact ensures_cons.mpr ⟨quiet_post other, rest⟩

theorem quiet_queuePacket (packet : VariablePacket) : Ensures quiet (queuePacket ctx packet) :=
  ensures_cons.mpr ⟨quiet_post (by decide), ensures_cons.mpr ⟨quiet_emit _, ensures_nil⟩⟩

theorem quiet_trySendPacket {packet : VariablePacket} (opened : ctx.res .send ≠ some .closed)
    (full : Ensures quiet (failed .full)) (rest : Ensures quiet next) :
    Ensures quiet (trySendPacket ctx packet failed next) := by
  unfold trySendPacket
  split
  · rename_i e refused
    cases e with
    | full => exact full
    | closed => exact absurd refused opened
  · exact ensures_append.mpr ⟨quiet_queuePacket packet, rest⟩

theorem quiet_deliver {id : UInt16} {packet : PublishPacket}
    (opened : ctx.res .message ≠ some .closed) (full : Ensures quiet (failed .full))
    (rest : Ensures quiet next) :
    Ensures quiet (RecvPublishActor.deliver ctx id packet failed next) := by
  unfold RecvPublishActor.deliver
  split
  · rename_i e refused
    cases e with
    | full => exact full
    | closed => exact absurd refused opened
  · exact ensures_cons.mpr ⟨quiet_emit _, rest⟩

/-- The mailboxes of the actors that only the end of the client stops. -/
def Opened (res : Actor → Option SendError) : Prop := ∀ a : Actor, a.serves → res a ≠ some .closed

theorem quiet_maxRetryCountExceeded {T : Type} (opened : Opened ctx.res) (name : String)
    (status : StatusRecipient T) (id : UInt16) (serves : status.actor.serves) :
    Ensures quiet (maxRetryCountExceeded ctx name status id) :=
  quiet_doSend (opened _ serves) (Actor.serves_apart serves).1 ensures_nil

theorem quiet_implResponsePacketActor {T : Type} (opened : Opened ctx.res)
    (actor : ResponsePacketActor T) (id : UInt16) (retryMsg : PacketMessage VariablePacket)
    (serves : actor.status.actor.serves) :
    Ensures quiet (implResponsePacketActor actor ctx id retryMsg) :=
  quiet_trySend (opened _ serves) (Actor.serves_apart serves).1
    (quiet_handleSendErrorWithResend _ _ _) ensures_nil

theorem quiet_implSendPacketActor {M T : Type} (opened : Opened ctx.res) (actor : SendPacketActor M T)
    (packetAndId : Option (VariablePacket × UInt16)) (msg : M)
    (serves : actor.status.actor.serves) :
    Ensures quiet (implSendPacketActor actor ctx packetAndId msg) := by
  unfold implSendPacketActor
  split
  · exact ensures_nil
  · dsimp only
    split
    · exact quiet_maxRetryCountExceeded opened _ _ _ serves
    · refine quiet_trySend (opened _ serves) (Actor.serves_apart serves).1
        (quiet_handleSendErrorWithResend _ _ _) ?_
      refine quiet_trySendPacket (opened _ rfl) (quiet_handleSendErrorWithResend _ _ _) ?_
      simp [scheduleStatusCheck]

theorem quiet_sendPublish (opened : Opened ctx.res) (msg : Publish) :
    Ensures quiet (SendPublishActor.handle env ctx msg s).2 := by
  have published (id : UInt16) (packet : PublishPacket) (phase : PublishPacketStatus) (timer : Out)
      (silent : Ensures quiet timer) :
      Ensures quiet (SendPublishActor.publish ctx id packet msg phase timer) :=
    quiet_trySend (opened _ rfl) (by decide) (quiet_handleSendErrorWithResend _ _ _) <|
      quiet_trySendPacket (opened _ rfl) (quiet_handleSendErrorWithResend _ _ _) silent
  unfold SendPublishActor.handle SendPublishActor.createPacketAndIdFromMessage
  split
  · exact quiet_maxRetryCountExceeded opened _ _ _ rfl
  · cases env.topicNameError msg.topic with
    | some text => exact quiet_sendError _ _ _
    | none =>
        cases msg.qos with
        | level0 =>
            exact quiet_trySendPacket (opened _ rfl) (quiet_handleSendError _) ensures_nil
        | level1 => exact published _ _ _ _ (by simp [scheduleStatusCheck])
        | level2 => exact published _ _ _ _ (by simp)

theorem quiet_recvPublish (opened : Opened ctx.res) (self : ctx.self = .recvPublish)
    (packet : PublishPacket) (retryCount : UInt16)
    (harmless : Body.ends ctx s (.request (.packet ⟨.publish packet, retryCount⟩)) = false) :
    Ensures quiet (RecvPublishActor.handle ctx ⟨packet, retryCount⟩) := by
  unfold RecvPublishActor.handle
  cases qos : packet.qos <;> dsimp only <;> split
  · exact quiet_maxRetryCountExceeded opened _ _ _ rfl
  · rename_i below
    have delivered : ctx.res .message ≠ some .closed := by
      simpa [Body.ends, self, qos, UInt16.not_lt.mp below] using harmless
    exact ensures_append.mpr ⟨quiet_doSend (opened _ rfl) (by decide) ensures_nil,
      quiet_deliver delivered (quiet_handleSendError _) ensures_nil⟩
  · exact quiet_maxRetryCountExceeded opened _ _ _ rfl
  · rename_i id below
    unfold RecvPublishActor.level1 trySendPacket
    split
    · rename_i e refused
      cases e with
      | full => exact quiet_handleSendErrorWithResend _ _ _
      | closed => exact absurd refused (opened _ rfl)
    · rename_i queued
      have delivered : ctx.res .message ≠ some .closed := by
        simpa [Body.ends, self, qos, UInt16.not_lt.mp below, queued] using harmless
      exact ensures_append.mpr ⟨quiet_queuePacket _,
        quiet_deliver delivered (quiet_handleSendErrorWithResend _ _ _) ensures_nil⟩
  · exact quiet_maxRetryCountExceeded opened _ _ _ rfl
  · exact ensures_cons.mpr ⟨quiet_spawn _, ensures_nil⟩

theorem quiet_unitStatusHandle (get : State → PacketStatusMap Unit)
    (set : State → PacketStatusMap Unit → State) (b : Body) :
    Ensures quiet (unitStatusHandle ctx get set b s).2 := by
  unfold unitStatusHandle
  split
  · rename_i op future
    cases future <;> simp [reply]
  · simp [reply]
  · simp [stopHandler]
  · exact ensures_nil

theorem quiet_connack (self : ctx.self = .connack) (code : ConnectReturnCode) (retryCount : UInt16)
    (harmless : Body.ends ctx s (.request (.packet ⟨.connack code, retryCount⟩)) = false) :
    Ensures quiet (ConnackActor.handle env ctx code) := by
  obtain ⟨noted, accepted⟩ : ctx.res .connectStatus = none ∧ code = .connectionAccepted := by
    simpa [Body.ends, self] using harmless
  simp [ConnackActor.handle, noted, accepted, quiet_post]

theorem quiet_dispatch (opened : Opened ctx.res) (self : ctx.self = .dispatch)
    (msg : PacketMessage VariablePacket)
    (harmless : Body.ends ctx s (.request (.packet msg)) = false) :
    Ensures quiet (DispatchActor.handle ctx msg.packet) := by
  obtain ⟨packet, retryCount⟩ := msg
  unfold DispatchActor.handle
  split
  · exact ensures_nil
  · rename_i dst name target
    have taken : ctx.res dst ≠ some .closed ∧ dst ≠ .stop := by
      cases packet <;> cases target
      case connack code =>
          refine ⟨?_, by decide⟩
          simp only [Body.ends, self] at harmless
          simpa using harmless
      all_goals exact ⟨opened _ (by rfl), by decide⟩
    exact quiet_trySend taken.1 taken.2 (quiet_handleSendError _) ensures_nil

theorem quiet_connect (opened : Opened ctx.res) (msg : Connect) :
    Ensures quiet (ConnectActor.handle env ctx msg) := by
  unfold ConnectActor.handle
  refine quiet_doSend (opened _ rfl) (by decide) ?_
  split
  · rename_i refused
    exact absurd refused (opened _ rfl)
  · exact ensures_append.mpr ⟨quiet_queuePacket _, ensures_cons.mpr ⟨quiet_spawn _, ensures_nil⟩⟩

/-- A handler that is given none of the reasons asks nothing of StopActor. -/
theorem quiet_handleBody (opened : Opened ctx.res) {b : Body} (told : b = .stop → ctx.self = .connect)
    (harmless : b.ends ctx s = false) : Ensures quiet (handleBody env ctx b s).2 := by
  obtain ⟨a, o, now, res⟩ := ctx
  have halts : Ensures quiet (stopHandler ⟨a, o, now, res⟩) :=
    ensures_cons.mpr ⟨quiet_halt _, ensures_nil⟩
  cases a <;> simp only [handleBody]
  case stop =>
      unfold StopActor.receive
      split
      · exact ensures_nil
      · cases told rfl
      · exact ensures_nil
  case send =>
      unfold SendActor.receive
      split
      · unfold SendActor.handle
        split <;> simp [sendError]
      · exact halts
      · exact ensures_nil
  case disconnect =>
      unfold DisconnectActor.receive
      split
      · rename_i msg
        have kept : ¬ (msg.force || s.packetSendFinished) := by
          simpa [Body.ends] using harmless
        rw [DisconnectActor.handle, if_neg kept]
        exact ensures_nil
      · unfold DisconnectActor.handlePacketSendStatus
        dsimp only
        split
        · exact ensures_cons.mpr ⟨quiet_post (by simp), ensures_nil⟩
        · exact ensures_nil
      · exact halts
      · exact ensures_nil
  case publishStatus =>
      unfold PublishStatusActor.receive
      split
      · rename_i op future
        cases future <;> simp [publishStatusHandle, reply, quiet_post]
      · exact halts
      · exact ensures_nil
  case subscribeStatus | unsubscribeStatus | connectStatus | pingStatus =>
      exact quiet_unitStatusHandle _ _ _
  case sendPublish =>
      unfold SendPublishActor.receive
      split
      · exact quiet_sendPublish opened _
      · exact halts
      · exact ensures_nil
  case recvPublish =>
      unfold RecvPublishActor.receive
      split
      · exact halts
      · exact quiet_recvPublish opened rfl _ _ harmless
      · exact ensures_nil
  case puback =>
      unfold PubackActor.receive
      split
      · exact halts
      · exact quiet_implResponsePacketActor opened _ _ _ rfl
      · exact ensures_nil
  case pubcomp =>
      unfold PubcompActor.receive
      split
      · exact halts
      · exact quiet_implResponsePacketActor opened _ _ _ rfl
      · exact ensures_nil
  case suback =>
      unfold SubackActor.receive
      split
      · exact halts
      · exact quiet_implResponsePacketActor opened _ _ _ rfl
      · exact ensures_nil
  case unsuback =>
      unfold UnsubackActor.receive
      split
      · exact halts
      · exact quiet_implResponsePacketActor opened _ _ _ rfl
      · exact ensures_nil
  case pingresp =>
      unfold PingrespActor.receive
      split
      · exact halts
      · exact quiet_implResponsePacketActor opened _ _ _ rfl
      · exact ensures_nil
  case pubrec =>
      unfold PubrecActor.receive
      split
      · exact halts
      · rename_i id retryCount
        exact quiet_implSendPacketActor opened PubrecActor.actor (some (.pubrel id, id))
          ⟨id, retryCount⟩ rfl
      · exact ensures_nil
  case pubrel =>
      unfold PubrelActor.receive
      split
      · exact halts
      · rename_i id retryCount
        exact quiet_implSendPacketActor opened PubrelActor.actor (some (.pubcomp id, id))
          ⟨id, retryCount⟩ rfl
      · exact ensures_nil
  case subscribe =>
      unfold SubscribeActor.receive
      split
      · exact ensures_cons.mpr ⟨quiet_spawn _, ensures_nil⟩
      · exact quiet_implSendPacketActor opened SubscribeActor.actor _ _ rfl
      · exact halts
      · exact ensures_nil
  case unsubscribe =>
      unfold UnsubscribeActor.receive
      split
      · exact ensures_cons.mpr ⟨quiet_spawn _, ensures_nil⟩
      · exact quiet_implSendPacketActor opened UnsubscribeActor.actor _ _ rfl
      · exact halts
      · exact ensures_nil
  case connect =>
      unfold ConnectActor.receive
      split
      · exact quiet_connect opened _
      · exact halts
      · exact ensures_nil
  case connack =>
      unfold ConnackActor.receive
      split
      · exact halts
      · exact quiet_connack rfl _ _ harmless
      · exact ensures_nil
  case pingreq =>
      unfold PingreqActor.receive
      split
      · exact halts
      · unfold PingreqActor.handle
        split
        · exact quiet_maxRetryCountExceeded opened _ _ _ rfl
        · exact ensures_cons.mpr ⟨quiet_spawn _, ensures_nil⟩
      · exact quiet_implSendPacketActor opened PingreqActor.actor (some (.pingreq, 0)) _ rfl
      · exact ensures_nil
  case dispatch =>
      unfold DispatchActor.receive
      split
      · exact quiet_dispatch opened rfl _ harmless
      · exact halts
      · exact ensures_nil
  case recv =>
      unfold RecvActor.receive
      split
      · cases told rfl
      · exact ensures_nil
  case message | clientStop => exact ensures_nil

theorem quiet_acknowledge (opened : Opened ctx.res) (id : UInt16) (packet : PublishPacket)
    (retryCount : UInt16) : Ensures quiet (RecvPublishActor.acknowledge ctx id packet retryCount) :=
  quiet_trySend (opened _ rfl) (by decide) (quiet_handleSendErrorWithResend _ _ _) <|
    quiet_trySendPacket (opened _ rfl) (quiet_handleSendErrorWithResend _ _ _) (by simp)

theorem quiet_future (opened : Opened ctx.res) {future : Future} {answer : Answer}
    (answered : ∀ e, answer ≠ .error e)
    (harmless : (Job.resumed future answer).ends ctx.res = false) :
    Ensures quiet (future.resume env ctx answer) := by
  cases future with
  | statusCheck status self id check retryMsg =>
      cases answer with
      | error e => exact absurd rfl (answered e)
      | _ =>
          simp only [Future.resume, statusChecked]
          split <;> simp [quiet_request]
  | publishLevel2 id msg =>
      simp only [Future.resume, SendPublishActor.level2Checked]
      split
      · split <;> simp [quiet_request]
      · exact absurd rfl (answered _)
      · exact ensures_nil
  | recvLevel2 id packet retryCount =>
      simp only [Future.resume, RecvPublishActor.level2Answered]
      split
      · exact absurd rfl (answered _)
      · split
        · rename_i first
          have delivered : ctx.res .message ≠ some .closed := by
            simpa [Job.ends, first] using harmless
          exact quiet_deliver delivered (quiet_handleSendErrorWithResend _ _ _)
            (quiet_acknowledge opened _ _ _)
        · exact quiet_acknowledge opened _ _ _
      · exact quiet_acknowledge opened _ _ _
  | checkStatusPhase2 id msg =>
      simp only [Future.resume, RecvPublishActor.checkStatusPhase2]
      split
      · split <;> simp [quiet_request]
      · exact ensures_nil
      · exact absurd rfl (answered _)
      · exact ensures_nil
  | pingConnected lastRetryCount =>
      simp only [Future.resume, PingreqActor.connectStatusKnown]
      split <;> simp
  | pingPending lastRetryCount =>
      simp only [Future.resume, PingreqActor.pingStatusKnown]
      split
      · simp [quiet_request]
      · exact absurd rfl (answered _)
      · exact ensures_nil
  | connectAck =>
      obtain rfl : answer = .unitStatus none := by simpa [Job.ends] using harmless
      exact ensures_cons.mpr ⟨quiet_post (by decide), ensures_nil⟩

theorem quiet_resume {res : Actor → Option SendError} {o : Origin} {job : Job}
    (opened : Opened res)
    (answered : ∀ future e, job ≠ .resumed future (.error e)) (harmless : job.ends res = false) :
    Ensures quiet (resume env ⟨o, job⟩ res s).2 := by
  unfold resume
  cases job with
  | resend deadline dst req => exact ensures_cons.mpr ⟨quiet_request _, ensures_nil⟩
  | timer deadline owner future => exact ensures_cons.mpr ⟨quiet_spawn _, ensures_nil⟩
  | notify notice =>
      exact quiet_handleBody opened nofun (by cases notice <;> rfl)
  | spawned future =>
      dsimp only
      split
      · exact ensures_cons.mpr ⟨quiet_spawn _, ensures_nil⟩
      · exact ensures_cons.mpr ⟨quiet_spawn _, ensures_nil⟩
      · refine ensures_cons.mpr ⟨fun o same => ?_, ensures_nil⟩
        cases future with
        | statusCheck status self id check retryMsg => cases status <;> cases same
        | _ => cases same
  | resumed future answer =>
      exact quiet_future opened (fun e same => answered future e (same ▸ rfl)) harmless

theorem quiet_accept {res : Actor → Option SendError} {i : Input} {s' : State} {es : Out}
    (harmless : ∀ o, i = .cause o → o.cause.ends = false)
    (accepted : accept env i res s = some (s', es)) : Ensures quiet es := by
  cases i with
  | cause o =>
      have harmless := harmless o rfl
      obtain ⟨n, cause⟩ := o
      simp only [accept, Option.ite_none_left_eq_some] at accepted
      obtain ⟨-, arrived⟩ := accepted
      cases cause with
      | setup => cases arrived
      | publish topic qos payload | disconnect msg =>
          cases arrived
          exact ensures_cons.mpr ⟨quiet_request _, ensures_nil⟩
      | subscribe msg | unsubscribe msg | connect msg =>
          cases arrived
          exact ensures_cons.mpr ⟨quiet_post (by decide), ensures_nil⟩
      | received packet message =>
          simp only [arrive, Option.ite_none_left_eq_some, Option.some.injEq, Prod.mk.injEq]
            at arrived
          obtain ⟨-, -, rfl⟩ := arrived
          unfold RecvActor.handle trySend
          split
          · exact quiet_sendError _ _ _
          · exact ensures_cons.mpr ⟨quiet_request _, ensures_nil⟩
      | parseError text | writeError text => cases harmless
      | tick =>
          simp only [arrive, Option.ite_none_left_eq_some, Option.some.injEq, Prod.mk.injEq]
            at arrived
          obtain ⟨-, -, rfl⟩ := arrived
          exact ensures_cons.mpr ⟨quiet_spawn _, ensures_nil⟩
  | messageClosed =>
      cases accepted
      exact ensures_cons.mpr ⟨quiet_halt _, ensures_nil⟩
  | nextIdElsewhere | advance duration =>
      cases accepted
      exact ensures_nil

end Quiet

/-! ## Who asks -/

section Asks

variable {env : Env} {ctx : Ctx} {s : State}

theorem asks_handleSendError (tag : String) :
    .post .stop ⟨ctx.origin, .stop⟩ ∈ handleSendError ctx tag .closed := by
  simp [handleSendError, doSendStop]

theorem asks_handleSendErrorWithResend (tag : String) (addr : Actor) (msg : Request) :
    .post .stop ⟨ctx.origin, .stop⟩ ∈ handleSendErrorWithResend ctx tag addr msg .closed := by
  simp [handleSendErrorWithResend, doSendStop]

theorem asks_handleBody {b : Body} (reason : b.ends ctx s) :
    .post .stop ⟨ctx.origin, .stop⟩ ∈ (handleBody env ctx b s).2 := by
  obtain ⟨a, o, now, res⟩ := ctx
  unfold Body.ends at reason
  split at reason
  · rename_i msg
    obtain ⟨rfl, through⟩ : a = .disconnect ∧ (msg.force || s.packetSendFinished) := by
      simpa using reason
    simp only [handleBody, DisconnectActor.receive, DisconnectActor.handle, if_pos through]
    simp [doSendStop]
  · rename_i code retryCount
    cases a with
    | dispatch =>
        have gone : res .connack = some .closed := by simpa using reason
        simp only [handleBody, DispatchActor.receive, DispatchActor.handle, DispatchActor.target,
          trySend, gone]
        exact asks_handleSendError _
    | connack =>
        simp only [handleBody, ConnackActor.receive, ConnackActor.handle]
        cases noted : res .connectStatus with
        | some e => simp [doSendStop]
        | none =>
            have refused : code ≠ .connectionAccepted := by simpa [noted] using reason
            simp [if_neg refused, doSendStop]
    | _ => cases reason
  · rename_i packet retryCount
    simp only [Bool.and_eq_true, decide_eq_true_eq] at reason
    obtain ⟨⟨⟨rfl, below⟩, gone⟩, rest⟩ := reason
    have below : ¬ retryCount > maxRetryCount := UInt16.not_lt.mpr below
    simp only [handleBody, RecvPublishActor.receive, RecvPublishActor.handle]
    cases qos : packet.qos with
    | level0 =>
        simp only [if_neg below, RecvPublishActor.level0, RecvPublishActor.deliver, gone]
        exact List.mem_append_right _ (asks_handleSendError _)
    | level1 id =>
        have queued : res .send = none := by simpa [qos] using rest
        simp only [if_neg below, RecvPublishActor.level1, trySendPacket, queued,
          RecvPublishActor.deliver, gone]
        exact List.mem_append_right _ (asks_handleSendErrorWithResend _ _ _)
    | level2 id => simp [qos] at rest
  · cases reason

theorem asks_resume {res : Actor → Option SendError} {o : Origin} {job : Job}
    (reason : job.ends res) : .post .stop ⟨o, .stop⟩ ∈ (resume env ⟨o, job⟩ res s).2 := by
  unfold Job.ends at reason
  split at reason
  · rename_i id packet retryCount
    obtain ⟨rfl, gone⟩ : retryCount = 0 ∧ res .message = some .closed := by simpa using reason
    simp only [resume, Future.resume, RecvPublishActor.level2Answered, if_true,
      RecvPublishActor.deliver, gone]
    exact asks_handleSendErrorWithResend _ _ _
  · rename_i answer
    have late : answer ≠ .unitStatus none := by simpa using reason
    simp only [resume, Future.resume, ConnectActor.connectAckKnown]
    split
    · exact absurd rfl late
    · simp [doSendStop]
    · simp [doSendStop]
  · cases reason

theorem asks_accept {res : Actor → Option SendError} {o : Origin} {s' : State} {es : Out}
    (reason : o.cause.ends) (accepted : accept env (.cause o) res s = some (s', es)) :
    .post .stop ⟨o, .stop⟩ ∈ es := by
  obtain ⟨n, cause⟩ := o
  cases cause with
  | parseError text =>
      simp only [accept, arrive, Option.ite_none_left_eq_some, Option.some.injEq, Prod.mk.injEq]
        at accepted
      obtain ⟨-, -, -, rfl⟩ := accepted
      simp [RecvActor.parseFailed, RecvActor.stopped, doSendStop]
  | writeError text =>
      simp only [accept, arrive, Option.ite_none_left_eq_some, Option.some.injEq, Prod.mk.injEq]
        at accepted
      obtain ⟨-, -, -, rfl⟩ := accepted
      simp [SendActor.error, doSendStop]
  | _ => cases reason

end Asks

/-! ## While nobody asks -/

section Step

variable {env : Env} {seed : ℕ} {ls : List ClientMove} {w w' : ClientWorld} {mv : ClientMove}
  {s : State} {es : Out}

theorem told_requested (run : Run env seed ls w) :
    ∀ a ≠ .connect, ∀ m ∈ w.mail a, m.body = .stop → stopRequested w := by
  refine exec_induction (motive := fun _ w => ∀ a ≠ .connect, ∀ m ∈ w.mail a, m.body = .stop →
    stopRequested w) ?_ ?_ run
  · intro a _ m member stop
    simp only [init] at member
    split at member
    · obtain ⟨recipient, -, rfl⟩ := List.mem_map.mp member
      cases stop
    · cases member
  · intro _ w mv w' before requested taken a other m member stop
    by_cases own : a = .stop
    · exact .inr ⟨m, own ▸ member, stop⟩
    · obtain ⟨s, es, reacted, -⟩ := World.fire_eq_some.mp taken
      rcases World.mem_mail_of_fire reacted taken member with old | posted
      · exact stopRequested_step (stopsOnRequest_run before) taken (requested a other m old stop)
      · obtain ⟨m', label, stop'⟩ := stops_step reacted posted ⟨own, other⟩ stop
        exact .inl ((stopping_step taken).2 m' label stop')

theorem Cause.Awaits.question_serves {c : Cause} {future : Future} (awaits : c.Awaits future) :
    future.question.1.serves := by
  cases future with
  | statusCheck status self id check retryMsg =>
      obtain ⟨-, checkOf⟩ := awaits
      cases checkOf <;> rfl
  | _ => rfl

theorem failed_spawn {o : Origin} {future : Future} {e : MailboxError} (holds : genuine.Holds w)
    (reacted : w.reaction (system env) (w.results mv.full) mv.label = some (s, es))
    (spawned : .spawn ⟨o, .resumed future (.error e)⟩ ∈ es) :
    ∃ a : Actor, w.live a = false ∧ a.serves := by
  have source := holds.source reacted
  obtain ⟨label, full⟩ := mv
  generalize shape : (Effect.spawn ⟨o, .resumed future (.error e)⟩ : ClientEffect) = f at spawned
  cases reaction_causes reacted f spawned with
  | take a m produces =>
      obtain ⟨o', b⟩ := m
      cases produces <;> cases shape
  | run t runs =>
      obtain ⟨o', job⟩ := t
      cases runs with
      | notify notice produces =>
          subst shape
          cases notice <;> cases produces
      | resumed future' answer continues =>
          subst shape
          cases continues
      | closed future' refused =>
          refine ⟨future'.question.1, ?_, Cause.Awaits.question_serves source⟩
          cases alive : w.live future'.question.1 with
          | false => rfl
          | true =>
              cases crowded : full future'.question.1 <;>
                simp [World.results, alive, crowded] at refused
      | _ => cases shape
  | arrive o' arrives => cases arrives <;> cases shape
  | messageClosed => cases shape

/-- A request to a status actor fails only after the end was requested. -/
theorem failed_requested (run : Run env seed ls w) :
    ∀ o future e, ⟨o, .resumed future (.error e)⟩ ∈ w.tasks → stopRequested w := by
  refine exec_induction (motive := fun _ w => ∀ o future e,
    ⟨o, .resumed future (.error e)⟩ ∈ w.tasks → stopRequested w) ?_ ?_ run
  · intro o future e member
    cases List.mem_singleton.mp member
  · intro _ w mv w' before requested taken o future e member
    obtain ⟨s, es, reacted, -⟩ := World.fire_eq_some.mp taken
    have inv := stopsOnRequest_run before
    have effects := genuine_effects (genuine_run before) reacted
    rcases World.mem_tasks_of_fire reacted taken member with old | spawned |
      ⟨a, m, halted, left, source⟩
    · exact stopRequested_step inv taken (requested o future e old)
    · obtain ⟨b, dead, serves⟩ := failed_spawn (genuine_run before) reacted spawned
      exact stopRequested_step inv taken (inv.stopped b serves dead)
    · obtain ⟨future', replies, -⟩ := orphan_reply left
      have asked : m.body.Genuine m.origin.cause a := by
        rcases source with old | posted
        · exact (genuine_run before).mail a m old
        · exact effects _ posted
      obtain ⟨awaits, question⟩ := asked.of_reply replies
      have serves : a.serves := by
        have := awaits.question_serves
        rwa [question] at this
      refine (stopsOnRequest_step inv taken).stopped a serves (Bool.eq_false_of_not_eq_true ?_)
      exact fun alive => World.not_halt_of_live reacted taken alive halted

/-- While nobody asks for the end, a step asks for it exactly when it is one of the reasons. -/
theorem ends_asked (run : Run env seed ls w) (calm : ¬ stopRequested w)
    (reacted : w.reaction (system env) (w.results mv.full) mv.label = some (s, es)) :
    (∃ o, .post .stop ⟨o, .stop⟩ ∈ es) ↔ endsClient w mv := by
  have opened : Opened (w.results mv.full) := by
    intro a serves
    have alive := lives_on (stopsOnRequest_run run) calm serves
    cases full : mv.full a <;> simp [World.results, alive, full]
  obtain ⟨label, full⟩ := mv
  constructor
  · rintro ⟨o, asked⟩
    by_contra harmless
    have harmless := Bool.eq_false_of_not_eq_true harmless
    refine ensures_quiet.mp ?_ o asked
    cases label with
    | take a m =>
        obtain ⟨-, head, handled⟩ := World.reaction_take.mp reacted
        rw [show es = (handleBody env ⟨a, m.origin, w.state.now, w.results full⟩ m.body w.state).2
          from (congrArg Prod.snd handled).symm]
        refine quiet_handleBody opened (fun stop => ?_) harmless
        by_contra other
        exact calm (told_requested run a other m (List.mem_of_mem_head? head) stop)
    | run t =>
        obtain ⟨member, -, resumed⟩ := World.reaction_run.mp reacted
        rw [show es = (resume env t (w.results full) w.state).2
          from (congrArg Prod.snd resumed).symm]
        refine quiet_resume opened (fun future e same => ?_) harmless
        obtain ⟨o', job⟩ := t
        exact calm (failed_requested run o' future e (same ▸ member))
    | give i =>
        have accepted : accept env i (w.results full) w.state = some (s, es) := reacted
        refine quiet_accept (fun o same => ?_) accepted
        subst same
        exact harmless
  · intro reason
    cases label with
    | take a m =>
        obtain ⟨-, -, handled⟩ := World.reaction_take.mp reacted
        rw [show es = (handleBody env ⟨a, m.origin, w.state.now, w.results full⟩ m.body w.state).2
          from (congrArg Prod.snd handled).symm]
        exact ⟨_, asks_handleBody reason⟩
    | run t =>
        obtain ⟨-, -, resumed⟩ := World.reaction_run.mp reacted
        rw [show es = (resume env t (w.results full) w.state).2
          from (congrArg Prod.snd resumed).symm]
        exact ⟨_, asks_resume reason⟩
    | give i =>
        have accepted : accept env i (w.results full) w.state = some (s, es) := reacted
        cases i with
        | cause o => exact ⟨o, asks_accept reason accepted⟩
        | _ => cases reason

theorem requested_step (run : Run env seed ls w) (taken : clientStep env w mv = some w') :
    stopRequested w' ↔ stopRequested w ∨ endsClient w mv := by
  obtain ⟨s, es, reacted, -⟩ := World.fire_eq_some.mp taken
  have inv := stopsOnRequest_run run
  by_cases calm : stopRequested w
  · exact iff_of_true (stopRequested_step inv taken calm) (.inl calm)
  · rw [or_iff_right calm, ← ends_asked run calm reacted]
    constructor
    · rintro (stopping | ⟨⟨o, b⟩, member, stop⟩)
      · exact absurd (stopping_asked taken stopping) calm
      · rcases World.mem_mail_of_fire reacted taken member with old | posted
        · exact absurd (.inr ⟨_, old, stop⟩) calm
        · obtain rfl : b = .stop := stop
          exact ⟨o, posted⟩
    · rintro ⟨o, asked⟩
      exact stopRequested_of_post inv taken reacted asked

/-- StopActor is sent a StopMessage exactly when one of the reasons occurs, whatever else happens
    before it. -/
theorem what_ends (run : Run env seed ls w) : .stop ∈ stops env seed ls ↔
    Sometime (clientStep env) (fun w mv => endsClient w mv) (init env seed) ls := by
  rw [← requested_run run]
  have preserved : ∀ v mv v', (∃ ls, Run env seed ls v) → clientStep env v mv = some v' →
      ∃ ls, Run env seed ls v' :=
    fun _ _ _ ⟨ls, before⟩ taken => ⟨ls ++ [_], before.step taken⟩
  have start : Run env seed [] (init env seed) := rfl
  have unasked : ¬ stopRequested (init env seed) := (requested_run start).not.mpr nofun
  have marked := exec_sometime preserved
    (fun _ _ _ ⟨_, before⟩ taken => requested_step before taken) ⟨[], start⟩ run
  rw [marked, or_iff_right unasked]

end Step

/-- The broker accepts the connection twice. -/
def acceptedTwice : List Turn :=
  [.give (.cause ⟨1, .received (.connack .connectionAccepted) 1⟩), .handle .dispatch,
    .handle .connack,
    .give (.cause ⟨2, .received (.connack .connectionAccepted) 2⟩), .handle .dispatch]

theorem what_ends_acceptedTwice :
    .stop ∈ stops plainEnv 0 (schedule plainEnv (init plainEnv 0) acceptedTwice) := by
  obtain ⟨w, run, reason⟩ : ∃ w,
      Run plainEnv 0 (schedule plainEnv (init plainEnv 0) acceptedTwice) w ∧
        Sometime (clientStep plainEnv) (fun w mv => endsClient w mv) (init plainEnv 0)
          (schedule plainEnv (init plainEnv 0) acceptedTwice) := ⟨_, rfl, by decide +kernel⟩
  exact (what_ends run).mpr reason

end ActixMqtt
