import ActixMqtt.Actors.Effort
import ActixMqtt.Attempting
import ActixMqtt.Identifiers

/-! # How busy a client is

Each message and each task is given the number of steps it may lead to. A step that no
full mailbox gets in the way of pays for itself, so a client takes a bounded number of
steps for each thing that happens to it and for each refusal, and left alone it comes to
rest.
-/

namespace ActixMqtt

open ActorSystem

/-! ## The work in a message -/

def Request.work : Request → ℕ
  | .publish msg => 6 + 15 * attemptsLeft msg.retryCount
  | .packet ⟨.publish _, retryCount⟩ => 7 + 22 * attemptsLeft retryCount
  | .packet ⟨.pubrec _, retryCount⟩ | .packet ⟨.pubrel _, retryCount⟩ =>
      6 + 15 * attemptsLeft retryCount
  | .packet _ => 13
  | .batchSubscribe msg => 6 + 15 * attemptsLeft msg.retryCount
  | .batchUnsubscribe msg => 6 + 15 * attemptsLeft msg.retryCount
  | .pingreq _ => 111
  | .sendPing lastRetryCount => 6 + 15 * attemptsLeft lastRetryCount
  | .disconnect _ => 3

/-- The work in a future that is answered. -/
def Future.work : Future → ℕ
  | .statusCheck _ _ _ _ retryMsg => 1 + retryMsg.work
  | .publishLevel2 _ msg => 1 + (Request.publish msg).work
  | .recvLevel2 _ _ retryCount => 22 * attemptsLeft retryCount
  | .checkStatusPhase2 _ msg => 1 + (RecvPublishActor.request msg.packet msg.retryCount).work
  | .pingConnected _ => 104
  | .pingPending _ => 97
  | .connectAck => 3

def Body.work (a : Actor) : Body → ℕ
  | .request req =>
      match a with
      | .send => 1
      | .dispatch => 140
      | _ => req.work
  | .subscribe _ | .unsubscribe _ => 97
  | .connect _ => 17
  | .publishStatus _ (some future) | .unitStatus _ (some future) | .statusExistence _ future =>
      5 + future.work
  | .publishStatus _ none | .unitStatus _ none => 5
  | .packetSendStatus _ => 4
  | .addStopRecipient _ => 3
  | .stop => if a = .stop then 1 else 2

def Job.work : Job → ℕ
  | .resend _ dst req => 1 + (Body.request req).work dst
  | .timer _ _ future => 7 + future.work
  | .notify notice => notice.request.work
  | .spawned future => 6 + future.work
  | .resumed future _ => future.work

/-- What StopActor will pass on. -/
def State.toStop (s : State) : ℕ := if s.stopping then 0 else 2 * s.stopRecipients.length

def effort : Effort Actor Msg Task State where
  mail a m := m.body.work a
  task t := t.job.work
  stock := State.toStop

/-- A refusal costs at most another round of what was refused. -/
def refusal (res : Actor → Option SendError) : ℕ := if ∃ a, res a = some .full then 9 else 0

abbrev workload (es : Out) : ℕ := effort.weight.effects es

section Helpers

variable {ctx : Ctx}

@[simp] theorem workload_nil : workload [] = 0 := rfl

@[simp] theorem workload_cons (e : ClientEffect) (es : Out) :
    workload (e :: es) = effort.weight.effect e + workload es := rfl

@[simp] theorem workload_append (es fs : Out) : workload (es ++ fs) = workload es + workload fs :=
  Weight.effects_append _ es fs

@[simp] theorem work_post (dst : Actor) (m : Msg) :
    effort.weight.effect (.post dst m : ClientEffect) = m.body.work dst := rfl

@[simp] theorem work_spawn (t : Task) :
    effort.weight.effect (.spawn t : ClientEffect) = t.job.work := rfl

@[simp] theorem work_emit (e : Event) : effort.weight.effect (.emit e : ClientEffect) = 0 := rfl

@[simp] theorem work_halt (a : Actor) : effort.weight.effect (.halt a : ClientEffect) = 0 := rfl

theorem refusal_full {res : Actor → Option SendError} {a : Actor} (full : res a = some .full) :
    refusal res = 9 :=
  if_pos ⟨a, full⟩

@[simp] theorem workload_sendError (tag : String) (kind : ErrorKind) (text : String) :
    workload (sendError ctx tag kind text) = 0 := rfl

@[simp] theorem workload_doSendStop : workload (doSendStop ctx) = 1 := rfl

theorem work_request {a : Actor} {req : Request} (notSend : a ≠ .send) (notDispatch : a ≠ .dispatch) :
    (Body.request req).work a = req.work := by
  cases a <;> first | rfl | contradiction

theorem workload_handleSendError_le (tag : String) (e : SendError) :
    workload (handleSendError ctx tag e) ≤ 1 := by
  cases e <;> simp [handleSendError]

theorem workload_handleSendErrorWithResend_le (tag : String) (addr : Actor) (msg : Request)
    (e : SendError) : workload (handleSendErrorWithResend ctx tag addr msg e) ≤
      1 + (Body.request msg).work addr := by
  cases e <;> simp [handleSendErrorWithResend, resend, Job.work]

theorem workload_trySend_le {dst : Actor} {body : Body} {failed : SendError → Out} {next : Out}
    {n : ℕ} (err : ∀ e, ctx.res dst = some e → workload (failed e) ≤ n)
    (ok : body.work dst + workload next ≤ n) : workload (trySend ctx dst body failed next) ≤ n := by
  unfold trySend
  cases sent : ctx.res dst with
  | some e => exact err e sent
  | none => exact ok

theorem workload_doSend_le {dst : Actor} {body : Body} {failed : SendError → Out} {next : Out}
    {n : ℕ} (err : workload (failed .closed) ≤ n) (ok : body.work dst + workload next ≤ n) :
    workload (doSend ctx dst body failed next) ≤ n := by
  unfold doSend
  split
  · exact err
  · exact ok

theorem workload_trySendPacket_le {packet : VariablePacket} {failed : SendError → Out} {next : Out}
    {n : ℕ} (err : ∀ e, ctx.res .send = some e → workload (failed e) ≤ n)
    (ok : 1 + workload next ≤ n) : workload (trySendPacket ctx packet failed next) ≤ n := by
  unfold trySendPacket
  cases sent : ctx.res .send with
  | some e => exact err e sent
  | none => simpa [queuePacket, Body.work] using ok

theorem workload_deliver_le {id : UInt16} {packet : PublishPacket} {failed : SendError → Out}
    {next : Out} {n : ℕ} (err : ∀ e, ctx.res .message = some e → workload (failed e) ≤ n)
    (ok : workload next ≤ n) :
    workload (RecvPublishActor.deliver ctx id packet failed next) ≤ n := by
  unfold RecvPublishActor.deliver
  cases sent : ctx.res .message with
  | some e => exact err e sent
  | none => simpa using ok

theorem workload_maxRetryCountExceeded_le {T : Type} (name : String) (status : StatusRecipient T)
    (id : UInt16) (unawaited : ∀ op, (status.body op none).work status.actor = 5) :
    workload (maxRetryCountExceeded ctx name status id) ≤ 5 :=
  workload_doSend_le ((workload_handleSendError_le _ _).trans (by omega)) (by simp [unawaited])

theorem workload_reply (answer : Answer) (future : Option Future) :
    workload (reply ctx answer future) = future.elim 0 Future.work := by
  cases future <;> simp [reply, Job.work]

theorem workload_handleMailboxError_le {tag : String} {addr : Actor} {msg : Request}
    {e : MailboxError} (closed : e = .closed) :
    workload (handleMailboxErrorWithResend ctx tag addr msg e) ≤ 1 := by
  subst closed
  simp [handleMailboxErrorWithResend]

theorem attempts_work {retryCount : UInt16} (below : ¬ retryCount > maxRetryCount) (k : ℕ) :
    k * attemptsLeft retryCount = k + k * attemptsLeft (retryCount + 1) := by
  rw [← attemptsLeft_succ below, Nat.mul_succ, Nat.add_comm]

theorem workload_implSendPacketActor_le {M T : Type} (actor : SendPacketActor M T) (msg : M)
    {packetAndId : Option (VariablePacket × UInt16)}
    (unawaited : ∀ op, (actor.status.body op none).work actor.status.actor = 5)
    (link : ∀ req, (Body.request req).work ctx.self = req.work)
    (weighs : ∀ msg, (actor.request msg).work =
      6 + 15 * attemptsLeft (actor.getRetryCountFromMessage msg))
    (counts : actor.getRetryCountFromMessage (actor.createRetryMessageFromMessage msg) =
      actor.getRetryCountFromMessage msg + 1) :
    workload (implSendPacketActor actor ctx packetAndId msg) + 1 ≤ (actor.request msg).work := by
  rw [weighs, show ∀ n, 6 + n = 5 + n + 1 from fun n => by omega]
  refine Nat.succ_le_succ ?_
  unfold implSendPacketActor
  cases packetAndId with
  | none => exact Nat.zero_le _
  | some both =>
      dsimp only
      split
      · exact (workload_maxRetryCountExceeded_le _ _ _ unawaited).trans (Nat.le_add_right _ _)
      · rename_i below
        have paid := attempts_work below 15
        have later := weighs (actor.createRetryMessageFromMessage msg)
        rw [counts] at later
        have again (e : SendError) : workload (handleSendErrorWithResend ctx actor.name ctx.self
            (actor.request (actor.createRetryMessageFromMessage msg)) e) ≤
              15 * attemptsLeft (actor.getRetryCountFromMessage msg) := by
          refine (workload_handleSendErrorWithResend_le _ _ _ e).trans ?_
          rw [link]
          omega
        refine workload_trySend_le (fun e _ => (again e).trans (Nat.le_add_left _ _)) ?_
        rw [unawaited]
        refine Nat.add_le_add_left (workload_trySendPacket_le (fun e _ => again e) ?_) 5
        simp only [scheduleStatusCheck, workload_cons, workload_nil, work_spawn, Job.work,
          Future.work]
        omega

end Helpers

/-! ## The handlers -/

section Handlers

variable {env : Env} {ctx : Ctx}

theorem workload_publish_le {id : UInt16} {packet : PublishPacket} {msg : Publish}
    {phase : PublishPacketStatus} {check : Future} {n : ℕ} (self : ctx.self = .sendPublish)
    (later : check.work = 1 + (Request.publish (SendPublishActor.resendMsg msg)).work)
    (next : 9 + (Request.publish (SendPublishActor.resendMsg msg)).work ≤ n) :
    workload (SendPublishActor.publish ctx id packet msg phase
      [.spawn ⟨ctx.origin, .timer (ctx.now + commandTimeout) (some ctx.self) check⟩]) ≤ n + 5 := by
  have again (tag : String) (e : SendError) : workload (handleSendErrorWithResend ctx tag ctx.self
      (.publish (SendPublishActor.resendMsg msg)) e) ≤ n := by
    refine (workload_handleSendErrorWithResend_le _ _ _ e).trans ?_
    rw [self, work_request (by simp) (by simp)]
    omega
  refine workload_trySend_le (fun e _ => (again _ e).trans (Nat.le_add_right _ _)) ?_
  rw [show (Body.publishStatus _ none).work .publishStatus = 5 from rfl, Nat.add_comm]
  refine Nat.add_le_add_right (workload_trySendPacket_le (fun e _ => again _ e) ?_) 5
  simp only [workload_cons, workload_nil, work_spawn, Job.work]
  omega

theorem workload_sendPublish_le (self : ctx.self = .sendPublish) (msg : Publish) (s : State) :
    workload (SendPublishActor.handle env ctx msg s).2 + 1 ≤ (Request.publish msg).work := by
  unfold SendPublishActor.handle
  split
  · have exceeded : workload (maxRetryCountExceeded ctx "SendPublishActor" publishStatusRecipient 0) ≤
        5 := workload_maxRetryCountExceeded_le _ _ _ fun _ => rfl
    simp only [Request.work]
    omega
  · rename_i below
    have next : 9 + (Request.publish (SendPublishActor.resendMsg msg)).work ≤
        15 * attemptsLeft msg.retryCount := by
      have paid := attempts_work below 15
      simp only [Request.work, SendPublishActor.resendMsg]
      omega
    have enough : 15 * attemptsLeft msg.retryCount + 5 + 1 ≤ (Request.publish msg).work := by
      simp only [Request.work]
      omega
    unfold SendPublishActor.createPacketAndIdFromMessage
    cases env.topicNameError msg.topic with
    | some e => exact (Nat.succ_le_succ (Nat.zero_le _)).trans enough
    | none =>
        cases msg.qos with
        | level0 =>
            refine (Nat.succ_le_succ (workload_trySendPacket_le (n := 1) (fun e _ => ?_) ?_)).trans
              (Nat.le_trans (by omega) enough)
            · exact workload_handleSendError_le _ e
            · exact Nat.le_refl _
        | level1 =>
            exact (Nat.succ_le_succ (workload_publish_le self rfl next)).trans enough
        | level2 =>
            exact (Nat.succ_le_succ (workload_publish_le self rfl next)).trans enough

theorem workload_received_le (self : ctx.self = .recvPublish) (packet : PublishPacket)
    (retryCount : UInt16) (tag : String) (e : SendError) :
    workload (handleSendErrorWithResend ctx tag ctx.self
      (RecvPublishActor.request packet retryCount) e) ≤ 8 + 22 * attemptsLeft retryCount := by
  refine (workload_handleSendErrorWithResend_le _ _ _ e).trans ?_
  rw [self, work_request (by simp) (by simp)]
  simp only [RecvPublishActor.request, Request.work]
  omega

theorem workload_recvPublish_le (self : ctx.self = .recvPublish) (packet : PublishPacket)
    (retryCount : UInt16) : workload (RecvPublishActor.handle ctx ⟨packet, retryCount⟩) + 1 ≤
      (RecvPublishActor.request packet retryCount).work := by
  have exceeded (id : UInt16) : workload
      (maxRetryCountExceeded ctx "RecvPublishActor" publishStatusRecipient id) ≤ 5 :=
    workload_maxRetryCountExceeded_le _ _ _ fun _ => rfl
  rw [show (RecvPublishActor.request packet retryCount).work =
    6 + 22 * attemptsLeft retryCount + 1 from by
      simp only [RecvPublishActor.request, Request.work]
      omega]
  refine Nat.succ_le_succ ?_
  unfold RecvPublishActor.handle
  cases packet.qos with
  | level0 =>
      dsimp only
      split
      · exact (exceeded 0).trans (by omega)
      · rw [RecvPublishActor.level0, workload_append]
        refine (Nat.add_le_add (b := 5) (d := 1) ?_ ?_).trans (Nat.le_add_right 6 _)
        · exact workload_doSend_le ((workload_handleSendError_le _ _).trans (by omega))
            (Nat.le_refl 5)
        · exact workload_deliver_le (fun e _ => workload_handleSendError_le _ e) (Nat.zero_le 1)
  | level1 id =>
      dsimp only
      split
      · exact (exceeded id).trans (by omega)
      · rename_i below
        have paid := attempts_work below 22
        have again := workload_received_le self packet (retryCount + 1)
        refine workload_trySendPacket_le (fun e _ => (again _ e).trans (by omega)) ?_
        refine (Nat.add_le_add_left (workload_deliver_le (fun e _ => again _ e)
          (Nat.zero_le _)) 1).trans (by omega)
  | level2 id =>
      dsimp only
      split
      · exact (exceeded id).trans (by omega)
      · simp only [RecvPublishActor.level2, workload_cons, workload_nil, work_spawn, Job.work,
          Future.work]
        omega

theorem workload_acknowledge_le (self : ctx.self = .recvPublish) (id : UInt16)
    (packet : PublishPacket) {retryCount : UInt16} (below : ¬ retryCount > maxRetryCount) :
    workload (RecvPublishActor.acknowledge ctx id packet retryCount) + 1 ≤
      22 * attemptsLeft retryCount := by
  have again := workload_received_le self packet (retryCount + 1)
  rw [attempts_work below 22, show ∀ n, 22 + n = 5 + (16 + n) + 1 from fun n => by omega]
  refine Nat.succ_le_succ (workload_trySend_le (fun e _ => (again _ e).trans (by omega)) ?_)
  refine Nat.add_le_add_left (workload_trySendPacket_le (fun e _ => (again _ e).trans (by omega)) ?_) 5
  simp only [workload_cons, workload_nil, work_spawn, Job.work, Future.work,
    RecvPublishActor.request, Request.work]
  omega

theorem workload_pingreq_le (lastRetryCount : UInt16) :
    workload (PingreqActor.handle ctx lastRetryCount) + 1 ≤ 111 := by
  unfold PingreqActor.handle
  split
  · exact Nat.succ_le_succ ((workload_maxRetryCountExceeded_le _ _ _ fun _ => rfl).trans (by omega))
  · exact Nat.le_refl 111

theorem workload_disconnect_le (msg : Disconnect) (s : State) (self : ctx.self = .disconnect) :
    workload (DisconnectActor.handle ctx msg s).2 + 1 ≤ 3 + refusal ctx.res := by
  unfold DisconnectActor.handle
  split
  · -- DISCONNECT is queued or refused, and then the client is stopped
    have sent : workload (sendPacket ctx "DisconnectActor::disconnect" .disconnect
        (.disconnect msg) []) ≤ 1 + refusal ctx.res := by
      unfold sendPacket trySendPacket
      cases accepted : ctx.res .send with
      | none => simp [queuePacket, Body.work]
      | some e =>
          cases e with
          | closed => simp [handleSendErrorWithResend]
          | full =>
              rw [refusal_full accepted]
              refine (workload_handleSendErrorWithResend_le _ _ _ _).trans ?_
              rw [self, work_request (by simp) (by simp)]
              exact Nat.le_of_ble_eq_true rfl
    simp only [workload_append, workload_doSendStop, workload_cons, workload_nil, work_halt]
    omega
  · simp only [workload_nil]
    omega

theorem workload_packetSendStatus_le (msg : PacketSendStatus) (s : State)
    (self : ctx.self = .disconnect) :
    workload (DisconnectActor.handlePacketSendStatus ctx msg s).2 + 1 ≤ 4 := by
  unfold DisconnectActor.handlePacketSendStatus
  dsimp only
  split
  · rw [self]
    exact Nat.le_refl 4
  · exact Nat.le_add_left 1 3

/-- The broadcast is paid for by the stock. -/
theorem workload_stop_le (s : State) :
    workload (StopActor.handle ctx s).2 + (StopActor.handle ctx s).1.toStop ≤ s.toStop := by
  unfold StopActor.handle State.toStop
  split
  · exact Nat.le_refl 0
  · rename_i running
    have each (recipient : Actor) : Body.stop.work recipient ≤ 2 := by
      show (if recipient = .stop then 1 else 2) ≤ 2
      split <;> omega
    have told : workload (s.stopRecipients.map fun recipient =>
        Effect.post recipient ⟨ctx.origin, .stop⟩) ≤ 2 * s.stopRecipients.length := by
      induction s.stopRecipients with
      | nil => exact Nat.le_refl 0
      | cons recipient recipients ih =>
          have here := each recipient
          simp only [List.map_cons, workload_cons, work_post, List.length_cons]
          omega
    simpa [running] using told

theorem workload_connect_le (msg : Connect) (self : ctx.self = .connect) :
    workload (ConnectActor.handle env ctx msg) + 1 ≤ 17 := by
  unfold ConnectActor.handle
  refine Nat.succ_le_succ (workload_doSend_le (by simp) ?_)
  split
  · simp [Body.work]
  · simp [self, queuePacket, Body.work, Job.work, Future.work]

theorem workload_connack_le (returnCode : ConnectReturnCode) :
    workload (ConnackActor.handle env ctx returnCode) + 1 ≤ 13 := by
  unfold ConnackActor.handle
  split
  · simp
  · split <;> simp [Body.work]

theorem workload_dispatch_le (packet : VariablePacket) :
    workload (DispatchActor.handle ctx packet) + 1 ≤ 140 := by
  unfold DispatchActor.handle
  split
  · exact Nat.le_add_left 1 139
  · rename_i dst name target
    refine Nat.succ_le_succ (workload_trySend_le
      (fun e _ => (workload_handleSendError_le _ e).trans (by omega)) ?_)
    unfold DispatchActor.target at target
    split at target <;> cases target <;> exact Nat.le_of_ble_eq_true rfl

theorem workload_send_le (packet : VariablePacket) :
    workload (SendActor.handle env ctx packet) = 0 := by
  unfold SendActor.handle
  cases (env.encode packet).2 <;> rfl

theorem workload_response_le {T : Type} {actor : ResponsePacketActor T} {id : UInt16}
    {retry : PacketMessage VariablePacket} (awaited : ∀ op, (actor.status.body op none).work actor.status.actor = 5)
    (link : (Body.request (.packet retry)).work ctx.self = 13) :
    workload (implResponsePacketActor actor ctx id retry) + 1 ≤ 13 + refusal ctx.res := by
  unfold implResponsePacketActor resetPacketStatus trySend
  cases sent : ctx.res actor.status.actor with
  | none =>
      simp only [workload_cons, work_post, awaited, workload_nil]
      omega
  | some e =>
      cases e with
      | closed =>
          simp only [handleSendErrorWithResend, workload_append, workload_sendError,
            workload_doSendStop]
          omega
      | full =>
          rw [refusal_full sent]
          refine (Nat.succ_le_succ (workload_handleSendErrorWithResend_le _ _ _ _)).trans ?_
          rw [link]
          exact Nat.le_of_ble_eq_true rfl

theorem Request.work_pos (req : Request) : 0 < req.work := by
  cases req with
  | packet msg =>
      obtain ⟨packet, retryCount⟩ := msg
      cases packet <;> simp only [Request.work] <;> omega
  | _ =>
      simp only [Request.work]
      omega

theorem Body.work_pos (a : Actor) (b : Body) : 0 < b.work a := by
  cases b with
  | request req =>
      cases a with
      | send => exact Nat.one_pos
      | dispatch => exact Nat.succ_pos 139
      | _ => exact req.work_pos
  | publishStatus op future | unitStatus op future =>
      cases future <;> simp only [Body.work] <;> omega
  | stop =>
      simp only [Body.work]
      split <;> omega
  | _ =>
      simp only [Body.work]
      omega

theorem workload_level2Answered_le (self : ctx.self = .recvPublish) (id : UInt16)
    (packet : PublishPacket) {retryCount : UInt16} {answer : Answer}
    (below : ¬ retryCount > maxRetryCount) (fits : ∀ e, answer = .error e → e = .closed) :
    workload (RecvPublishActor.level2Answered ctx id packet retryCount answer) + 1 ≤
      22 * attemptsLeft retryCount + refusal ctx.res := by
  have acknowledged := workload_acknowledge_le self id packet below
  have paid := attempts_work below 22
  unfold RecvPublishActor.level2Answered
  split
  · rename_i e
    exact (Nat.succ_le_succ (workload_handleMailboxError_le (fits e rfl))).trans (by omega)
  · split
    · rename_i first
      subst first
      unfold RecvPublishActor.deliver
      cases delivered : ctx.res .message with
      | none =>
          simp only [workload_cons, work_emit]
          omega
      | some e =>
          cases e with
          | closed =>
              simp only [handleSendErrorWithResend, workload_append, workload_sendError,
                workload_doSendStop]
              omega
          | full =>
              rw [refusal_full delivered]
              exact Nat.succ_le_succ (workload_received_le self packet 0 _ _)
    · exact acknowledged.trans (Nat.le_add_right _ _)
  · exact acknowledged.trans (Nat.le_add_right _ _)

theorem workload_futureResume_le {c : Cause} {future : Future} {answer : Answer}
    (self : ctx.self = future.self) (awaits : c.Awaits future) (fits : answer.Fits future) :
    workload (future.resume env ctx answer) + 1 ≤ future.work + refusal ctx.res := by
  have closed (e : MailboxError) (same : answer = .error e) : e = .closed := by
    subst same
    exact fits
  have failed {tag : String} {addr : Actor} {msg : Request} {e : MailboxError} {n : ℕ}
      (same : answer = .error e) (pos : 0 < n) :
      workload (handleMailboxErrorWithResend ctx tag addr msg e) + 1 ≤ 1 + n + refusal ctx.res :=
    (Nat.succ_le_succ (workload_handleMailboxError_le (closed e same))).trans (by omega)
  have nothing {n : ℕ} : workload [] + 1 ≤ 1 + n + refusal ctx.res := by
    simp only [workload_nil]
    omega
  cases future with
  | statusCheck status self' id check req =>
      simp only [Future.resume, statusChecked, Future.work]
      have home := Request.home_ne awaits.2.home.1
      split
      · rename_i e
        exact failed rfl req.work_pos
      · split
        · simp only [workload_cons, work_post, workload_nil, work_request home.1 home.2.2.1]
          omega
        · exact nothing
  | publishLevel2 id msg =>
      simp only [Future.resume, SendPublishActor.level2Checked, Future.work]
      split
      · split
        · simp only [workload_cons, work_post, workload_nil, Body.work]
          omega
        · exact nothing
      · exact failed rfl (Request.work_pos _)
      · exact nothing
  | recvLevel2 id packet retryCount =>
      exact workload_level2Answered_le self id packet awaits.2.2 closed
  | checkStatusPhase2 id msg =>
      simp only [Future.resume, RecvPublishActor.checkStatusPhase2, Future.work]
      split
      · split
        · simp only [workload_cons, work_post, workload_nil, Body.work]
          omega
        · exact nothing
      · exact nothing
      · exact failed rfl (Request.work_pos _)
      · exact nothing
  | pingConnected lastRetryCount =>
      simp only [Future.resume, PingreqActor.connectStatusKnown, Future.work]
      split
      · simp only [workload_cons, work_spawn, workload_nil, Job.work, Future.work]
        omega
      · simp only [workload_nil]
        omega
  | pingPending lastRetryCount =>
      simp only [Future.resume, PingreqActor.pingStatusKnown, Future.work]
      split
      · exact Nat.le_add_right 97 _
      · exact (failed rfl (n := 96) (by omega)).trans (by omega)
      · simp only [workload_nil]
        omega
  | connectAck =>
      simp only [Future.resume, ConnectActor.connectAckKnown, Future.work]
      split
      · exact Nat.le_add_right 3 _
      · simp only [workload_append, workload_sendError, workload_doSendStop]
        omega
      · simp only [workload_append, workload_sendError, workload_doSendStop]
        omega

theorem State.ChangedBy.toStop {s s' : State} {a : Actor} (changed : s.ChangedBy s' a)
    (other : a ≠ .stop) : s'.toStop = s.toStop := by
  cases a
  case stop => exact absurd rfl other
  all_goals
    simp only [State.ChangedBy] at changed
    unfold State.toStop
    rw [changed]

theorem workload_unitStatusHandle_le (get : State → PacketStatusMap Unit)
    (set : State → PacketStatusMap Unit → State) (b : Body) (s : State) (a : Actor) :
    workload (unitStatusHandle ctx get set b s).2 + 1 ≤ b.work a := by
  unfold unitStatusHandle
  split
  · rename_i op future
    dsimp only
    rw [workload_reply]
    cases future with
    | none => exact Nat.le_add_left 1 4
    | some future =>
        simp only [Option.elim_some, Body.work]
        omega
  · dsimp only
    rw [workload_reply]
    simp only [Option.elim_some, Body.work]
    omega
  · exact Body.work_pos a .stop
  · exact Body.work_pos a b

/-- What a handler leaves behind, and the step itself, is paid for by the message. -/
theorem workload_handleBody_le (env : Env) (ctx : Ctx) (b : Body) (s : State) :
    workload (handleBody env ctx b s).2 + (handleBody env ctx b s).1.toStop + 1 ≤
      b.work ctx.self + s.toStop + refusal ctx.res := by
  by_cases other : ctx.self = .stop
  · obtain ⟨a, o, now, res⟩ := ctx
    obtain rfl : a = .stop := other
    simp only [handleBody]
    unfold StopActor.receive
    split
    · have added : (StopActor.addStopRecipient ‹_› s).toStop ≤ s.toStop + 2 := by
        unfold StopActor.addStopRecipient State.toStop
        dsimp only
        split
        · omega
        · rw [List.length_append, List.length_singleton]
          omega
      simp only [workload_nil, Body.work]
      omega
    · have told : workload (StopActor.handle ⟨.stop, o, now, res⟩ s).2 +
          (StopActor.handle ⟨.stop, o, now, res⟩ s).1.toStop ≤ s.toStop := workload_stop_le s
      simp only [Body.work, if_true]
      omega
    · have := Body.work_pos .stop b
      simp only [workload_nil]
      omega
  · rw [(handleBody_changedBy env ctx b s).toStop other]
    suffices law : workload (handleBody env ctx b s).2 + 1 ≤ b.work ctx.self + refusal ctx.res by omega
    obtain ⟨a, o, now, res⟩ := ctx
    have ignored {n : ℕ} : workload [] + 1 ≤ b.work a + n :=
      Nat.le_add_right_of_le (Body.work_pos a b)
    have stopped {n : ℕ} (self : Ctx) : workload (stopHandler self) + 1 ≤ Body.stop.work a + n :=
      Nat.le_add_right_of_le (Body.work_pos a .stop)
    have free {n m k : ℕ} (le : n ≤ m) : n ≤ m + k := Nat.le_add_right_of_le le
    cases a <;> simp only [handleBody]
    case stop => exact absurd rfl other
    case send =>
        unfold SendActor.receive
        split
        · rw [workload_send_le]
          exact ignored
        · exact stopped _
        · exact ignored
    case disconnect =>
        unfold DisconnectActor.receive
        split
        · exact workload_disconnect_le _ s rfl
        · exact free (workload_packetSendStatus_le _ s rfl)
        · exact stopped _
        · exact ignored
    case publishStatus =>
        unfold PublishStatusActor.receive
        split
        · rename_i op future
          simp only [publishStatusHandle, workload_cons, work_post, workload_reply]
          cases future with
          | none => exact free (Nat.le_refl 5)
          | some future =>
              simp only [Option.elim_some, Body.work]
              omega
        · exact stopped _
        · exact ignored
    case subscribeStatus | unsubscribeStatus | connectStatus | pingStatus =>
        exact free (workload_unitStatusHandle_le _ _ b s _)
    case sendPublish =>
        unfold SendPublishActor.receive
        split
        · exact free (workload_sendPublish_le rfl _ s)
        · exact stopped _
        · exact ignored
    case recvPublish =>
        unfold RecvPublishActor.receive
        split
        · exact stopped _
        · exact free (workload_recvPublish_le rfl _ _)
        · exact ignored
    case puback =>
        unfold PubackActor.receive
        split
        · exact stopped _
        · exact workload_response_le (fun _ => rfl) rfl
        · exact ignored
    case pubcomp =>
        unfold PubcompActor.receive
        split
        · exact stopped _
        · exact workload_response_le (fun _ => rfl) rfl
        · exact ignored
    case suback =>
        unfold SubackActor.receive
        split
        · exact stopped _
        · exact workload_response_le (fun _ => rfl) rfl
        · exact ignored
    case unsuback =>
        unfold UnsubackActor.receive
        split
        · exact stopped _
        · exact workload_response_le (fun _ => rfl) rfl
        · exact ignored
    case pingresp =>
        unfold PingrespActor.receive
        split
        · exact stopped _
        · exact workload_response_le (fun _ => rfl) rfl
        · exact ignored
    case pubrec =>
        unfold PubrecActor.receive
        split
        · exact stopped _
        · rename_i id retryCount
          dsimp only [PubrecActor.handle]
          exact free (workload_implSendPacketActor_le PubrecActor.actor ⟨id, retryCount⟩
            (fun _ => rfl) (fun _ => rfl) (fun _ => rfl) rfl)
        · exact ignored
    case pubrel =>
        unfold PubrelActor.receive
        split
        · exact stopped _
        · rename_i id retryCount
          dsimp only [PubrelActor.handle]
          exact free (workload_implSendPacketActor_le PubrelActor.actor ⟨id, retryCount⟩
            (fun _ => rfl) (fun _ => rfl) (fun _ => rfl) rfl)
        · exact ignored
    case subscribe =>
        unfold SubscribeActor.receive
        split
        · exact free (Nat.le_refl 97)
        · exact free (workload_implSendPacketActor_le SubscribeActor.actor _ (fun _ => rfl)
            (fun _ => rfl) (fun _ => rfl) rfl)
        · exact stopped _
        · exact ignored
    case unsubscribe =>
        unfold UnsubscribeActor.receive
        split
        · exact free (Nat.le_refl 97)
        · exact free (workload_implSendPacketActor_le UnsubscribeActor.actor _ (fun _ => rfl)
            (fun _ => rfl) (fun _ => rfl) rfl)
        · exact stopped _
        · exact ignored
    case connect =>
        unfold ConnectActor.receive
        split
        · exact free (workload_connect_le _ rfl)
        · exact stopped _
        · exact ignored
    case connack =>
        unfold ConnackActor.receive
        split
        · exact stopped _
        · exact free (workload_connack_le _)
        · exact ignored
    case pingreq =>
        unfold PingreqActor.receive
        split
        · exact stopped _
        · exact free (workload_pingreq_le _)
        · rename_i lastRetryCount
          dsimp only [PingreqActor.handleSendPing]
          exact free (workload_implSendPacketActor_le PingreqActor.actor lastRetryCount
            (fun _ => rfl) (fun _ => rfl) (fun _ => rfl) rfl)
        · exact ignored
    case dispatch =>
        unfold DispatchActor.receive
        split
        · exact free (workload_dispatch_le _)
        · exact stopped _
        · exact ignored
    case recv =>
        unfold RecvActor.receive
        split
        · exact free (Nat.le_refl 2)
        · exact ignored
    case message | clientStop => exact ignored

theorem Future.question_work (future : Future) :
    future.question.2.work future.question.1 = 5 + future.work := by
  cases future with
  | statusCheck status self id check retryMsg => cases status <;> rfl
  | _ => rfl

theorem workload_resume_le (env : Env) (t : Task) (res : Actor → Option SendError) (s : State)
    (genuine : t.job.Genuine t.origin.cause) :
    workload (resume env t res s).2 + (resume env t res s).1.toStop + 1 ≤
      t.job.work + s.toStop + refusal res := by
  obtain ⟨o, job⟩ := t
  unfold resume
  cases job with
  | resend deadline dst req | timer deadline owner future =>
      simp only [workload_cons, work_post, work_spawn, workload_nil, Job.work]
      omega
  | notify notice =>
      have law := workload_handleBody_le env ⟨notice.owner, o, s.now, res⟩
        (.request notice.request) s
      rwa [work_request (by cases notice <;> simp [Notice.owner])
        (by cases notice <;> simp [Notice.owner])] at law
  | spawned future =>
      dsimp only
      split
      · simp only [workload_cons, work_spawn, workload_nil, Job.work]
        omega
      · rename_i full
        rw [refusal_full full]
        simp only [workload_cons, work_spawn, workload_nil, Job.work]
        omega
      · simp only [workload_cons, work_post, workload_nil, Job.work, future.question_work]
        omega
  | resumed future answer =>
      have law : workload (future.resume env ⟨future.self, o, s.now, res⟩ answer) + 1 ≤
          future.work + refusal res := workload_futureResume_le rfl genuine.1 genuine.2
      simp only [Job.work]
      omega

theorem workload_arrive_le {o : Origin} {res : Actor → Option SendError} {s s' : State} {es : Out}
    (arrived : arrive env o res s = some (s', es)) : workload es ≤ 140 := by
  unfold arrive at arrived
  cases cause : o.cause with
  | setup => simp [cause] at arrived
  | publish topic qos payload | subscribe msg | unsubscribe msg | connect msg | disconnect msg =>
      simp only [cause, Option.some.injEq, Prod.mk.injEq] at arrived
      obtain ⟨rfl, rfl⟩ := arrived
      exact Nat.le_of_ble_eq_true rfl
  | received packet message =>
      simp only [cause, Option.ite_none_left_eq_some, Option.some.injEq, Prod.mk.injEq] at arrived
      obtain ⟨_, rfl, rfl⟩ := arrived
      exact workload_trySend_le (fun e _ => Nat.zero_le 140) (Nat.le_refl 140)
  | parseError text =>
      simp only [cause, Option.ite_none_left_eq_some, Option.some.injEq, Prod.mk.injEq] at arrived
      obtain ⟨_, rfl, rfl⟩ := arrived
      have told : workload (trySend ⟨.recv, o, s.now, res⟩ .stop .stop (fun _ => []) []) ≤ 1 :=
        workload_trySend_le (fun _ _ => Nat.zero_le 1) (Nat.le_refl 1)
      simp only [RecvActor.parseFailed, RecvActor.stopped, workload_append, workload_sendError,
        workload_doSendStop, workload_cons, work_halt, workload_nil]
      omega
  | writeError text =>
      simp only [cause, Option.ite_none_left_eq_some, Option.some.injEq, Prod.mk.injEq] at arrived
      obtain ⟨_, rfl, rfl⟩ := arrived
      exact Nat.le_of_ble_eq_true rfl
  | tick =>
      simp only [cause, Option.ite_none_left_eq_some, Option.some.injEq, Prod.mk.injEq] at arrived
      obtain ⟨_, rfl, rfl⟩ := arrived
      exact Nat.le_of_ble_eq_true rfl

end Handlers

/-! ## Runs -/

section Runs

variable {env : Env} {seed : ℕ} {ls : List ClientMove} {w w' : ClientWorld} {mv : ClientMove}

/-- A call, a packet, an error or a tick. -/
def Label.arrives : Label Actor Msg Task Input → Bool
  | .give (.cause _) => true
  | _ => false

/-- A step of the client itself during which some mailbox is full. -/
def hindered (mv : ClientMove) : Bool := mv.label.internal && decide (∃ a, mv.full a)

def budget (mv : ClientMove) : ℕ :=
  (if Label.arrives mv.label then 140 else 0) + if hindered mv then 9 else 0

theorem effort_keeps (env : Env) : (effort.weight : Weight Actor Msg Task Event).Keeps (system env) := by
  rintro a ⟨o, b⟩
  simp only [system, orphan]
  split
  · exact Nat.le_add_left _ 5
  · exact Nat.le_add_left _ 5
  · exact Nat.le_add_left _ 5
  · exact Nat.zero_le _

/-- Every step pays for itself. -/
theorem effort_pays (known : genuine.Holds w) {s : State} {es : Out}
    (reacted : w.reaction (system env) (w.results mv.full) mv.label = some (s, es)) :
    effort.Pays w mv.label s es (budget mv) := by
  have refused (internal : mv.label.internal) : refusal (w.results mv.full) ≤ budget mv := by
    unfold refusal
    split
    · rename_i some
      obtain ⟨a, full⟩ := some
      have isFull : mv.full a := by
        simp only [World.results] at full
        split at full
        · split at full
          · assumption
          · cases full
        · cases full
      have hindered : hindered mv := by
        simp only [ActixMqtt.hindered, internal, Bool.true_and, decide_eq_true_eq]
        exact ⟨a, isFull⟩
      simp only [budget, hindered, if_true]
      omega
    · exact Nat.zero_le _
  have source := known.source reacted
  have changed := state_step reacted
  obtain ⟨label, full⟩ := mv
  cases label with
  | take a m =>
      have law := workload_handleBody_le env ⟨a, m.origin, w.state.now, w.results full⟩ m.body
        w.state
      rw [show handleBody env _ m.body w.state = (s, es) from (World.reaction_take.mp reacted).2.2]
        at law
      exact law.trans (Nat.add_le_add_left (refused rfl) _)
  | run t =>
      have law := workload_resume_le env t (w.results full) w.state source
      rw [show resume env t _ w.state = (s, es) from (World.reaction_run.mp reacted).2.2] at law
      exact law.trans (Nat.add_le_add_left (refused rfl) _)
  | give i =>
      have kept : s.toStop = w.state.toStop := by
        rcases changed with ⟨a, m, label, -⟩ | ⟨-, same⟩
        · cases label
        · rw [same]
          rfl
      have accepted : accept env i (w.results full) w.state = some (s, es) := reacted
      show workload es + s.toStop + 0 ≤ 0 + w.state.toStop + _
      cases i with
      | cause o =>
          simp only [accept, Option.ite_none_left_eq_some] at accepted
          have brought := workload_arrive_le accepted.2
          simp only [budget, Label.arrives, if_true]
          omega
      | messageClosed | nextIdElsewhere | advance duration =>
          simp only [accept, Option.some.injEq, Prod.mk.injEq] at accepted
          obtain ⟨-, rfl⟩ := accepted
          simp only [workload_cons, work_halt, workload_nil]
          omega

theorem left_init (env : Env) (seed : ℕ) : effort.left (init env seed) ≤ 168 := by
  have count : (stopRecipients env).length ≤ 19 := by
    unfold stopRecipients
    cases env.clientStop <;> exact Nat.le_of_ble_eq_true rfl
  have boxes (a : Actor) : (effort.weight : Weight Actor Msg Task Event).box a ((init env seed).mail a) =
      if a = .stop then 3 * (stopRecipients env).length else 0 := by
    by_cases stop : a = .stop
    · subst stop
      simp [init, Weight.box, effort, Effort.weight, Body.work, Function.comp_def, Nat.mul_comm]
    · simp [init, Weight.box, stop]
  have flow : (effort.weight : Weight Actor Msg Task Event).flow (init env seed) =
      3 * (stopRecipients env).length + 111 := by
    simp only [Weight.flow, boxes, Finset.sum_ite_eq', Finset.mem_univ, if_true]
    rfl
  have stock : effort.stock (init env seed).state = 0 := rfl
  rw [Effort.left, flow, stock]
  omega

theorem left_le_of_exec (run : Run env seed ls w) {moves : List ClientMove}
    (later : exec (clientStep env) w moves = some w') :
    effort.left w' + moves.countP (·.label.internal) ≤ effort.left w + (moves.map budget).sum :=
  Effort.run_le (effort_keeps env)
    (fun w _ _ (known : genuine.Holds w) taken => genuine_step known taken)
    (fun _ _ _ _ known reacted => effort_pays known reacted) (genuine_run run) later

theorem budget_sum (moves : List ClientMove) : (moves.map budget).sum =
    140 * moves.countP (Label.arrives ·.label) + 9 * moves.countP hindered := by
  induction moves with
  | nil => rfl
  | cons mv moves ih =>
      rw [List.map_cons, List.sum_cons, ih, List.countP_cons, List.countP_cons, budget]
      split <;> split <;> omega

/-- A client works only for what happens to it: it takes a bounded number of steps for each call,
    packet, error and tick and for each step at which a mailbox was full. -/
theorem activity_bounded (run : Run env seed ls w) :
    ls.countP (·.label.internal) ≤
      168 + 140 * ls.countP (Label.arrives ·.label) + 9 * ls.countP hindered := by
  have start : Run env seed [] (init env seed) := rfl
  have total := left_le_of_exec start run
  have initial := left_init env seed
  rw [budget_sum] at total
  omega

/-- One publish whose packet is refused once and not acknowledged in time keeps the client busy for
    ten steps. -/
theorem activity_bounded_secondAttempts : ∃ w,
    Run plainEnv 0 (schedule plainEnv (init plainEnv 0) secondAttempts) w ∧
      (schedule plainEnv (init plainEnv 0) secondAttempts).countP (·.label.internal) = 10 ∧
      (schedule plainEnv (init plainEnv 0) secondAttempts).countP (·.label.internal) ≤
        168 + 140 * (schedule plainEnv (init plainEnv 0) secondAttempts).countP
            (Label.arrives ·.label) +
          9 * (schedule plainEnv (init plainEnv 0) secondAttempts).countP hindered := by
  obtain ⟨w, run, busy⟩ : ∃ w,
      Run plainEnv 0 (schedule plainEnv (init plainEnv 0) secondAttempts) w ∧
        (schedule plainEnv (init plainEnv 0) secondAttempts).countP (·.label.internal) = 10 :=
    ⟨_, rfl, by decide⟩
  exact ⟨w, run, busy, activity_bounded run⟩

/-! ## Rest -/

/-- Nothing is in flight. -/
def AtRest (w : ClientWorld) : Prop := (∀ a, w.mail a = []) ∧ w.tasks = []

/-- A move of a client that is left alone: its own steps, with room in every mailbox, and time. -/
def alone (mv : ClientMove) : Bool :=
  match mv.label with
  | .take _ _ | .run _ => decide (∀ a, mv.full a = false)
  | .give (.advance _) => true
  | .give _ => false

theorem budget_alone (alone : alone mv) : budget mv = 0 := by
  obtain ⟨label, full⟩ := mv
  cases label with
  | take a m | run t =>
      have room : ∀ a, full a = false := by simpa [ActixMqtt.alone] using alone
      simp [budget, Label.arrives, hindered, room]
  | give i =>
      cases i with
      | advance duration => simp [budget, Label.arrives, hindered, Label.internal]
      | _ => cases alone

theorem take_alone (run : Run env seed ls w) {a : Actor} (waiting : w.mail a ≠ []) :
    ∃ mv w', clientStep env w mv = some w' ∧ alone mv ∧ mv.label.internal := by
  obtain ⟨m, rest, mail⟩ := List.exists_cons_of_ne_nil waiting
  have alive : w.live a := by
    by_contra dead
    exact waiting (closed_run run a (Bool.eq_false_of_not_eq_true dead))
  have reacted : w.reaction (system env) (w.results fun _ => false) (.take a m) =
      some (handle env a m (w.results fun _ => false) w.state) :=
    World.reaction_take.mpr ⟨alive, by rw [mail]; rfl, rfl⟩
  exact ⟨⟨.take a m, fun _ => false⟩, _, congrArg (Option.map _) reacted, by simp [alone], rfl⟩

theorem run_alone (env : Env) {t : Task} (member : t ∈ w.tasks) :
    ∃ moves w', exec (clientStep env) w moves = some w' ∧ (∀ mv ∈ moves, alone mv) ∧
      0 < moves.countP (·.label.internal) := by
  obtain ⟨mid, advanced, tasks, now⟩ : ∃ mid,
      clientStep env w ⟨.give (.advance (t.job.readyAt 0)), fun _ => false⟩ = some mid ∧
        mid.tasks = w.tasks ∧ mid.state.now = w.state.now + t.job.readyAt 0 :=
    ⟨_, rfl, rfl, rfl⟩
  have ready : ready t mid.state := by
    rw [ready_iff, now]
    cases t.job with
    | resend deadline dst req | timer deadline owner future => exact Nat.le_add_left _ _
    | _ => exact Nat.le_refl _
  have reacted : mid.reaction (system env) (mid.results fun _ => false) (.run t) =
      some (resume env t (mid.results fun _ => false) mid.state) :=
    World.reaction_run.mpr ⟨tasks ▸ member, ready, rfl⟩
  obtain ⟨w', taken⟩ : ∃ w', clientStep env mid ⟨.run t, fun _ => false⟩ = some w' :=
    ⟨_, congrArg (Option.map _) reacted⟩
  exact ⟨[⟨.give (.advance (t.job.readyAt 0)), fun _ => false⟩, ⟨.run t, fun _ => false⟩], w',
    exec_cons_eq_some.mpr ⟨mid, advanced, exec_cons_eq_some.mpr ⟨w', taken, rfl⟩⟩,
    by simp [alone], by simp [Label.internal]⟩

theorem left_le_alone (run : Run env seed ls w) {moves : List ClientMove}
    (later : exec (clientStep env) w moves = some w') (quiet : ∀ mv ∈ moves, alone mv) :
    effort.left w' + moves.countP (·.label.internal) ≤ effort.left w := by
  have free : (moves.map budget).sum = 0 := by
    refine List.sum_eq_zero fun n member => ?_
    obtain ⟨mv, used, rfl⟩ := List.mem_map.mp member
    exact budget_alone (quiet mv used)
  have paid := left_le_of_exec run later
  omega

theorem moves_on (run : Run env seed ls w) (busy : ¬ AtRest w) :
    ∃ moves w', exec (clientStep env) w moves = some w' ∧ (∀ mv ∈ moves, alone mv) ∧
      0 < moves.countP (·.label.internal) := by
  by_cases waiting : ∃ a, w.mail a ≠ []
  · obtain ⟨a, waiting⟩ := waiting
    obtain ⟨mv, w', taken, quiet, internal⟩ := take_alone run waiting
    exact ⟨[mv], w', exec_cons_eq_some.mpr ⟨w', taken, rfl⟩, by simpa using quiet,
      by simp [internal]⟩
  · have drained : ∀ a, w.mail a = [] := by simpa using waiting
    obtain ⟨t, member⟩ := List.exists_mem_of_ne_nil _ fun empty => busy ⟨drained, empty⟩
    exact run_alone env member

theorem Run.append (run : Run env seed ls w) {moves : List ClientMove}
    (later : exec (clientStep env) w moves = some w') : Run env seed (ls ++ moves) w' := by
  rw [Run] at run ⊢
  rw [exec_append, run]
  exact later

end Runs

end ActixMqtt
