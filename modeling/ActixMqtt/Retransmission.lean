import ActixMqtt.Chains
import ActixMqtt.Genuine

/-! # Retransmission

How often a request is sent. Every request keeps a single chain of successors alive,
and the retry counter that the chain carries bounds the packets it queues. The same
bookkeeping shows when a level 2 message reaches the broker once: every further
attempt starts with a status check that finds the entry of the attempt before it.
-/

namespace ActixMqtt

open ActorSystem

/-! ## One chain for each request -/

/-- A message that carries a request on, at actor `a`. -/
def Body.succeeds (a : Actor) : Body → Bool
  | .request (.disconnect _) => false
  | .request (.packet _) => a ≠ .send
  | .request _ | .subscribe _ | .unsubscribe _ | .connect _ => true
  | .publishStatus _ (some _) | .unitStatus _ (some _) | .statusExistence _ _ => true
  | _ => false

def Job.succeeds : Job → Bool
  | .resend _ dst req => (Body.request req).succeeds dst
  | _ => true

/-- The mailbox messages, timers, futures and delayed resends of an origin that are alive. -/
def successors (o : Origin) (w : ClientWorld) : Nat :=
  ∑ a, (w.mail a).countP (fun m => m.origin = o ∧ m.body.succeeds a) +
    w.tasks.countP (fun t => t.origin = o ∧ t.job.succeeds)

/-- The packets queued for an origin, newest first. A waiting DISCONNECT is sent on the occasion
    of any status report and is nobody's. -/
def queuedFor (o : Origin) (log : ClientLog) : List VariablePacket :=
  log.filterMap fun
    | .emitted (.queued o' packet) =>
        if o' = o ∧ packet ≠ .disconnect then some packet else none
    | _ => none

/-- How many more attempts a retry counter allows. -/
def attemptsLeft (retryCount : UInt16) : Nat := maxRetryCount.toNat + 1 - retryCount.toNat

theorem attemptsLeft_succ {retryCount : UInt16} (below : ¬ retryCount > maxRetryCount) :
    attemptsLeft (retryCount + 1) + 1 = attemptsLeft retryCount := by
  have bound := retry_le.mp below
  have next := retry_succ below
  have max : maxRetryCount.toNat = 5 := rfl
  simp only [attemptsLeft, max, next]
  omega

namespace ChainWeight

/-- Counts links. -/
def alive : ChainWeight where
  request _ req := match req with
    | .disconnect _ => 0
    | _ => 1
  future _ _ := 1
  answered _ _ _ := 1
  packet _ _ := 0
  delivery _ _ := 0

def requestsLeft : Request → Nat
  | .publish msg => attemptsLeft msg.retryCount
  | .packet ⟨.pubrec _, retryCount⟩ | .packet ⟨.pubrel _, retryCount⟩ => attemptsLeft retryCount
  | .packet _ => 0
  | .batchSubscribe msg => attemptsLeft msg.retryCount
  | .batchUnsubscribe msg => attemptsLeft msg.retryCount
  | .pingreq _ => maxRetryCount.toNat + 1
  | .sendPing lastRetryCount => attemptsLeft lastRetryCount
  | .disconnect _ => 0

def futuresLeft : Future → Nat
  | .statusCheck _ self _ _ retryMsg => sentTo requestsLeft self retryMsg
  | .publishLevel2 _ msg => attemptsLeft msg.retryCount
  | .recvLevel2 _ _ _ | .checkStatusPhase2 _ _ | .connectAck => 0
  | .pingConnected _ | .pingPending _ => maxRetryCount.toNat + 1

/-- Counts packets: those queued, and for each link those its retry counter still allows. -/
def left : ChainWeight where
  request _ := requestsLeft
  future _ := futuresLeft
  answered _ future _ := futuresLeft future
  packet _ packet := match packet with
    | .publish _ | .pubrel _ | .pubcomp _ | .subscribe _ _ | .unsubscribe _ _ | .pingreq => 1
    | _ => 0
  delivery _ _ := 0

@[simp] theorem left_request (o : Origin) (req : Request) :
    left.request o req = requestsLeft req := rfl

@[simp] theorem left_future (o : Origin) (future : Future) :
    left.future o future = futuresLeft future := rfl

@[simp] theorem left_answered (o : Origin) (future : Future) (answer : Answer) :
    left.answered o future answer = futuresLeft future := rfl

@[simp] theorem left_delivery (o : Origin) (packet : PublishPacket) : left.delivery o packet = 0 :=
  rfl

theorem sentTo_alive_le (o : Origin) (a : Actor) (req : Request) :
    sentTo (alive.request o) a req ≤ 1 := by
  cases req with
  | packet msg => cases a <;> simp [sentTo, alive]
  | _ => simp [sentTo, alive]

theorem alive_sound : alive.Sound := by
  constructor <;> intros
  case checked => exact sentTo_alive_le _ _ _
  case recvDelivered =>
      exact ⟨Nat.le_refl 1, 1, Nat.le_refl 1, Nat.le_refl 1, Nat.le_refl 1⟩
  all_goals simp [alive, Attempt, RecvPublishActor.request]

theorem attempt_left {o : Origin} {packet : VariablePacket} {retry : Request} {check : Future}
    {retryCount : UInt16} (below : ¬ retryCount > maxRetryCount)
    (retried : requestsLeft retry = attemptsLeft (retryCount + 1))
    (checked : futuresLeft check = attemptsLeft (retryCount + 1))
    (counted : left.packet o packet ≤ 1) :
    left.Attempt o packet retry check (attemptsLeft retryCount) := by
  have used := attemptsLeft_succ below
  refine ⟨?_, ?_⟩
  · show requestsLeft retry ≤ _
    omega
  · show left.packet o packet + futuresLeft check ≤ _
    omega

theorem left_sound : left.Sound := by
  constructor
  case publish0 =>
      intro o msg below qos
      have used := attemptsLeft_succ below
      show 1 ≤ attemptsLeft msg.retryCount
      omega
  case publish1 | publish2 =>
      intro o id msg below qos
      exact attempt_left below rfl rfl (Nat.le_refl 1)
  case pubrec | pubrel =>
      intro o id retryCount below
      exact attempt_left below rfl rfl (Nat.le_refl 1)
  case subscribe =>
      intro o id subscriptions msg below
      exact attempt_left below rfl rfl (Nat.le_refl 1)
  case unsubscribe =>
      intro o id topics msg below
      exact attempt_left below rfl rfl (Nat.le_refl 1)
  case sendPing =>
      intro o lastRetryCount below
      exact attempt_left below rfl rfl (Nat.le_refl 1)
  case recvDelivered =>
      intro o id packet
      exact ⟨Nat.le_refl 0, 0, Nat.le_refl 0, Nat.le_refl 0, Nat.le_refl 0⟩
  case pingPending =>
      intro o lastRetryCount
      exact ⟨Nat.le_refl 6, Nat.le_refl 6⟩
  case response =>
      rintro o packet retryCount (⟨id, rfl | rfl | rfl | rfl⟩ | rfl) <;> exact Nat.le_refl 0
  case disconnectPacket | connectPacket =>
      intros
      rfl
  case recv1 =>
      intros
      exact ⟨Nat.le_refl 0, Nat.le_refl 0⟩
  case checked =>
      intros
      exact Nat.le_refl _
  case recvAcknowledged =>
      intros
      exact And.intro (Nat.le_refl 0) (Nat.le_refl 0)
  all_goals
    intros
    simp [RecvPublishActor.request, requestsLeft, futuresLeft]

theorem redelivery_eq_zero {W : ChainWeight} (puback : ∀ o id, W.packet o (.puback id) = 0)
    (again : ∀ o packet retryCount, W.request o (RecvPublishActor.request packet (retryCount + 1)) ≤
      W.request o (RecvPublishActor.request packet retryCount))
    (o : Origin) (packet : PublishPacket) (retryCount : UInt16) (res : Actor → Option SendError) :
    W.redelivery o packet retryCount res = 0 := by
  unfold redelivery
  split
  · split
    · rw [puback]
      have := again o packet retryCount
      omega
    · rfl
  · rfl

/-- A weight none of whose futures gains by its answer and that does not count PUBACKs has no
    excess after the arrival. -/
theorem excess_eq_zero {W : ChainWeight} {w : ClientWorld} {mv : ClientMove}
    (answered : ∀ o future answer, W.answered o future answer ≤ W.future o future)
    (redelivered : ∀ o packet retryCount res, W.redelivery o packet retryCount res = 0)
    (o : Origin) (taken : ∀ i, mv.label ≠ .give i) : (W.only o).excess w mv = 0 := by
  refine Nat.eq_zero_of_le_zero ((excess_only_le o w mv).trans_eq ?_)
  refine W.excess_rule (motive := (· = 0)) taken rfl (fun o' op future label => ?_)
    fun o' packet retryCount label => ?_
  · exact Nat.sub_eq_zero_of_le (answered _ _ _)
  · exact redelivered _ _ _ _

theorem alive_body (o : Origin) (a : Actor) (b : Body) :
    alive.body o a b = if b.succeeds a then 1 else 0 := by
  cases b with
  | request req =>
      cases req with
      | packet msg => cases a <;> rfl
      | _ => rfl
  | publishStatus op future | unitStatus op future => cases future <;> rfl
  | _ => rfl

theorem alive_job (o : Origin) (job : Job) : alive.job o job = if job.succeeds then 1 else 0 := by
  cases job with
  | resend deadline dst req => exact alive_body o dst (.request req)
  | notify notice => cases notice <;> rfl
  | _ => rfl

theorem flow_alive (o : Origin) (w : ClientWorld) :
    (alive.only o).toWeight.flow w = successors o w := by
  have link (p q : Prop) [Decidable p] [Decidable q] :
      (if p then (if q then 1 else 0) else 0) = if decide (p ∧ q) then 1 else 0 := by
    by_cases p <;> by_cases q <;> simp [*]
  have boxes (a : Actor) : (alive.only o).toWeight.box a (w.mail a) =
      (w.mail a).countP (fun m => m.origin = o ∧ m.body.succeeds a) := by
    rw [← sum_indicator, Weight.box]
    refine congrArg List.sum (List.map_congr_left fun m _ => ?_)
    show (alive.only o).body m.origin a m.body = _
    rw [body_only, alive_body, link]
  have tasks : (w.tasks.map (alive.only o).toWeight.task).sum =
      w.tasks.countP (fun t => t.origin = o ∧ t.job.succeeds) := by
    rw [← sum_indicator]
    refine congrArg List.sum (List.map_congr_left fun t _ => ?_)
    show (alive.only o).job t.origin t.job = _
    rw [job_only, alive_job, link]
  simp only [Weight.flow, successors, boxes, tasks]

end ChainWeight

/-- The causes whose packets are sent again. -/
def Cause.Retransmits : Cause → Prop
  | .publish _ _ _ | .subscribe _ | .unsubscribe _ | .tick => True
  | .received (.pubrec _) _ | .received (.pubrel _) _ => True
  | _ => False

namespace ChainWeight

theorem left_packet {o : Origin} {packet : VariablePacket} (retransmits : o.cause.Retransmits)
    (explained : o.cause.Explains packet) (counted : packet ≠ .disconnect) :
    left.packet o packet = 1 := by
  unfold Cause.Retransmits at retransmits
  cases packet with
  | puback id | pubrec id =>
      obtain ⟨packet, message, cause, -⟩ := explained
      simp [cause] at retransmits
  | connect packet =>
      obtain ⟨msg, cause⟩ := explained
      simp [cause] at retransmits
  | disconnect => exact absurd rfl counted
  | connack code | suback id | unsuback id | pingresp => cases explained
  | _ => rfl

theorem queuedFor_le_past {o : Origin} (retransmits : o.cause.Retransmits)
    {log : ClientLog}
    (explained : ∀ packet ∈ queuedFor o log, o.cause.Explains packet) :
    (queuedFor o log).length ≤ (left.only o).toWeight.past log := by
  induction log with
  | nil => exact Nat.le_refl 0
  | cons r log ih =>
      have older : (left.only o).toWeight.past log ≤ (left.only o).toWeight.past (r :: log) :=
        Nat.le_add_left _ _
      by_cases mine : ∃ packet, r = .emitted (.queued o packet) ∧ packet ≠ .disconnect
      · obtain ⟨packet, rfl, counted⟩ := mine
        have split : queuedFor o (.emitted (.queued o packet) :: log) =
            packet :: queuedFor o log := by
          simp [queuedFor, counted]
        rw [split] at explained ⊢
        have one := left_packet retransmits (explained packet (by simp)) counted
        have rest := ih (fun packet' member => explained packet' (List.mem_cons_of_mem _ member))
        have here : (left.only o).toWeight.record
            (.emitted (.queued o packet) : Record Actor Msg Task Input Event) = 1 := by
          simpa [Weight.record, toWeight, event, only] using one
        simp only [List.length_cons, Weight.past, List.map_cons, List.sum_cons, here] at rest ⊢
        omega
      · have same : queuedFor o (r :: log) = queuedFor o log := by
          unfold queuedFor
          refine List.filterMap_cons_none ?_
          cases r with
          | emitted e =>
              cases e with
              | queued o' packet =>
                  refine if_neg ?_
                  rintro ⟨rfl, counted⟩
                  exact mine ⟨packet, rfl, counted⟩
              | _ => rfl
          | _ => rfl
        rw [same] at explained ⊢
        exact (ih explained).trans older

theorem arrival_alive_le (o : Origin) : alive.arrival o ≤ 1 := by
  unfold arrival
  split <;> simp [alive]

theorem arrival_left_le (o : Origin) : left.arrival o ≤ maxRetryCount.toNat + 1 := by
  unfold arrival
  split
  case h_5 packet _ _ => cases packet <;> first | exact Nat.le_refl 6 | exact Nat.zero_le _
  case h_4 | h_7 => exact Nat.zero_le _
  all_goals exact Nat.le_refl 6

end ChainWeight

theorem mem_queuedFor {o : Origin} {packet : VariablePacket}
    {log : ClientLog} (member : packet ∈ queuedFor o log) :
    .emitted (.queued o packet) ∈ log := by
  obtain ⟨r, present, same⟩ := List.mem_filterMap.mp member
  cases r with
  | emitted e =>
      cases e with
      | queued o' packet' =>
          obtain ⟨⟨rfl, -⟩, rfl⟩ := by simpa using same
          exact present
      | _ => cases same
  | _ => cases same

theorem successors_le {env : Env} {seed : Nat} {ls : List ClientMove} {w : ClientWorld}
    (run : Run env seed ls w) (o : Origin) : successors o w ≤ 1 := by
  have single := ChainWeight.total_le o ChainWeight.alive_sound
    (fun _ _ _ _ _ given => ChainWeight.excess_eq_zero (fun _ _ _ => Nat.le_refl _)
      (ChainWeight.redelivery_eq_zero (fun _ _ => rfl) (fun _ _ _ => Nat.le_refl 1)) o given)
    (Along.of_forall (fun _ _ => True.intro) _ ls) run
  have once := ChainWeight.arrival_alive_le o
  rw [ChainWeight.total, ChainWeight.flow_alive] at single
  omega

/-- The packets of an origin and those that its retry counters still allow. -/
theorem left_le {env : Env} {seed : Nat} {ls : List ClientMove} {w : ClientWorld}
    (run : Run env seed ls w) (o : Origin) :
    (ChainWeight.left.only o).total w ≤ maxRetryCount.toNat + 1 := by
  have total := ChainWeight.total_le o ChainWeight.left_sound
    (fun _ _ _ _ _ given => ChainWeight.excess_eq_zero (fun _ _ _ => Nat.le_refl _)
      (ChainWeight.redelivery_eq_zero (fun _ _ => rfl) (fun _ _ _ => Nat.le_refl 0)) o given)
    (Along.of_forall (fun _ _ => True.intro) _ ls) run
  exact total.trans (ChainWeight.arrival_left_le o)

/-- One request causes at most `MAX_RETRY_COUNT + 1` packets, each of them the request's own, and
    never has more than one successor. -/
theorem bounded_retransmission {env : Env} {seed : Nat} {ls : List ClientMove} {w : ClientWorld}
    (run : Run env seed ls w) (o : Origin) (retransmits : o.cause.Retransmits) :
    (queuedFor o w.log).length ≤ maxRetryCount.toNat + 1 ∧
      (∀ packet ∈ queuedFor o w.log, o.cause.Explains packet) ∧ successors o w ≤ 1 := by
  have explained : ∀ packet ∈ queuedFor o w.log, o.cause.Explains packet := fun packet member =>
    (genuine_run run).log _ (mem_queuedFor member)
  have counted := ChainWeight.queuedFor_le_past retransmits explained
  have total := left_le run o
  rw [ChainWeight.total] at total
  exact ⟨by omega, explained, successors_le run o⟩

/-- A publish whose acknowledgement does not come within `COMMAND_TIMEOUT`. -/
def latePubrec : List Turn :=
  [.give (.cause ⟨1, .publish "topic" .level2 [1]⟩), .handle .sendPublish, .handle .publishStatus,
    .give (.advance commandTimeout), .task 0, .task 0, .handle .publishStatus, .task 0,
    .handle .sendPublish]

theorem bounded_retransmission_latePubrec :
    ∃ w, Run plainEnv 0 (schedule plainEnv (init plainEnv 0) latePubrec) w ∧
      (queuedFor ⟨1, .publish "topic" .level2 [1]⟩ w.log).length = 2 ∧
      (queuedFor ⟨1, .publish "topic" .level2 [1]⟩ w.log).length ≤ maxRetryCount.toNat + 1 ∧
      successors ⟨1, .publish "topic" .level2 [1]⟩ w ≤ 1 := by
  obtain ⟨w, run, twice⟩ :
      ∃ w, Run plainEnv 0 (schedule plainEnv (init plainEnv 0) latePubrec) w ∧
        (queuedFor ⟨1, .publish "topic" .level2 [1]⟩ w.log).length = 2 := ⟨_, rfl, by decide⟩
  have bounded := bounded_retransmission run ⟨1, .publish "topic" .level2 [1]⟩ True.intro
  exact ⟨w, run, twice, bounded.1, bounded.2.2⟩

/-! ## Level 2 reaches the receiver once -/

/-- The packets queued, oldest first. -/
def sent (log : ClientLog) : List (Origin × VariablePacket) :=
  (log.filterMap fun
    | .emitted (.queued o packet) => some (o, packet)
    | _ => none).reverse

theorem mem_sent {o : Origin} {packet : VariablePacket}
    {log : ClientLog} :
    (o, packet) ∈ sent log ↔ .emitted (.queued o packet) ∈ log := by
  simp only [sent, List.mem_reverse, List.mem_filterMap]
  constructor
  · rintro ⟨r, member, same⟩
    split at same
    · obtain ⟨rfl, rfl⟩ := by simpa using same
      exact member
    · cases same
  · intro member
    exact ⟨_, member, rfl⟩

/-- A receiver that follows the protocol: it stores the identifier of a level 2 PUBLISH, passes
    the payload on when the identifier was not stored, and forgets it on PUBREL. The result lists
    the requests whose payload it passes on. -/
def passedOn (stored : List UInt16) : List (Origin × VariablePacket) → List Origin
  | [] => []
  | (o, .publish ⟨_, .level2 id, _⟩) :: arriving =>
      if id ∈ stored then passedOn stored arriving else o :: passedOn (id :: stored) arriving
  | (_, .pubrel id) :: arriving => passedOn (stored.filter (· ≠ id)) arriving
  | _ :: arriving => passedOn stored arriving

def isLevel2Publish : VariablePacket → Bool
  | .publish ⟨_, .level2 _, _⟩ => true
  | _ => false

theorem count_passedOn_le (o : Origin) (stored : List UInt16)
    (arriving : List (Origin × VariablePacket)) :
    (passedOn stored arriving).count o ≤
      arriving.countP fun p => p.1 = o ∧ isLevel2Publish p.2 := by
  fun_induction passedOn stored arriving with
  | case1 => exact Nat.le_refl 0
  | case2 stored o' topic id payload arriving known ih =>
      rw [List.countP_cons]
      exact ih.trans (Nat.le_add_right _ _)
  | case3 stored o' topic id payload arriving new ih =>
      rw [List.countP_cons, List.count_cons]
      by_cases same : o' = o
      · simpa [same, isLevel2Publish] using ih
      · simpa [same, isLevel2Publish] using ih
  | case4 stored o' id arriving ih =>
      rw [List.countP_cons]
      exact ih.trans (Nat.le_add_right _ _)
  | case5 stored p arriving notPublish notPubrel ih =>
      rw [List.countP_cons]
      exact ih.trans (Nat.le_add_right _ _)

/-- No level 2 timer finds its message still waiting for PUBREC while attempts are left. -/
def pubrecInTime (w : ClientWorld) (mv : ClientMove) : Bool :=
  match mv.label with
  | .take .publishStatus
      ⟨_, .publishStatus (.getAndRemovePacketStatus id) (some (.publishLevel2 _ msg))⟩ =>
      msg.retryCount > maxRetryCount ||
        (w.state.publishStatus.lookup id).map (·.payload) ≠ some .pendingRec
  | _ => true

namespace ChainWeight

def onceRequest : Request → Nat
  | .publish msg => if msg.qos = .level2 ∧ ¬ msg.retryCount > maxRetryCount then 1 else 0
  | _ => 0

/-- Counts level 2 PUBLISHs: those queued, and those a link is going to queue. A timer counts
    only when its check finds the message still waiting. -/
def once : ChainWeight where
  request _ := onceRequest
  future _ future := match future with
    | .statusCheck _ self _ _ retryMsg => sentTo onceRequest self retryMsg
    | _ => 0
  answered _ future answer := match future, answer with
    | .statusCheck _ self _ _ retryMsg, _ => sentTo onceRequest self retryMsg
    | .publishLevel2 _ msg, .publishStatus (some status) =>
        if status.payload = .pendingRec then onceRequest (.publish msg) else 0
    | .publishLevel2 _ msg, .error .timeout => onceRequest (.publish msg)
    | _, _ => 0
  packet _ packet := if isLevel2Publish packet then 1 else 0
  delivery _ _ := 0

theorem once_sound : once.Sound := by
  have le_one (req : Request) : onceRequest req ≤ 1 := by
    unfold onceRequest
    split
    · split <;> omega
    · omega
  constructor
  case publish1 =>
      intro o id msg below qos
      simp [Attempt, once, onceRequest, sentTo, SendPublishActor.resendMsg, qos, isLevel2Publish]
  case publish2 =>
      intro o id msg below qos
      have here : once.request o (.publish msg) = 1 := if_pos ⟨qos, below⟩
      rw [here]
      exact ⟨le_one (.publish (SendPublishActor.resendMsg msg)), Nat.le_refl 1⟩
  case recvDelivered =>
      intro o id packet
      exact ⟨Nat.le_refl 0, 0, Nat.le_refl 0, Nat.le_refl 0, Nat.le_refl 0⟩
  case unitAnswered | existence =>
      intro o future answer
      cases future <;> exact Nat.le_refl _
  case closed =>
      intro o future
      cases future <;> exact Nat.le_refl _
  case checked => exact fun _ _ _ _ _ _ _ _ => Nat.le_refl _
  case publishTimeout => exact fun _ _ _ => Nat.le_refl _
  case publishChecked =>
      intro o id msg status pending
      simp [once, pending]
  -- the other links belong to no PUBLISH and weigh nothing
  all_goals
    intros
    first
      | rfl
      | exact Nat.zero_le _
      | exact ⟨Nat.zero_le _, Nat.zero_le _⟩

theorem once_calm {w : ClientWorld} {mv : ClientMove} (inTime : pubrecInTime w mv) (o : Origin)
    (notGiven : ∀ i, mv.label ≠ .give i) : (once.only o).excess w mv = 0 := by
  refine Nat.eq_zero_of_le_zero ((excess_only_le o w mv).trans_eq ?_)
  refine once.excess_rule (motive := (· = 0)) notGiven rfl (fun o' op future label => ?_)
    fun o' packet retryCount label => ?_
  · cases future with
    | publishLevel2 id msg =>
        cases op with
        | getAndRemovePacketStatus id' =>
            simp only [PacketStatusActor.handle]
            split
            · simp only [pubrecInTime, label] at inTime
              cases found : w.state.publishStatus.lookup id' with
              | none => rfl
              | some status =>
                  simp only [once, onceRequest]
                  by_cases above : msg.retryCount > maxRetryCount
                  · simp [above]
                  · simp only [above, found] at inTime
                    simp [show status.payload ≠ .pendingRec by simpa using inTime]
            · rfl
        | _ => rfl
    | statusCheck status self id check retryMsg => exact Nat.sub_self _
    | _ => rfl
  · exact redelivery_eq_zero (fun _ _ => rfl) (fun _ _ _ => Nat.le_refl 0) _ _ _ _

theorem countP_sent_le (o : Origin) (log : ClientLog) :
    (sent log).countP (fun p => p.1 = o ∧ isLevel2Publish p.2) ≤
      (once.only o).toWeight.past log := by
  rw [sent, List.countP_reverse]
  induction log with
  | nil => exact Nat.le_refl 0
  | cons r log ih =>
      rw [show (once.only o).toWeight.past (r :: log) =
        (once.only o).toWeight.record r + (once.only o).toWeight.past log from rfl]
      cases r with
      | emitted e =>
          cases e with
          | queued o' packet =>
              rw [List.filterMap_cons]
              dsimp only
              rw [List.countP_cons]
              dsimp only
              have here : (if decide (o' = o ∧ isLevel2Publish packet) then 1 else 0) =
                  (once.only o).toWeight.record
                    (.emitted (.queued o' packet) : Record Actor Msg Task Input Event) := by
                show _ = if o' = o then (if isLevel2Publish packet then 1 else 0) else 0
                by_cases o' = o <;> by_cases isLevel2Publish packet <;> simp [*]
              omega
          | _ => exact ih.trans (Nat.le_add_left _ _)
      | _ => exact ih.trans (Nat.le_add_left _ _)

end ChainWeight

private theorem eq_of_length_le_one {α : Type} {l : List α} (short : l.length ≤ 1) {x y : α}
    (left : x ∈ l) (right : y ∈ l) : x = y := by
  cases l with
  | nil => simp at left
  | cons z zs =>
      obtain rfl : zs = [] := List.eq_nil_of_length_eq_zero (by simpa using short)
      exact (List.mem_singleton.mp left).trans (List.mem_singleton.mp right).symm

/-- When no level 2 timer finds its message still waiting, a receiver that follows the protocol
    passes the payload of a level 2 request on at most once, whatever of the packets arrives, and
    all PUBLISHs of the request are the same packet. -/
theorem level2_passed_once {env : Env} {seed : Nat} {ls : List ClientMove} {w : ClientWorld}
    (allowed : Along (clientStep env) (fun w mv => pubrecInTime w mv) (init env seed) ls)
    (run : Run env seed ls w)
    {o : Origin} {topic : String} {payload : List UInt8}
    (request : o.cause = .publish topic .level2 payload) :
    (∀ stored arriving, arriving.Sublist (sent w.log) → (passedOn stored arriving).count o ≤ 1) ∧
      ∀ first second, (o, .publish first) ∈ sent w.log → (o, .publish second) ∈ sent w.log →
        first = second := by
  have brought : ChainWeight.once.arrival o = 1 := by
    rw [ChainWeight.arrival, request]
    rfl
  have total := ChainWeight.total_le o ChainWeight.once_sound
    (fun _ _ _ ok _ given => ChainWeight.once_calm ok o given) allowed run
  have counted := ChainWeight.countP_sent_le o w.log
  have once : (sent w.log).countP (fun p => p.1 = o ∧ isLevel2Publish p.2) ≤ 1 := by
    rw [ChainWeight.total] at total
    omega
  refine ⟨fun stored arriving sub => ?_, fun first second here there => ?_⟩
  · exact (count_passedOn_le o stored arriving).trans (sub.countP_le.trans once)
  · have level2 (packet : PublishPacket) (member : (o, .publish packet) ∈ sent w.log) :
        isLevel2Publish (.publish packet) := by
      have explained : o.cause.Explains (.publish packet) :=
        (genuine_run run).log _ (mem_sent.mp member)
      obtain ⟨qos, id, cause, same⟩ := explained
      obtain ⟨-, rfl, -⟩ := Cause.publish.inj (request.symm.trans cause)
      obtain ⟨topicName, qos, payload⟩ := packet
      cases same
      rfl
    rw [List.countP_eq_length_filter] at once
    have only : (o, VariablePacket.publish first) = (o, VariablePacket.publish second) :=
      eq_of_length_le_one once
        (List.mem_filter.mpr ⟨here, by simp [level2 first here]⟩)
        (List.mem_filter.mpr ⟨there, by simp [level2 second there]⟩)
    exact VariablePacket.publish.inj (Prod.mk.inj only).2

/-- A publish that is acknowledged at once. -/
def promptPubrec : List Turn :=
  [.give (.cause ⟨1, .publish "topic" .level2 [1]⟩), .handle .sendPublish, .handle .publishStatus,
    .give (.cause ⟨2, .received (.pubrec 1) 0⟩), .handle .dispatch, .handle .pubrec,
    .handle .publishStatus, .give (.advance commandTimeout), .task 1, .task 0,
    .handle .publishStatus]

theorem level2_passed_once_promptPubrec :
    ∃ w, Run plainEnv 0 (schedule plainEnv (init plainEnv 0) promptPubrec) w ∧
      sent w.log = [(⟨1, .publish "topic" .level2 [1]⟩, .publish ⟨"topic", .level2 1, [1]⟩),
        (⟨2, .received (.pubrec 1) 0⟩, .pubrel 1)] ∧
      (passedOn [] (sent w.log)).count ⟨1, .publish "topic" .level2 [1]⟩ ≤ 1 := by
  obtain ⟨w, run, queued⟩ :
      ∃ w, Run plainEnv 0 (schedule plainEnv (init plainEnv 0) promptPubrec) w ∧ sent w.log =
        [(⟨1, .publish "topic" .level2 [1]⟩, .publish ⟨"topic", .level2 1, [1]⟩),
          (⟨2, .received (.pubrec 1) 0⟩, .pubrel 1)] := ⟨_, rfl, by decide⟩
  have once := level2_passed_once (by decide +kernel) run
    (show (⟨1, .publish "topic" .level2 [1]⟩ : Origin).cause = .publish "topic" .level2 [1] from rfl)
  exact ⟨w, run, queued, once.1 [] _ (List.Sublist.refl _)⟩

/-- A PUBREC that is late makes the client send the message again under a new identifier, and the
    receiver passes it on a second time. -/
theorem level2_passed_twice :
    ∃ w, Run plainEnv 0 (schedule plainEnv (init plainEnv 0) latePubrec) w ∧
      sent w.log = [(⟨1, .publish "topic" .level2 [1]⟩, .publish ⟨"topic", .level2 1, [1]⟩),
        (⟨1, .publish "topic" .level2 [1]⟩, .publish ⟨"topic", .level2 2, [1]⟩)] ∧
      (passedOn [] (sent w.log)).count ⟨1, .publish "topic" .level2 [1]⟩ = 2 :=
  ⟨_, rfl, by decide, by decide⟩

end ActixMqtt
