import ActixMqtt.Pipeline
import ActixMqtt.Retransmission

/-! # How much is sent

No origin makes the client send more than `MAX_RETRY_COUNT + 1` packets, whatever is lost, refused
or repeated. So the traffic of a client is bounded by what it was given, and neither the broker nor
a full mailbox can multiply it. CONNECT and DISCONNECT are not counted here.
-/

namespace ActixMqtt

open ActorSystem

/-- How many packets an origin may cause. -/
def Cause.quota : Cause → ℕ
  | .publish _ .level0 _ => 1
  | .publish _ _ _ | .subscribe _ | .unsubscribe _ | .tick => maxRetryCount.toNat + 1
  | .received (.publish ⟨_, .level0, _⟩) _ => 0
  | .received (.publish _) _ | .received (.pubrec _) _ | .received (.pubrel _) _ =>
      maxRetryCount.toNat + 1
  | _ => 0

def VariablePacket.counted : VariablePacket → Bool
  | .connect _ | .disconnect => false
  | _ => true

/-- The packets queued so far. -/
def traffic (log : ClientLog) : ℕ :=
  log.countP fun
    | .emitted (.queued _ packet) => packet.counted
    | _ => false

def trafficOf (o : Origin) (log : ClientLog) : ℕ :=
  log.countP fun
    | .emitted (.queued o' packet) => o' = o && packet.counted
    | _ => false

namespace ChainWeight

def requestsQuota : Request → ℕ
  | .publish msg => if msg.qos = .level0 then 1 else attemptsLeft msg.retryCount
  | .packet ⟨.publish packet, retryCount⟩ =>
      if packet.qos = .level0 then 0 else attemptsLeft retryCount
  | req => requestsLeft req

def futuresQuota : Future → ℕ
  | .statusCheck _ self _ _ retryMsg => sentTo requestsQuota self retryMsg
  | .publishLevel2 _ msg => requestsQuota (.publish msg)
  -- a counter above the cap does not occur, and might wrap around
  | .recvLevel2 _ _ retryCount =>
      if retryCount > maxRetryCount then maxRetryCount.toNat + 2 else attemptsLeft retryCount
  | .checkStatusPhase2 _ msg => requestsQuota (RecvPublishActor.request msg.packet msg.retryCount)
  | .connectAck => 0
  | .pingConnected _ | .pingPending _ => maxRetryCount.toNat + 1

/-- Counts packets: those queued, and for each link those it still allows. -/
def allowance : ChainWeight where
  request _ := requestsQuota
  future _ := futuresQuota
  answered _ future _ := futuresQuota future
  packet _ packet := if packet.counted then 1 else 0
  delivery _ _ := 0

theorem attemptsLeft_le (retryCount : UInt16) : attemptsLeft retryCount ≤ 6 := by
  have max : maxRetryCount.toNat = 5 := rfl
  unfold attemptsLeft
  omega

theorem attempt_allowance {o : Origin} {packet : VariablePacket} {retry : Request} {check : Future}
    {retryCount : UInt16} {bound : ℕ} (below : ¬ retryCount > maxRetryCount)
    (allowed : bound = attemptsLeft retryCount)
    (retried : requestsQuota retry ≤ attemptsLeft (retryCount + 1))
    (checked : futuresQuota check ≤ attemptsLeft (retryCount + 1)) :
    allowance.Attempt o packet retry check bound := by
  have used := attemptsLeft_succ below
  have one : allowance.packet o packet ≤ 1 := by
    show (if packet.counted then 1 else 0) ≤ 1
    split <;> omega
  refine ⟨?_, ?_⟩
  · show requestsQuota retry ≤ _
    omega
  · show allowance.packet o packet + futuresQuota check ≤ _
    omega

theorem request_allowance (packet : PublishPacket) (retryCount : UInt16) :
    requestsQuota (RecvPublishActor.request packet retryCount) ≤ attemptsLeft retryCount := by
  show (if packet.qos = .level0 then 0 else attemptsLeft retryCount) ≤ _
  split <;> omega

theorem recvLevel2_allowance (id : UInt16) (packet : PublishPacket) {retryCount : UInt16}
    (below : ¬ retryCount > maxRetryCount) :
    futuresQuota (.recvLevel2 id packet retryCount) = attemptsLeft retryCount := if_neg below

theorem again_allowance (id : UInt16) (packet : PublishPacket) (retryCount : UInt16) :
    requestsQuota (RecvPublishActor.request packet (retryCount + 1)) ≤
      futuresQuota (.recvLevel2 id packet retryCount) := by
  refine (request_allowance packet _).trans ?_
  by_cases below : retryCount > maxRetryCount
  · rw [futuresQuota, if_pos below]
    exact (attemptsLeft_le _).trans (Nat.le_succ 6)
  · rw [recvLevel2_allowance id packet below]
    have used := attemptsLeft_succ below
    omega

theorem allowance_sound : allowance.Sound := by
  constructor
  case publish0 =>
      intro o msg below qos
      exact (if_pos qos).ge
  case publish1 | publish2 =>
      intro o id msg below qos
      have above : msg.qos ≠ .level0 := by simp [qos]
      have again : requestsQuota (.publish (SendPublishActor.resendMsg msg)) ≤
        attemptsLeft (msg.retryCount + 1) := (if_neg above).le
      exact attempt_allowance below (if_neg above) again again
  case recv1 =>
      intro o packet id retryCount below qos
      have used := attemptsLeft_succ below
      have above : packet.qos ≠ .level0 := by simp [qos]
      show (if packet.qos = .level0 then 0 else attemptsLeft (retryCount + 1)) ≤
          (if packet.qos = .level0 then 0 else attemptsLeft retryCount) ∧
        1 + 0 ≤ if packet.qos = .level0 then 0 else attemptsLeft retryCount
      rw [if_neg above, if_neg above]
      omega
  case recv2 =>
      intro o id packet retryCount below qos
      have above : packet.qos ≠ .level0 := by simp [qos]
      exact ((recvLevel2_allowance id packet below).trans (if_neg above).symm).le
  case pubrec | pubrel =>
      intro o id retryCount below
      exact attempt_allowance below rfl (Nat.le_refl _) (Nat.le_refl _)
  case subscribe =>
      intro o id subscriptions msg below
      exact attempt_allowance below rfl (Nat.le_refl _) (Nat.le_refl _)
  case unsubscribe =>
      intro o id topics msg below
      exact attempt_allowance below rfl (Nat.le_refl _) (Nat.le_refl _)
  case sendPing =>
      intro o lastRetryCount below
      exact attempt_allowance below rfl (Nat.le_refl _) (Nat.le_refl _)
  case response =>
      rintro o packet retryCount (⟨id, rfl | rfl | rfl | rfl⟩ | rfl) <;> exact Nat.le_refl 0
  case recvAcknowledged =>
      intro o id packet retryCount answer known fresh
      refine ⟨again_allowance id packet retryCount, ?_⟩
      have again := request_allowance packet (retryCount + 1)
      show 1 + requestsQuota (RecvPublishActor.request packet (retryCount + 1)) ≤
        futuresQuota (.recvLevel2 id packet retryCount)
      by_cases below : retryCount > maxRetryCount
      · have most := attemptsLeft_le (retryCount + 1)
        have max : maxRetryCount.toNat = 5 := rfl
        rw [futuresQuota, if_pos below, max]
        omega
      · have used := attemptsLeft_succ below
        rw [recvLevel2_allowance id packet below]
        omega
  case recvDelivered =>
      intro o id packet
      refine ⟨request_allowance packet 0, 6, Nat.le_refl 6, ?_⟩
      exact attempt_allowance (by decide) (show 6 = attemptsLeft 0 from rfl)
        (request_allowance packet 1) (request_allowance packet 1)
  case recvTimeout =>
      intro o id packet retryCount
      exact again_allowance id packet retryCount
  case pingPending =>
      intro o lastRetryCount
      exact ⟨Nat.le_refl 6, Nat.le_refl 6⟩
  case tick =>
      intro o lastRetryCount below
      exact Nat.le_refl 6
  all_goals
    intros
    first
      | rfl
      | exact Nat.le_refl _
      | exact Nat.zero_le _

/-- A delivery that is refused after its PUBACK was queued has used up an attempt. -/
theorem redelivery_allowance (o : Origin) (packet : PublishPacket) (retryCount : UInt16)
    (res : Actor → Option SendError) : allowance.redelivery o packet retryCount res = 0 := by
  unfold redelivery
  split
  · rename_i id qos
    split
    · rename_i refused
      have used := attemptsLeft_succ refused.2.2
      have above : packet.qos ≠ .level0 := by simp [qos]
      show 1 + (if packet.qos = .level0 then 0 else attemptsLeft (retryCount + 1)) -
        (if packet.qos = .level0 then 0 else attemptsLeft retryCount) = 0
      rw [if_neg above, if_neg above]
      omega
    · rfl
  · rfl

theorem arrival_allowance (o : Origin) : allowance.arrival o ≤ o.cause.quota := by
  obtain ⟨serial, cause⟩ := o
  cases cause with
  | publish topic qos payload => cases qos <;> exact Nat.le_refl _
  | received packet bytes =>
      cases packet with
      | publish packet =>
          obtain ⟨topic, qos, payload⟩ := packet
          cases qos <;> exact Nat.le_refl _
      | _ => exact Nat.le_refl _
  | _ => exact Nat.le_refl _

theorem arrived_allowance (log : ClientLog) :
    allowance.arrived log ≤ ((arrivals log).map fun o => o.cause.quota).sum := by
  rw [arrivals, List.map_reverse, List.sum_reverse]
  induction log with
  | nil => exact Nat.le_refl 0
  | cons r log ih =>
      rw [arrived, List.map_cons, List.sum_cons, ← arrived]
      cases r with
      | gave i =>
          cases i with
          | cause o => exact Nat.add_le_add (arrival_allowance o) ih
          | _ => exact (Nat.zero_add _).trans_le ih
      | _ => exact (Nat.zero_add _).trans_le ih

theorem past_allowance (log : ClientLog) : allowance.toWeight.past log = traffic log := by
  rw [traffic, ← sum_indicator]
  refine congrArg List.sum (List.map_congr_left fun r _ => ?_)
  cases r with
  | emitted e => cases e <;> rfl
  | _ => rfl

theorem past_allowance_only (o : Origin) (log : ClientLog) :
    (allowance.only o).toWeight.past log = trafficOf o log := by
  rw [trafficOf, ← sum_indicator]
  refine congrArg List.sum (List.map_congr_left fun r _ => ?_)
  cases r with
  | emitted e =>
      cases e with
      | queued o' packet =>
          show (if o' = o then (if packet.counted then 1 else 0) else 0) = _
          by_cases same : o' = o <;> simp [same]
      | accepted o' packet message =>
          show (if o' = o then 0 else 0) = _
          split <;> rfl
      | _ => rfl
  | _ => rfl

theorem calm_allowance {w : ClientWorld} {mv : ClientMove} (taken : ∀ i, mv.label ≠ .give i) :
    allowance.excess w mv = 0 :=
  allowance.excess_rule (motive := (· = 0)) taken rfl (fun _ _ _ _ => Nat.sub_self _)
    fun o packet retryCount _ => redelivery_allowance o packet retryCount _

end ChainWeight

/-- An origin causes no more packets than its quota, and the client no more than all origins
    together and the six of the tick that it starts with. -/
theorem traffic_bounded {env : Env} {seed : ℕ} {ls : List ClientMove} {w : ClientWorld}
    (run : Run env seed ls w) :
    (∀ o, trafficOf o w.log ≤ o.cause.quota) ∧
      traffic w.log ≤ maxRetryCount.toNat + 1 +
        ((arrivals w.log).map fun o => o.cause.quota).sum := by
  have always : Along (clientStep env) (fun _ _ => True) (init env seed) ls :=
    Along.of_forall (fun _ _ => True.intro) _ ls
  refine ⟨fun o => ?_, ?_⟩
  · have total := ChainWeight.total_le o ChainWeight.allowance_sound
      (fun _ _ _ _ _ given => ChainWeight.excess_eq_zero (fun _ _ _ => Nat.le_refl _)
        ChainWeight.redelivery_allowance o given) always run
    rw [ChainWeight.total, ChainWeight.past_allowance_only] at total
    exact (Nat.le_add_left _ _).trans (total.trans (ChainWeight.arrival_allowance o))
  · have total := ChainWeight.total_le_brought ChainWeight.allowance_sound
      (fun _ _ _ _ _ given => ChainWeight.calm_allowance given) always run
    rw [ChainWeight.total_init, ChainWeight.total, ChainWeight.past_allowance] at total
    exact (Nat.le_add_left _ _).trans (total.trans (Nat.add_le_add_left
      (ChainWeight.arrived_allowance _) _))

/-- A message that is sent twice, while the broker sends one whose delivery is refused. -/
def bothRetried : List Turn :=
  latePubrec ++
    [.give (.cause ⟨2, .received (.publish ⟨"other", .level1 7, [2]⟩) 1⟩), .handle .dispatch,
      .refusing [.message] (.handle .recvPublish)]

theorem traffic_bounded_bothRetried : ∃ w,
    Run plainEnv 0 (schedule plainEnv (init plainEnv 0) bothRetried) w ∧
      traffic w.log = 3 ∧
      trafficOf ⟨1, .publish "topic" .level2 [1]⟩ w.log = 2 ∧
      trafficOf ⟨1, .publish "topic" .level2 [1]⟩ w.log ≤
        (Cause.publish "topic" .level2 [1]).quota ∧
      traffic w.log ≤ maxRetryCount.toNat + 1 +
        ((arrivals w.log).map fun o => o.cause.quota).sum := by
  obtain ⟨w, run, all, own⟩ : ∃ w,
      Run plainEnv 0 (schedule plainEnv (init plainEnv 0) bothRetried) w ∧ traffic w.log = 3 ∧
        trafficOf ⟨1, .publish "topic" .level2 [1]⟩ w.log = 2 := ⟨_, rfl, by decide, by decide⟩
  obtain ⟨each, together⟩ := traffic_bounded run
  exact ⟨w, run, all, own, each _, together⟩

end ActixMqtt
