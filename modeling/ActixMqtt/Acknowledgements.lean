import ActixMqtt.Chains
import ActixMqtt.Genuine
import ActixMqtt.Stopping

/-! # Acknowledgements

PUBACK and PUBCOMP answer a packet of the broker. The client owes at most one answer
for each packet it has received, as long as no timer of a finished exchange finds
the entry of a later one and no delivery is refused after its PUBACK was queued.
-/

namespace ActixMqtt

open ActorSystem

/-- The packet that answers a packet of the broker, for level 1 and for PUBREL. -/
def VariablePacket.acknowledgement : VariablePacket → Option VariablePacket
  | .publish ⟨_, .level1 id, _⟩ => some (.puback id)
  | .pubrel id => some (.pubcomp id)
  | _ => none

def queuedCount (packet : VariablePacket) (log : ClientLog) : Nat :=
  log.countP fun
    | .emitted (.queued _ queued) => queued = packet
    | _ => false

/-- The packets received that are answered by `answer`. -/
def askedCount (answer : VariablePacket) (log : ClientLog) : Nat :=
  log.countP fun
    | .gave (.cause ⟨_, .received packet _⟩) => packet.acknowledgement = some answer
    | _ => false

/-- A step whose message or answer does not lead to a second acknowledgement: no timer of
    PubrelActor finds a message waiting for PUBREL, and no level 1 message below the cap is refused
    by the user after its PUBACK was queued. -/
def answersOnce (w : ClientWorld) (mv : ClientMove) : Bool :=
  match mv.label with
  | .take .publishStatus ⟨_, .publishStatus (.getAndRemovePacketStatus id)
      (some (.statusCheck _ .pubrel _ _ (.packet msg)))⟩ =>
      msg.retryCount > maxRetryCount ||
        (w.state.publishStatus.lookup id).map (·.payload) ≠ some .pendingRel
  | .take .recvPublish ⟨_, .request (.packet ⟨.publish ⟨_, .level1 _, _⟩, retryCount⟩)⟩ =>
      retryCount ≥ maxRetryCount || w.results mv.full .send ≠ none ||
        w.results mv.full .message ≠ some .full
  | _ => true

namespace ChainWeight

section Owed

variable (answer : VariablePacket)

def owedRequest : Request → Nat
  | .packet msg =>
      if msg.packet.acknowledgement = some answer ∧ ¬ msg.retryCount > maxRetryCount then 1 else 0
  | _ => 0

def owedPublish (packet : PublishPacket) : Nat :=
  if (VariablePacket.publish packet).acknowledgement = some answer then 1 else 0

/-- Counts the packets `answer`: those queued, and those a link is going to queue. The timer of
    PubrelActor counts only when its check finds a message waiting for PUBREL. -/
def owed : ChainWeight where
  request _ := owedRequest answer
  future _ future := match future with
    | .statusCheck _ self _ .isSome retryMsg => sentTo (owedRequest answer) self retryMsg
    | .recvLevel2 _ packet _ => owedPublish answer packet
    | .checkStatusPhase2 _ msg => owedPublish answer msg.packet
    | _ => 0
  answered _ future reply := match future with
    | .statusCheck _ self _ check retryMsg =>
        if check.passes reply ∨ reply = .error .timeout then
          sentTo (owedRequest answer) self retryMsg
        else 0
    | .recvLevel2 _ packet _ => owedPublish answer packet
    | .checkStatusPhase2 _ msg => owedPublish answer msg.packet
    | _ => 0
  packet _ packet := match packet with
    | .puback _ | .pubcomp _ => if packet = answer then 1 else 0
    | _ => 0
  delivery _ _ := 0

theorem owedRequest_le (packet : PublishPacket) (retryCount : UInt16) :
    owedRequest answer (RecvPublishActor.request packet retryCount) ≤ owedPublish answer packet := by
  simp only [owedRequest, RecvPublishActor.request, owedPublish]
  split
  · rename_i owing
    rw [if_pos owing.1]
  · exact Nat.zero_le _

theorem owed_answered_le (o : Origin) (future : Future) (reply : Answer)
    (other : ∀ status, reply ≠ .publishStatus status) (early : reply ≠ .error .timeout) :
    (owed answer).answered o future reply ≤ (owed answer).future o future := by
  cases future with
  | statusCheck status self id check retryMsg =>
      simp only [owed, early, or_false]
      cases check with
      | isSome => split <;> simp
      | isPending phase =>
          have fails : (StatusCheck.isPending phase).passes reply = false := by
            cases reply with
            | publishStatus status => exact absurd rfl (other status)
            | _ => rfl
          simp [fails]
  | _ => exact Nat.le_refl _

theorem owed_sound : (owed answer).Sound := by
  constructor
  case recv1 =>
      rintro o ⟨topic, qos, payload⟩ id retryCount below rfl
      have here : (owed answer).request o
          (RecvPublishActor.request ⟨topic, .level1 id, payload⟩ retryCount) =
            if VariablePacket.puback id = answer then 1 else 0 := by
        simp [owed, owedRequest, RecvPublishActor.request, VariablePacket.acknowledgement, below]
      rw [here]
      refine ⟨(owedRequest_le answer _ _).trans ?_, Nat.le_refl _⟩
      simp [owedPublish, VariablePacket.acknowledgement]
  case recv2 =>
      rintro o id ⟨topic, qos, payload⟩ retryCount below rfl
      exact Nat.zero_le _
  case pubrel =>
      intro o id retryCount below
      have here : (owed answer).request o (.packet ⟨.pubrel id, retryCount⟩) =
          if VariablePacket.pubcomp id = answer then 1 else 0 := by
        simp [owed, owedRequest, VariablePacket.acknowledgement, below]
      rw [here]
      refine ⟨?_, Nat.le_refl _⟩
      simp only [owed, owedRequest, VariablePacket.acknowledgement, Option.some.injEq]
      split
      · rename_i owing
        rw [if_pos owing.1]
      · exact Nat.zero_le _
  case response =>
      rintro o packet retryCount (⟨id, rfl | rfl | rfl | rfl⟩ | rfl) <;> exact Nat.zero_le _
  case recvAcknowledged =>
      exact fun o id packet retryCount reply _ _ =>
        ⟨owedRequest_le answer packet _, Nat.le_of_eq (Nat.zero_add _)⟩
  case recvDelivered =>
      exact fun o id packet => ⟨owedRequest_le answer packet 0, owedPublish answer packet,
        Nat.le_of_eq (Nat.zero_add _), owedRequest_le answer packet _,
        Nat.le_of_eq (Nat.zero_add _)⟩
  case recvTimeout => exact fun o id packet retryCount => owedRequest_le answer packet _
  case phase2 => exact fun o id msg reply _ => owedRequest_le answer msg.packet _
  case unitAnswered =>
      exact fun o future status => owed_answered_le answer o future _ (by simp) (by simp)
  case existence =>
      exact fun o future found => owed_answered_le answer o future _ (by simp) (by simp)
  case closed => exact fun o future => owed_answered_le answer o future _ (by simp) (by simp)
  case checked =>
      intro o status self id check retryMsg reply passes
      simp only [owed, if_pos passes]
      exact Nat.le_refl _
  -- the other links are not answers of the broker's packets
  all_goals
    intros
    first
      | rfl
      | exact Nat.zero_le _
      | exact ⟨Nat.zero_le _, Nat.zero_le _⟩

theorem owed_redelivery (o : Origin) (packet : PublishPacket) (retryCount : UInt16)
    (res : Actor → Option SendError)
    (once : ∀ id, packet.qos = .level1 id →
      retryCount ≥ maxRetryCount ∨ res .send ≠ none ∨ res .message ≠ some .full) :
    (owed answer).redelivery o packet retryCount res = 0 := by
  obtain ⟨topic, qos, payload⟩ := packet
  cases qos with
  | level1 id =>
      simp only [redelivery]
      split
      · rename_i refused
        obtain ⟨sent, full, below⟩ := refused
        have cap : retryCount ≥ maxRetryCount := by
          rcases once id rfl with cap | sent' | full'
          · exact cap
          · exact absurd sent sent'
          · exact absurd full full'
        have above : retryCount + 1 > maxRetryCount := by
          rw [gt_iff_lt, UInt16.lt_iff_toNat_lt, retry_succ below]
          exact Nat.lt_succ_of_le (UInt16.le_iff_toNat_le.mp cap)
        simp [owed, owedRequest, RecvPublishActor.request, VariablePacket.acknowledgement, above,
          below]
      · rfl
  | level0 | level2 id => rfl

theorem owed_calm {env : Env} {w w' : ClientWorld} {mv : ClientMove} (holds : genuine.Holds w)
    (once : answersOnce w mv) (taken : clientStep env w mv = some w')
    (notGiven : ∀ i, mv.label ≠ .give i) : (owed answer).excess w mv = 0 := by
  obtain ⟨s, es, reacted, -⟩ := World.fire_eq_some.mp taken
  refine (owed answer).excess_rule (motive := (· = 0)) notGiven rfl (fun o op future label => ?_)
    fun o packet retryCount label => ?_
  · have source := holds.source reacted
    rw [label] at source
    obtain ⟨awaits, question⟩ : o.cause.Awaits future ∧ future.question = _ := source
    cases future with
    | statusCheck status self id check retryMsg =>
        obtain ⟨-, checkOf⟩ := awaits
        cases checkOf with
        | pubrec id retryCount =>
            simp [owed, sentTo, owedRequest, VariablePacket.acknowledgement]
        | pubrel id retryCount =>
            simp only [Future.question, Prod.mk.injEq, Body.publishStatus.injEq,
              true_and] at question
            obtain ⟨rfl, -⟩ := question
            simp only [answersOnce, label] at once
            by_cases above : retryCount > maxRetryCount
            · simp [owed, sentTo, owedRequest, above]
            · have fails : (StatusCheck.isPending .pendingRel).passes (.publishStatus
                  (PacketStatusActor.handle w.state.publishStatus
                    (.getAndRemovePacketStatus id)).2) = false := by
                simp only [PacketStatusActor.handle]
                cases found : w.state.publishStatus.lookup id with
                | none => split <;> simp [StatusCheck.passes]
                | some entry =>
                    simp only [above, found, decide_false, Bool.false_or, Option.map_some,
                      ne_eq, Option.some.injEq, decide_not, Bool.not_eq_eq_eq_not,
                      Bool.not_true, decide_eq_false_iff_not] at once
                    split <;> simp [StatusCheck.passes, once]
              simp [owed, fails]
        | publish id msg qos | subscribe id msg | unsubscribe id msg | sendPing r =>
            refine Nat.sub_eq_zero_of_le ?_
            simp only [owed]
            split <;> simp
    | recvLevel2 id packet retryCount | checkStatusPhase2 id msg => exact Nat.sub_self _
    | _ => rfl
  · refine owed_redelivery answer _ _ _ _ (fun id qos => ?_)
    obtain ⟨topic, qos', payload⟩ := packet
    cases qos
    simpa [answersOnce, label, or_assoc] using once

theorem queuedCount_le_past
    (acknowledges : (∃ id, answer = .puback id) ∨ ∃ id, answer = .pubcomp id)
    (log : ClientLog) :
    queuedCount answer log ≤ (owed answer).toWeight.past log := by
  rw [queuedCount, ← sum_indicator]
  refine List.sum_le_sum fun r _ => ?_
  cases r with
  | emitted e =>
      cases e with
      | queued o packet =>
          by_cases same : packet = answer
          · subst same
            obtain ⟨id, rfl⟩ | ⟨id, rfl⟩ := acknowledges <;>
              simp [Weight.record, toWeight, event, owed]
          · simp [same]
      | _ => exact Nat.zero_le _
  | _ => exact Nat.zero_le _

theorem arrived_le_askedCount (log : ClientLog) :
    (owed answer).arrived log ≤ askedCount answer log := by
  rw [askedCount, ← sum_indicator]
  refine List.sum_le_sum fun r _ => ?_
  split
  · rename_i o _
    obtain ⟨serial, cause⟩ := o
    cases cause with
    | received packet message =>
        simp only [arrival, owed, owedRequest]
        split
        · rename_i owing
          simp [owing.1]
        · exact Nat.zero_le _
    | _ => exact Nat.zero_le _
  · exact Nat.zero_le _

end Owed

end ChainWeight

/-- The client queues no PUBCOMP and no PUBACK beyond the PUBRELs and the level 1 PUBLISHs it has
    received, while no step leads to a second acknowledgement. -/
theorem acknowledgements_asked {env : Env} {seed : Nat} {ls : List ClientMove} {w : ClientWorld}
    (allowed : Along (clientStep env) (fun w mv => answersOnce w mv) (init env seed) ls)
    (run : Run env seed ls w) (id : UInt16) :
    queuedCount (.pubcomp id) w.log ≤ askedCount (.pubcomp id) w.log ∧
      queuedCount (.puback id) w.log ≤ askedCount (.puback id) w.log := by
  have bounded (answer : VariablePacket)
      (acknowledges : (∃ id, answer = .puback id) ∨ ∃ id, answer = .pubcomp id) :
      queuedCount answer w.log ≤ askedCount answer w.log := by
    have start : (ChainWeight.owed answer).total (init env seed) = 0 :=
      ChainWeight.total_init _ env seed
    have total := ChainWeight.total_le_arrived (ChainWeight.owed_sound answer) start
      (fun _ _ _ ok taken notGiven => ChainWeight.owed_calm answer ok.1 ok.2 taken notGiven)
      (allowed.with_invariant (fun _ _ _ holds taken => genuine_step holds taken)
        (genuine_init env seed)) run
    have queued := ChainWeight.queuedCount_le_past answer acknowledges w.log
    have asked := ChainWeight.arrived_le_askedCount answer w.log
    rw [ChainWeight.total] at total
    omega
  exact ⟨bounded _ (.inr ⟨id, rfl⟩), bounded _ (.inl ⟨id, rfl⟩)⟩

/-- A level 1 message that the user accepts at once. -/
def acceptedDelivery : List Turn :=
  [.give (.cause ⟨1, .received (.publish ⟨"topic", .level1 7, [1]⟩) 0⟩), .handle .dispatch,
    .handle .recvPublish]

theorem acknowledgements_asked_acceptedDelivery :
    ∃ w, Run plainEnv 0 (schedule plainEnv (init plainEnv 0) acceptedDelivery) w ∧
      queuedCount (.puback 7) w.log = 1 ∧
      queuedCount (.puback 7) w.log ≤ askedCount (.puback 7) w.log := by
  obtain ⟨w, run, one⟩ :
      ∃ w, Run plainEnv 0 (schedule plainEnv (init plainEnv 0) acceptedDelivery) w ∧
        queuedCount (.puback 7) w.log = 1 := ⟨_, rfl, by decide⟩
  exact ⟨w, run, one, (acknowledgements_asked (by decide +kernel) run 7).2⟩

/-- The user refuses a level 1 message whose PUBACK has been queued. -/
def refusedDelivery : List Turn :=
  [.give (.cause ⟨1, .received (.publish ⟨"topic", .level1 7, [1]⟩) 0⟩), .handle .dispatch,
    .refusing [.message] (.handle .recvPublish), .give (.advance resendDelay), .task 0, .handle .recvPublish]

/-- A level 2 message arrives under the identifier of a finished exchange before the timer of
    PubrelActor for that exchange. -/
def reusedIdentifier : List Turn :=
  [.give (.cause ⟨1, .received (.publish ⟨"topic", .level2 7, [1]⟩) 0⟩), .handle .dispatch,
    .handle .recvPublish, .task 0, .handle .publishStatus, .task 0, .handle .publishStatus,
    .give (.cause ⟨2, .received (.pubrel 7) 0⟩), .handle .dispatch, .handle .pubrel,
    .handle .publishStatus,
    .give (.cause ⟨3, .received (.publish ⟨"topic", .level2 7, [2]⟩) 1⟩), .handle .dispatch,
    .handle .recvPublish, .task 0, .handle .publishStatus, .task 0, .handle .publishStatus,
    .give (.advance commandTimeout), .task 1, .task 0, .handle .publishStatus, .task 0,
    .handle .pubrel]

/-- One PUBLISH is acknowledged twice, and one PUBREL is answered twice. -/
theorem acknowledged_twice :
    (∃ w, Run plainEnv 0 (schedule plainEnv (init plainEnv 0) refusedDelivery) w ∧
      queuedCount (.puback 7) w.log = 2 ∧ askedCount (.puback 7) w.log = 1) ∧
    ∃ w, Run plainEnv 0 (schedule plainEnv (init plainEnv 0) reusedIdentifier) w ∧
      queuedCount (.pubcomp 7) w.log = 2 ∧ askedCount (.pubcomp 7) w.log = 1 :=
  ⟨⟨_, rfl, by decide, by decide⟩, ⟨_, rfl, by decide, by decide⟩⟩

/-! ## Level 1 is delivered at least once -/

/-- A PUBACK has been queued for the packet of an origin. -/
def acknowledged (o : Origin) (log : ClientLog) : Bool :=
  log.any fun
    | .emitted (.queued o' (.puback _)) => o' = o
    | _ => false

/-- The user's recipient has accepted the message of a received PUBLISH. -/
def delivered (o : Origin) (packet : PublishPacket)
    (log : ClientLog) : Bool :=
  log.any fun
    | .emitted (.accepted o' packet' message) =>
        o' = o ∧ packet' = packet ∧ message.payload = packet.payload
    | _ => false

/-- A copy of a received PUBLISH on its way to RecvPublishActor, which will offer it again. -/
def retryInFlight (o : Origin) (packet : PublishPacket) (w : ClientWorld) : Prop :=
  ∃ retryCount, ¬ retryCount > maxRetryCount ∧
    ((∃ deadline, ⟨o, .resend deadline .recvPublish (RecvPublishActor.request packet retryCount)⟩ ∈
        w.tasks) ∨
      ⟨o, .request (RecvPublishActor.request packet retryCount)⟩ ∈ w.mail .recvPublish)

/-- The last attempt at a level 1 message does not lose it: once its PUBACK is queued, now or by an
    earlier attempt, neither the user nor SendActor refuses it. -/
def lastOffered (w : ClientWorld) (mv : ClientMove) : Bool :=
  match mv.label with
  | .take .recvPublish ⟨o, .request (.packet ⟨.publish ⟨_, .level1 _, _⟩, retryCount⟩)⟩ =>
      retryCount ≠ maxRetryCount ||
        match w.results mv.full .send with
        | none => w.results mv.full .message ≠ some .full
        | some .full => !acknowledged o w.log
        | some .closed => true
  | _ => true

section Level1

variable {env : Env} {w w' : ClientWorld} {mv : ClientMove} {o : Origin} {packet : PublishPacket}
  {id : UInt16}

theorem acknowledged_iff {log : ClientLog} :
    acknowledged o log ↔ ∃ id, .emitted (.queued o (.puback id)) ∈ log := by
  simp only [acknowledged, List.any_eq_true]
  constructor
  · rintro ⟨r, member, same⟩
    split at same
    · obtain rfl := of_decide_eq_true same
      exact ⟨_, member⟩
    · cases same
  · rintro ⟨id, member⟩
    exact ⟨_, member, decide_eq_true rfl⟩

theorem delivered_iff {log : ClientLog} :
    delivered o packet log ↔
      ∃ message, .emitted (.accepted o packet message) ∈ log ∧ message.payload = packet.payload := by
  simp only [delivered, List.any_eq_true]
  constructor
  · rintro ⟨r, member, same⟩
    split at same
    · obtain ⟨rfl, rfl, payload⟩ := of_decide_eq_true same
      exact ⟨_, member, payload⟩
    · cases same
  · rintro ⟨message, member, payload⟩
    exact ⟨_, member, decide_eq_true ⟨rfl, rfl, payload⟩⟩

theorem retryInFlight_of_resend {s : State} {es : Out} {retryCount : UInt16} (now : Nat)
    (reacted : w.reaction (system env) (w.results mv.full) mv.label = some (s, es))
    (taken : clientStep env w mv = some w') (below : ¬ retryCount > maxRetryCount)
    (notLast : retryCount ≠ maxRetryCount)
    (spawned : .spawn ⟨o, .resend (now + resendDelay) .recvPublish
      (RecvPublishActor.request packet (retryCount + 1))⟩ ∈ es) :
    retryInFlight o packet w' := by
  refine ⟨retryCount + 1, ?_, .inl ⟨_, World.mem_tasks_of_spawn_fire reacted taken ?_ spawned⟩⟩
  · have bound := retry_le.mp below
    have next := retry_succ below
    have distinct : retryCount.toNat ≠ 5 := fun same =>
      notLast (UInt16.toNat_inj.mp (same.trans rfl))
    rw [retry_le]
    omega
  · intro a owned
    cases owned

theorem level1_attempt {full : Actor → Bool} {retryCount : UInt16} (inv : StopsOnRequest w)
    (taken : clientStep env w
      ⟨.take .recvPublish ⟨o, .request (RecvPublishActor.request packet retryCount)⟩, full⟩ = some w')
    (offered : lastOffered w
      ⟨.take .recvPublish ⟨o, .request (RecvPublishActor.request packet retryCount)⟩, full⟩)
    (qos : packet.qos = .level1 id) (below : ¬ retryCount > maxRetryCount)
    (answered : ∃ id, .emitted (.queued o (.puback id)) ∈ w'.log) :
    stopRequested w' ∨ delivered o packet w'.log ∨ retryInFlight o packet w' := by
  obtain ⟨s, es, reacted, -⟩ := World.fire_eq_some.mp taken
  obtain ⟨-, -, handled⟩ := World.reaction_take.mp reacted
  obtain ⟨topic, qos', payload⟩ := packet
  obtain rfl : qos' = .level1 id := qos
  have effects : es = RecvPublishActor.level1 ⟨.recvPublish, o, w.state.now, w.results full⟩ id
      ⟨topic, .level1 id, payload⟩ retryCount := by
    have same := congrArg Prod.snd handled
    simp only [system, handle, handleBody, RecvPublishActor.receive, RecvPublishActor.request,
      RecvPublishActor.handle, if_neg below] at same
    exact same.symm
  simp only [lastOffered, RecvPublishActor.request] at offered
  simp only [RecvPublishActor.level1, trySendPacket, RecvPublishActor.deliver] at effects
  cases send : w.results full .send with
  | some e =>
      rw [send] at effects offered
      cases e with
      | closed =>
          refine .inl (stopRequested_of_post inv taken reacted (o := o) ?_)
          simp [effects, handleSendErrorWithResend, sendError, doSendStop]
      | full =>
          -- nothing was queued now, so the PUBACK is an earlier one
          have notLast : retryCount ≠ maxRetryCount := by
            obtain ⟨id', member⟩ := answered
            have before : acknowledged o w.log := by
              refine acknowledged_iff.mpr ⟨id', ?_⟩
              refine ((emitted_step reacted taken).mp member).resolve_left (fun now => ?_)
              simp [effects, handleSendErrorWithResend, sendError, resend] at now
            simpa [before] using offered
          refine .inr (.inr (retryInFlight_of_resend w.state.now reacted taken below notLast ?_))
          simp [effects, handleSendErrorWithResend, sendError, resend]
  | none =>
      rw [send] at effects offered
      cases message : w.results full .message with
      | none =>
          refine .inr (.inl (delivered_iff.mpr
            ⟨RecvPublishActor.publishMessage id ⟨topic, .level1 id, payload⟩,
              (emitted_step reacted taken).mpr (.inl ?_), rfl⟩))
          simp [effects, message]
      | some e =>
          rw [message] at effects offered
          cases e with
          | closed =>
              refine .inl (stopRequested_of_post inv taken reacted (o := o) ?_)
              simp [effects, handleSendErrorWithResend, sendError, doSendStop]
          | full =>
              have notLast : retryCount ≠ maxRetryCount := by simpa using offered
              refine .inr (.inr (retryInFlight_of_resend w.state.now reacted taken below
                notLast ?_))
              simp [effects, handleSendErrorWithResend, sendError, resend]

theorem puback_step {s : State} {es : Out} {message : Nat} (holds : genuine.Holds w)
    (reacted : w.reaction (system env) (w.results mv.full) mv.label = some (s, es))
    (cause : o.cause = .received (.publish packet) message)
    (queued : .emit (.queued o (.puback id)) ∈ es) :
    ∃ retryCount, ¬ retryCount > maxRetryCount ∧
      mv.label = .take .recvPublish ⟨o, .request (RecvPublishActor.request packet retryCount)⟩ := by
  have source := holds.source reacted
  obtain ⟨label, full⟩ := mv
  generalize shape : (Effect.emit (.queued o (.puback id)) : ClientEffect) = e at queued
  cases reaction_causes reacted e queued with
  | take a m produces =>
      obtain ⟨o', b⟩ := m
      cases produces with
      | queued sends =>
          cases shape
          obtain ⟨self, packet', retryCount, below, -, rfl⟩ := sends.puback_source
          obtain rfl : a = .recvPublish := self
          obtain sent | ⟨⟨message', cause'⟩, -⟩ := source
          · cases sent
          · obtain ⟨same, -⟩ := Cause.received.inj (cause.symm.trans cause')
            obtain rfl := VariablePacket.publish.inj same
            exact ⟨retryCount, below, rfl⟩
      | _ => cases shape
  | run t runs =>
      obtain ⟨o', job⟩ := t
      cases runs with
      | notify notice produces =>
          generalize Body.request notice.request = b at produces
          cases produces with
          | queued sends =>
              cases shape
              obtain ⟨self, -⟩ := sends.puback_source
              cases notice <;> cases self
          | _ => cases shape
      | resumed future answer continues => cases continues <;> cases shape
      | _ => cases shape
  | arrive o' arrives => cases arrives <;> cases shape
  | messageClosed => cases shape

/-- Every acknowledged level 1 message has been delivered or is offered again. -/
def Level1Backed (w : ClientWorld) : Prop :=
  ∀ o packet message id, o.cause = .received (.publish packet) message → packet.qos = .level1 id →
    (∃ id, .emitted (.queued o (.puback id)) ∈ w.log) →
      stopRequested w ∨ delivered o packet w.log ∨ retryInFlight o packet w

theorem level1Backed_step (holds : genuine.Holds w) (inv : StopsOnRequest w)
    (backed : Level1Backed w) (offered : lastOffered w mv)
    (taken : clientStep env w mv = some w') : Level1Backed w' := by
  intro o packet message id cause qos answered
  obtain ⟨s, es, reacted, -⟩ := World.fire_eq_some.mp taken
  obtain ⟨label, full⟩ := mv
  by_cases attempt : ∃ retryCount, ¬ retryCount > maxRetryCount ∧
      label = .take .recvPublish ⟨o, .request (RecvPublishActor.request packet retryCount)⟩
  · obtain ⟨retryCount, below, rfl⟩ := attempt
    exact level1_attempt inv taken offered qos below answered
  · have before : ∃ id, .emitted (.queued o (.puback id)) ∈ w.log := by
      obtain ⟨id', member⟩ := answered
      refine ⟨id', ((emitted_step reacted taken).mp member).resolve_left (fun now => ?_)⟩
      exact attempt (puback_step holds reacted cause now)
    rcases backed o packet message id cause qos before with stop | done | ⟨retryCount, below, place⟩
    · exact .inl (stopRequested_step inv taken stop)
    · obtain ⟨m, member, same⟩ := delivered_iff.mp done
      exact .inr (.inl (delivered_iff.mpr
        ⟨m, (emitted_step reacted taken).mpr (.inr member), same⟩))
    · -- the copy stays where it is, moves on, or its actor has stopped
      cases alive : w'.live .recvPublish with
      | false => exact .inl ((stopsOnRequest_step inv taken).stopped .recvPublish rfl alive)
      | true =>
          refine .inr (.inr ⟨retryCount, below, ?_⟩)
          rcases place with ⟨deadline, member⟩ | member
          · by_cases now : label =
                .run ⟨o, .resend deadline .recvPublish (RecvPublishActor.request packet retryCount)⟩
            · refine .inr (World.mem_mail_of_post reacted taken alive ?_)
              rw [now] at reacted
              obtain ⟨-, -, resumed⟩ := World.reaction_run.mp reacted
              rw [← (Prod.mk.inj resumed).2]
              exact List.mem_singleton.mpr rfl
            · exact .inl ⟨deadline, World.mem_tasks_fire taken (fun a owned => by cases owned) member
                now⟩
          · exact .inr (World.mem_mail_fire taken alive member
              (fun now => attempt ⟨retryCount, below, now⟩))

end Level1

/-- When the last attempts are not refused, every level 1 message whose PUBACK has been queued has
    been accepted by the user or is offered again, until the client is asked to stop. -/
theorem level1_at_least_once {env : Env} {seed : Nat} {ls : List ClientMove} {w : ClientWorld}
    (allowed : Along (clientStep env) (fun w mv => lastOffered w mv) (init env seed) ls)
    (run : Run env seed ls w) {o : Origin} {packet : PublishPacket} {message : Nat} {id : UInt16}
    (cause : o.cause = .received (.publish packet) message) (qos : packet.qos = .level1 id)
    (answered : .emitted (.queued o (.puback id)) ∈ w.log) (running : ¬ stopRequested w) :
    delivered o packet w.log ∨ retryInFlight o packet w := by
  have invariant : genuine.Holds w ∧ StopsOnRequest w ∧ Level1Backed w := by
    refine exec_invariant (fun w => genuine.Holds w ∧ StopsOnRequest w ∧ Level1Backed w) ?_
      ⟨genuine_init env seed, stopsOnRequest_init env seed, ?_⟩ allowed run
    · rintro w mv w' ⟨holds, inv, backed⟩ offered taken
      exact ⟨genuine_step holds taken, stopsOnRequest_step inv taken,
        level1Backed_step holds inv backed offered taken⟩
    · rintro o packet message id - - ⟨id', member⟩
      simp [init] at member
  exact (invariant.2.2 o packet message id cause qos ⟨id, answered⟩).resolve_left running

theorem level1_at_least_once_refused :
    ∃ w, Run plainEnv 0 (schedule plainEnv (init plainEnv 0) (refusedDelivery.take 3)) w ∧
      (delivered ⟨1, .received (.publish ⟨"topic", .level1 7, [1]⟩) 0⟩ ⟨"topic", .level1 7, [1]⟩ w.log ∨
        retryInFlight ⟨1, .received (.publish ⟨"topic", .level1 7, [1]⟩) 0⟩ ⟨"topic", .level1 7, [1]⟩
          w) := by
  obtain ⟨w, run, answered, running⟩ :
      ∃ w, Run plainEnv 0 (schedule plainEnv (init plainEnv 0) (refusedDelivery.take 3)) w ∧
        .emitted (.queued ⟨1, .received (.publish ⟨"topic", .level1 7, [1]⟩) 0⟩ (.puback 7)) ∈ w.log ∧
          ¬ stopRequested w := ⟨_, rfl, by decide, by decide⟩
  exact ⟨w, run, level1_at_least_once (by decide +kernel) run rfl rfl answered running⟩

/-- The user refuses a level 1 message until its attempts are used up. -/
def refusedThroughout : List Turn :=
  [.give (.cause ⟨1, .received (.publish ⟨"topic", .level1 7, [1]⟩) 0⟩), .handle .dispatch] ++
    (List.replicate 6
      [.refusing [.message] (.handle .recvPublish), .give (.advance resendDelay), .task 0]).flatten ++
    [.handle .recvPublish]

/-- The message is acknowledged, given up, and lost. -/
theorem level1_lost :
    ∃ w, Run plainEnv 0 (schedule plainEnv (init plainEnv 0) refusedThroughout) w ∧
      .emitted (.queued ⟨1, .received (.publish ⟨"topic", .level1 7, [1]⟩) 0⟩ (.puback 7)) ∈ w.log ∧
      ¬ stopRequested w ∧
      ¬ delivered ⟨1, .received (.publish ⟨"topic", .level1 7, [1]⟩) 0⟩ ⟨"topic", .level1 7, [1]⟩
        w.log ∧
      ¬ retryInFlight ⟨1, .received (.publish ⟨"topic", .level1 7, [1]⟩) 0⟩
        ⟨"topic", .level1 7, [1]⟩ w := by
  obtain ⟨w, run, answered, running, refused, idle, empty⟩ :
      ∃ w, Run plainEnv 0 (schedule plainEnv (init plainEnv 0) refusedThroughout) w ∧
        .emitted (.queued ⟨1, .received (.publish ⟨"topic", .level1 7, [1]⟩) 0⟩ (.puback 7)) ∈ w.log ∧
        ¬ stopRequested w ∧
        ¬ delivered ⟨1, .received (.publish ⟨"topic", .level1 7, [1]⟩) 0⟩ ⟨"topic", .level1 7, [1]⟩
          w.log ∧
        w.tasks = [⟨⟨0, .tick⟩, .notify (.pingreq 0)⟩] ∧ w.mail .recvPublish = [] :=
    ⟨_, rfl, by decide +kernel, by decide +kernel, by decide +kernel, by decide +kernel,
      by decide +kernel⟩
  refine ⟨w, run, answered, running, refused, ?_⟩
  rintro ⟨retryCount, -, ⟨deadline, member⟩ | member⟩
  · simp [idle] at member
  · simp [empty] at member

end ActixMqtt
