import ActixMqtt.Inbound
import ActixMqtt.Streams

/-! # One delivery of a received PUBLISH

A PUBLISH of the broker has one chain of retries. A level 2 message is delivered only at its
first attempt, and the retry of a delivery that was refused is a first attempt again: the counter
stays at zero. Once PUBREC is queued, the counter of what is left of the chain is above zero.
-/

namespace ActixMqtt

open ActorSystem

/-- The messages that the user has accepted for an origin, newest first. -/
def acceptedFor (o : Origin) (log : ClientLog) : List PublishMessage :=
  log.filterMap fun
    | .emitted (.accepted o' _ message) => if o' = o then some message else none
    | _ => none

theorem mem_acceptedFor {o : Origin} {message : PublishMessage} {log : ClientLog} :
    message ∈ acceptedFor o log ↔ ∃ packet, .emitted (.accepted o packet message) ∈ log := by
  simp only [acceptedFor, List.mem_filterMap]
  constructor
  · rintro ⟨r, member, same⟩
    split at same
    · obtain ⟨rfl, rfl⟩ : _ = o ∧ _ = message := by simpa using same
      exact ⟨_, member⟩
    · cases same
  · rintro ⟨packet, member⟩
    exact ⟨_, member, by simp⟩

namespace ChainWeight

/-- The deliveries that a request may still lead to. -/
def deliveriesLeft : Request → Nat
  | .packet ⟨.publish packet, retryCount⟩ =>
      match packet.qos with
      | .level2 _ => if retryCount = 0 then 1 else 0
      | _ => 1
  | _ => 0

def futureDeliveries : Future → Nat
  | .statusCheck _ self _ _ retryMsg => sentTo deliveriesLeft self retryMsg
  | .recvLevel2 _ packet retryCount =>
      (if retryCount = 0 then 1 else 0) +
        deliveriesLeft (RecvPublishActor.request packet (retryCount + 1))
  | .checkStatusPhase2 _ msg => deliveriesLeft (RecvPublishActor.request msg.packet msg.retryCount)
  | _ => 0

/-- A level 2 message is delivered when no entry is found. -/
def answeredDeliveries (future : Future) (answer : Answer) : Nat :=
  match future with
  | .recvLevel2 _ packet retryCount =>
      if answer = .publishStatus none then futureDeliveries future
      else deliveriesLeft (RecvPublishActor.request packet (retryCount + 1))
  | _ => futureDeliveries future

/-- Counts deliveries: those made, and those a link may still lead to. -/
def delivering : ChainWeight where
  request _ := deliveriesLeft
  future _ := futureDeliveries
  answered _ := answeredDeliveries
  packet _ _ := 0
  delivery _ _ := 1

theorem deliveriesLeft_le (req : Request) : deliveriesLeft req ≤ 1 := by
  unfold deliveriesLeft
  split
  · split
    · split <;> simp
    · exact Nat.le_refl 1
  · exact Nat.zero_le 1

theorem deliveriesLeft_retry {packet : PublishPacket} {id retryCount : UInt16}
    (qos : packet.qos = .level2 id) (below : ¬ retryCount > maxRetryCount) :
    deliveriesLeft (RecvPublishActor.request packet (retryCount + 1)) = 0 := by
  have later : retryCount + 1 ≠ 0 := by
    intro zero
    have next := retry_succ below
    rw [zero] at next
    exact absurd next (Nat.succ_ne_zero _).symm
  simp [RecvPublishActor.request, deliveriesLeft, qos, later]

theorem answeredDeliveries_le (future : Future) (answer : Answer) :
    answeredDeliveries future answer ≤ futureDeliveries future := by
  cases future with
  | recvLevel2 id packet retryCount =>
      simp only [answeredDeliveries]
      split
      · exact Nat.le_refl _
      · exact Nat.le_add_left _ _
  | _ => exact Nat.le_refl _

theorem delivering_sound : delivering.Sound := by
  constructor
  case recv0 =>
      intro o packet retryCount qos
      simp [delivering, RecvPublishActor.request, deliveriesLeft, qos]
  case recv1 =>
      intro o packet id retryCount below qos
      simp [delivering, RecvPublishActor.request, deliveriesLeft, qos]
  case recv2 =>
      intro o id packet retryCount below qos
      show _ + _ ≤ _
      rw [deliveriesLeft_retry qos below, Nat.add_zero]
      simp [delivering, RecvPublishActor.request, deliveriesLeft, qos]
  case recvAcknowledged =>
      intro o id packet retryCount answer notError notNone
      have least : deliveriesLeft (RecvPublishActor.request packet (retryCount + 1)) ≤
          answeredDeliveries (.recvLevel2 id packet retryCount) answer := by
        simp only [answeredDeliveries]
        split
        · exact Nat.le_add_left _ _
        · exact Nat.le_refl _
      exact ⟨least, (Nat.zero_add _).trans_le least⟩
  case recvDelivered =>
      intro o id packet
      have most : delivering.answered o (.recvLevel2 id packet 0) (.publishStatus none) =
          1 + deliveriesLeft (RecvPublishActor.request packet 1) := by
        simp [delivering, answeredDeliveries, futureDeliveries]
      rw [most]
      have least := deliveriesLeft_le (RecvPublishActor.request packet 0)
      exact ⟨least.trans (Nat.le_add_right 1 _),
        deliveriesLeft (RecvPublishActor.request packet 1), Nat.le_refl _, Nat.le_refl _,
        (Nat.zero_add _).le⟩
  case recvTimeout =>
      intro o id packet retryCount
      exact Nat.le_refl _
  case phase2 =>
      intro o id msg answer pending
      exact Nat.le_refl _
  case unitAnswered | existence | closed =>
      intros
      exact answeredDeliveries_le _ _
  case checked =>
      intro o status self id check retry answer passes
      exact Nat.le_refl _
  case response =>
      rintro o packet retryCount (⟨id, rfl | rfl | rfl | rfl⟩ | rfl) <;> exact Nat.le_refl 0
  -- no other link leads to a delivery
  all_goals
    intros
    first
      | rfl
      | exact Nat.zero_le _
      | exact ⟨Nat.zero_le _, Nat.zero_le _⟩

theorem arrival_delivering_le (o : Origin) : delivering.arrival o ≤ 1 := by
  unfold arrival
  split
  case h_5 packet _ _ => exact deliveriesLeft_le _
  all_goals exact Nat.zero_le 1

theorem redelivery_delivering (o : Origin) (packet : PublishPacket) (retryCount : UInt16)
    (res : Actor → Option SendError) : delivering.redelivery o packet retryCount res = 0 := by
  unfold redelivery
  split
  · rename_i id qos
    simp [delivering, RecvPublishActor.request, deliveriesLeft, qos]
  · rfl

theorem past_delivering (o : Origin) (log : ClientLog) :
    (delivering.only o).toWeight.past log = (acceptedFor o log).length := by
  induction log with
  | nil => rfl
  | cons r log ih =>
      rw [show (delivering.only o).toWeight.past (r :: log) =
        (delivering.only o).toWeight.record r + (delivering.only o).toWeight.past log from rfl, ih]
      have other (silent : (delivering.only o).toWeight.record r = 0)
          (kept : acceptedFor o (r :: log) = acceptedFor o log) :
          (delivering.only o).toWeight.record r + (acceptedFor o log).length =
            (acceptedFor o (r :: log)).length := by
        rw [silent, kept, Nat.zero_add]
      cases r with
      | emitted e =>
          cases e with
          | accepted o' packet message =>
              by_cases same : o' = o
              · subst same
                simp [acceptedFor, Weight.record, toWeight, event, only, delivering, Nat.add_comm]
              · simp [acceptedFor, Weight.record, toWeight, event, only, same]
          | queued o' packet =>
              refine other ?_ rfl
              show (if o' = o then 0 else 0) = 0
              exact ite_self 0
          | _ => exact other rfl rfl
      | _ => exact other rfl rfl

theorem flow_of_successors {W : ChainWeight} {o : Origin} {w : ClientWorld}
    (silent : ∀ msg, W.request o (.disconnect msg) = 0) (ended : successors o w = 0) :
    (W.only o).toWeight.flow w = 0 := by
  have body (a : Actor) (b : Body) (ends : b.succeeds a = false) : W.body o a b = 0 := by
    cases b with
    | request req =>
        cases req with
        | disconnect msg => exact silent msg
        | packet msg =>
            obtain rfl : a = .send := by simpa [Body.succeeds] using ends
            rfl
        | _ => cases ends
    | subscribe | unsubscribe | connect | statusExistence => cases ends
    | publishStatus op reply | unitStatus op reply =>
        cases reply with
        | none => rfl
        | some future => cases ends
    | _ => rfl
  have boxes (a : Actor) : (W.only o).toWeight.box a (w.mail a) = 0 := by
    refine List.sum_eq_zero fun n member => ?_
    obtain ⟨m, there, rfl⟩ := List.mem_map.mp member
    show (W.only o).body m.origin a m.body = 0
    rw [body_only]
    split
    · rename_i same
      rw [same]
      refine body a m.body (Bool.eq_false_iff.mpr fun succeeds => ?_)
      have alive := successors_of_mail there succeeds
      rw [same] at alive
      omega
    · rfl
  have tasks : (w.tasks.map (W.only o).toWeight.task).sum = 0 := by
    refine List.sum_eq_zero fun n member => ?_
    obtain ⟨t, there, rfl⟩ := List.mem_map.mp member
    show (W.only o).job t.origin t.job = 0
    rw [job_only]
    split
    · rename_i same
      have ends : t.job.succeeds = false := by
        refine Bool.eq_false_iff.mpr fun succeeds => ?_
        have alive := successors_of_task there succeeds
        rw [same] at alive
        omega
      rw [same]
      generalize t.job = job at ends
      cases job with
      | resend deadline dst req => exact body dst _ ends
      | _ => cases ends
    · rfl
  simp only [Weight.flow, boxes, tasks, Finset.sum_const_zero]

end ChainWeight

section Step

variable {env : Env} {w w' : ClientWorld} {mv : ClientMove} {s : State} {es : Out} {o : Origin}

open ChainWeight

theorem delivering_calm (o : Origin) (w : ClientWorld) (given : ∀ i, mv.label ≠ .give i) :
    (delivering.only o).excess w mv = 0 :=
  excess_eq_zero (fun _ => answeredDeliveries_le) redelivery_delivering o given

/-- The deliveries of an origin and those that are still possible. -/
theorem delivering_le {seed : Nat} {ls : List ClientMove} (run : Run env seed ls w) (o : Origin) :
    (delivering.only o).total w ≤ 1 := by
  have total := total_le o delivering_sound (fun w mv _ _ _ given => delivering_calm o w given)
    (Along.of_forall (fun _ _ => True.intro) _ ls) run
  exact total.trans (arrival_delivering_le o)

theorem delivering_step
    (reacted : w.reaction (system env) (w.results mv.full) mv.label = some (s, es))
    (taken : clientStep env w mv = some w') (arrived : mv.label ≠ .give (.cause o)) :
    (delivering.only o).toWeight.flow w' + (delivering.only o).toWeight.events (emits es) ≤
      (delivering.only o).toWeight.flow w := by
  have sound := delivering_sound.only o
  have moved := (delivering.only o).toWeight.flow_fire_le (keeps sound) reacted taken
    (reaction_le sound reacted)
  have calm : (delivering.only o).excess w mv = 0 := by
    by_cases given : ∃ i, mv.label = .give i
    · obtain ⟨i, given⟩ := given
      rw [excess, given]
      cases i with
      | cause o' =>
          refine (arrival_only o o').trans (if_neg ?_)
          rintro rfl
          exact arrived given
      | _ => rfl
    · exact delivering_calm o w fun i same => given ⟨i, same⟩
  omega

theorem events_accepted (o : Origin) (packet : PublishPacket) (message : PublishMessage)
    (front back : List Event) :
    0 < (delivering.only o).toWeight.events (front ++ .accepted o packet message :: back) := by
  have one : (delivering.only o).toWeight.event (.accepted o packet message) = 1 := if_pos rfl
  simp only [Weight.events, List.map_append, List.sum_append, List.map_cons, List.sum_cons, one]
  omega

/-- PUBREC is queued after the delivery, or when none is possible any more. -/
theorem pubrec_delivers {id : UInt16} (holds : genuine.Holds w) (single : successors o w ≤ 1)
    (reacted : w.reaction (system env) (w.results mv.full) mv.label = some (s, es))
    (queued : .emit (.queued o (.pubrec id)) ∈ es) :
    (delivering.only o).toWeight.flow w = 0 ∨
      ∃ packet message rest, emits es = .accepted o packet message :: rest := by
  obtain ⟨retryCount, packet, answer, known, label⟩ := pubrec_step reacted queued
  obtain ⟨⟨-, qos, below⟩, -⟩ : o.cause.Awaits (.recvLevel2 id packet retryCount) ∧ _ := by
    have source := holds.source reacted
    rwa [label] at source
  by_cases first : retryCount = 0 ∧ answer = .publishStatus none
  · obtain ⟨rfl, rfl⟩ := first
    have resumed : RecvPublishActor.level2Answered
        ⟨.recvPublish, o, w.state.now, w.results mv.full⟩ id packet 0 (.publishStatus none) = es :=
      congrArg Prod.snd (World.reaction_run.mp (label ▸ reacted)).2.2
    rcases level2Answered_first ⟨.recvPublish, o, w.state.now, w.results mv.full⟩ id packet with
      ⟨rest, delivered⟩ | refused
    · exact .inr ⟨packet, _, emits rest, by rw [← resumed, delivered]; rfl⟩
    · rw [← resumed] at queued
      exact absurd rfl ((refused _ queued).2 o _)
  · refine .inl ?_
    have consumed := (delivering.only o).toWeight.flow_consume reacted
    have rest : (delivering.only o).toWeight.flow (w.consume s mv.label) = 0 :=
      flow_of_successors (fun _ => rfl)
        (successors_consume single reacted (by simp [label, carriesOn, Job.succeeds]))
    have cost : (delivering.only o).toWeight.cost mv.label = 0 := by
      rw [label]
      show (if o = o then answeredDeliveries (.recvLevel2 id packet retryCount) answer else 0) = 0
      rw [if_pos rfl, answeredDeliveries]
      split
      · rename_i unknown
        show (if retryCount = 0 then 1 else 0) + _ = 0
        rw [if_neg fun zero => first ⟨zero, unknown⟩, deliveriesLeft_retry qos below]
      · exact deliveriesLeft_retry qos below
    omega

/-- Where PUBREC is queued for an origin, the origin is delivered before or never. -/
structure DeliveredFirst (o : Origin) (w : ClientWorld) : Prop where
  known : ∀ packet, .emitted (.queued o packet) ∈ w.log → o.serial < w.state.serial
  settled : ∀ id, .emitted (.queued o (.pubrec id)) ∈ w.log →
    (delivering.only o).toWeight.flow w = 0
  first : ∀ later packet message earlier,
    w.log = later ++ .emitted (.accepted o packet message) :: earlier →
      ∀ id, .emitted (.queued o (.pubrec id)) ∉ earlier

theorem deliveredFirst_step {seed : Nat} {ls : List ClientMove} (run : Run env seed ls w)
    (held : DeliveredFirst o w) (taken : clientStep env w mv = some w') : DeliveredFirst o w' := by
  obtain ⟨s, es, reacted, -⟩ := World.fire_eq_some.mp taken
  have grown := serial_grows taken
  have most : (delivering.only o).toWeight.flow w ≤ 1 :=
    (Nat.le_add_right _ _).trans (delivering_le run o)
  have stems : (stemming fun o => o.serial < w'.state.serial).Holds w := by
    refine (routing_run run).stems.mono ?_ ?_ fun _ known => known
    · exact fun _ m known => Nat.lt_of_lt_of_le known grown.1
    · exact fun t known => Nat.lt_of_lt_of_le known grown.1
  have delivers {id : UInt16} (queued : .emit (.queued o (.pubrec id)) ∈ es) :=
    pubrec_delivers (genuine_run run) (successors_le run o) reacted queued
  refine ⟨fun packet member => ?_, fun id member => ?_, fun later packet message earlier split => ?_⟩
  · rcases (emitted_step reacted taken).mp member with queued | before
    · exact stemming_origin stems grown.2 reacted (origin_step reacted queued rfl)
    · exact Nat.lt_of_lt_of_le (held.known packet before) grown.1
  · rcases (emitted_step reacted taken).mp member with queued | before
    · obtain ⟨retryCount, packet, answer, -, label⟩ := pubrec_step reacted queued
      have moved := delivering_step (o := o) reacted taken (by simp [label])
      rcases delivers queued with zero | ⟨packet, message, rest, emitted⟩
      · omega
      · have one := events_accepted o packet message [] rest
        rw [List.nil_append, ← emitted] at one
        omega
    · have arrived : mv.label ≠ .give (.cause o) := fun label =>
        Nat.not_lt.mpr ((serial_step taken).1 o label).1 (held.known _ before)
      have moved := delivering_step reacted taken arrived
      have zero := held.settled id before
      omega
  · rcases World.fire_split_emitted reacted taken split with
      ⟨before, split⟩ | ⟨front, back, emitted, rfl⟩
    · exact held.first before packet message earlier split
    · have accepts : .emit (.accepted o packet message) ∈ es := mem_emits.mp (by simp [emitted])
      have moved := delivering_step (o := o) reacted taken fun label => by
        rw [label] at reacted
        cases reaction_causes reacted _ accepts with
        | arrive o' arrives => cases arrives
      have one := events_accepted o packet message front back
      rw [← emitted] at one
      intro id member
      simp only [List.mem_append, List.mem_map, List.mem_reverse, List.mem_cons] at member
      rcases member with ⟨e, here, same⟩ | same | before
      · cases same
        have queued : .emit (.queued o (.pubrec id)) ∈ es :=
          mem_emits.mp (by rw [emitted]; exact List.mem_append_left _ here)
        rcases delivers queued with zero | ⟨packet', message', rest, first⟩
        · omega
        · -- the delivery of the step comes before its PUBREC, so there would be a second one
          cases front with
          | nil => cases here
          | cons e front =>
              obtain ⟨rfl, rfl⟩ := List.cons.inj (emitted.symm.trans first)
              have twice := events_accepted o packet message front back
              have once := events_accepted o packet' message' [] []
              rw [emitted] at moved
              simp only [Weight.events, List.cons_append, List.nil_append, List.map_cons,
                List.sum_cons, List.map_nil, List.sum_nil] at moved once twice
              omega
      · obtain ⟨label, full⟩ := mv
        cases label <;> cases same
      · have zero := held.settled id before
        omega

theorem deliveredFirst_run {seed : Nat} {ls : List ClientMove} (run : Run env seed ls w)
    (o : Origin) : DeliveredFirst o w := by
  refine exec_induction (motive := fun _ w => DeliveredFirst o w) ?_
    (fun _ _ _ _ run held taken => deliveredFirst_step run held taken) run
  refine ⟨fun packet member => (nomatch member), fun id member => (nomatch member), ?_⟩
  intro later packet message earlier split
  cases later <;> cases split

end Step

/-- The user accepts at most one message for a PUBLISH that is received, with the topic, the
    payload and the identifier of the packet, and no PUBREC is queued for it before. -/
theorem delivered_once {env : Env} {seed : Nat} {ls : List ClientMove} {w : ClientWorld}
    (run : Run env seed ls w) {o : Origin} {packet : PublishPacket} {message : Nat}
    (cause : o.cause = .received (.publish packet) message) :
    (acceptedFor o w.log).length ≤ 1 ∧
    (∀ accepted ∈ acceptedFor o w.log, ∃ id, packet.qos.Tells id ∧
      accepted = ⟨id, packet.topicName, packet.payload⟩) ∧
    ∀ later made accepted earlier,
      w.log = later ++ .emitted (.accepted o made accepted) :: earlier →
        ∀ id, .emitted (.queued o (.pubrec id)) ∉ earlier := by
  refine ⟨?_, fun accepted member => ?_, (deliveredFirst_run run o).first⟩
  · have total := delivering_le run o
    rw [ChainWeight.total, ChainWeight.past_delivering] at total
    omega
  · obtain ⟨packet', logged⟩ := mem_acceptedFor.mp member
    obtain ⟨⟨n, cause'⟩, id, tells, same⟩ := (genuine_run run).log _ logged
    cases cause.symm.trans cause'
    exact ⟨id, tells, same⟩

/-- The user's mailbox is full at the first attempt, SendActor's at the second; the third finds the
    entry of the second. -/
def refusedDeliveries : List Turn :=
  [.give (.cause ⟨1, .received (.publish ⟨"topic", .level2 7, [1]⟩) 0⟩), .handle .dispatch,
    .handle .recvPublish, .task 0, .handle .publishStatus, .refusing [.message] (.task 0),
    .give (.advance resendDelay), .task 0, .handle .recvPublish, .task 0, .handle .publishStatus,
    .refusing [.send] (.task 0), .give (.advance resendDelay), .handle .publishStatus, .task 0,
    .handle .recvPublish, .task 0, .handle .publishStatus, .task 0]

theorem delivered_once_refusedDeliveries : ∃ w,
    Run plainEnv 0 (schedule plainEnv (init plainEnv 0) refusedDeliveries) w ∧
      acceptedFor ⟨1, .received (.publish ⟨"topic", .level2 7, [1]⟩) 0⟩ w.log =
        [⟨7, "topic", [1]⟩] ∧
      .emitted (.queued ⟨1, .received (.publish ⟨"topic", .level2 7, [1]⟩) 0⟩ (.pubrec 7)) ∈ w.log ∧
      (acceptedFor ⟨1, .received (.publish ⟨"topic", .level2 7, [1]⟩) 0⟩ w.log).length ≤ 1 := by
  obtain ⟨w, run, delivered, acknowledged⟩ : ∃ w,
      Run plainEnv 0 (schedule plainEnv (init plainEnv 0) refusedDeliveries) w ∧
        acceptedFor ⟨1, .received (.publish ⟨"topic", .level2 7, [1]⟩) 0⟩ w.log =
          [⟨7, "topic", [1]⟩] ∧
        .emitted (.queued ⟨1, .received (.publish ⟨"topic", .level2 7, [1]⟩) 0⟩ (.pubrec 7)) ∈
          w.log := ⟨_, rfl, by decide, by decide⟩
  exact ⟨w, run, delivered, acknowledged, (delivered_once run rfl).1⟩

end ActixMqtt
