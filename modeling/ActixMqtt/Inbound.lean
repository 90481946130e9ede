import ActixMqtt.Retransmission

/-! # Level 2 messages of the broker

RecvPublishActor delivers a level 2 message when the shared publish status map has no
entry for its identifier, and takes any entry for the record that it was delivered.
`windows` follows the exchanges of one identifier through the history. As long as the
record is there whenever it is needed, each window sees one delivery; as long as no
other entry is taken for it, nothing is acknowledged that has not been delivered.
-/

namespace ActixMqtt

open ActorSystem

/-- One exchange of an identifier: it begins with the first PUBLISH of a message and is closed when
    PubrelActor handles the PUBREL of this message. -/
structure Window where
  message : Nat
  /-- How many messages under the identifier the user has accepted while it was open. -/
  accepted : Nat
  closed : Bool
  deriving DecidableEq, Repr

def Window.accept (n : Nat) (v : Window) : Window :=
  if v.closed then v else { v with accepted := v.accepted + n }

def Window.close (message : Nat) (v : Window) : Window :=
  if v.message = message then { v with closed := true } else v

/-- The windows of `id` in a history. -/
def windows (id : UInt16) : ClientLog → List Window
  | [] => []
  | .gave (.cause ⟨_, .received (.publish ⟨_, .level2 id', _⟩) message⟩) :: log =>
      if id' = id ∧ ∀ v ∈ windows id log, v.message ≠ message then
        ⟨message, 0, false⟩ :: windows id log
      else windows id log
  | .took .pubrel ⟨⟨_, .received (.pubrel id') message⟩, .request _⟩ :: log =>
      if id' = id then (windows id log).map (.close message) else windows id log
  | .emitted (.accepted _ ⟨_, .level2 id', _⟩ _) :: log =>
      if id' = id then (windows id log).map (.accept 1) else windows id log
  | _ :: log => windows id log

/-- A task that is about to deliver a message under `id`. -/
def Task.delivers (id : UInt16) (t : Task) : Bool :=
  match t.job with
  | .resumed (.recvLevel2 _ packet retryCount) (.publishStatus none) =>
      retryCount = 0 && packet.qos = .level2 id
  | _ => false

/-- When a copy of a message asks for the record of its identifier, the record is there, or no
    message has been delivered in an open window and none is about to be. -/
def recordKept (w : ClientWorld) (mv : ClientMove) : Bool :=
  match mv.label with
  | .take .publishStatus ⟨_, .publishStatus (.getAndRemovePacketStatus id)
      (some (.recvLevel2 _ _ retryCount))⟩ =>
      retryCount ≠ 0 || id ∈ w.state.publishStatus ||
        (w.tasks.all (!·.delivers id) && (windows id w.log).all fun v => v.closed || v.accepted = 0)
  | _ => true

namespace ChainWeight

/-- Counts the deliveries under `id`: those made, and those a task is about to make. -/
def deliverable (id : UInt16) : ChainWeight where
  request _ _ := 0
  future _ _ := 0
  answered o future answer := if Task.delivers id ⟨o, .resumed future answer⟩ then 1 else 0
  packet _ _ := 0
  delivery _ packet := if packet.qos = .level2 id then 1 else 0

variable {id : UInt16}

theorem deliverable_sound : (deliverable id).Sound := by
  constructor
  case recv0 =>
      intro o packet retryCount qos
      simp [deliverable, qos]
  case recv1 =>
      intro o packet id' retryCount below qos
      simp [deliverable, qos]
  case recvDelivered =>
      intro o id' packet
      refine ⟨Nat.zero_le _, 0, ?_, Nat.le_refl 0, Nat.le_refl 0⟩
      simp [deliverable, Task.delivers]
  case unitAnswered | existence =>
      intro o future answer
      cases future <;> exact Nat.le_refl 0
  case closed =>
      intro o future
      cases future <;> exact Nat.le_refl 0
  case checked =>
      intro o status self id' check retry answer passes
      cases retry with
      | packet msg => cases self <;> exact Nat.zero_le _
      | _ => exact Nat.zero_le _
  -- no other link is a delivery
  all_goals
    intros
    first
      | rfl
      | exact Nat.zero_le _
      | exact ⟨Nat.zero_le _, Nat.zero_le _⟩

theorem flow_deliverable (w : ClientWorld) :
    (deliverable id).toWeight.flow w = w.tasks.countP (·.delivers id) := by
  have mail (a : Actor) (m : Msg) : (deliverable id).toWeight.mail a m = 0 := by
    obtain ⟨o, b⟩ := m
    cases b with
    | request req =>
        cases req with
        | packet msg => cases a <;> rfl
        | _ => rfl
    | publishStatus op future | unitStatus op future => cases future <;> rfl
    | _ => rfl
  have task (t : Task) : (deliverable id).toWeight.task t = if t.delivers id then 1 else 0 := by
    obtain ⟨o, job⟩ := t
    cases job with
    | resend deadline dst req => exact mail dst ⟨o, .request req⟩
    | _ => rfl
  have boxes (a : Actor) (ms : List Msg) : (deliverable id).toWeight.box a ms = 0 := by
    rw [Weight.box, funext (mail a)]
    simp
  simp only [Weight.flow, boxes, Finset.sum_const_zero, Nat.zero_add, funext task]
  exact sum_indicator _ _

theorem deliverable_excess (id : UInt16) {env : Env} {w w' : ClientWorld} {mv : ClientMove}
    (holds : genuine.Holds w) (kept : recordKept w mv) (taken : clientStep env w mv = some w') :
    (deliverable id).excess w mv = 0 ∨
      (deliverable id).excess w mv ≤ 1 ∧ w.tasks.countP (·.delivers id) = 0 ∧
        ∀ v ∈ windows id w.log, v.closed ∨ v.accepted = 0 := by
  obtain ⟨s, es, reacted, -⟩ := World.fire_eq_some.mp taken
  by_cases given : ∃ i, mv.label = .give i
  · obtain ⟨i, label⟩ := given
    refine .inl ?_
    rw [excess, label]
    cases i with
    | cause o =>
        show (deliverable id).arrival o = 0
        unfold arrival
        split <;> rfl
    | _ => rfl
  · refine (deliverable id).excess_rule
      (motive := fun n => n = 0 ∨ n ≤ 1 ∧ w.tasks.countP (·.delivers id) = 0 ∧
        ∀ v ∈ windows id w.log, v.closed ∨ v.accepted = 0)
      (fun i label => given ⟨i, label⟩) (.inl rfl) (fun o op future label => ?_)
      fun o packet retryCount label => ?_
    · have source := holds.source reacted
      rw [label] at source
      obtain ⟨awaits, question⟩ : o.cause.Awaits future ∧ future.question = _ := source
      cases future with
      | recvLevel2 id' packet retryCount =>
          simp only [Future.question, Prod.mk.injEq, Body.publishStatus.injEq, true_and]
            at question
          obtain ⟨rfl, -⟩ := question
          rw [PacketStatusActor.handle_getAndRemove]
          cases found : w.state.publishStatus.lookup id' with
          | some status => exact .inl rfl
          | none =>
              by_cases fresh : retryCount = 0 ∧ packet.qos = .level2 id
              · obtain ⟨rfl, qos⟩ := fresh
                obtain rfl : id' = id :=
                  QoSWithPacketIdentifier.level2.inj (awaits.2.1.symm.trans qos)
                refine .inr ⟨?_, ?_⟩
                · simp only [deliverable]
                  split <;> omega
                · simpa [recordKept, label, AList.lookup_eq_none.mp found, List.countP_eq_zero]
                    using kept
              · refine .inl (if_neg ?_)
                simpa [Task.delivers] using fresh
      | _ => exact .inl rfl
    · exact .inl (redelivery_eq_zero (fun _ _ => rfl) (fun _ _ _ => Nat.le_refl 0) _ _ _ _)

end ChainWeight

/-! ## The windows of a step -/

section Windows

variable {id : UInt16}

theorem Window.map_accept_zero (vs : List Window) : vs.map (Window.accept 0) = vs := by
  have same (v : Window) : Window.accept 0 v = v := by
    unfold Window.accept
    split <;> rfl
  simp [funext same]

theorem Window.accept_accept (m n : Nat) (v : Window) :
    Window.accept n (Window.accept m v) = Window.accept (m + n) v := by
  unfold Window.accept
  split
  · rfl
  · rename_i opened
    simp [opened, Nat.add_assoc]

theorem windows_emitted_cons (e : Event) (log : ClientLog) :
    windows id (.emitted e :: log) =
      (windows id log).map (.accept ((ChainWeight.deliverable id).event e)) := by
  cases e with
  | accepted o packet message =>
      obtain ⟨topic, qos, payload⟩ := packet
      cases qos with
      | level2 id' =>
          by_cases same : id' = id
          · simp [windows, ChainWeight.event, ChainWeight.deliverable, same]
          · simp [windows, ChainWeight.event, ChainWeight.deliverable, same,
              Window.map_accept_zero]
      | level0 | level1 => exact (Window.map_accept_zero _).symm
  | _ => exact (Window.map_accept_zero _).symm

theorem windows_emitted (es : List Event) (log : ClientLog) :
    windows id (es.reverse.map .emitted ++ log) =
      (windows id log).map (.accept ((ChainWeight.deliverable id).toWeight.events es)) := by
  induction es using List.reverseRecOn with
  | nil => exact (Window.map_accept_zero _).symm
  | append_singleton es e ih =>
      rw [List.reverse_append, List.reverse_singleton, List.singleton_append, List.map_cons,
        List.cons_append, windows_emitted_cons, ih, List.map_map]
      refine List.map_congr_left fun v _ => ?_
      rw [Function.comp_apply, Window.accept_accept]
      simp [Weight.events, ChainWeight.toWeight]

theorem windows_record {l : Label Actor Msg Task Input} {log : ClientLog} {v : Window}
    (member : v ∈ windows id (l.record :: log)) :
    v.accepted = 0 ∨ ∃ before ∈ windows id log, before.accepted = v.accepted ∧
      (before.closed → v.closed) := by
  generalize same : (l.record : Record Actor Msg Task Input Event) = r at member
  unfold windows at member
  split at member
  · contradiction
  · rename_i cons
    obtain ⟨rfl, rfl⟩ := List.cons.inj cons
    split at member
    · rcases List.mem_cons.mp member with rfl | before
      · exact .inl rfl
      · exact .inr ⟨v, before, rfl, fun closed => closed⟩
    · exact .inr ⟨v, member, rfl, fun closed => closed⟩
  · rename_i cons
    obtain ⟨rfl, rfl⟩ := List.cons.inj cons
    split at member
    · obtain ⟨before, known, rfl⟩ := List.mem_map.mp member
      refine .inr ⟨before, known, ?_⟩
      unfold Window.close
      split <;> simp
    · exact .inr ⟨v, member, rfl, fun closed => closed⟩
  · rename_i cons
    obtain ⟨rfl, rfl⟩ := List.cons.inj cons
    cases l <;> cases same
  · rename_i cons
    obtain ⟨rfl, rfl⟩ := List.cons.inj cons
    exact .inr ⟨v, member, rfl, fun closed => closed⟩

end Windows

/-- In each window at most one message has been accepted, counting a delivery that is about to be
    made. -/
def DeliveredOnce (id : UInt16) (w : ClientWorld) : Prop :=
  w.tasks.countP (·.delivers id) ≤ 1 ∧ ∀ v ∈ windows id w.log,
    v.accepted ≤ 1 ∧ (v.closed ∨ v.accepted + w.tasks.countP (·.delivers id) ≤ 1)

theorem deliveredOnce_step {env : Env} {w w' : ClientWorld} {mv : ClientMove} {id : UInt16}
    (holds : genuine.Holds w) (once : DeliveredOnce id w) (kept : recordKept w mv)
    (taken : clientStep env w mv = some w') : DeliveredOnce id w' := by
  obtain ⟨s, es, reacted, -⟩ := World.fire_eq_some.mp taken
  have moved := (ChainWeight.deliverable id).toWeight.flow_fire_le
    (ChainWeight.keeps ChainWeight.deliverable_sound) reacted taken
    (ChainWeight.reaction_le ChainWeight.deliverable_sound reacted)
  rw [ChainWeight.flow_deliverable, ChainWeight.flow_deliverable] at moved
  obtain ⟨single, counted⟩ := once
  have bound : w'.tasks.countP (·.delivers id) +
      (ChainWeight.deliverable id).toWeight.events (emits es) ≤ 1 := by
    rcases ChainWeight.deliverable_excess id holds kept taken with none | ⟨one, idle, -⟩ <;>
      omega
  refine ⟨by omega, fun v member => ?_⟩
  rw [World.fire_log reacted taken, windows_emitted] at member
  obtain ⟨mid, known, rfl⟩ := List.mem_map.mp member
  have grown : (mid.closed → mid.accepted ≤ 1) ∧ (mid.closed = false →
      mid.accepted + (w'.tasks.countP (·.delivers id) +
        (ChainWeight.deliverable id).toWeight.events (emits es)) ≤ 1) := by
    rcases windows_record known with zero | ⟨before, old, same, kept'⟩
    · exact ⟨fun _ => by omega, fun _ => by omega⟩
    · obtain ⟨most, closed⟩ := counted before old
      refine ⟨fun _ => by omega, fun opened => ?_⟩
      have opened : ¬ before.closed := fun closed => by simp [kept' closed] at opened
      have room := closed.resolve_left opened
      rcases ChainWeight.deliverable_excess id holds kept taken with none | ⟨one, idle, empty⟩
      · omega
      · have zero := (empty before old).resolve_left opened
        omega
  unfold Window.accept
  split
  · rename_i closed
    exact ⟨grown.1 closed, .inl closed⟩
  · rename_i opened
    have room := grown.2 (Bool.eq_false_iff.mpr opened)
    exact ⟨by simp only; omega, .inr (by simp only; omega)⟩

/-- As long as the record of a delivery is there whenever a copy asks for it, at most one message
    is accepted in each exchange of each identifier. -/
theorem level2_accepted_once {env : Env} {seed : Nat} {ls : List ClientMove} {w : ClientWorld}
    (allowed : Along (clientStep env) (fun w mv => recordKept w mv) (init env seed) ls)
    (run : Run env seed ls w) (id : UInt16) : ∀ v ∈ windows id w.log, v.accepted ≤ 1 := by
  have invariant : genuine.Holds w ∧ DeliveredOnce id w := by
    refine exec_invariant (fun w => genuine.Holds w ∧ DeliveredOnce id w) ?_
      ⟨genuine_init env seed, ?_⟩ allowed run
    · rintro w mv w' ⟨holds, once⟩ kept taken
      exact ⟨genuine_step holds taken, deliveredOnce_step holds once kept taken⟩
    · exact ⟨Nat.zero_le 1, fun v member => nomatch member⟩
  exact fun v member => (invariant.2.2 v member).1

/-- A level 2 message and its delivery. -/
def firstCopy : List Turn :=
  [.give (.cause ⟨1, .received (.publish ⟨"topic", .level2 7, [1]⟩) 0⟩), .handle .dispatch,
    .handle .recvPublish, .task 0, .handle .publishStatus, .task 0, .handle .publishStatus]

/-- The broker repeats the PUBLISH of the same message. -/
def secondCopy : List Turn :=
  [.give (.cause ⟨2, .received (.publish ⟨"topic", .level2 7, [1]⟩) 0⟩), .handle .dispatch,
    .handle .recvPublish, .task 0, .handle .publishStatus, .task 0, .handle .publishStatus]

theorem level2_accepted_once_repeated :
    ∃ w, Run plainEnv 0 (schedule plainEnv (init plainEnv 0) (firstCopy ++ secondCopy)) w ∧
      windows 7 w.log = [⟨0, 1, false⟩] ∧ ∀ v ∈ windows 7 w.log, v.accepted ≤ 1 := by
  obtain ⟨w, run, once⟩ :
      ∃ w, Run plainEnv 0 (schedule plainEnv (init plainEnv 0) (firstCopy ++ secondCopy)) w ∧
        windows 7 w.log = [⟨0, 1, false⟩] := ⟨_, rfl, by decide +kernel⟩
  exact ⟨w, run, once, level2_accepted_once (by decide +kernel) run 7⟩

/-- The second copy comes when `check_status_phase_2` has consumed the record. -/
def forgottenRecord : List Turn :=
  firstCopy ++ [.give (.advance commandTimeout), .task 0, .task 0, .handle .publishStatus, .task 0] ++
    secondCopy

/-- The message is delivered twice before its PUBREL. -/
theorem level2_accepted_twice :
    ∃ w, Run plainEnv 0 (schedule plainEnv (init plainEnv 0) forgottenRecord) w ∧
      windows 7 w.log = [⟨0, 2, false⟩] :=
  ⟨_, rfl, by decide +kernel⟩

/-! ## No acknowledgement without a delivery -/

/-- A message that stems from `cause` has been accepted by the user. -/
def deliveredFor (cause : Cause) (log : ClientLog) : Bool :=
  log.any fun
    | .emitted (.accepted o _ _) => o.cause = cause
    | _ => false

/-- A first copy of a message that has not been delivered finds no entry under its identifier. -/
def newcomerUnknown (w : ClientWorld) (mv : ClientMove) : Bool :=
  match mv.label with
  | .take .publishStatus ⟨o, .publishStatus (.getAndRemovePacketStatus id)
      (some (.recvLevel2 _ _ retryCount))⟩ =>
      retryCount ≠ 0 || deliveredFor o.cause w.log || id ∉ w.state.publishStatus
  | _ => true

/-- A retry of a level 2 message of the broker. -/
def Request.Repeats : Request → Prop
  | .packet ⟨.publish ⟨_, .level2 _, _⟩, retryCount⟩ => retryCount ≠ 0
  | _ => False

/-- A future that acts for a level 2 message of the broker after its first attempt. -/
def Future.Repeats : Future → Prop
  | .recvLevel2 _ _ retryCount => retryCount ≠ 0
  | .checkStatusPhase2 _ _ => True
  | _ => False

def Body.Repeats : Body → Prop
  | .request req => req.Repeats
  | .publishStatus _ (some future) | .unitStatus _ (some future) | .statusExistence _ future =>
      future.Repeats
  | _ => False

/-- A job that acknowledges without delivering, now or later. -/
def Job.Repeats : Job → Prop
  | .resend _ _ req => req.Repeats
  | .timer _ _ future | .spawned future => future.Repeats
  | .notify _ => False
  | .resumed future answer => future.Repeats ∨
      ∃ id packet status, future = .recvLevel2 id packet 0 ∧ answer = .publishStatus (some status)

/-- Whatever will acknowledge without delivering acts for a cause in `done`. -/
def repeated (done : Cause → Prop) : Local Actor Msg Task Event where
  mail _ m := m.body.Repeats → done m.origin.cause
  task t := t.job.Repeats → done t.origin.cause
  event _ := True

theorem repeated_keeps (env : Env) (done : Cause → Prop) :
    (repeated done).Keeps (system env) := by
  rintro a ⟨o, b⟩ holds t left
  simp only [system, orphan] at left
  have closed (future : Future) (again : future.Repeats → done o.cause) :
      (repeated done).task ⟨o, .resumed future (.error .closed)⟩ := by
    rintro (repeats | ⟨id, packet, status, -, known⟩)
    · exact again repeats
    · cases known
  split at left
  · obtain rfl := List.mem_singleton.mp left
    exact closed _ holds
  · obtain rfl := List.mem_singleton.mp left
    exact closed _ holds
  · obtain rfl := List.mem_singleton.mp left
    exact closed _ holds
  · simp at left

theorem not_repeats_first (packet : VariablePacket) : ¬ (Request.packet ⟨packet, 0⟩).Repeats := by
  cases packet with
  | publish packet =>
      obtain ⟨topic, qos, payload⟩ := packet
      cases qos <;> simp [Request.Repeats]
  | _ => exact id

section Repeats

variable {env : Env} {ctx : Ctx} {s : State} {done : Cause → Prop}

theorem Attempts.not_repeats {b : Body} {a : Attempt} (attempts : Attempts env ctx s b a) :
    ¬ a.retry.Repeats ∧ ¬ a.check.Repeats ∧ ¬ a.note.Repeats := by
  cases attempts <;> exact ⟨id, id, id⟩

theorem Retries.not_repeats {b : Body} {req : Request} (retries : Retries env ctx s b req) :
    ¬ req.Repeats := by
  cases retries with
  | attempt attempts => exact attempts.not_repeats.1
  | recv1 packet id retryCount self below qos =>
      obtain ⟨topic, qos', payload⟩ := packet
      cases qos
      exact fun repeats => repeats
  | response packet retryCount response =>
      unfold responseTo at response
      split at response <;> cases response <;> exact id
  | disconnect msg self through => exact id

theorem GivesUp.not_repeats {b op : Body} {a : Actor} (gives : GivesUp env ctx s b a op) :
    ¬ op.Repeats := by
  cases gives <;> exact id

theorem responseTo_not_repeats {a dst : Actor} {packet : VariablePacket} {op : Body}
    (response : responseTo a packet = some (dst, op)) : ¬ op.Repeats := by
  unfold responseTo at response
  split at response <;> cases response <;> exact id

theorem Produces.repeated {b : Body} {e : ClientEffect} (produces : Produces env ctx s b e)
    (source : b.Repeats → done ctx.origin.cause)
    (known : ∀ op id packet, b = .publishStatus op (some (.recvLevel2 id packet 0)) →
      (PacketStatusActor.handle s.publishStatus op).2.isSome → done ctx.origin.cause) :
    (repeated done).effect e := by
  cases produces with
  | note attempts => exact fun repeats => absurd repeats attempts.not_repeats.2.2
  | check attempts => exact fun repeats => absurd repeats attempts.not_repeats.2.1
  | send sends => exact fun repeats => absurd repeats (not_repeats_first _)
  | resend retries => exact fun repeats => absurd repeats retries.not_repeats
  | giveUp gives => exact fun repeats => absurd repeats gives.not_repeats
  | response packet retryCount response =>
      exact fun repeats => absurd repeats (responseTo_not_repeats response)
  | recv2 packet retryCount id self below qos =>
      obtain ⟨topic, qos', payload⟩ := packet
      cases qos
      exact source
  | answer op future self =>
      rintro (repeats | ⟨id, packet, status, rfl, found⟩)
      · exact source repeats
      · exact known op id packet rfl (by simp [Answer.publishStatus.inj found])
  | unitAnswer op future status =>
      rintro (repeats | ⟨id, packet, status, rfl, found⟩)
      · exact source repeats
      · cases found
  | existence id future found =>
      rintro (repeats | ⟨id, packet, status, rfl, found⟩)
      · exact source repeats
      · cases found
  | dispatch msg dst name self target => exact fun repeats => absurd repeats (not_repeats_first _)
  | error | queued | accept | wrote => exact True.intro
  | halt | haltStop | leave | haltConnack => exact True.intro
  | _ => exact False.elim

theorem Continues.repeated {future : Future} {answer : Answer} {e : ClientEffect}
    (continues : Continues ctx future answer e) (awaits : ctx.origin.cause.Awaits future)
    (fits : answer.Fits future)
    (source : (Job.resumed future answer).Repeats → done ctx.origin.cause)
    (first : ∀ id packet, future = .recvLevel2 id packet 0 → answer = .publishStatus none →
      done ctx.origin.cause) : (repeated done).effect e := by
  have acknowledging {id retryCount : UInt16} {packet : PublishPacket}
      (same : future = .recvLevel2 id packet retryCount) (known : ∀ e, answer ≠ .error e) :
      done ctx.origin.cause := by
    subst same
    by_cases fresh : retryCount = 0
    · subst fresh
      cases answer with
      | publishStatus status =>
          cases status with
          | none => exact first id packet rfl rfl
          | some status => exact source (.inr ⟨id, packet, status, rfl, rfl⟩)
      | unitStatus | existence => exact absurd rfl fits
      | error e => exact absurd rfl (known e)
    · exact source (.inl fresh)
  cases continues with
  | checked status self id check retryMsg answer passes =>
      obtain ⟨-, checkOf⟩ := awaits
      cases checkOf <;> exact False.elim
  | phase2 id msg status pending => exact fun _ => source (.inl True.intro)
  | timeout future dst req => cases fits
  | redeliver id packet => exact fun repeats => absurd repeats (not_repeats_first _)
  | send id retryCount packet answer known =>
      exact fun repeats => absurd repeats (not_repeats_first (.pubrec id))
  | resend id retryCount packet answer known => exact fun _ => acknowledging rfl known
  | timer id retryCount packet answer known => exact fun _ => acknowledging rfl known
  | error | accept | queued => exact True.intro
  | _ => exact False.elim

theorem Runs.repeated {res : Actor → Option SendError} {o : Origin} {job : Job} {e : ClientEffect}
    (runs : Runs env res s o job e) (holds : job.Genuine o.cause)
    (source : job.Repeats → done o.cause)
    (first : ∀ id packet, job = .resumed (.recvLevel2 id packet 0) (.publishStatus none) →
      done o.cause) : (repeated done).effect e := by
  cases runs with
  | resend deadline dst req => exact source
  | timer deadline owner future => exact source
  | notify notice produces =>
      refine produces.repeated ?_ ?_
      · cases notice <;> exact False.elim
      · rintro op id packet same
        cases same
  | closed future refused =>
      rintro (repeats | ⟨id, packet, status, rfl, found⟩)
      · exact source repeats
      · cases found
  | waits future refused => exact source
  | asks future accepts =>
      cases future with
      | statusCheck status self id check retryMsg => cases status <;> exact False.elim
      | _ => exact source
  | resumed future answer continues =>
      exact continues.repeated holds.1 holds.2 source
        (fun id packet same none => first id packet (by rw [same, none]))

theorem Arrives.repeated {o : Origin} {e : ClientEffect} (arrives : Arrives o e) :
    (repeated done).effect e := by
  cases arrives with
  | received packet message cause => exact fun repeats => absurd repeats (not_repeats_first _)
  | error | haltRecv | haltSend => exact True.intro
  | _ => exact False.elim

end Repeats

/-- A first copy that finds no entry is delivered before anything else, or is only tried again. -/
theorem level2Answered_first (ctx : Ctx) (id : UInt16) (packet : PublishPacket) :
    (∃ rest, RecvPublishActor.level2Answered ctx id packet 0 (.publishStatus none) =
      .emit (.accepted ctx.origin packet (RecvPublishActor.publishMessage id packet)) :: rest) ∨
    Ensures (fun e => (∀ done, (repeated done).effect e) ∧
        ∀ o packet', e ≠ .emit (.queued o packet'))
      (RecvPublishActor.level2Answered ctx id packet 0 (.publishStatus none)) := by
  simp only [RecvPublishActor.level2Answered, RecvPublishActor.deliver, if_true]
  cases ctx.res .message with
  | none => exact .inl ⟨_, rfl⟩
  | some e =>
      have reports : Reports ctx (fun e : ClientEffect => (∀ done, (repeated done).effect e) ∧
          ∀ o packet', e ≠ .emit (.queued o packet')) :=
        ⟨fun tag kind text => ⟨fun done => True.intro, by simp⟩,
          ⟨fun done => False.elim, by simp⟩⟩
      exact .inr (reports.handleSendErrorWithResend
        ⟨fun done repeats => absurd repeats (not_repeats_first _), by simp⟩ _ e)

section Delivered

variable {env : Env} {w w' : ClientWorld} {mv : ClientMove} {s : State} {es : Out}

theorem deliveredFor_iff {cause : Cause} {log : ClientLog} :
    deliveredFor cause log ↔
      ∃ o packet message, .emitted (.accepted o packet message) ∈ log ∧ o.cause = cause := by
  simp only [deliveredFor, List.any_eq_true]
  constructor
  · rintro ⟨r, member, same⟩
    split at same
    · exact ⟨_, _, _, member, of_decide_eq_true same⟩
    · cases same
  · rintro ⟨o, packet, message, member, same⟩
    exact ⟨_, member, decide_eq_true same⟩

theorem deliveredFor_step {cause : Cause} (taken : clientStep env w mv = some w')
    (delivered : deliveredFor cause w.log) : deliveredFor cause w'.log := by
  obtain ⟨s, es, reacted, -⟩ := World.fire_eq_some.mp taken
  obtain ⟨o, packet, message, member, same⟩ := deliveredFor_iff.mp delivered
  exact deliveredFor_iff.mpr
    ⟨o, packet, message, (emitted_step reacted taken).mpr (.inr member), same⟩

theorem pubrec_step {o : Origin} {id : UInt16}
    (reacted : w.reaction (system env) (w.results mv.full) mv.label = some (s, es))
    (queued : .emit (.queued o (.pubrec id)) ∈ es) :
    ∃ retryCount packet answer, (∀ e, answer ≠ .error e) ∧
      mv.label = .run ⟨o, .resumed (.recvLevel2 id packet retryCount) answer⟩ := by
  obtain ⟨label, full⟩ := mv
  generalize shape : (Effect.emit (.queued o (.pubrec id)) : ClientEffect) = e at queued
  have not_sent {ctx : Ctx} {b : Body} (sends : Sends env ctx w.state b (.pubrec id)) : False := by
    generalize same : VariablePacket.pubrec id = packet at sends
    cases sends with
    | attempt attempts => cases attempts <;> cases same
    | _ => cases same
  cases reaction_causes reacted e queued with
  | take a m produces =>
      obtain ⟨o', b⟩ := m
      cases produces with
      | queued sends =>
          cases shape
          exact absurd sends not_sent
      | _ => cases shape
  | run t runs =>
      obtain ⟨o', job⟩ := t
      cases runs with
      | notify notice produces =>
          generalize Body.request notice.request = b at produces
          cases produces with
          | queued sends =>
              cases shape
              exact absurd sends not_sent
          | _ => cases shape
      | resumed future answer continues =>
          cases continues with
          | queued id' retryCount packet answer known =>
              cases shape
              exact ⟨retryCount, packet, answer, known, rfl⟩
          | _ => cases shape
      | _ => cases shape
  | arrive o' arrives => cases arrives <;> cases shape
  | messageClosed => cases shape

/-- What acknowledges without delivering acts for a delivered cause, and so did every PUBREC. -/
structure Level2Backed (w : ClientWorld) : Prop where
  holds : (repeated fun cause => deliveredFor cause w.log).Holds w
  queued : ∀ later o id earlier, w.log = later ++ .emitted (.queued o (.pubrec id)) :: earlier →
    deliveredFor o.cause earlier

theorem repeated_step (genuine : genuine.Holds w) (backed : Level2Backed w)
    (unknown : newcomerUnknown w mv) (taken : clientStep env w mv = some w')
    (reacted : w.reaction (system env) (w.results mv.full) mv.label = some (s, es)) :
    ∀ e ∈ es, (repeated fun cause => deliveredFor cause w'.log).effect e := by
  have source := genuine.source reacted
  have again := backed.holds.source reacted
  intro e member
  obtain ⟨label, full⟩ := mv
  cases reaction_causes reacted e member with
  | take a m produces =>
      refine produces.repeated (fun repeats => deliveredFor_step taken (again repeats)) ?_
      rintro op id packet same found
      obtain ⟨o, b⟩ := m
      obtain rfl : b = .publishStatus op (some (.recvLevel2 id packet 0)) := same
      obtain ⟨awaits, question⟩ : o.cause.Awaits _ ∧ Future.question _ = _ := source
      simp only [Future.question, Prod.mk.injEq, Body.publishStatus.injEq, and_true] at question
      obtain ⟨rfl, rfl⟩ := question
      rw [PacketStatusActor.handle_getAndRemove, AList.lookup_isSome] at found
      refine deliveredFor_step taken ?_
      simpa [newcomerUnknown, found] using unknown
  | run t runs =>
      obtain ⟨o, job⟩ := t
      by_cases first : ∃ id packet,
          job = .resumed (.recvLevel2 id packet 0) (.publishStatus none)
      · obtain ⟨id, packet, rfl⟩ := first
        have resumed : RecvPublishActor.level2Answered
            ⟨.recvPublish, o, w.state.now, w.results full⟩ id packet 0 (.publishStatus none) = es :=
          congrArg Prod.snd (World.reaction_run.mp reacted).2.2
        rcases level2Answered_first ⟨.recvPublish, o, w.state.now, w.results full⟩ id packet with
          ⟨rest, accepted⟩ | refused
        · refine runs.repeated source (fun repeats => deliveredFor_step taken (again repeats)) (fun _ _ _ => ?_)
          have emitted :
              .emit (.accepted o packet (RecvPublishActor.publishMessage id packet)) ∈ es := by
            rw [← resumed, accepted]
            exact List.mem_cons_self
          exact deliveredFor_iff.mpr
            ⟨o, packet, _, (emitted_step reacted taken).mpr (.inl emitted), rfl⟩
        · rw [← resumed] at member
          exact (refused e member).1 _
      · exact runs.repeated source (fun repeats => deliveredFor_step taken (again repeats))
          (fun id packet same => absurd ⟨id, packet, same⟩ first)
  | arrive o arrives => exact arrives.repeated
  | messageClosed => exact True.intro

theorem level2Backed_step (genuine : genuine.Holds w) (backed : Level2Backed w)
    (unknown : newcomerUnknown w mv) (taken : clientStep env w mv = some w') :
    Level2Backed w' := by
  obtain ⟨s, es, reacted, -⟩ := World.fire_eq_some.mp taken
  refine ⟨?_, fun later o id earlier split => ?_⟩
  · refine (backed.holds.mono ?_ ?_ ?_).fire (repeated_keeps env _) reacted taken
      (repeated_step genuine backed unknown taken reacted)
    · exact fun a m holds repeats => deliveredFor_step taken (holds repeats)
    · exact fun t holds repeats => deliveredFor_step taken (holds repeats)
    · exact fun e holds => holds
  · rcases World.fire_split_emitted reacted taken split with
      ⟨before, split⟩ | ⟨front, back, emitted, rfl⟩
    · exact backed.queued before o id earlier split
    · have queued : .emit (.queued o (.pubrec id)) ∈ es := mem_emits.mp (by simp [emitted])
      obtain ⟨retryCount, packet, answer, known, label⟩ := pubrec_step reacted queued
      have source := genuine.source reacted
      have again := backed.holds.source reacted
      rw [label] at source again
      -- the cause is delivered before the step, or by an earlier effect of the step
      have before (delivered : deliveredFor o.cause w.log) :
          deliveredFor o.cause (front.reverse.map .emitted ++ mv.label.record :: w.log) := by
        obtain ⟨o', packet', message, member, same⟩ := deliveredFor_iff.mp delivered
        exact deliveredFor_iff.mpr ⟨o', packet', message, by simp [member], same⟩
      by_cases fresh : retryCount = 0
      · subst fresh
        cases answer with
        | publishStatus status =>
            cases status with
            | some status => exact before (again (.inr ⟨_, packet, status, rfl, rfl⟩))
            | none =>
                have resumed : RecvPublishActor.level2Answered
                    ⟨.recvPublish, o, w.state.now, w.results mv.full⟩ id packet 0
                      (.publishStatus none) = es :=
                  congrArg Prod.snd (World.reaction_run.mp (label ▸ reacted)).2.2
                rcases level2Answered_first ⟨.recvPublish, o, w.state.now, w.results mv.full⟩ id
                  packet with ⟨rest, accepted⟩ | refused
                · rw [← resumed, accepted] at emitted
                  cases front with
                  | nil => cases emitted
                  | cons first front =>
                      obtain ⟨rfl, -⟩ := List.cons.inj emitted
                      exact deliveredFor_iff.mpr
                        ⟨o, packet, RecvPublishActor.publishMessage id packet, by simp, rfl⟩
                · rw [← resumed] at queued
                  exact absurd rfl ((refused _ queued).2 o _)
        | unitStatus | existence => exact absurd rfl source.2
        | error e => exact absurd rfl (known e)
      · exact before (again (.inl fresh))

end Delivered

/-- As long as no first copy of a message finds an entry under its identifier, the payload of every
    level 2 message has been accepted by the user before its PUBREC is queued. -/
theorem level2_acknowledged_delivered {env : Env} {seed : Nat} {ls : List ClientMove}
    {w : ClientWorld}
    (allowed : Along (clientStep env) (fun w mv => newcomerUnknown w mv) (init env seed) ls)
    (run : Run env seed ls w) {o : Origin} {id : UInt16} {later earlier : ClientLog}
    (queued : w.log = later ++ .emitted (.queued o (.pubrec id)) :: earlier) :
    ∃ packet n o' message, o.cause = .received (.publish packet) n ∧ packet.qos = .level2 id ∧
      o'.cause = o.cause ∧ .emitted (.accepted o' packet message) ∈ earlier ∧
      message.payload = packet.payload := by
  have invariant : genuine.Holds w ∧ Level2Backed w := by
    refine exec_invariant (fun w => genuine.Holds w ∧ Level2Backed w) ?_
      ⟨genuine_init env seed, ?_, fun later o id earlier split => ?_⟩ allowed run
    · rintro w mv w' ⟨holds, backed⟩ unknown taken
      exact ⟨genuine_step holds taken, level2Backed_step holds backed unknown taken⟩
    · refine ⟨fun a m member => ?_, fun t member => ?_, fun e member => nomatch member⟩
      · simp only [init] at member
        split at member
        · obtain ⟨recipient, _, rfl⟩ := List.mem_map.mp member
          exact False.elim
        · simp at member
      · obtain rfl := List.mem_singleton.mp member
        exact False.elim
    · simp [init] at split
  obtain ⟨holds, backed⟩ := invariant
  obtain ⟨packet, n, cause, qos⟩ : Event.Genuine (.queued o (.pubrec id)) :=
    holds.log (.queued o (.pubrec id)) (by simp [queued])
  obtain ⟨o', packet', message, member, same⟩ :=
    deliveredFor_iff.mp (backed.queued later o id earlier queued)
  obtain ⟨⟨n', cause'⟩, id', -, rfl⟩ : Event.Genuine (.accepted o' packet' message) :=
    holds.log (.accepted o' packet' message) (by simp [queued, member])
  obtain ⟨rfl, -⟩ : packet' = packet ∧ n' = n := by
    simpa using cause'.symm.trans (same.trans cause)
  exact ⟨packet', n, o', _, cause, qos, same, member, rfl⟩

theorem level2_acknowledged_delivered_firstCopy :
    ∃ w, Run plainEnv 0 (schedule plainEnv (init plainEnv 0) (firstCopy.take 6)) w ∧
      ∃ packet n o' message, Cause.received (.publish ⟨"topic", .level2 7, [1]⟩) 0 =
          .received (.publish packet) n ∧ packet.qos = .level2 7 ∧
        o'.cause = .received (.publish ⟨"topic", .level2 7, [1]⟩) 0 ∧
        .emitted (.accepted o' packet message) ∈ w.log.tail ∧ message.payload = packet.payload := by
  obtain ⟨w, run, queued⟩ :
      ∃ w, Run plainEnv 0 (schedule plainEnv (init plainEnv 0) (firstCopy.take 6)) w ∧
        w.log = [] ++ .emitted (.queued ⟨1, .received (.publish ⟨"topic", .level2 7, [1]⟩) 0⟩
          (.pubrec 7)) :: w.log.tail := ⟨_, rfl, by decide +kernel⟩
  exact ⟨w, run, level2_acknowledged_delivered (by decide +kernel) run queued⟩

/-- A level 2 message comes under the identifier of a publish of the client itself. -/
def sharedIdentifier : List Turn :=
  [.give (.cause ⟨1, .publish "topic" .level2 [1]⟩), .handle .sendPublish, .handle .publishStatus,
    .give (.cause ⟨2, .received (.publish ⟨"news", .level2 1, [2]⟩) 0⟩), .handle .dispatch,
    .handle .recvPublish, .task 0, .handle .publishStatus, .task 0]

/-- The entry of the client's own publish is taken for a record of the delivery. -/
theorem level2_acknowledged_lost :
    ∃ w, Run plainEnv 0 (schedule plainEnv (init plainEnv 0) sharedIdentifier) w ∧
      .emitted (.queued ⟨2, .received (.publish ⟨"news", .level2 1, [2]⟩) 0⟩ (.pubrec 1)) ∈ w.log ∧
      ∀ o packet message, .emitted (.accepted o packet message) ∉ w.log := by
  obtain ⟨w, run, queued, none⟩ :
      ∃ w, Run plainEnv 0 (schedule plainEnv (init plainEnv 0) sharedIdentifier) w ∧
        .emitted (.queued ⟨2, .received (.publish ⟨"news", .level2 1, [2]⟩) 0⟩ (.pubrec 1)) ∈ w.log ∧
        w.log.all (fun | .emitted (.accepted _ _ _) => false | _ => true) :=
    ⟨_, rfl, by decide +kernel, by decide +kernel⟩
  refine ⟨w, run, queued, fun o packet message member => ?_⟩
  have := List.all_eq_true.mp none _ member
  cases this

end ActixMqtt
