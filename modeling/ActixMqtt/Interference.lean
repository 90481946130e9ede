import ActixMqtt.Core

/-! # Inbound traffic beside outbound publishes

The messages of the broker and the publishes of the user share one status map, keyed by
the packet identifier alone. `outbound_undisturbed` compares a run with the one that is
left when the PUBLISH and PUBREL packets of the broker are erased with all they cause.
-/

namespace ActixMqtt

open ActorSystem

/-- Anything but a PUBLISH or a PUBREL of the broker. -/
def Origin.outbound (o : Origin) : Bool :=
  match o.cause with
  | .received (.publish _) _ | .received (.pubrel _) _ => false
  | _ => true

/-- PendingAck, PendingRec or PendingComp. -/
def PublishPacketStatus.outbound (phase : PublishPacketStatus) : Bool := phase ≠ .pendingRel

def State.outboundEntry (s : State) (id : UInt16) : Option (PacketStatus PublishPacketStatus) :=
  (s.publishStatus.lookup id).filter fun status => status.payload.outbound

/-- What a timer asks of the entry it reads. -/
def Future.test : Future → Option StatusCheck
  | .statusCheck _ _ _ check _ => some check
  | .publishLevel2 _ _ => some (.isPending .pendingRec)
  | _ => none

def Answer.outcome (test : StatusCheck) : Answer → Except MailboxError Bool
  | .error e => .error e
  | answer => .ok (test.passes answer)

section History

variable {I : Type}

/-- The check of an outbound timer, with its outcome. -/
def outboundCheck : Record Actor Msg Task I Event →
    Option (Origin × Future × Except MailboxError Bool)
  | .ran ⟨o, .resumed future answer⟩ =>
      if o.outbound && future.core then
        future.test.map fun test => (o, future, answer.outcome test)
      else none
  | _ => none

/-- A queued PUBLISH or PUBREL. -/
def outboundPacket : Record Actor Msg Task I Event → Option (Origin × VariablePacket)
  | .emitted (.queued o packet) =>
      if o.outbound && packet.outbound then some (o, packet) else none
  | _ => none

end History

/-- What is looked at beside inbound traffic. -/
def View.outbound : View := ⟨Origin.outbound, PublishPacketStatus.outbound⟩

/-- What the core does in a run without the PUBLISH and PUBREL packets of the broker and all that
    they cause; the remaining try_sends return what they returned. -/
def erased (env : Env) (seed : Nat) (ls : List ClientMove) : List CoreMove :=
  follow (clientStep env) (View.outbound.image env) (init env seed) ls

theorem Future.resume_eq_nil {future : Future} {test : StatusCheck} (asks : future.test = some test)
    (env : Env) (ctx : Ctx) (status : Option (PacketStatus PublishPacketStatus)) :
    future.resume env ctx (.publishStatus status) = [] ↔
      test.passes (.publishStatus status) = false := by
  cases future with
  | statusCheck statusActor self id check retryMsg =>
      obtain rfl := Option.some.inj asks
      simp [Future.resume, statusChecked]
  | publishLevel2 id msg =>
      obtain rfl := Option.some.inj asks
      cases status <;> simp [Future.resume, SendPublishActor.level2Checked, StatusCheck.passes]
  | _ => cases asks

theorem StatusCheck.passes_outbound {phase : PublishPacketStatus} (shown : phase.outbound)
    (answer : Answer) :
    (isPending phase).passes (View.outbound.answer answer) = (isPending phase).passes answer := by
  cases answer with
  | publishStatus status =>
      cases status with
      | none => rfl
      | some status =>
          by_cases visible : status.payload.outbound
          · simp [View.answer, View.entry, View.outbound, Option.filter, visible]
          · have other : status.payload ≠ phase := fun same => visible (same ▸ shown)
            simp [View.answer, View.entry, View.outbound, Option.filter, visible, passes, other]
  | _ => rfl

theorem View.outbound_sound : View.outbound.Sound where
  publish o msg asks := by
    simp only [Cause.Asks] at asks
    simp [View.outbound, Origin.outbound, asks]
  notes o phase notes := by
    obtain ⟨n, cause⟩ := o
    simp only [View.outbound, Origin.outbound, PublishPacketStatus.outbound]
    unfold Cause.Notes at notes
    split at notes <;> simp_all
  checks o future keep awaits core other env ctx answer := by
    have erased (packet : VariablePacket) (retryCount : UInt16)
        (asks : o.cause.Asks (.packet ⟨packet, retryCount⟩)) :
        (∀ id, packet ≠ .pubrel id) ∧ ∀ publish, packet ≠ .publish publish := by
      obtain ⟨message, cause⟩ := asks
      refine ⟨?_, ?_⟩ <;>
      · rintro _ rfl
        simp [View.outbound, Origin.outbound, cause] at keep
    cases future with
    | statusCheck statusActor self id check retryMsg =>
        obtain ⟨asks, check⟩ := awaits
        cases check with
        | publish id msg qos => exact absurd rfl (other _ _ _ _)
        | pubrec id retryCount =>
            have shown : PublishPacketStatus.pendingRec.outbound := rfl
            have same := StatusCheck.passes_outbound shown answer
            cases answer with
            | publishStatus status =>
                simp only [Future.resume, statusChecked, View.answer] at same ⊢
                rw [same]
            | _ => rfl
        | pubrel id retryCount => exact absurd rfl ((erased _ _ asks).1 id)
        | subscribe | unsubscribe | sendPing => cases core
    | publishLevel2 id msg =>
        cases answer with
        | publishStatus status =>
            cases status with
            | none => rfl
            | some status =>
                cases phase : status.payload <;>
                  simp [Future.resume, SendPublishActor.level2Checked, View.answer, View.entry,
                    View.outbound, PublishPacketStatus.outbound, Option.filter, phase]
        | _ => rfl
    | recvLevel2 id packet retryCount => exact absurd rfl ((erased _ _ awaits.1).2 packet)
    | checkStatusPhase2 id msg => exact absurd rfl ((erased _ _ awaits.1).2 msg.packet)
    | pingConnected | pingPending | connectAck => cases core

theorem Answer.outcome_outbound {o : Origin} {future : Future} {answer : Answer}
    {test : StatusCheck} (known : (sufficient View.outbound).task ⟨o, .resumed future answer⟩)
    (keep : o.outbound) (core : future.core) (asks : future.test = some test) :
    (View.outbound.answer answer).outcome test = answer.outcome test := by
  cases answer with
  | publishStatus status =>
      have same := known keep core plainEnv ⟨future.self, o, 0, fun _ => none⟩
      have passes := Future.resume_eq_nil asks plainEnv ⟨future.self, o, 0, fun _ => none⟩ status
      rw [same, View.answer, Future.resume_eq_nil asks] at passes
      exact congrArg Except.ok (Bool.eq_iff_iff.mpr (by simpa [View.answer] using not_congr passes))
  | _ => rfl

/-- What is shown of the history, as a history of the core. -/
def pastRecord : Task ⊕ Event → Record Actor Msg Task Surrounding Event
  | .inl t => .ran t
  | .inr e => .emitted e

section Histories

variable {I : Type} {V : View}

theorem outboundCheck_shown (keep : ∀ o : Origin, o.outbound → V.keep o)
    {r : Record Actor Msg Task I Event}
    (known : ∀ o future answer test, r = .ran ⟨o, .resumed future answer⟩ → o.outbound →
      future.core → future.test = some test → (V.answer answer).outcome test = answer.outcome test) :
    outboundCheck r = (V.lens.record r).bind fun x => outboundCheck (pastRecord x) := by
  cases r with
  | ran t =>
      obtain ⟨o, job⟩ := t
      by_cases shown : job.core && V.keep o
      · have image : V.lens.record (.ran ⟨o, job⟩ : Record Actor Msg Task I Event) =
            some (.inl ⟨o, V.job job⟩) := by
          simp [Lens.record, View.lens, View.task, shown]
        rw [image]
        cases job with
        | resumed future answer =>
            cases asks : future.test with
            | none => simp [outboundCheck, pastRecord, View.job, asks]
            | some test =>
                have same := known o future answer test rfl
                simp only [outboundCheck, pastRecord, View.job, Option.bind_some, asks]
                split
                · rename_i both
                  obtain ⟨out, core⟩ := (Bool.and_eq_true _ _).mp both
                  simp only [Option.map_some, same out core asks]
                · rfl
        | _ => rfl
      · have image : V.lens.record (.ran ⟨o, job⟩ : Record Actor Msg Task I Event) = none := by
          simp [Lens.record, View.lens, View.task, shown]
        rw [image]
        cases job with
        | resumed future answer =>
            have hidden : ¬ (o.outbound && future.core) := fun both => by
              obtain ⟨out, core⟩ := (Bool.and_eq_true _ _).mp both
              exact shown ((Bool.and_eq_true _ _).mpr ⟨core, keep o out⟩)
            exact if_neg hidden
        | _ => rfl
  | emitted e =>
      simp only [Lens.record]
      split <;> rfl
  | took a m | gave i => rfl

theorem outboundPacket_shown (keep : ∀ o : Origin, o.outbound → V.keep o)
    (r : Record Actor Msg Task I Event) :
    outboundPacket r = (V.lens.record r).bind fun x => outboundPacket (pastRecord x) := by
  cases r with
  | ran t =>
      simp only [Lens.record]
      cases V.lens.task t <;> rfl
  | emitted e =>
      cases e with
      | queued o packet =>
          by_cases shown : V.keep o && packet.outbound
          · have image : V.lens.record (.emitted (.queued o packet) :
                Record Actor Msg Task I Event) = some (.inr (.queued o packet)) := if_pos shown
            rw [image]
            rfl
          · have image : V.lens.record (.emitted (.queued o packet) :
                Record Actor Msg Task I Event) = none := if_neg shown
            rw [image]
            refine if_neg fun both => shown ?_
            obtain ⟨out, packet'⟩ := (Bool.and_eq_true _ _).mp both
            exact (Bool.and_eq_true _ _).mpr ⟨keep o out, packet'⟩
      | _ => rfl
  | took a m | gave i => rfl

end Histories

theorem outbound_run {env : Env} {seed : Nat} {ls : List ClientMove} {w : ClientWorld}
    (apart : Along (clientStep env) (fun w mv => View.outbound.allows w mv) (init env seed) ls)
    (run : Run env seed ls w) :
    ∃ v, exec (coreStep env) (coreInit env seed) (erased env seed ls) = some v ∧
      (∀ id, v.state.outboundEntry id = w.state.outboundEntry id) ∧
      v.log.filterMap outboundCheck = w.log.filterMap outboundCheck ∧
      v.log.filterMap outboundPacket = w.log.filterMap outboundPacket := by
  obtain ⟨v, follow, follows⟩ := follows_run View.outbound_sound apart run
  have past : w.log.filterMap View.outbound.lens.record = v.log.filterMap View.whole.lens.record :=
    congrArg Glimpse.past follows.glimpse
  refine ⟨v, follow, fun id => ?_, ?_, ?_⟩
  · show View.outbound.entry (v.state.publishStatus.lookup id) = View.outbound.entry _
    rw [follows.entries id, View.entry_entry]
  · have client : w.log.filterMap outboundCheck = (w.log.filterMap View.outbound.lens.record).filterMap
        fun x => outboundCheck (pastRecord x) := by
      rw [List.filterMap_filterMap]
      refine List.filterMap_congr fun r member => ?_
      refine outboundCheck_shown (fun o out => out) fun o future answer test ran out core asks => ?_
      subst ran
      exact Answer.outcome_outbound (follows.answers.past _ member) out core asks
    have core : v.log.filterMap outboundCheck = (v.log.filterMap View.whole.lens.record).filterMap
        fun x => outboundCheck (pastRecord x) := by
      rw [List.filterMap_filterMap]
      refine List.filterMap_congr fun r _ => ?_
      exact outboundCheck_shown (fun o _ => rfl) fun o future answer test _ _ _ _ => by
        rw [View.whole_answer]
    rw [client, core, past]
  · have client : w.log.filterMap outboundPacket = (w.log.filterMap View.outbound.lens.record).filterMap
        fun x => outboundPacket (pastRecord x) := by
      rw [List.filterMap_filterMap]
      exact List.filterMap_congr fun r _ => outboundPacket_shown (fun o out => out) r
    have core : v.log.filterMap outboundPacket = (v.log.filterMap View.whole.lens.record).filterMap
        fun x => outboundPacket (pastRecord x) := by
      rw [List.filterMap_filterMap]
      exact List.filterMap_congr fun r _ => outboundPacket_shown (fun o _ => rfl) r
    rw [client, core, past]

theorem erased_outbound {env : Env} {seed : Nat} {ls : List ClientMove} {c : CoreMove}
    (member : c ∈ erased env seed ls) : ∀ o ∈ c.origin, o.outbound := by
  obtain ⟨w, mv, image⟩ := mem_follow member
  exact View.image_keep image

/-- As long as the publish status actor handles nothing of the erased packets where there is an
    outbound entry, answers no level 1 check with a PendingRel entry, and no actor of the core is
    stopped because of an erased packet, outbound publishes are not disturbed: their entries at
    every point, the outcomes of their checks and their queued packets are those of the run without
    these packets. -/
theorem outbound_undisturbed {env : Env} {seed : Nat} {ls : List ClientMove} {w : ClientWorld}
    (apart : Along (clientStep env) (fun w mv => View.outbound.allows w mv) (init env seed) ls)
    (run : Run env seed ls w) :
    (∀ c ∈ erased env seed ls, ∀ o ∈ c.origin, o.outbound) ∧
    ∃ v, exec (coreStep env) (coreInit env seed) (erased env seed ls) = some v ∧
      v.log.filterMap outboundCheck = w.log.filterMap outboundCheck ∧
      v.log.filterMap outboundPacket = w.log.filterMap outboundPacket ∧
      ∀ front back, ls = front ++ back → ∃ w' v' rest,
        Run env seed front w' ∧ erased env seed ls = erased env seed front ++ rest ∧
        exec (coreStep env) (coreInit env seed) (erased env seed front) = some v' ∧
        ∀ id, v'.state.outboundEntry id = w'.state.outboundEntry id := by
  obtain ⟨v, follow, -, checks, packets⟩ := outbound_run apart run
  refine ⟨fun c => erased_outbound, v, follow, checks, packets, ?_⟩
  rintro front back rfl
  rw [Run, exec_append] at run
  obtain ⟨w', first, -⟩ := Option.bind_eq_some_iff.mp run
  obtain ⟨v', follow', entries, -⟩ := outbound_run apart.front first
  obtain ⟨rest, split⟩ := follow_append (init env seed) front back
  exact ⟨w', v', rest, first, split, follow', entries⟩

/-- The broker sends a message and releases it while a publish of the user waits for its
    acknowledgement and is sent again. -/
def sideBySide : List Turn :=
  [.give (.cause ⟨1, .publish "topic" .level1 [1]⟩), .handle .sendPublish, .handle .publishStatus,
    .give (.cause ⟨2, .received (.publish ⟨"news", .level2 7, [2]⟩) 0⟩), .handle .dispatch,
    .handle .recvPublish, .task 0, .handle .publishStatus, .task 0, .handle .publishStatus,
    .give (.cause ⟨3, .received (.pubrel 7) 1⟩), .handle .dispatch, .handle .pubrel,
    .handle .publishStatus, .give (.advance commandTimeout), .task 2, .task 0,
    .handle .publishStatus, .task 0, .handle .sendPublish, .handle .publishStatus]

theorem outbound_undisturbed_sideBySide :
    ∃ w v, Run plainEnv 0 (schedule plainEnv (init plainEnv 0) sideBySide) w ∧
      exec (coreStep plainEnv) (coreInit plainEnv 0)
        (erased plainEnv 0 (schedule plainEnv (init plainEnv 0) sideBySide)) = some v ∧
      v.log.filterMap outboundCheck = w.log.filterMap outboundCheck ∧
      w.log.filterMap outboundPacket =
        [(⟨1, .publish "topic" .level1 [1]⟩, .publish ⟨"topic", .level1 2, [1]⟩),
          (⟨1, .publish "topic" .level1 [1]⟩, .publish ⟨"topic", .level1 1, [1]⟩)] ∧
      v.log.filterMap outboundPacket = w.log.filterMap outboundPacket := by
  obtain ⟨w, run, packets⟩ :
      ∃ w, Run plainEnv 0 (schedule plainEnv (init plainEnv 0) sideBySide) w ∧
        w.log.filterMap outboundPacket =
          [(⟨1, .publish "topic" .level1 [1]⟩, .publish ⟨"topic", .level1 2, [1]⟩),
            (⟨1, .publish "topic" .level1 [1]⟩, .publish ⟨"topic", .level1 1, [1]⟩)] :=
    ⟨_, rfl, by decide⟩
  obtain ⟨-, v, follow, checks, same, -⟩ := outbound_undisturbed (by decide +kernel) run
  exact ⟨w, v, run, follow, checks, packets, same⟩

/-- The broker releases a message of its own under the identifier of the user's publish. -/
def sameIdentifier : List Turn :=
  [.give (.cause ⟨1, .publish "topic" .level1 [1]⟩), .handle .sendPublish, .handle .publishStatus,
    .give (.cause ⟨2, .received (.pubrel 1) 0⟩), .handle .dispatch, .handle .pubrel,
    .handle .publishStatus]

/-- The PUBREL removes the entry that the publish waits on. -/
theorem outbound_disturbed :
    ∃ w v, Run plainEnv 0 (schedule plainEnv (init plainEnv 0) sameIdentifier) w ∧
      exec (coreStep plainEnv) (coreInit plainEnv 0)
        (erased plainEnv 0 (schedule plainEnv (init plainEnv 0) sameIdentifier)) = some v ∧
      v.state.outboundEntry 1 = some ⟨1, 0, .pendingAck⟩ ∧ w.state.outboundEntry 1 = none :=
  ⟨_, _, rfl, rfl, by decide, by decide⟩

end ActixMqtt
