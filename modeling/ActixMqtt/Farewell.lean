import ActixMqtt.Actors.Inbox
import ActixMqtt.Connecting

/-! # What follows DISCONNECT

DISCONNECT goes to SendActor directly, the StopMessage takes the way through
StopActor. SendActor writes whatever enters its mailbox between the two.
-/

namespace ActixMqtt

open ActorSystem

/-! ## The packets of SendActor -/

/-- The packets that SendActor has written, newest first. -/
def written (log : ClientLog) : List VariablePacket :=
  log.filterMap fun
    | .took .send ⟨_, .request (.packet msg)⟩ => some msg.packet
    | _ => none

/-- The packets that SendActor takes from its mailbox before it stops, oldest first. -/
def toWrite : List Body → List VariablePacket
  | [] => []
  | .request (.packet msg) :: bodies => msg.packet :: toWrite bodies
  | .stop :: _ => []
  | _ :: bodies => toWrite bodies

/-- The messages for SendActor, oldest first. -/
def sendMail (w : ClientWorld) : List Body := (w.mail .send).map (·.body)

/-- What SendActor has written and what it is still to write, in this order. -/
def outbox (w : ClientWorld) : List VariablePacket := (written w.log).reverse ++ toWrite (sendMail w)

/-- Whether a message makes its actor queue a packet, given the results of the sends. -/
def queues (env : Env) (res : Actor → Option SendError) (s : State) : Actor → Body → Bool
  | .sendPublish, .request (.publish msg) =>
      msg.retryCount ≤ maxRetryCount && (env.topicNameError msg.topic).isNone &&
        (msg.qos = .level0 || (res .publishStatus).isNone) && (res .send).isNone
  | .recvPublish, .request (.packet ⟨.publish packet, retryCount⟩) =>
      packet.qos matches .level1 _ && retryCount ≤ maxRetryCount && (res .send).isNone
  | .pubrec, .request (.packet ⟨.pubrec _, retryCount⟩)
  | .pubrel, .request (.packet ⟨.pubrel _, retryCount⟩) =>
      retryCount ≤ maxRetryCount && (res .publishStatus).isNone && (res .send).isNone
  | .subscribe, .request (.batchSubscribe msg) =>
      msg.subscriptions.any (fun sub => (env.topicFilterError sub.topic).isNone) &&
        msg.retryCount ≤ maxRetryCount && (res .subscribeStatus).isNone && (res .send).isNone
  | .unsubscribe, .request (.batchUnsubscribe msg) =>
      msg.topics.any (fun topic => (env.topicFilterError topic).isNone) &&
        msg.retryCount ≤ maxRetryCount && (res .unsubscribeStatus).isNone && (res .send).isNone
  | .pingreq, .request (.sendPing lastRetryCount) =>
      lastRetryCount ≤ maxRetryCount && (res .pingStatus).isNone && (res .send).isNone
  | .connect, .connect _ => res .connectStatus ≠ some .closed && res .send ≠ some .closed
  | .disconnect, .request (.disconnect msg) =>
      (msg.force || s.packetSendFinished) && (res .send).isNone
  | _, _ => false

/-- Whether RecvPublishActor answers PUBREC when the status of a level 2 message is known. -/
def queuesPubrec (res : Actor → Option SendError) (retryCount : UInt16) (answer : Answer) : Bool :=
  (match answer with
    | .error _ => false
    | .publishStatus none => retryCount ≠ 0 || (res .message).isNone
    | _ => true) &&
  (res .publishStatus).isNone && (res .send).isNone

/-- Whether a packet is queued in a step. -/
def queuesPacket (env : Env) (w : ClientWorld) (mv : ClientMove) : Bool :=
  let res := w.results mv.full
  match mv.label with
  | .take a m => queues env res w.state a m.body
  | .run ⟨_, .notify notice⟩ => queues env res w.state notice.owner (.request notice.request)
  | .run ⟨_, .resumed (.recvLevel2 _ _ retryCount) answer⟩ => queuesPubrec res retryCount answer
  | _ => false

/-- DISCONNECT is written or in SendActor's mailbox, and no StopMessage is there yet. -/
def farewell (w : ClientWorld) : Bool := .disconnect ∈ outbox w && .stop ∉ sendMail w

/-! ## What enters SendActor's mailbox -/

section Step

variable {env : Env} {w w' : ClientWorld} {mv : ClientMove} {s : State} {es : Out}

theorem Attempt.accepted {ctx : Ctx} {statusTag sendTag : String} {a : Attempt} {m : Msg}
    (other : a.status ≠ .send) (sent : .post .send m ∈ a.out ctx statusTag sendTag) :
    ctx.res a.status = none ∧ ctx.res .send = none := by
  unfold Attempt.out trySend trySendPacket at sent
  cases status : ctx.res a.status with
  | some e => cases e <;> simp [status, handleSendErrorWithResend, sendError, doSendStop, resend] at sent
  | none =>
      cases send : ctx.res .send with
      | some e =>
          cases e <;> simp [status, send, handleSendErrorWithResend, sendError, doSendStop, resend] at sent
          all_goals exact absurd sent.1.symm other
      | none => exact ⟨rfl, rfl⟩

theorem Attempts.queues {ctx : Ctx} {b : Body} {a : Attempt} {m : Msg}
    (attempts : Attempts env ctx s b a) (sent : .post .send m ∈ (handleBody env ctx b s).2) :
    queues env ctx.res s ctx.self b := by
  obtain ⟨statusTag, sendTag, same⟩ := attempts.handleBody_eq
  rw [same] at sent
  have accepted := Attempt.accepted (by cases attempts <;> nofun) sent
  obtain ⟨self, o, now, res⟩ := ctx
  cases attempts with
  | publish1 msg self below valid qos | publish2 msg self below valid qos =>
      cases self
      simp_all [ActixMqtt.queues]
  | pubrec id retryCount self below | pubrel id retryCount self below =>
      cases self
      simp_all [ActixMqtt.queues]
  | subscribe msg self below valid =>
      cases self
      simp_all [ActixMqtt.queues]
  | unsubscribe msg self below valid =>
      cases self
      simp_all [ActixMqtt.queues]
  | sendPing lastRetryCount self below =>
      cases self
      simp_all [ActixMqtt.queues]

theorem Sends.queues {ctx : Ctx} {b : Body} {packet : VariablePacket} {m : Msg}
    (sends : Sends env ctx s b packet) (sent : .post .send m ∈ (handleBody env ctx b s).2) :
    queues env ctx.res s ctx.self b := by
  obtain ⟨self, o, now, res⟩ := ctx
  cases sends with
  | attempt attempts => exact attempts.queues sent
  | publish0 msg self below qos =>
      cases self
      simp only [handleBody, SendPublishActor.receive, SendPublishActor.handle, if_neg below,
        SendPublishActor.createPacketAndIdFromMessage, qos] at sent
      cases valid : env.topicNameError msg.topic with
      | some text => simp [valid, sendError] at sent
      | none =>
          cases send : res .send with
          | some e =>
              cases e <;> simp [valid, send, SendPublishActor.level0, trySendPacket,
                handleSendError, sendError, doSendStop] at sent
          | none => simp_all [ActixMqtt.queues]
  | puback packet id retryCount self below qos =>
      cases self
      simp only [handleBody, RecvPublishActor.receive, RecvPublishActor.handle, qos,
        if_neg below] at sent
      cases send : res .send with
      | some e =>
          cases e <;> simp [send, RecvPublishActor.level1, trySendPacket,
            handleSendErrorWithResend, sendError, doSendStop, resend] at sent
      | none => simp_all [ActixMqtt.queues]
  | disconnect msg self through =>
      cases self
      simp only [handleBody, DisconnectActor.receive, DisconnectActor.handle, if_pos through,
        sendPacket] at sent
      cases send : res .send with
      | some e =>
          cases e <;> simp [send, trySendPacket, handleSendErrorWithResend, sendError,
            doSendStop, resend] at sent
      | none => simp_all [ActixMqtt.queues]
  | connect msg self =>
      cases self
      simp only [handleBody, ConnectActor.receive, ConnectActor.handle, doSend] at sent
      split at sent
      · simp [sendError, doSendStop] at sent
      · split at sent
        · simp [sendError, doSendStop] at sent
        · simp_all [ActixMqtt.queues]

theorem level2Answered_queues {ctx : Ctx} {id retryCount : UInt16} {packet : PublishPacket}
    {answer : Answer} {m : Msg}
    (sent : .post .send m ∈ RecvPublishActor.level2Answered ctx id packet retryCount answer) :
    queuesPubrec ctx.res retryCount answer := by
  have acknowledged (sent : .post .send m ∈ RecvPublishActor.acknowledge ctx id packet retryCount) :
      ctx.res .publishStatus = none ∧ ctx.res .send = none := by
    unfold RecvPublishActor.acknowledge trySend trySendPacket at sent
    cases status : ctx.res .publishStatus with
    | some e =>
        cases e <;> simp [status, handleSendErrorWithResend, sendError, doSendStop, resend] at sent
    | none =>
        cases send : ctx.res .send with
        | some e =>
            cases e <;> simp [status, send, handleSendErrorWithResend, sendError, doSendStop,
              resend] at sent
        | none => exact ⟨rfl, rfl⟩
  unfold RecvPublishActor.level2Answered at sent
  split at sent
  · rename_i e
    cases e <;> simp [handleMailboxErrorWithResend, sendError, doSendStop, resend] at sent
  · split at sent
    · rename_i fresh
      unfold RecvPublishActor.deliver at sent
      cases message : ctx.res .message with
      | some e =>
          cases e <;> simp [message, handleSendErrorWithResend, sendError, doSendStop,
            resend] at sent
      | none =>
          simp only [message, List.mem_cons, reduceCtorEq, false_or] at sent
          simp [queuesPubrec, acknowledged sent, message]
    · rename_i again
      simp [queuesPubrec, acknowledged sent, again]
  · rename_i answer' notError notNone
    have := acknowledged sent
    simp_all [queuesPubrec]

/-- What a step posts to SendActor: a StopMessage, a packet of a handler, or the PUBREC of a
    future. -/
theorem toSend_step {m : Msg} (holds : genuine.Holds w)
    (reacted : w.reaction (system env) (w.results mv.full) mv.label = some (s, es))
    (posted : .post .send m ∈ es) :
    m.body = .stop ∨
    (∃ a o b packet, Handles mv.label a o b ∧ m = ⟨o, .request (.packet ⟨packet, 0⟩)⟩ ∧
      Sends env ⟨a, o, w.state.now, w.results mv.full⟩ w.state b packet) ∨
    ∃ o id packet retryCount answer,
      mv.label = .run ⟨o, .resumed (.recvLevel2 id packet retryCount) answer⟩ ∧
        m = ⟨o, .request (.packet ⟨.pubrec id, 0⟩)⟩ := by
  cases post_step holds reacted posted with
  | handler handles produces =>
      rcases produces.toSend with stop | ⟨packet, rfl, sends⟩
      · exact .inl stop
      · exact .inr (.inl ⟨_, _, _, packet, handles, rfl, sends⟩)
  | asks o future b label awaits question =>
      exact absurd (congrArg Prod.fst question) awaits.asked.1
  | resend o deadline req label asks home | retry o future answer req label asks home other =>
      exact absurd rfl (Request.home_ne home).1
  | note o id retryCount packet answer label qos told => cases told
  | pubrec o id retryCount packet answer label told =>
      exact .inr (.inr ⟨o, id, packet, retryCount, answer, label, rfl⟩)
  | stop o told => exact .inl rfl
  | arrives o label arrives => cases arrives

theorem queuesPacket_of_post {m : Msg} (holds : genuine.Holds w)
    (reacted : w.reaction (system env) (w.results mv.full) mv.label = some (s, es))
    (posted : .post .send m ∈ es) : m.body = .stop ∨ queuesPacket env w mv := by
  rcases toSend_step holds reacted posted with stop | ⟨a, o, b, packet, handles, rfl, sends⟩ |
    ⟨o, id, packet, retryCount, answer, label, rfl⟩
  · exact .inl stop
  · refine .inr ?_
    have queues := sends.queues (by rw [handles.reaction reacted]; exact posted)
    rcases handles.label_eq with label | ⟨notice, label, rfl, rfl⟩
    · rw [queuesPacket, label]
      exact queues
    · rw [queuesPacket, label]
      exact queues
  · refine .inr ?_
    have resumed : resume env ⟨o, .resumed (.recvLevel2 id packet retryCount) answer⟩
      (w.results mv.full) w.state = (s, es) := (World.reaction_run.mp (label ▸ reacted)).2.2
    obtain rfl := (Prod.mk.inj resumed).2
    rw [queuesPacket, label]
    exact level2Answered_queues posted

/-! ## In the order of SendActor's mailbox -/

theorem toWrite_append (front back : List Body) :
    toWrite (front ++ back) =
      toWrite front ++ if .stop ∈ front then [] else toWrite back := by
  fun_induction toWrite front with
  | case1 => simp
  | case2 msg bodies ih => simp [toWrite, ih]
  | case3 bodies => simp [toWrite]
  | case4 b bodies packet stop ih =>
      have other : ¬ (.stop : Body) = b := fun same => stop same.symm
      rw [List.cons_append, toWrite.eq_4 _ _ packet stop, ih]
      simp [other]

theorem toWrite_stops {bodies : List Body} (stops : ∀ b ∈ bodies, b = .stop) :
    toWrite bodies = [] := by
  cases bodies with
  | nil => rfl
  | cons b bodies =>
      obtain rfl := stops b List.mem_cons_self
      rfl

theorem mem_toWrite {packet : VariablePacket} {bodies : List Body}
    (member : packet ∈ toWrite bodies) : ∃ n, .request (.packet ⟨packet, n⟩) ∈ bodies := by
  fun_induction toWrite bodies with
  | case1 => cases member
  | case2 msg bodies ih =>
      rcases List.mem_cons.mp member with rfl | later
      · exact ⟨msg.retryCount, List.mem_cons_self⟩
      · obtain ⟨n, there⟩ := ih later
        exact ⟨n, List.mem_cons_of_mem _ there⟩
  | case3 bodies => cases member
  | case4 b bodies packet' stop ih =>
      obtain ⟨n, there⟩ := ih member
      exact ⟨n, List.mem_cons_of_mem _ there⟩

theorem written_other {r : Record Actor Msg Task Input Event} {log : ClientLog}
    (other : ∀ o msg, r ≠ .took .send ⟨o, .request (.packet msg)⟩) :
    written (r :: log) = written log := by
  refine List.filterMap_cons_none ?_
  split
  · rename_i o msg
    exact absurd rfl (other o msg)
  · rfl

theorem written_emitted (es : List Event) (log : ClientLog) :
    written (es.map .emitted ++ log) = written log := by
  simp [written, List.filterMap_append, List.filterMap_map]

theorem written_step (reacted : w.reaction (system env) (w.results mv.full) mv.label = some (s, es))
    (taken : clientStep env w mv = some w') :
    written w'.log = written w.log ∨ w.live .send ∧ (written w'.log).reverse <+: outbox w := by
  rw [World.fire_log reacted taken, written_emitted]
  by_cases writes : ∃ o msg, mv.label = .take .send ⟨o, .request (.packet msg)⟩
  · obtain ⟨o, msg, label⟩ := writes
    obtain ⟨alive, head, -⟩ := World.reaction_take.mp (label ▸ reacted)
    obtain ⟨rest, mail⟩ := List.head?_eq_some_iff.mp head
    refine .inr ⟨alive, toWrite (rest.map (·.body)), ?_⟩
    rw [label, outbox, sendMail, mail]
    simp [written, Label.record, toWrite]
  · refine .inl (written_other fun o msg same => writes ⟨o, msg, ?_⟩)
    cases label : mv.label <;> rw [label] at same <;> cases same
    rfl

theorem outbox_step (reacted : w.reaction (system env) (w.results mv.full) mv.label = some (s, es))
    (taken : clientStep env w mv = some w') (alive : w'.live .send) :
    outbox w' = (written w.log).reverse ++
      toWrite (sendMail w ++ (posts .send es).map (·.body)) := by
  have log : written w'.log = written (mv.label.record :: w.log) := by
    rw [World.fire_log reacted taken, written_emitted]
  rcases World.fire_mail reacted taken alive with ⟨⟨o, b⟩, rest, label, before, after⟩ |
    ⟨other, after⟩
  · rw [outbox, log, label, sendMail, sendMail, before, after]
    simp only [Label.record, List.map_cons, List.map_append, List.cons_append]
    by_cases packet : ∃ msg, b = .request (.packet msg)
    · obtain ⟨msg, rfl⟩ := packet
      simp [written, toWrite]
    · by_cases stop : b = .stop
      · subst stop
        have halted : stopHandler ⟨.send, o, w.state.now, w.results mv.full⟩ = es :=
          (Prod.mk.inj (World.reaction_take.mp (label ▸ reacted)).2.2).2
        refine absurd ?_ (World.not_halt_of_live reacted taken alive)
        rw [← halted]
        exact List.mem_singleton.mpr rfl
      · rw [toWrite.eq_4 _ _ (not_exists.mp packet) stop, written_other]
        rintro o msg same
        cases same
        exact packet ⟨msg, rfl⟩
  · rw [outbox, log, sendMail, after, List.map_append, ← sendMail]
    rw [written_other]
    intro o msg same
    refine other ⟨o, .request (.packet msg)⟩ ?_
    cases label : mv.label <;> rw [label] at same <;> cases same
    rfl

theorem disconnect_sent {o : Origin} {n : UInt16} (holds : genuine.Holds w)
    (reacted : w.reaction (system env) (w.results mv.full) mv.label = some (s, es))
    (sent : .post .send ⟨o, .request (.packet ⟨.disconnect, n⟩)⟩ ∈ es) :
    posts .send es = [⟨o, .request (.packet ⟨.disconnect, 0⟩)⟩] := by
  rcases toSend_step holds reacted sent with stop | ⟨a, o', b, packet, handles, same, sends⟩ |
    ⟨o', id, packet, retryCount, answer, label, same⟩
  · cases stop
  · generalize disconnect : VariablePacket.disconnect = p at same
    cases same
    cases sends with
    | attempt attempts => cases attempts <;> cases disconnect
    | disconnect msg self through =>
        obtain rfl : a = .disconnect := self
        have handled := handles.reaction reacted
        simp only [handleBody, DisconnectActor.receive, DisconnectActor.handle, if_pos through,
          sendPacket, trySendPacket] at handled
        obtain rfl := (Prod.mk.inj handled).2
        cases send : w.results mv.full .send with
        | some e =>
            cases e <;> simp [send, handleSendErrorWithResend, sendError, doSendStop,
              resend] at sent
        | none => simp [posts, queuePacket, doSendStop]
    | _ => cases disconnect
  · cases same

/-- Nothing has been written, or is going to be written, after DISCONNECT. -/
structure Parting (w : ClientWorld) : Prop where
  past : .disconnect ∉ (written w.log).tail
  ahead : w.live .send → .disconnect ∉ (outbox w).dropLast

theorem past_of_ahead {past ahead : List VariablePacket} {packet : VariablePacket}
    (before : past.reverse <+: ahead) (last : packet ∉ ahead.dropLast) : packet ∉ past.tail := by
  obtain ⟨rest, rfl⟩ := before
  intro member
  obtain ⟨last', earlier, rfl⟩ : ∃ last' earlier, past = last' :: earlier := by
    cases past with
    | nil => cases member
    | cons last' earlier => exact ⟨last', earlier, rfl⟩
  rw [List.reverse_cons, List.append_assoc, List.dropLast_append_of_ne_nil (by simp)] at last
  exact last (List.mem_append_left _ (List.mem_reverse.mpr member))

theorem parting_step (holds : genuine.Holds w) (parting : Parting w)
    (silent : farewell w → ¬ queuesPacket env w mv) (taken : clientStep env w mv = some w') :
    Parting w' := by
  obtain ⟨s, es, reacted, -⟩ := World.fire_eq_some.mp taken
  constructor
  · rcases written_step reacted taken with same | ⟨alive, before⟩
    · rw [same]
      exact parting.past
    · exact past_of_ahead before (parting.ahead alive)
  · intro alive
    have ahead := parting.ahead (World.fire_live_le taken alive)
    rw [outbox_step reacted taken alive, toWrite_append]
    by_cases stop : .stop ∈ sendMail w
    · rw [if_pos stop, List.append_nil]
      exact ahead
    rw [if_neg stop, ← List.append_assoc, ← outbox]
    by_cases left : .disconnect ∈ outbox w
    · have calm := silent (by simp [farewell, left, stop])
      have nothing : toWrite ((posts .send es).map (·.body)) = [] := by
        refine toWrite_stops fun b member => ?_
        obtain ⟨m, posted, rfl⟩ := List.mem_map.mp member
        exact (queuesPacket_of_post holds reacted (mem_posts.mp posted)).resolve_right calm
      rw [nothing, List.append_nil]
      exact ahead
    · by_cases leaving : ∃ o n, .post .send ⟨o, .request (.packet ⟨.disconnect, n⟩)⟩ ∈ es
      · obtain ⟨o, n, sent⟩ := leaving
        rw [disconnect_sent holds reacted sent]
        simpa [toWrite] using left
      · intro member
        rcases List.mem_append.mp (List.dropLast_subset _ member) with before | now
        · exact left before
        · obtain ⟨n, there⟩ := mem_toWrite now
          obtain ⟨⟨o, b⟩, posted, rfl⟩ := List.mem_map.mp there
          exact leaving ⟨o, n, mem_posts.mp posted⟩

end Step

/-- No packet is queued between DISCONNECT and the StopMessage. -/
def partsQuietly (env : Env) (w : ClientWorld) (mv : ClientMove) : Bool :=
  !farewell w || !queuesPacket env w mv

/-- When no packet is queued between DISCONNECT and the StopMessage, SendActor writes nothing after
    DISCONNECT. -/
theorem disconnect_last {env : Env} {seed : Nat} {ls : List ClientMove} {w : ClientWorld}
    (allowed : Along (clientStep env) (fun w mv => partsQuietly env w mv) (init env seed) ls)
    (run : Run env seed ls w) {o : Origin} {n : UInt16} {later earlier : ClientLog}
    (wrote : w.log = later ++ .took .send ⟨o, .request (.packet ⟨.disconnect, n⟩)⟩ :: earlier) :
    written later = [] := by
  have invariant : genuine.Holds w ∧ Parting w := by
    refine exec_invariant (fun w => genuine.Holds w ∧ Parting w) ?_
      ⟨genuine_init env seed, nofun, fun _ => nofun⟩ allowed run
    rintro w mv w' ⟨holds, parting⟩ quiet taken
    refine ⟨genuine_step holds taken, parting_step holds parting (fun farewell => ?_) taken⟩
    simpa [partsQuietly, farewell] using quiet
  have last := invariant.2.past
  rw [wrote, written, List.filterMap_append] at last
  cases after : written later with
  | nil => rfl
  | cons packet rest =>
      rw [written] at after
      simp [after] at last

/-- A publish before `disconnect(true)`. -/
def publishedBefore : List Turn :=
  [.give (.cause ⟨1, .publish "topic" .level0 [1]⟩), .handle .sendPublish,
    .give (.cause ⟨2, .disconnect ⟨true⟩⟩), .handle .disconnect, .handle .send, .handle .send]

theorem disconnect_last_publishedBefore :
    ∃ w, Run plainEnv 0 (schedule plainEnv (init plainEnv 0) publishedBefore) w ∧
      written w.log = [.disconnect, .publish ⟨"topic", .level0, [1]⟩] ∧
      ∃ later earlier, w.log = later ++
          .took .send ⟨⟨2, .disconnect ⟨true⟩⟩, .request (.packet ⟨.disconnect, 0⟩)⟩ :: earlier ∧
        written later = [] := by
  obtain ⟨w, run, packets, later, earlier, wrote⟩ :
      ∃ w, Run plainEnv 0 (schedule plainEnv (init plainEnv 0) publishedBefore) w ∧
        written w.log = [.disconnect, .publish ⟨"topic", .level0, [1]⟩] ∧
        ∃ later earlier, w.log = later ++
          .took .send ⟨⟨2, .disconnect ⟨true⟩⟩, .request (.packet ⟨.disconnect, 0⟩)⟩ :: earlier :=
    ⟨_, rfl, rfl, [_], _, rfl⟩
  exact ⟨w, run, packets, later, earlier, wrote, disconnect_last (by decide +kernel) run wrote⟩

/-- A publish through a clone of the client, after `disconnect(true)` and before StopActor has
    passed the StopMessage on. -/
def publishedAfter : List Turn :=
  [.give (.cause ⟨1, .disconnect ⟨true⟩⟩), .handle .disconnect,
    .give (.cause ⟨2, .publish "topic" .level0 [1]⟩), .handle .sendPublish, .handle .send,
    .handle .send]

theorem disconnect_not_last :
    ∃ w, Run plainEnv 0 (schedule plainEnv (init plainEnv 0) publishedAfter) w ∧
      ∃ later earlier, w.log = later ++
          .took .send ⟨⟨1, .disconnect ⟨true⟩⟩, .request (.packet ⟨.disconnect, 0⟩)⟩ :: earlier ∧
        written later = [.publish ⟨"topic", .level0, [1]⟩] :=
  ⟨_, rfl, [_, _, _], _, rfl, rfl⟩

/-! ## How often DISCONNECT is sent -/

section Said

variable {env : Env} {w w' : ClientWorld} {mv : ClientMove}

/-- DISCONNECT has entered SendActor's mailbox. -/
def saidDisconnect (w : ClientWorld) : Prop := ∃ o, .emitted (.queued o .disconnect) ∈ w.log

instance (w : ClientWorld) : Decidable (saidDisconnect w) :=
  decidable_of_iff (∃ r ∈ w.log, r matches .emitted (.queued _ .disconnect)) <| by
    constructor
    · rintro ⟨r, member, queued⟩
      split at queued
      · exact ⟨_, member⟩
      · cases queued
    · rintro ⟨o, member⟩
      exact ⟨_, member, rfl⟩

/-- The DISCONNECTs that have entered SendActor's mailbox. -/
def disconnectsQueued (log : ClientLog) : Nat :=
  log.countP (· matches .emitted (.queued _ .disconnect))

theorem disconnectsQueued_step {s : State} {es : Out}
    (reacted : w.reaction (system env) (w.results mv.full) mv.label = some (s, es))
    (taken : clientStep env w mv = some w') :
    disconnectsQueued w'.log = disconnectsQueued w.log +
      (emits es).countP (· matches .queued _ .disconnect) := by
  rw [disconnectsQueued, World.fire_countP reacted taken (by cases mv.label <;> rfl),
    ← disconnectsQueued]
  congr 1
  refine List.countP_congr fun e _ => ?_
  cases e with
  | queued o packet => cases packet <;> rfl
  | _ => rfl

theorem disconnect_reaction_queued {s : State} {es : Out} {o : Origin} {msg : Disconnect}
    (label : mv.label = .take .disconnect ⟨o, .request (.disconnect msg)⟩)
    (reacted : w.reaction (system env) (w.results mv.full) mv.label = some (s, es)) :
    (emits es).countP (· matches .queued _ .disconnect) ≤ 1 := by
  have handled : (DisconnectActor.handle ⟨.disconnect, o, w.state.now, w.results mv.full⟩ msg
    w.state).2 = es := congrArg Prod.snd (World.reaction_take.mp (label ▸ reacted)).2.2
  subst handled
  unfold DisconnectActor.handle
  split
  · unfold sendPacket trySendPacket
    split
    · rename_i e refused
      cases e <;> simp [handleSendErrorWithResend, sendError, doSendStop, resend, emits]
    · simp [queuePacket, doSendStop, emits]
  · exact Nat.zero_le 1

/-- No DISCONNECT is queued while DisconnectActor is there, and one at most when it is gone. -/
structure OneDisconnect (w : ClientWorld) : Prop where
  once : disconnectsQueued w.log ≤ 1
  first : w.live .disconnect → disconnectsQueued w.log = 0

theorem oneDisconnect_step (one : OneDisconnect w) (taken : clientStep env w mv = some w') :
    OneDisconnect w' := by
  obtain ⟨s, es, reacted, -⟩ := World.fire_eq_some.mp taken
  have counted := disconnectsQueued_step reacted taken
  by_cases queues : ∃ o, .emit (.queued o .disconnect) ∈ es
  · obtain ⟨o, queued⟩ := queues
    obtain ⟨msg, label, through⟩ := disconnect_queued reacted queued
    have now := disconnect_reaction_queued label reacted
    have left := disconnect_reaction label reacted
    rw [if_pos through] at left
    have before := one.first (World.reaction_take.mp (label ▸ reacted)).1
    exact ⟨by omega, fun alive => absurd left.1 (World.not_halt_of_live reacted taken alive)⟩
  · have silent : (emits es).countP (· matches .queued _ .disconnect) = 0 := by
      refine List.countP_eq_zero.mpr fun e member matched => ?_
      split at matched
      · exact queues ⟨_, mem_emits.mp member⟩
      · cases matched
    rw [silent, Nat.add_zero] at counted
    exact ⟨counted ▸ one.once, fun alive => counted ▸ one.first (World.fire_live_le taken alive)⟩

end Said

/-- However often a Disconnect is called for, insisted on or sent again, and whatever SendActor's
    mailbox returns, DISCONNECT is queued at most once. -/
theorem disconnect_once {env : Env} {seed : Nat} {ls : List ClientMove} {w : ClientWorld}
    (run : Run env seed ls w) : disconnectsQueued w.log ≤ 1 := by
  have start : OneDisconnect (init env seed) := ⟨Nat.zero_le 1, fun _ => rfl⟩
  exact (exec_preserves (fun _ _ _ => oneDisconnect_step) start run).once

/-- Two calls, the first one graceful; DisconnectActor is gone when the second one would be
    handled. -/
def disconnectedTwice : List Turn :=
  [.give (.cause ⟨1, .disconnect ⟨false⟩⟩), .give (.cause ⟨2, .disconnect ⟨true⟩⟩),
    .handle .disconnect]

theorem disconnect_once_disconnectedTwice :
    ∃ w, Run plainEnv 0 (schedule plainEnv (init plainEnv 0) disconnectedTwice) w ∧
      saidDisconnect w ∧ disconnectsQueued w.log ≤ 1 := by
  obtain ⟨w, run, said⟩ : ∃ w, Run plainEnv 0
      (schedule plainEnv (init plainEnv 0) disconnectedTwice) w ∧ saidDisconnect w :=
    ⟨_, rfl, by decide⟩
  exact ⟨w, run, said, disconnect_once run⟩

/-! ## DISCONNECT before the StopMessage -/

section First

variable {env : Env} {w w' : ClientWorld} {mv : ClientMove}

/-- DisconnectActor sends to SendActor when it lets a call through, and then it is gone. -/
theorem hands_letsThrough (hands : w.Hands (system env) .disconnect .send mv) :
    letsThrough w mv := by
  obtain ⟨⟨o, b⟩, s, es, m, label, reacted, posted⟩ := hands
  have handled : DisconnectActor.receive ⟨.disconnect, o, w.state.now, w.results mv.full⟩ w.state b =
    (s, es) := (World.reaction_take.mp (label ▸ reacted)).2.2
  unfold DisconnectActor.receive at handled
  split at handled
  · rename_i msg
    unfold DisconnectActor.handle at handled
    split at handled
    · rename_i through
      simpa [letsThrough, label] using through
    · obtain ⟨-, rfl⟩ := Prod.mk.inj handled
      cases posted
  · unfold DisconnectActor.handlePacketSendStatus at handled
    dsimp only at handled
    split at handled <;> obtain ⟨-, rfl⟩ := Prod.mk.inj handled <;> simp at posted
  · obtain ⟨-, rfl⟩ := Prod.mk.inj handled
    simp [stopHandler] at posted
  · obtain ⟨-, rfl⟩ := Prod.mk.inj handled
    cases posted

theorem disconnect_accepted {seed : Nat} {ls : List ClientMove} (run : Run env seed ls w)
    (parks : RefusesParked (system env) (init env seed) ls mv) {m : Msg}
    (handles : mv.label = .take .disconnect m) (alive : w.live .disconnect) :
    mv.full .send = false := by
  refine Bool.eq_false_iff.mpr fun full => ?_
  have before := parks .disconnect m .send handles full
  have gone := (disconnect_dead_run run).mpr (before.imp fun _ _ => hands_letsThrough)
  rw [gone] at alive
  cases alive

end First

/-- When DisconnectActor lets a call through while SendActor is running, DISCONNECT is the next
    message in SendActor's mailbox, however full it is, and the StopMessage of this call has yet to
    pass StopActor: all that SendActor is sent from then on, the StopMessage with it, comes after
    DISCONNECT. -/
theorem disconnect_said {env : Env} {seed : Nat} {ls : List ClientMove} {w w' : ClientWorld}
    {mv : ClientMove} (run : Run env seed ls w)
    (parks : RefusesParked (system env) (init env seed) ls mv) {o : Origin} {msg : Disconnect}
    (handles : mv.label = .take .disconnect ⟨o, .request (.disconnect msg)⟩)
    (through : msg.force || w.state.packetSendFinished) (running : w.live .send)
    (taken : clientStep env w mv = some w') :
    w'.mail .send = w.mail .send ++ [⟨o, .request (.packet ⟨.disconnect, 0⟩)⟩] ∧
      (w.live .stop → w'.mail .stop = w.mail .stop ++ [⟨o, .stop⟩]) ∧
      ∀ moves w'', exec (clientStep env) w' moves = some w'' → ∃ more,
        Grown .send (inbox .send w ++ [⟨o, .request (.packet ⟨.disconnect, 0⟩)⟩]) more w'' := by
  obtain ⟨s, es, reacted, -⟩ := World.fire_eq_some.mp taken
  obtain ⟨alive, -, handled⟩ := World.reaction_take.mp (handles ▸ reacted)
  have room := disconnect_accepted run parks handles alive
  have handled : DisconnectActor.handle ⟨.disconnect, o, w.state.now, w.results mv.full⟩ msg w.state =
    (s, es) := handled
  simp only [DisconnectActor.handle, if_pos through, sendPacket, trySendPacket, World.results,
    running, if_true, room, Bool.false_eq_true, if_false] at handled
  have effects := (Prod.mk.inj handled).2
  have lives (a : Actor) (other : a ≠ .disconnect) : w'.live a = w.live a :=
    World.fire_live reacted taken (by simp [← effects, queuePacket, doSendStop, other])
  have grows (a : Actor) (other : a ≠ .disconnect) (alive : w'.live a) :
      w'.mail a = w.mail a ++ posts a es := by
    rcases World.fire_mail reacted taken alive with ⟨m, rest, label, -⟩ | ⟨-, mail⟩
    · cases handles.symm.trans label
      exact absurd rfl other
    · exact mail
  have sent : w'.live .send := (lives .send (by decide)).trans running
  have posted : posts .send es = [⟨o, .request (.packet ⟨.disconnect, 0⟩)⟩] := by
    simp [← effects, posts, queuePacket, doSendStop]
  refine ⟨?_, fun stop => ?_, fun moves w'' later => Grown.later ?_ later⟩
  · rw [grows .send (by decide) sent, posted]
  · rw [grows .stop (by decide) ((lives .stop (by decide)).trans stop)]
    simp [← effects, posts, queuePacket, doSendStop]
  · refine ⟨fun _ => ?_, fun dead => ?_⟩
    · rw [inbox_fire reacted taken sent, posted, List.append_nil]
    · rw [sent] at dead
      cases dead

/-- Publishes fill SendActor's mailbox, which holds 16 messages. A PUBACK still gets in and parks the
    handle of RecvPublishActor, so that the next PUBACK is refused. -/
def crowded : List Turn :=
  (List.range 16).flatMap (fun n =>
    [.give (.cause ⟨n + 1, .publish "topic" .level0 [1]⟩), .handle .sendPublish]) ++
  [.give (.cause ⟨17, .received (.publish ⟨"other", .level1 1, [2]⟩) 0⟩), .handle .dispatch,
    .handle .recvPublish, .give (.cause ⟨18, .received (.publish ⟨"other", .level1 2, [3]⟩) 0⟩),
    .handle .dispatch, .refusing [.send] (.handle .recvPublish),
    .give (.cause ⟨19, .disconnect ⟨true⟩⟩)]

theorem disconnect_said_crowded : ∃ w w' mv,
    Run plainEnv 0 (schedule plainEnv (init plainEnv 0) crowded) w ∧
      mv.label = .take .disconnect ⟨⟨19, .disconnect ⟨true⟩⟩, .request (.disconnect ⟨true⟩)⟩ ∧
      clientStep plainEnv w mv = some w' ∧ (w.mail .send).length = 17 ∧
      w'.mail .send = w.mail .send ++
        [⟨⟨19, .disconnect ⟨true⟩⟩, .request (.packet ⟨.disconnect, 0⟩)⟩] := by
  obtain ⟨w, w', mv, run, label, room, taken, running, crowd⟩ : ∃ w w' mv,
      Run plainEnv 0 (schedule plainEnv (init plainEnv 0) crowded) w ∧
        mv.label = .take .disconnect
          ⟨⟨19, .disconnect ⟨true⟩⟩, .request (.disconnect ⟨true⟩)⟩ ∧
        (∀ a, mv.full a = false) ∧ clientStep plainEnv w mv = some w' ∧ w.live .send ∧
        (w.mail .send).length = 17 :=
    ⟨_, _, ⟨_, fun _ => false⟩, rfl, rfl, fun _ => rfl, rfl, rfl, rfl⟩
  have parks : RefusesParked (system plainEnv) (init plainEnv 0)
      (schedule plainEnv (init plainEnv 0) crowded) mv :=
    fun a m b _ full => absurd full (by simp [room])
  exact ⟨w, w', mv, run, label, taken, crowd, (disconnect_said run parks label rfl running taken).1⟩

end ActixMqtt
