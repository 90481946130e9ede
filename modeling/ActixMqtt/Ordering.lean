import ActixMqtt.Pipeline

/-! # The order of PUBACKs

RecvPublishActor answers a level 1 message before it hands it on, while it handles the message
itself. So the messages are acknowledged and delivered in the order in which they came. Only
a full mailbox, of SendActor or of the user, lets a message be overtaken: it is handled again
after `RESEND_DELAY`.
-/

namespace ActixMqtt

open ActorSystem

/-- The identifier of a level 1 message. -/
def PublishPacket.level1 (packet : PublishPacket) : Option UInt16 :=
  match packet.qos with
  | .level1 id => some id
  | _ => none

def Request.level1 : Request → Option UInt16
  | .packet ⟨.publish p, _⟩ => p.level1
  | _ => none

def Msg.level1 (m : Msg) : Option (Origin × UInt16) :=
  match m.body with
  | .request req => req.level1.map fun id => (m.origin, id)
  | _ => none

/-- The level 1 message that the broker sends. -/
def Origin.receives1 (o : Origin) : Option (Origin × UInt16) :=
  match o.cause with
  | .received (.publish packet) _ => packet.level1.map fun id => (o, id)
  | _ => none

/-- The level 1 message whose PUBACK is queued in an event. -/
def Event.acked1 : Event → Option (Origin × UInt16)
  | .queued o (.puback id) => some (o, id)
  | _ => none

def VariablePacket.acks : VariablePacket → Option UInt16
  | .puback id => some id
  | _ => none

/-- The level 1 message that the user's recipient accepts in an event. -/
def Event.accepted1 : Event → Option (Origin × UInt16)
  | .accepted o packet _ => packet.level1.map fun id => (o, id)
  | _ => none

/-- RecvPublishActor finds room in the mailboxes of SendActor and of the user. -/
def roomy (mv : ClientMove) : Bool :=
  match mv.label with
  | .take .recvPublish _ => !mv.full .send && !mv.full .message
  | _ => true

/-- No level 1 message waits to be handled again. -/
def unrepeated : Local Actor Msg Task Event where
  mail _ _ := True
  task t := match t.job with
    | .resend _ _ req => req.level1 = none
    | _ => True
  event _ := True

theorem level1_request {packet : PublishPacket} {id : UInt16} (qos : packet.qos = .level2 id)
    (retryCount : UInt16) : (RecvPublishActor.request packet retryCount).level1 = none := by
  simp [RecvPublishActor.request, Request.level1, PublishPacket.level1, qos]

section Handlers

variable {env : Env} {ctx : Ctx} {s : State} {c : Cause} {b : Body}

@[simp] theorem acked1_error (o : Origin) (tag : String) (kind : ErrorKind) (text : String) :
    Event.acked1 (.error o tag kind text) = none := rfl

@[simp] theorem accepted1_error (o : Origin) (tag : String) (kind : ErrorKind) (text : String) :
    Event.accepted1 (.error o tag kind text) = none := rfl

@[simp] theorem acked1_accepted (o : Origin) (packet : PublishPacket) (message : PublishMessage) :
    Event.acked1 (.accepted o packet message) = none := rfl

@[simp] theorem accepted1_queued (o : Origin) (packet : VariablePacket) :
    Event.accepted1 (.queued o packet) = none := rfl

/-- What handling a level 1 message leaves behind: its PUBACK, then its delivery. -/
theorem level1_emits (ctx : Ctx) {packet : PublishPacket} {id : UInt16}
    (qos : packet.qos = .level1 id) (retryCount : UInt16) :
    let events := emits (RecvPublishActor.handle ctx ⟨packet, retryCount⟩)
    (events.filterMap Event.acked1).Sublist [(ctx.origin, id)] ∧
      (events.filterMap Event.accepted1).Sublist (events.filterMap Event.acked1) ∧
      (ctx.res .message = none →
        events.filterMap Event.accepted1 = events.filterMap Event.acked1) := by
  have acked : Event.acked1 (.queued ctx.origin (.puback id)) = some (ctx.origin, id) := rfl
  have level1 : packet.level1 = some id := by simp [PublishPacket.level1, qos]
  simp only [RecvPublishActor.handle, qos]
  split
  · unfold maxRetryCountExceeded doSend
    split <;> simp [handleSendError, sendError, doSendStop, emits, List.filterMap_cons]
  unfold RecvPublishActor.level1 trySendPacket RecvPublishActor.deliver
  cases ctx.res .send with
  | some e => cases e <;>
        simp [handleSendErrorWithResend, sendError, doSendStop, resend, emits, List.filterMap_cons]
  | none =>
      cases ctx.res .message with
      | some e =>
          cases e <;> simp [handleSendErrorWithResend, sendError, doSendStop, resend, emits,
            List.filterMap_cons, queuePacket, acked]
      | none =>
          simp [emits, List.filterMap_cons, queuePacket, acked, Event.accepted1, level1]

theorem level1_calm {packet : PublishPacket} {id : UInt16} (qos : packet.qos = .level1 id)
    (retryCount : UInt16) (send : ctx.res .send ≠ some .full)
    (message : ctx.res .message ≠ some .full) {t : Task} :
    .spawn t ∉ RecvPublishActor.handle ctx ⟨packet, retryCount⟩ := by
  simp only [RecvPublishActor.handle, qos]
  split
  · unfold maxRetryCountExceeded doSend
    split <;> simp [handleSendError, sendError, doSendStop]
  unfold RecvPublishActor.level1 trySendPacket RecvPublishActor.deliver
  rcases sent : ctx.res .send with - | (- | -)
  · rcases told : ctx.res .message with - | (- | -)
    · simp [queuePacket]
    · exact absurd told message
    · simp [queuePacket, handleSendErrorWithResend, sendError, doSendStop]
  · exact absurd sent send
  · simp [handleSendErrorWithResend, sendError, doSendStop]

theorem Continues.level1 {future : Future} {answer : Answer} {e : ClientEffect}
    (continues : Continues ctx future answer e) (awaits : c.Awaits future)
    (fits : answer.Fits future) :
    unrepeated.effect e ∧ ∀ m, e = .post .recvPublish m → m.level1 = none := by
  have silent {e : ClientEffect} (other : ∀ m, e ≠ .post .recvPublish m) (m : Msg)
      (same : e = .post .recvPublish m) : m.level1 = none := absurd same (other m)
  cases continues with
  | timeout future dst req => cases fits
  | redeliver id packet | resend id retryCount packet answer known =>
      obtain ⟨-, qos, -⟩ := awaits
      exact ⟨level1_request qos _, silent (by simp)⟩
  | checked status self id check retryMsg answer passes =>
      refine ⟨True.intro, fun m same => ?_⟩
      cases same
      obtain ⟨-, check⟩ := awaits
      cases check
  | phase2 id msg status pending =>
      refine ⟨True.intro, fun m same => ?_⟩
      cases same
      obtain ⟨-, qos⟩ := awaits
      simp [Msg.level1, level1_request qos]
  | _ => exact ⟨True.intro, silent (by simp)⟩

end Handlers

section Step

variable {env : Env} {seed : ℕ} {ls : List ClientMove} {w w' : ClientWorld} {mv : ClientMove}
  {s : State} {es : Out}

theorem roomy_take {m : Msg} (room : roomy mv) (label : mv.label = .take .recvPublish m) :
    w.results mv.full .send ≠ some .full ∧ w.results mv.full .message ≠ some .full := by
  obtain ⟨send, message⟩ : mv.full .send = false ∧ mv.full .message = false := by
    simpa [roomy, label] using room
  constructor
  · unfold World.results
    split <;> simp [send]
  · unfold World.results
    split <;> simp [message]

theorem unrepeated_step (known : genuine.Holds w) (calm : unrepeated.Holds w) (room : roomy mv)
    (taken : clientStep env w mv = some w') : unrepeated.Holds w' := by
  obtain ⟨s, es, reacted, -⟩ := World.fire_eq_some.mp taken
  have source := known.source reacted
  refine calm.fire (fun a m _ t left => ?_) reacted taken fun e member => ?_
  · obtain ⟨future, -, rfl⟩ := orphan_reply left
    exact True.intro
  have handled {a : Actor} {o : Origin} {b : Body} (handles : Handles mv.label a o b)
      (produces : Produces env ⟨a, o, w.state.now, w.results mv.full⟩ w.state b e) :
      unrepeated.effect e := by
    cases produces with
    | resend retries =>
        cases retries with
        | attempt attempts => cases attempts <;> rfl
        | recv1 packet id retryCount self below qos =>
            obtain rfl : a = .recvPublish := self
            have same : RecvPublishActor.handle ⟨.recvPublish, o, w.state.now, w.results mv.full⟩
              ⟨packet, retryCount⟩ = es := congrArg Prod.snd (handles.reaction reacted)
            rcases handles.label_eq with label | ⟨notice, -, owner, -⟩
            · obtain ⟨send, message⟩ := roomy_take (w := w) room label
              rw [← same] at member
              exact absurd member (level1_calm qos retryCount send message)
            · cases notice <;> cases owner
        | response packet retryCount response =>
            unfold responseTo at response
            split at response <;> first | rfl | cases response
        | disconnect msg self through => rfl
    | _ => exact True.intro
  obtain ⟨label, full⟩ := mv
  cases reaction_causes reacted e member with
  | take a m produces => exact handled (.take a m.origin m.body) produces
  | run t runs =>
      obtain ⟨o, job⟩ := t
      cases runs with
      | notify notice produces => exact handled (.notify o notice) produces
      | resumed future answer continues => exact (continues.level1 source.1 source.2).1
      | _ => exact True.intro
  | arrive o arrives => cases arrives <;> exact True.intro
  | messageClosed => exact True.intro

theorem unrepeated_run (run : Run env seed ls w) :
    (∀ mv ∈ ls, roomy mv) → unrepeated.Holds w := by
  refine exec_induction (motive := fun ls w => (∀ mv ∈ ls, roomy mv) → unrepeated.Holds w)
    (fun _ => ⟨fun _ _ _ => True.intro, fun t member => ?_, fun _ _ => True.intro⟩) ?_ run
  · obtain rfl := List.mem_singleton.mp member
    exact True.intro
  · intro ls w mv w' before calm taken room
    exact unrepeated_step (genuine_run before)
      (calm fun mv member => room mv (List.mem_append_left _ member)) (room mv (by simp)) taken

theorem dispatched1_law (known : genuine.Holds w) (calm : unrepeated.Holds w)
    (reacted : w.reaction (system env) (w.results mv.full) mv.label = some (s, es)) :
    ((posts .recvPublish es).filterMap Msg.level1).Sublist
      ((accepts env .recvPublish w mv).filterMap Msg.level1) := by
  by_cases dispatched : ∃ m, mv.label = .take .dispatch m
  · obtain ⟨m, label⟩ := dispatched
    rw [accepts_eq label reacted]
  rw [List.filterMap_eq_nil_iff.mpr fun m member => ?_]
  · exact List.nil_sublist _
  by_contra level1
  have posted := mem_posts.mp member
  have source := known.source reacted
  have waits := calm.source reacted
  have handled {a : Actor} {o : Origin} {b : Body} (handles : Handles mv.label a o b)
      (produces : Produces env ⟨a, o, w.state.now, w.results mv.full⟩ w.state b
        (.post .recvPublish m)) : False := by
    generalize shape : (Effect.post .recvPublish m : ClientEffect) = e at produces
    cases produces with
    | dispatch msg dst name self target =>
        obtain rfl : a = .dispatch := self
        rcases handles.label_eq with label | ⟨notice, -, owner, -⟩
        · exact dispatched ⟨_, label⟩
        · cases notice <;> cases owner
    | note attempts => cases attempts <;> cases shape
    | giveUp gives => cases gives <;> cases shape
    | response packet retryCount response =>
        unfold responseTo at response
        split at response <;> cases response <;> cases shape
    | passStop =>
        cases shape
        exact level1 rfl
    | _ => cases shape
  obtain ⟨label, full⟩ := mv
  cases reaction_causes reacted _ posted with
  | take a m' produces => exact handled (.take a m'.origin m'.body) produces
  | run t runs =>
      obtain ⟨o, job⟩ := t
      generalize shape : (Effect.post .recvPublish m : ClientEffect) = e at runs
      cases runs with
      | notify notice produces => exact handled (.notify o notice) (shape ▸ produces)
      | resend deadline dst req =>
          cases shape
          exact level1 (congrArg (Option.map fun id => (o, id)) waits)
      | asks future accepts =>
          obtain rfl := (Effect.post.inj shape).2
          refine level1 ?_
          cases future with
          | statusCheck status self id check retryMsg => cases status <;> rfl
          | _ => rfl
      | resumed future answer continues =>
          exact level1 ((continues.level1 source.1 source.2).2 m shape.symm)
      | _ => cases shape
  | arrive o arrives => cases arrives

theorem level1_source (known : genuine.Holds w)
    (reacted : w.reaction (system env) (w.results mv.full) mv.label = some (s, es)) {e : Event}
    (emitted : .emit e ∈ es) (level1 : e.acked1 ≠ none ∨ e.accepted1 ≠ none) :
    ∃ o packet id retryCount, packet.qos = .level1 id ∧
      mv.label = .take .recvPublish ⟨o, .request (RecvPublishActor.request packet retryCount)⟩ := by
  cases e with
  | queued o packet =>
      cases packet with
      | puback id =>
          rcases queued_reaction reacted emitted with ⟨a, b, handles, sends⟩ | ⟨_, _, _, _, -, same⟩
          · obtain ⟨self, packet, retryCount, -, qos, rfl⟩ := sends.puback_source
            obtain rfl : a = .recvPublish := self
            rcases handles.label_eq with label | ⟨notice, -, owner, -⟩
            · exact ⟨o, packet, id, retryCount, qos, label⟩
            · cases notice <;> cases owner
          · cases same
      | _ => simp [Event.acked1] at level1
  | accepted o packet message =>
      have some : packet.level1 ≠ none := by simpa [Event.accepted1] using level1
      rcases accepted_reaction reacted emitted with
        ⟨id, retryCount, label, -, ⟨level0, -⟩ | qos⟩ | ⟨id, label⟩
      · simp [PublishPacket.level1, level0] at some
      · exact ⟨o, packet, id, retryCount, qos, label⟩
      · have source := known.source reacted
        rw [label] at source
        obtain ⟨⟨-, level2, -⟩, -⟩ := source
        simp [PublishPacket.level1, level2] at some
  | error | wrote => simp [Event.acked1, Event.accepted1] at level1

theorem level1_law (known : genuine.Holds w) (room : roomy mv)
    (reacted : w.reaction (system env) (w.results mv.full) mv.label = some (s, es)) :
    ((emits es).filterMap Event.acked1).Sublist
        ((taken .recvPublish mv.label).filterMap Msg.level1) ∧
      ((emits es).filterMap Event.accepted1).Sublist ((emits es).filterMap Event.acked1) ∧
      (w.live .message →
        (emits es).filterMap Event.accepted1 = (emits es).filterMap Event.acked1) := by
  by_cases noted : ∃ e, .emit e ∈ es ∧ (e.acked1 ≠ none ∨ e.accepted1 ≠ none)
  · obtain ⟨e, emitted, level1⟩ := noted
    obtain ⟨o, packet, id, retryCount, qos, label⟩ := level1_source known reacted emitted level1
    have handled : RecvPublishActor.handle ⟨.recvPublish, o, w.state.now, w.results mv.full⟩
      ⟨packet, retryCount⟩ = es := congrArg Prod.snd (World.reaction_take.mp (label ▸ reacted)).2.2
    have takes : (taken .recvPublish mv.label).filterMap Msg.level1 = [(o, id)] := by
      rw [label]
      simp [taken, Msg.level1, Request.level1, PublishPacket.level1, RecvPublishActor.request, qos]
    obtain ⟨acked, accepted, same⟩ := level1_emits
      ⟨.recvPublish, o, w.state.now, w.results mv.full⟩ qos retryCount
    rw [handled] at acked accepted same
    rw [takes]
    refine ⟨acked, accepted, fun alive => same ?_⟩
    have open' := (roomy_take (w := w) room label).2
    show w.results mv.full .message = none
    unfold World.results at open' ⊢
    rw [if_pos alive] at open' ⊢
    cases full : mv.full .message with
    | false => rfl
    | true => simp [full] at open'
  · have none {f : Event → Option (Origin × UInt16)}
        (silent : ∀ e, .emit e ∈ es → f e = none) : (emits es).filterMap f = [] :=
      List.filterMap_eq_nil_iff.mpr fun e emitted => silent e (mem_emits.mp emitted)
    rw [none fun e emitted => by_contra fun some => noted ⟨e, emitted, .inl some⟩,
      none fun e emitted => by_contra fun some => noted ⟨e, emitted, .inr some⟩]
    exact ⟨List.nil_sublist _, List.Sublist.refl _, fun _ => rfl⟩

/-- Level 1 messages on their way through RecvPublishActor. -/
theorem relays1_run (run : Run env seed ls w) : (∀ mv ∈ ls, roomy mv) →
    Relays Msg.level1 .recvPublish ((accepted env seed ls .recvPublish).filterMap Msg.level1)
      ((eventsOf w.log).filterMap Event.acked1) w ∧
    ((eventsOf w.log).filterMap Event.accepted1).Sublist
      ((eventsOf w.log).filterMap Event.acked1) ∧
    (w.live .message → (eventsOf w.log).filterMap Event.accepted1 =
      (eventsOf w.log).filterMap Event.acked1) := by
  refine exec_induction (motive := fun ls w => (∀ mv ∈ ls, roomy mv) →
    Relays Msg.level1 .recvPublish ((accepted env seed ls .recvPublish).filterMap Msg.level1)
      ((eventsOf w.log).filterMap Event.acked1) w ∧
    ((eventsOf w.log).filterMap Event.accepted1).Sublist
      ((eventsOf w.log).filterMap Event.acked1) ∧
    (w.live .message → (eventsOf w.log).filterMap Event.accepted1 =
      (eventsOf w.log).filterMap Event.acked1)) ?_ ?_ run
  · exact fun _ => ⟨⟨List.Sublist.refl _, List.Sublist.refl _⟩, List.Sublist.refl _, fun _ => rfl⟩
  intro ls w mv w' before relayed taken room
  have earlier : ∀ mv ∈ ls, roomy mv := fun mv member => room mv (List.mem_append_left _ member)
  obtain ⟨back, delivered, same⟩ := relayed earlier
  obtain ⟨s, es, reacted, -⟩ := World.fire_eq_some.mp taken
  have known := genuine_run before
  obtain ⟨acks, delivers, all⟩ := level1_law known (room mv (by simp)) reacted
  have longer : accepted env seed (ls ++ [mv]) .recvPublish =
      accepted env seed ls .recvPublish ++ accepts env .recvPublish w mv := follow_concat before
  rw [eventsOf_step reacted taken, longer]
  simp only [List.filterMap_append]
  refine ⟨back.fire reacted taken ?_ acks, delivered.append delivers, fun alive => ?_⟩
  · exact dispatched1_law known (unrepeated_run before earlier) reacted
  · have alive := World.fire_live_le taken alive
    rw [same alive, all alive]

theorem parsed_level1 (log : ClientLog) :
    (parsed log).filterMap Msg.level1 = (arrivals log).filterMap Origin.receives1 := by
  rw [parsed, arrivals, List.filterMap_reverse, List.filterMap_reverse, List.filterMap_filterMap,
    List.filterMap_filterMap]
  refine congrArg List.reverse (List.filterMap_congr fun r _ => ?_)
  cases r with
  | gave i =>
      cases i with
      | cause o =>
          obtain ⟨serial, cause⟩ := o
          cases cause with
          | received packet bytes => cases packet <;> rfl
          | _ => rfl
      | _ => rfl
  | _ => rfl

theorem sent_acks (log : ClientLog) :
    ((sent log).map Prod.snd).filterMap VariablePacket.acks =
      ((eventsOf log).filterMap Event.acked1).map Prod.snd := by
  rw [sent_eq, List.map_filterMap, List.filterMap_filterMap, List.map_filterMap]
  refine List.filterMap_congr fun e _ => ?_
  cases e with
  | queued o packet => cases packet <;> rfl
  | _ => rfl

/-- While RecvPublishActor finds room in the mailboxes that it needs, PUBACKs are queued and written
    in the order of the messages that they answer, one at most for each, and the user gets the
    messages in that order too: as long as the user listens, exactly those that are acknowledged. -/
theorem level1_in_order (run : Run env seed ls w) (room : ∀ mv ∈ ls, roomy mv) :
    ((eventsOf w.log).filterMap Event.acked1).Sublist
      ((arrivals w.log).filterMap Origin.receives1) ∧
    ((written w.log).reverse.filterMap VariablePacket.acks).Sublist
      (((arrivals w.log).filterMap Origin.receives1).map Prod.snd) ∧
    ((eventsOf w.log).filterMap Event.accepted1).Sublist
      ((eventsOf w.log).filterMap Event.acked1) ∧
    (w.live .message → (eventsOf w.log).filterMap Event.accepted1 =
      (eventsOf w.log).filterMap Event.acked1) ∧
    (arrivals w.log).Nodup := by
  obtain ⟨back, delivered, same⟩ := relays1_run run room
  have queued : ((eventsOf w.log).filterMap Event.acked1).Sublist
      ((arrivals w.log).filterMap Origin.receives1) := by
    have routing := routing_run run
    refine back.order.trans ?_
    rw [← parsed_level1]
    refine ((routing.passed .recvPublish (by decide)).trans ?_).filterMap Msg.level1
    exact List.filter_sublist.trans ((List.sublist_append_left _ _).trans routing.queue)
  refine ⟨queued, ?_, delivered, same, (arrivals_run run).1⟩
  obtain ⟨rest, whole⟩ := written_begins run
  refine List.Sublist.trans ?_ (queued.map Prod.snd)
  rw [← sent_acks, ← whole, List.filterMap_append]
  exact List.sublist_append_left _ _

end Step

/-- The broker sends two level 1 messages. -/
def twoReceived : List Turn :=
  [.give (.cause ⟨1, .received (.publish ⟨"a", .level1 7, []⟩) 0⟩),
    .give (.cause ⟨2, .received (.publish ⟨"b", .level1 8, []⟩) 0⟩), .handle .dispatch,
    .handle .dispatch, .handle .recvPublish, .handle .recvPublish]

theorem level1_in_order_twoReceived : ∃ w,
    Run plainEnv 0 (schedule plainEnv (init plainEnv 0) twoReceived) w ∧
      ((eventsOf w.log).filterMap Event.acked1).map Prod.snd = [7, 8] ∧
      (eventsOf w.log).filterMap Event.accepted1 = (eventsOf w.log).filterMap Event.acked1 := by
  obtain ⟨w, run, alive, acks⟩ : ∃ w,
      Run plainEnv 0 (schedule plainEnv (init plainEnv 0) twoReceived) w ∧
        w.live .message ∧ ((eventsOf w.log).filterMap Event.acked1).map Prod.snd = [7, 8] :=
    ⟨_, rfl, by decide, by decide⟩
  have room : ∀ mv ∈ schedule plainEnv (init plainEnv 0) twoReceived, roomy mv := by decide
  exact ⟨w, run, acks, (level1_in_order run room).2.2.2.1 alive⟩

/-- The user's mailbox is full when the first message is handled. -/
def overtaken : List Turn :=
  [.give (.cause ⟨1, .received (.publish ⟨"a", .level1 7, []⟩) 0⟩),
    .give (.cause ⟨2, .received (.publish ⟨"b", .level1 8, []⟩) 0⟩), .handle .dispatch,
    .handle .dispatch, .refusing [.message] (.handle .recvPublish), .handle .recvPublish,
    .give (.advance resendDelay), .task 0, .handle .recvPublish]

example : ∃ w, Run plainEnv 0 (schedule plainEnv (init plainEnv 0) overtaken) w ∧
    ((eventsOf w.log).filterMap Event.acked1).map Prod.snd = [7, 8, 7] ∧
    ((eventsOf w.log).filterMap Event.accepted1).map Prod.snd = [8, 7] :=
  ⟨_, rfl, by decide, by decide⟩

end ActixMqtt
