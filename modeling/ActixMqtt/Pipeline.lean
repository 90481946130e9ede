import ActixMqtt.Actors.Relay
import ActixMqtt.Attempting

/-! # The order of packets

A packet is noted as queued exactly when SendActor is handed it, so what goes to the writer
is, packet by packet, what was queued. Messages of level 0 are never sent again by either
side: in both directions they come out at the far end of the actors that they pass, at most
once each and in the order in which they came.
-/

namespace ActixMqtt

open ActorSystem

/-! ## SendActor writes what is queued -/

/-- The packet in a message for SendActor, with the origin it is queued for. -/
def Msg.handed (m : Msg) : Option (Origin × VariablePacket) :=
  match m.body with
  | .request (.packet msg) => some (m.origin, msg.packet)
  | _ => none

def Event.handed : Event → Option (Origin × VariablePacket)
  | .queued o packet => some (o, packet)
  | _ => none

/-- SendActor is handed the packets that are noted as queued, in this order. -/
def Paired (es : Out) : Prop :=
  (posts .send es).filterMap Msg.handed = (emits es).filterMap Event.handed

theorem Paired.append {es fs : Out} (paired : Paired es) (rest : Paired fs) :
    Paired (es ++ fs) := by
  simp only [Paired, posts, emits, List.filterMap_append] at paired rest ⊢
  rw [paired, rest]

theorem paired_of_none {es : Out}
    (unsent : ∀ m o packet, .post .send m ∈ es → m.handed ≠ some (o, packet))
    (unnoted : ∀ o packet, .emit (.queued o packet) ∉ es) : Paired es := by
  have nothing : (emits es).filterMap Event.handed = [] := by
    refine List.filterMap_eq_nil_iff.mpr fun e emitted => ?_
    cases e with
    | queued o packet => exact absurd (mem_emits.mp emitted) (unnoted o packet)
    | _ => rfl
  rw [Paired, nothing]
  refine List.filterMap_eq_nil_iff.mpr fun m posted => ?_
  cases handed : m.handed with
  | none => rfl
  | some p => exact absurd handed (unsent m p.1 p.2 (mem_posts.mp posted))

theorem paired_queuePacket (ctx : Ctx) (packet : VariablePacket) :
    Paired (queuePacket ctx packet) := rfl

section Handlers

variable {env : Env} {ctx : Ctx} {s : State}

theorem paired_sendError (tag : String) (kind : ErrorKind) (text : String) :
    Paired (sendError ctx tag kind text) := rfl

theorem paired_doSendStop : Paired (doSendStop ctx) := rfl

theorem paired_handleSendError (tag : String) (e : SendError) :
    Paired (handleSendError ctx tag e) := by
  cases e <;> rfl

theorem paired_handleSendErrorWithResend (tag : String) (addr : Actor) (msg : Request)
    (e : SendError) : Paired (handleSendErrorWithResend ctx tag addr msg e) := by
  cases e <;> rfl

theorem paired_trySendPacket {packet : VariablePacket} {failed : SendError → Out} {next : Out}
    (err : ∀ e, Paired (failed e)) (rest : Paired next) :
    Paired (trySendPacket ctx packet failed next) := by
  unfold trySendPacket
  split
  · exact err _
  · exact (paired_queuePacket ctx packet).append rest

theorem paired_trySend {dst : Actor} {body : Body} {failed : SendError → Out} {next : Out}
    (other : dst ≠ .send) (err : ∀ e, Paired (failed e)) (rest : Paired next) :
    Paired (trySend ctx dst body failed next) := by
  unfold trySend
  split
  · exact err _
  · refine @Paired.append [_] _ ?_ rest
    simp [Paired, posts, emits, other]

theorem paired_deliver {id : UInt16} {packet : PublishPacket} {failed : SendError → Out}
    {next : Out} (err : ∀ e, Paired (failed e)) (rest : Paired next) :
    Paired (RecvPublishActor.deliver ctx id packet failed next) := by
  unfold RecvPublishActor.deliver
  split
  · exact err _
  · exact @Paired.append [_] _ rfl rest

theorem Sends.paired {b : Body} {packet : VariablePacket} (sends : Sends env ctx s b packet) :
    Paired (handleBody env ctx b s).2 := by
  obtain ⟨self, o, now, res⟩ := ctx
  cases sends with
  | attempt attempts =>
      obtain ⟨statusTag, sendTag, same⟩ := attempts.handleBody_eq
      rw [same]
      exact paired_trySend (by cases attempts <;> nofun) (paired_handleSendErrorWithResend _ _ _)
        (paired_trySendPacket (paired_handleSendErrorWithResend _ _ _) rfl)
  | publish0 msg home below qos =>
      cases home
      simp only [handleBody, SendPublishActor.receive, SendPublishActor.handle, if_neg below,
        SendPublishActor.createPacketAndIdFromMessage, qos]
      cases env.topicNameError msg.topic with
      | some text => exact paired_sendError _ _ _
      | none => exact paired_trySendPacket (paired_handleSendError _) rfl
  | puback packet id retryCount home below qos =>
      cases home
      simp only [handleBody, RecvPublishActor.receive, RecvPublishActor.handle, qos, if_neg below]
      exact paired_trySendPacket (paired_handleSendErrorWithResend _ _ _)
        (paired_deliver (paired_handleSendErrorWithResend _ _ _) rfl)
  | disconnect msg home through =>
      cases home
      simp only [handleBody, DisconnectActor.receive, DisconnectActor.handle, if_pos through]
      have left : Paired (sendPacket ⟨.disconnect, o, now, res⟩ "DisconnectActor::disconnect"
          .disconnect (.disconnect msg) []) :=
        paired_trySendPacket (paired_handleSendErrorWithResend _ _ _) rfl
      exact (left.append paired_doSendStop).append rfl
  | connect msg home =>
      cases home
      have refused (tag text : String) : Paired (sendError ⟨.connect, o, now, res⟩ tag
          .interrupted (text ++ env.sendErrorText .closed) ++ doSendStop ⟨.connect, o, now, res⟩) :=
        (paired_sendError _ _ _).append paired_doSendStop
      simp only [handleBody, ConnectActor.receive, ConnectActor.handle, doSend]
      split
      · exact refused _ _
      · refine @Paired.append [_] _ rfl ?_
        split
        · exact refused _ _
        · exact (paired_queuePacket _ _).append rfl

theorem paired_acknowledge (id : UInt16) (packet : PublishPacket) (retryCount : UInt16) :
    Paired (RecvPublishActor.acknowledge ctx id packet retryCount) :=
  paired_trySend (by simp) (paired_handleSendErrorWithResend _ _ _)
    (paired_trySendPacket (paired_handleSendErrorWithResend _ _ _) rfl)

theorem paired_level2Answered (id : UInt16) (packet : PublishPacket) (retryCount : UInt16)
    (answer : Answer) :
    Paired (RecvPublishActor.level2Answered ctx id packet retryCount answer) := by
  unfold RecvPublishActor.level2Answered
  split
  · rename_i e
    cases e <;> rfl
  · split
    · exact paired_deliver (paired_handleSendErrorWithResend _ _ _) (paired_acknowledge _ _ _)
    · exact paired_acknowledge _ _ _
  · exact paired_acknowledge _ _ _

end Handlers

section Step

variable {env : Env} {seed : ℕ} {ls : List ClientMove} {w w' : ClientWorld} {mv : ClientMove}
  {s : State} {es : Out}

theorem paired_step (known : genuine.Holds w)
    (reacted : w.reaction (system env) (w.results mv.full) mv.label = some (s, es)) : Paired es := by
  have handler {a : Actor} {o : Origin} {b : Body} {packet : VariablePacket}
      (handles : Handles mv.label a o b)
      (sends : Sends env ⟨a, o, w.state.now, w.results mv.full⟩ w.state b packet) : Paired es := by
    have paired := sends.paired
    rwa [handles.reaction reacted] at paired
  have future {o : Origin} {id retryCount : UInt16} {packet : PublishPacket} {answer : Answer}
      (label : mv.label = .run ⟨o, .resumed (.recvLevel2 id packet retryCount) answer⟩) :
      Paired es := by
    have resumed : (resume env ⟨o, .resumed (.recvLevel2 id packet retryCount) answer⟩
        (w.results mv.full) w.state).2 = es :=
      (Prod.mk.inj (World.reaction_run.mp (label ▸ reacted)).2.2).2
    rw [← resumed]
    exact paired_level2Answered id packet retryCount answer
  by_cases noted : ∃ o packet, .emit (.queued o packet) ∈ es
  · obtain ⟨o, packet, queued⟩ := noted
    rcases queued_reaction reacted queued with ⟨a, b, handles, sends⟩ | ⟨_, _, _, _, label, -⟩
    · exact handler handles sends
    · exact future label
  by_cases sent : ∃ m p, .post .send m ∈ es ∧ m.handed = some p
  · obtain ⟨m, p, posted, handed⟩ := sent
    rcases toSend_step known reacted posted with stop | ⟨a, o, b, packet, handles, -, sends⟩ |
      ⟨o, id, packet, retryCount, answer, label, -⟩
    · simp [Msg.handed, stop] at handed
    · exact handler handles sends
    · exact future label
  · exact paired_of_none (fun m o packet posted handed => sent ⟨m, _, posted, handed⟩)
      fun o packet queued => noted ⟨o, packet, queued⟩

theorem sent_step (reacted : w.reaction (system env) (w.results mv.full) mv.label = some (s, es))
    (taken : clientStep env w mv = some w') :
    sent w'.log = sent w.log ++ (emits es).filterMap Event.handed := by
  have silent : sent (mv.label.record :: w.log) = sent w.log := by
    cases mv.label <;> rfl
  rw [World.fire_log reacted taken, sent, List.filterMap_append, List.reverse_append, ← sent, silent,
    List.filterMap_map, ← List.filterMap_reverse, List.reverse_reverse]
  refine congrArg (sent w.log ++ ·) (List.filterMap_congr fun e _ => ?_)
  cases e <;> rfl

/-- What SendActor was handed is what was queued. -/
theorem grown_run (run : Run env seed ls w) : ∃ more,
    Grown .send [] more w ∧ more.filterMap Msg.handed = sent w.log := by
  refine exec_induction (motive := fun _ w => ∃ more, Grown .send [] more w ∧
    more.filterMap Msg.handed = sent w.log) ⟨[], ⟨fun _ => rfl, fun dead => by cases dead⟩, rfl⟩ ?_ run
  rintro _ w mv w' before ⟨more, grown, same⟩ taken
  obtain ⟨s, es, reacted, -⟩ := World.fire_eq_some.mp taken
  refine ⟨_, grown.fire reacted taken, ?_⟩
  rw [List.filterMap_append, same, paired_step (genuine_run before) reacted,
    sent_step reacted taken]

theorem written_eq (log : ClientLog) :
    (written log).reverse = ((handled .send log).reverse.filterMap Msg.handed).map Prod.snd := by
  rw [List.filterMap_reverse, List.map_reverse, handled, List.filterMap_filterMap,
    List.map_filterMap, written]
  refine congrArg List.reverse (List.filterMap_congr fun r _ => ?_)
  cases r with
  | took a m =>
      obtain ⟨o, b⟩ := m
      by_cases same : a = .send
      · subst same
        cases b with
        | request req => cases req <;> rfl
        | _ => rfl
      · simp only [if_neg same, Option.bind_none, Option.map_none]
        split
        · rename_i taken
          cases taken
          exact absurd rfl same
        · rfl
  | _ => rfl

theorem written_begins (run : Run env seed ls w) :
    (written w.log).reverse <+: (sent w.log).map Prod.snd := by
  obtain ⟨more, grown, same⟩ := grown_run run
  obtain ⟨lost, whole⟩ := grown.beginning
  refine ⟨((w.mail .send ++ lost).filterMap Msg.handed).map Prod.snd, ?_⟩
  rw [written_eq, ← same, ← List.nil_append more, ← whole, inbox, List.append_assoc,
    List.filterMap_append (l := (handled .send w.log).reverse), List.map_append]

/-- SendActor writes the packets that are queued, all of them and in this order, until it stops:
    the writer is given the encodings of the first so many. -/
theorem queued_then_written (run : Run env seed ls w) :
    (written w.log).reverse <+: (sent w.log).map Prod.snd ∧
    (w.live .send → (sent w.log).map Prod.snd =
      (written w.log).reverse ++ ((w.mail .send).filterMap Msg.handed).map Prod.snd) ∧
    writtenBytes w.log = (((sent w.log).map Prod.snd).take (written w.log).length).flatMap
      fun packet => (env.encode packet).1 := by
  obtain ⟨more, grown, same⟩ := grown_run run
  refine ⟨written_begins run, fun alive => ?_, ?_⟩
  · rw [written_eq, ← same, ← List.nil_append more, ← grown.1 alive, inbox, List.filterMap_append,
      List.map_append]
  · rw [writtenBytes_run run, ← List.length_reverse,
      ← List.prefix_iff_eq_take.mp (written_begins run)]

end Step

/-- The user sends two level 0 messages; SendActor's mailbox is full when the first is handled. -/
def secondSent : List Turn :=
  [.give (.cause ⟨1, .publish "a" .level0 []⟩), .give (.cause ⟨2, .publish "b" .level0 []⟩),
    .refusing [.send] (.handle .sendPublish), .handle .sendPublish, .handle .send]

theorem queued_then_written_secondSent : ∃ w,
    Run plainEnv 0 (schedule plainEnv (init plainEnv 0) secondSent) w ∧
      written w.log = [.publish ⟨"b", .level0, []⟩] ∧
        (written w.log).reverse <+: (sent w.log).map Prod.snd := by
  obtain ⟨w, run, writes⟩ : ∃ w,
      Run plainEnv 0 (schedule plainEnv (init plainEnv 0) secondSent) w ∧
        written w.log = [.publish ⟨"b", .level0, []⟩] := ⟨_, rfl, by decide⟩
  exact ⟨w, run, writes, (queued_then_written run).1⟩

/-! ## Level 0 -/

/-- The level 0 message that a packet carries. -/
def VariablePacket.level0 : VariablePacket → Option PublishPacket
  | .publish p => if p.qos = .level0 then some p else none
  | _ => none

/-- The level 0 message that a request is about. -/
def Request.level0 : Request → Option PublishPacket
  | .publish msg => if msg.qos = .level0 then some ⟨msg.topic, .level0, msg.payload⟩ else none
  | .packet msg => msg.packet.level0
  | _ => none

def Msg.level0 (m : Msg) : Option (Origin × PublishPacket) :=
  match m.body with
  | .request req => req.level0.map fun packet => (m.origin, packet)
  | _ => none

/-- The level 0 message that the user sends, as the packet that is to carry it. -/
def Origin.sends0 (o : Origin) : Option (Origin × PublishPacket) :=
  match o.cause with
  | .publish topic qos payload =>
      if qos = .level0 then some (o, ⟨topic, .level0, payload⟩) else none
  | _ => none

/-- The level 0 message that the broker sends. -/
def Origin.receives0 (o : Origin) : Option (Origin × PublishPacket) :=
  match o.cause with
  | .received packet _ => packet.level0.map fun packet => (o, packet)
  | _ => none

/-- The level 0 message that is queued in an event. -/
def Event.queued0 : Event → Option (Origin × PublishPacket)
  | .queued o packet => packet.level0.map fun packet => (o, packet)
  | _ => none

/-- The level 0 message that the user's recipient accepts in an event. -/
def Event.accepted0 : Event → Option (Origin × PublishPacket)
  | .accepted o packet _ => if packet.qos = .level0 then some (o, packet) else none
  | _ => none

def originNow : Label Actor Msg Task Input → Option Origin
  | .give (.cause o) => some o
  | _ => none

/-- The origins of a run, oldest first. -/
def arrivals (log : ClientLog) : List Origin :=
  (log.filterMap fun
    | .gave (.cause o) => some o
    | _ => none).reverse

/-- The events of a run, oldest first. -/
def eventsOf (log : ClientLog) : List Event :=
  (log.filterMap fun
    | .emitted e => some e
    | _ => none).reverse

/-- No level 0 message waits to be sent again. -/
def raised : Local Actor Msg Task Event where
  mail _ _ := True
  task t := match t.job with
    | .resend _ _ req => req.level0 = none
    | _ => True
  event _ := True

section Laws

variable {env : Env} {ctx : Ctx} {s : State} {c : Cause} {b : Body}

theorem request_level0 {packet : PublishPacket} (above : packet.qos ≠ .level0)
    (retryCount : UInt16) : (RecvPublishActor.request packet retryCount).level0 = none :=
  if_neg above

theorem Retries.level0 {req : Request} (retries : Retries env ctx s b req) : req.level0 = none := by
  cases retries with
  | attempt attempts =>
      cases attempts with
      | publish1 msg self below valid qos | publish2 msg self below valid qos =>
          simp [Request.level0, SendPublishActor.resendMsg, qos]
      | _ => rfl
  | recv1 packet id retryCount self below qos =>
      exact request_level0 (by simp [qos]) _
  | response packet retryCount response =>
      unfold responseTo at response
      split at response <;> first | rfl | cases response
  | disconnect msg self through => rfl

theorem Produces.raised {e : ClientEffect} (produces : Produces env ctx s b e) :
    raised.effect e := by
  cases produces with
  | resend retries => exact retries.level0
  | _ => exact True.intro

theorem Continues.raised {future : Future} {answer : Answer} {e : ClientEffect}
    (continues : Continues ctx future answer e) (awaits : c.Awaits future)
    (fits : answer.Fits future) : raised.effect e := by
  cases continues with
  | timeout future dst req => cases fits
  | redeliver id packet =>
      obtain ⟨-, qos, -⟩ := awaits
      exact request_level0 (by simp [qos]) _
  | resend id retryCount packet answer known =>
      obtain ⟨-, qos, -⟩ := awaits
      exact request_level0 (by simp [qos]) _
  | _ => exact True.intro

theorem Continues.level0 {future : Future} {answer : Answer} {dst : Actor} {m : Msg}
    (continues : Continues ctx future answer (.post dst m)) (awaits : c.Awaits future)
    (other : dst ≠ .send) : m.level0 = none := by
  generalize shape : (Effect.post dst m : ClientEffect) = e at continues
  cases continues with
  | checked status self id check retryMsg answer passes =>
      cases shape
      obtain ⟨-, check⟩ := awaits
      cases check with
      | publish id msg qos => simp [Msg.level0, Request.level0, qos]
      | _ => rfl
  | publishChecked id msg status pending =>
      cases shape
      simp [Msg.level0, Request.level0, awaits.2]
  | phase2 id msg status pending =>
      cases shape
      exact congrArg (Option.map _) (request_level0 (by simp [awaits.2]) _)
  | send =>
      cases shape
      exact absurd rfl other
  | askStop | note | sendPing | stopConnect =>
      cases shape
      rfl
  | _ => cases shape

theorem Produces.level0 {dst : Actor} {m : Msg} (produces : Produces env ctx s b (.post dst m))
    (other : dst ≠ .send) : m.level0 = none ∨ ctx.self = .dispatch ∧
      ∃ packet name, DispatchActor.target packet = some (dst, name) := by
  generalize shape : (Effect.post dst m : ClientEffect) = e at produces
  cases produces with
  | send sends =>
      cases shape
      exact absurd rfl other
  | dispatch msg dst name self target =>
      cases shape
      exact .inr ⟨self, _, _, target⟩
  | note attempts =>
      cases shape
      exact .inl (by cases attempts <;> rfl)
  | giveUp gives =>
      cases shape
      exact .inl (by cases gives <;> rfl)
  | response packet retryCount response =>
      cases shape
      unfold responseTo at response
      split at response <;> cases response <;> exact .inl rfl
  | askStop | recv0 | report | passStop | insist | connecting | connack | connected =>
      cases shape
      exact .inl rfl
  | _ => cases shape

theorem level0_accepted (ctx : Ctx) {packet : PublishPacket} (qos : packet.qos = .level0) :
    ((emits (RecvPublishActor.level0 ctx packet)).filterMap Event.accepted0).Sublist
      [(ctx.origin, packet)] := by
  have silent : (emits (doSend ctx .publishStatus (.publishStatus (.removePacketStatus 0) none)
      (handleSendError ctx "RecvPublishActor:status_recipient") [])).filterMap
        Event.accepted0 = [] := by
    unfold doSend
    split <;> rfl
  rw [RecvPublishActor.level0, emits, List.filterMap_append, List.filterMap_append, ← emits, silent,
    List.nil_append, RecvPublishActor.deliver]
  split
  · rename_i e _
    cases e <;> exact List.nil_sublist _
  · simp [Event.accepted0, qos]

end Laws

section Step

variable {env : Env} {seed : ℕ} {ls : List ClientMove} {w w' : ClientWorld} {mv : ClientMove}
  {s : State} {es : Out}

theorem raised_step (known : genuine.Holds w) (holds : raised.Holds w)
    (taken : clientStep env w mv = some w') : raised.Holds w' := by
  obtain ⟨s, es, reacted, -⟩ := World.fire_eq_some.mp taken
  have source := known.source reacted
  refine holds.fire (fun a m _ t left => ?_) reacted taken fun e member => ?_
  · obtain ⟨future, -, rfl⟩ := orphan_reply left
    exact True.intro
  obtain ⟨label, full⟩ := mv
  cases reaction_causes reacted e member with
  | take a m produces => exact produces.raised
  | run t runs =>
      obtain ⟨o, job⟩ := t
      cases runs with
      | notify notice produces => exact produces.raised
      | resumed future answer continues => exact continues.raised source.1 source.2
      | _ => exact True.intro
  | arrive o arrives => cases arrives <;> exact True.intro
  | messageClosed => exact True.intro

theorem raised_run (run : Run env seed ls w) : raised.Holds w := by
  refine exec_induction (motive := fun _ w => raised.Holds w)
    ⟨fun _ _ _ => True.intro, fun t member => ?_, fun _ _ => True.intro⟩
    (fun _ _ _ _ before holds taken => raised_step (genuine_run before) holds taken) run
  obtain rfl := List.mem_singleton.mp member
  exact True.intro

/-- Where a level 0 message is posted: on arrival, by DispatchActor, or to SendActor. -/
theorem level0_post {dst : Actor} {m : Msg} (known : genuine.Holds w) (holds : raised.Holds w)
    (reacted : w.reaction (system env) (w.results mv.full) mv.label = some (s, es))
    (posted : .post dst m ∈ es) (level0 : m.level0 ≠ none) (other : dst ≠ .send) :
    (∃ o, mv.label = .give (.cause o) ∧ Arrives o (.post dst m)) ∨
      (∃ m', mv.label = .take .dispatch m') ∧
        ∃ packet name, DispatchActor.target packet = some (dst, name) := by
  have source := known.source reacted
  have calm := holds.source reacted
  obtain ⟨label, full⟩ := mv
  cases reaction_causes reacted _ posted with
  | take a m' produces =>
      obtain ⟨rfl, target⟩ := (produces.level0 other).resolve_left level0
      exact .inr ⟨⟨m', rfl⟩, target⟩
  | run t runs =>
      obtain ⟨o, job⟩ := t
      generalize shape : (Effect.post dst m : ClientEffect) = e at runs
      cases runs with
      | notify notice produces =>
          subst shape
          obtain ⟨self, -⟩ := (produces.level0 other).resolve_left level0
          cases notice <;> cases self
      | resend deadline dst req =>
          cases shape
          exact absurd (congrArg (Option.map fun packet => (o, packet)) calm) level0
      | asks future accepts =>
          cases shape
          refine absurd ?_ level0
          cases future with
          | statusCheck status self id check retryMsg => cases status <;> rfl
          | _ => rfl
      | resumed future answer continues =>
          subst shape
          exact absurd (continues.level0 source.1 other) level0
      | _ => cases shape
  | arrive o arrives => exact .inl ⟨o, rfl, arrives⟩

theorem arrivals_step
    (reacted : w.reaction (system env) (w.results mv.full) mv.label = some (s, es))
    (taken : clientStep env w mv = some w') :
    arrivals w'.log = arrivals w.log ++ (originNow mv.label).toList := by
  rw [World.fire_log reacted taken, arrivals, List.filterMap_append, List.filterMap_eq_nil_iff.mpr]
  · rw [List.nil_append, List.filterMap_cons]
    cases mv.label with
    | take a m | run t => simp [Label.record, originNow, arrivals]
    | give i => cases i <;> simp [Label.record, originNow, arrivals]
  · intro r emitted
    obtain ⟨e, -, rfl⟩ := List.mem_map.mp emitted
    rfl

theorem eventsOf_step
    (reacted : w.reaction (system env) (w.results mv.full) mv.label = some (s, es))
    (taken : clientStep env w mv = some w') : eventsOf w'.log = eventsOf w.log ++ emits es := by
  have silent : eventsOf (mv.label.record :: w.log) = eventsOf w.log := by
    cases mv.label <;> rfl
  rw [World.fire_log reacted taken, eventsOf, List.filterMap_append, List.reverse_append,
    ← eventsOf, silent, List.filterMap_map, ← List.filterMap_reverse, List.reverse_reverse]
  refine congrArg (eventsOf w.log ++ ·) ?_
  exact List.filterMap_some

theorem arrivals_run (run : Run env seed ls w) :
    (arrivals w.log).Nodup ∧ ∀ o ∈ arrivals w.log, o.serial < w.state.serial := by
  refine exec_induction (motive := fun _ w => (arrivals w.log).Nodup ∧
    ∀ o ∈ arrivals w.log, o.serial < w.state.serial) ?_ ?_ run
  · exact ⟨List.nodup_nil, fun o member => nomatch member⟩
  rintro _ w mv w' _ ⟨once, old⟩ taken
  obtain ⟨s, es, reacted, -⟩ := World.fire_eq_some.mp taken
  obtain ⟨grows, new⟩ := serial_grows taken
  have given {o : Origin} (arriving : originNow mv.label = some o) :
      mv.label = .give (.cause o) := by
    unfold originNow at arriving
    split at arriving <;> cases arriving
    assumption
  rw [arrivals_step reacted taken]
  constructor
  · refine List.nodup_append.mpr ⟨once, by cases originNow mv.label <;> simp, ?_⟩
    intro o member o' arriving same
    have unused := ((serial_step taken).1 o' (given (Option.mem_toList.mp arriving))).1
    have used := old o member
    rw [same] at used
    omega
  · intro o member
    rcases List.mem_append.mp member with before | arriving
    · exact Nat.lt_of_lt_of_le (old o before) grows
    · exact new o (given (Option.mem_toList.mp arriving))

theorem calls0_law (known : genuine.Holds w) (holds : raised.Holds w)
    (reacted : w.reaction (system env) (w.results mv.full) mv.label = some (s, es)) :
    ((posts .sendPublish es).filterMap Msg.level0).Sublist
      ((originNow mv.label).toList.filterMap Origin.sends0) := by
  by_cases calls : ∃ n topic qos payload, mv.label = .give (.cause ⟨n, .publish topic qos payload⟩)
  · obtain ⟨n, topic, qos, payload, label⟩ := calls
    rw [label] at reacted ⊢
    have accepted : accept env (.cause ⟨n, .publish topic qos payload⟩) (w.results mv.full)
      w.state = some (s, es) := reacted
    simp only [accept, Option.ite_none_left_eq_some] at accepted
    obtain ⟨-, rfl⟩ := Prod.mk.inj (Option.some.inj accepted.2)
    cases qos <;> exact List.Sublist.refl _
  · rw [List.filterMap_eq_nil_iff.mpr fun m member => ?_]
    · exact List.nil_sublist _
    by_contra level0
    rcases level0_post known holds reacted (mem_posts.mp member) level0 (by simp) with
      ⟨⟨n, cause⟩, label, arrives⟩ | ⟨-, packet, name, target⟩
    · generalize shape : (Effect.post .sendPublish m : ClientEffect) = e at arrives
      cases arrives with
      | publish topic qos payload same =>
          obtain rfl : cause = _ := same
          exact calls ⟨n, topic, qos, payload, label⟩
      | _ => cases shape
    · unfold DispatchActor.target at target
      split at target <;> cases target

theorem dispatched0_law (known : genuine.Holds w) (holds : raised.Holds w)
    (reacted : w.reaction (system env) (w.results mv.full) mv.label = some (s, es)) :
    ((posts .recvPublish es).filterMap Msg.level0).Sublist
      ((accepts env .recvPublish w mv).filterMap Msg.level0) := by
  by_cases dispatched : ∃ m, mv.label = .take .dispatch m
  · obtain ⟨m, label⟩ := dispatched
    rw [accepts_eq label reacted]
  · rw [List.filterMap_eq_nil_iff.mpr fun m member => ?_]
    · exact List.nil_sublist _
    by_contra level0
    rcases level0_post known holds reacted (mem_posts.mp member) level0 (by simp) with
      ⟨o, label, arrives⟩ | ⟨taken, -⟩
    · cases arrives
    · exact dispatched taken

theorem queued0_law
    (reacted : w.reaction (system env) (w.results mv.full) mv.label = some (s, es)) :
    ((emits es).filterMap Event.queued0).Sublist
      ((taken .sendPublish mv.label).filterMap Msg.level0) := by
  by_cases noted : ∃ o p, .emit (.queued o p) ∈ es ∧ p.level0 ≠ none
  · obtain ⟨o, p, queued, level0⟩ := noted
    rcases queued_reaction reacted queued with ⟨a, b, handles, sends⟩ | ⟨_, _, _, _, -, rfl⟩
    · cases sends with
      | attempt attempts => exact absurd (by cases attempts <;> rfl) level0
      | publish0 msg self below qos =>
          cases self
          have handled : (SendPublishActor.handle env _ msg w.state).2 = es :=
            congrArg Prod.snd (handles.reaction reacted)
          rw [← handled] at queued
          have only := level0_out below qos queued
          rcases handles.label_eq with label | ⟨notice, -, self, -⟩
          · have takes : (taken .sendPublish mv.label).filterMap Msg.level0 =
                [(o, ⟨msg.topic, .level0, msg.payload⟩)] := by
              rw [label]
              simp [taken, Msg.level0, Request.level0, qos]
            rw [takes, ← handled, only]
            exact List.Sublist.refl _
          · cases notice <;> cases self
      | puback | disconnect | connect => exact absurd rfl level0
    · exact absurd rfl level0
  · rw [List.filterMap_eq_nil_iff.mpr fun e emitted => ?_]
    · exact List.nil_sublist _
    · cases e with
      | queued o p =>
          by_contra level0
          exact noted ⟨o, p, mem_emits.mp emitted, fun none => level0 (by simp [Event.queued0, none])⟩
      | _ => rfl

theorem accepted0_law (known : genuine.Holds w)
    (reacted : w.reaction (system env) (w.results mv.full) mv.label = some (s, es)) :
    ((emits es).filterMap Event.accepted0).Sublist
      ((taken .recvPublish mv.label).filterMap Msg.level0) := by
  by_cases noted : ∃ o p message, .emit (.accepted o p message) ∈ es ∧ p.qos = .level0
  · obtain ⟨o, p, message, accepted, qos⟩ := noted
    have source := known.source reacted
    rcases accepted_reaction reacted accepted with ⟨_, retryCount, label, below, -⟩ | ⟨_, label⟩
    · have handled : RecvPublishActor.handle
          ⟨.recvPublish, o, w.state.now, w.results mv.full⟩ ⟨p, retryCount⟩ = es :=
        congrArg Prod.snd (World.reaction_take.mp (label ▸ reacted)).2.2
      have takes : (taken .recvPublish mv.label).filterMap Msg.level0 = [(o, p)] := by
        rw [label]
        simp [taken, Msg.level0, Request.level0, VariablePacket.level0, RecvPublishActor.request, qos]
      rw [takes, ← handled]
      simp only [RecvPublishActor.handle, qos, if_neg below]
      exact level0_accepted _ qos
    · rw [label] at source
      obtain ⟨⟨-, level2, -⟩, -⟩ := source
      rw [qos] at level2
      cases level2
  · rw [List.filterMap_eq_nil_iff.mpr fun e emitted => ?_]
    · exact List.nil_sublist _
    · cases e with
      | accepted o p message =>
          exact if_neg fun qos => noted ⟨o, p, message, mem_emits.mp emitted, qos⟩
      | _ => rfl

/-- Level 0 messages on their way through SendPublishActor and through RecvPublishActor. -/
theorem relays0_run (run : Run env seed ls w) :
    Relays Msg.level0 .sendPublish ((arrivals w.log).filterMap Origin.sends0)
      ((eventsOf w.log).filterMap Event.queued0) w ∧
    Relays Msg.level0 .recvPublish ((accepted env seed ls .recvPublish).filterMap Msg.level0)
      ((eventsOf w.log).filterMap Event.accepted0) w := by
  refine exec_induction (motive := fun ls w =>
    Relays Msg.level0 .sendPublish ((arrivals w.log).filterMap Origin.sends0)
      ((eventsOf w.log).filterMap Event.queued0) w ∧
    Relays Msg.level0 .recvPublish ((accepted env seed ls .recvPublish).filterMap Msg.level0)
      ((eventsOf w.log).filterMap Event.accepted0) w) ?_ ?_ run
  · exact ⟨⟨List.Sublist.refl _, List.Sublist.refl _⟩, ⟨List.Sublist.refl _, List.Sublist.refl _⟩⟩
  rintro ls w mv w' before ⟨out, back⟩ taken
  obtain ⟨s, es, reacted, -⟩ := World.fire_eq_some.mp taken
  have known := genuine_run before
  have calm := raised_run before
  have longer : accepted env seed (ls ++ [mv]) .recvPublish =
      accepted env seed ls .recvPublish ++ accepts env .recvPublish w mv := follow_concat before
  rw [arrivals_step reacted taken, eventsOf_step reacted taken, longer]
  simp only [List.filterMap_append]
  exact ⟨out.fire reacted taken (calls0_law known calm reacted) (queued0_law reacted),
    back.fire reacted taken (dispatched0_law known calm reacted) (accepted0_law known reacted)⟩

theorem parsed_level0 (log : ClientLog) :
    (parsed log).filterMap Msg.level0 = (arrivals log).filterMap Origin.receives0 := by
  rw [parsed, arrivals, List.filterMap_reverse, List.filterMap_reverse, List.filterMap_filterMap,
    List.filterMap_filterMap]
  refine congrArg List.reverse (List.filterMap_congr fun r _ => ?_)
  cases r with
  | gave i =>
      cases i with
      | cause o =>
          obtain ⟨serial, cause⟩ := o
          cases cause <;> rfl
      | _ => rfl
  | _ => rfl

theorem sent_eq (log : ClientLog) : sent log = (eventsOf log).filterMap Event.handed := by
  rw [sent, eventsOf, List.filterMap_reverse, List.filterMap_filterMap]
  refine congrArg List.reverse (List.filterMap_congr fun r _ => ?_)
  cases r with
  | emitted e => cases e <;> rfl
  | _ => rfl

theorem sent_level0 (log : ClientLog) :
    ((sent log).map Prod.snd).filterMap VariablePacket.level0 =
      ((eventsOf log).filterMap Event.queued0).map Prod.snd := by
  rw [sent_eq, List.map_filterMap, List.filterMap_filterMap, List.map_filterMap]
  refine List.filterMap_congr fun e _ => ?_
  cases e with
  | queued o packet =>
      cases level0 : packet.level0 <;> simp [Event.handed, Event.queued0, level0]
  | _ => rfl

/-- Level 0 is at most once and in order: the user's messages reach the writer, and the broker's
    messages the user, as some of those that were sent, each no more than once. -/
theorem level0_in_order (run : Run env seed ls w) :
    (((written w.log).reverse.filterMap VariablePacket.level0).Sublist
      (((arrivals w.log).filterMap Origin.sends0).map Prod.snd)) ∧
    ((eventsOf w.log).filterMap Event.queued0).Sublist ((arrivals w.log).filterMap Origin.sends0) ∧
    ((eventsOf w.log).filterMap Event.accepted0).Sublist
      ((arrivals w.log).filterMap Origin.receives0) ∧
    (arrivals w.log).Nodup := by
  obtain ⟨out, back⟩ := relays0_run run
  refine ⟨?_, out.order, ?_, (arrivals_run run).1⟩
  · obtain ⟨rest, whole⟩ := written_begins run
    refine List.Sublist.trans ?_ (out.order.map Prod.snd)
    rw [← sent_level0, ← whole, List.filterMap_append]
    exact List.sublist_append_left _ _
  · have routing := routing_run run
    refine back.order.trans ?_
    rw [← parsed_level0]
    refine ((routing.passed .recvPublish (by decide)).trans ?_).filterMap Msg.level0
    exact List.filter_sublist.trans ((List.sublist_append_left _ _).trans routing.queue)

end Step

/-- The broker sends two level 0 messages; the user's mailbox is full when the first is handled. -/
def secondReceived : List Turn :=
  [.give (.cause ⟨1, .received (.publish ⟨"a", .level0, []⟩) 0⟩),
    .give (.cause ⟨2, .received (.publish ⟨"b", .level0, []⟩) 0⟩), .handle .dispatch,
    .handle .dispatch, .refusing [.message] (.handle .recvPublish), .handle .recvPublish]

theorem level0_in_order_secondReceived : ∃ w,
    Run plainEnv 0 (schedule plainEnv (init plainEnv 0) secondReceived) w ∧
      (eventsOf w.log).filterMap Event.accepted0 =
        [(⟨2, .received (.publish ⟨"b", .level0, []⟩) 0⟩, ⟨"b", .level0, []⟩)] ∧
      ((eventsOf w.log).filterMap Event.accepted0).Sublist
        ((arrivals w.log).filterMap Origin.receives0) := by
  obtain ⟨w, run, accepts⟩ : ∃ w,
      Run plainEnv 0 (schedule plainEnv (init plainEnv 0) secondReceived) w ∧
        (eventsOf w.log).filterMap Event.accepted0 =
          [(⟨2, .received (.publish ⟨"b", .level0, []⟩) 0⟩, ⟨"b", .level0, []⟩)] :=
    ⟨_, rfl, by decide⟩
  exact ⟨w, run, accepts, (level0_in_order run).2.2.1⟩

end ActixMqtt
