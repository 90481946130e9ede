import ActixMqtt.Actors.Settling
import ActixMqtt.Genuine
import ActixMqtt.Stopping

/-! # What becomes of status entries

Every entry of the publish, subscribe and unsubscribe status maps is looked at again: by
a timer or future that reads and removes it, or by a retry that writes it again under
the same identifier. The exception is an attempt that takes a new identifier and whose
packet is refused after its note: nothing refers to its entry any more.
-/

namespace ActixMqtt

open ActorSystem

def StatusOperationMessage.mark {T : Type} : StatusOperationMessage T → Mark UInt16
  | .setPacketStatus id _ => .put id
  | .getAndRemovePacketStatus id | .removePacketStatus id => .drop id

/-- What a message does to the keys of the status map of an actor. -/
def Body.mark : Actor → Body → Mark UInt16
  | .publishStatus, .publishStatus op _ => op.mark
  | .subscribeStatus, .unitStatus op _ | .unsubscribeStatus, .unitStatus op _ => op.mark
  | _, _ => .keep

/-- The keys of the status maps of packets with an identifier. -/
def statusKeys (s : State) : Actor → Set UInt16
  | .publishStatus => {id | id ∈ s.publishStatus}
  | .subscribeStatus => {id | id ∈ s.subscribeStatus}
  | .unsubscribeStatus => {id | id ∈ s.unsubscribeStatus}
  | _ => ∅

/-- The keys there will be when the status actor has handled everything in its mailbox. -/
def settled (w : ClientWorld) (a : Actor) : Set UInt16 :=
  settle ((w.mail a).map (·.body.mark a)) (statusKeys w.state a)

/-- The future reads and removes the entry of `id` at actor `a`. -/
def Future.looksAt (a : Actor) (id : UInt16) (future : Future) : Bool :=
  future.question.1 = a && future.question.2.mark a = .drop id

theorem Future.looksAt_iff {a : Actor} {id : UInt16} {future : Future} :
    future.looksAt a id ↔ future.question.1 = a ∧ future.question.2.mark a = .drop id := by
  simp [Future.looksAt]

/-- An outstanding timer, or a spawned future, that looks at the entry of `id` at actor `a`. -/
def Task.looksAt (a : Actor) (id : UInt16) (t : Task) : Bool :=
  match t.job with
  | .timer _ owner future => owner.all Actor.serves && future.looksAt a id
  | .spawned future => future.looksAt a id
  | _ => false

/-- A request that makes its actor write the entry of `id` again, look at it, or remove it. -/
def Request.rewrites : Actor → UInt16 → Request → Bool
  | .pubrec, id, .packet ⟨.pubrec id', _⟩ => id' = id
  | .recvPublish, id, .packet ⟨.publish ⟨_, .level2 id', _⟩, _⟩ => id' = id
  | _, _, _ => false

/-- Something outside the mailbox of the status actor `a` refers to its entry of `id`. -/
def Attended (a : Actor) (id : UInt16) (w : ClientWorld) : Prop :=
  (∃ t ∈ w.tasks, t.looksAt a id) ∨
    a = .publishStatus ∧ ∃ o dst req, Request.rewrites dst id req ∧ onTheWay o dst req w

/-- An attempt that takes a new identifier is not refused by SendActor after its note. -/
def notedAndSent (env : Env) (w : ClientWorld) (mv : ClientMove) : Bool :=
  let goesThrough (status : Actor) : Bool :=
    w.results mv.full status ≠ none || w.results mv.full .send ≠ some .full
  match mv.label with
  | .take .sendPublish ⟨_, .request (.publish msg)⟩ =>
      msg.qos = .level0 || msg.retryCount > maxRetryCount ||
        (env.topicNameError msg.topic).isSome || goesThrough .publishStatus
  | .take .subscribe ⟨_, .request (.batchSubscribe msg)⟩ | .run ⟨_, .notify (.batchSubscribe msg)⟩ =>
      msg.retryCount > maxRetryCount ||
        (msg.subscriptions.filter fun sub => (env.topicFilterError sub.topic).isNone).isEmpty ||
        goesThrough .subscribeStatus
  | .take .unsubscribe ⟨_, .request (.batchUnsubscribe msg)⟩
  | .run ⟨_, .notify (.batchUnsubscribe msg)⟩ =>
      msg.retryCount > maxRetryCount ||
        (msg.topics.filter fun topic => (env.topicFilterError topic).isNone).isEmpty ||
        goesThrough .unsubscribeStatus
  | _ => true

/-! ## The keys of a step -/

theorem PacketStatusActor.handle_keys {T : Type} (map : PacketStatusMap T)
    (op : StatusOperationMessage T) :
    {id | id ∈ (handle map op).1} = op.mark.on {id | id ∈ map} := by
  ext id
  cases op with
  | setPacketStatus id' status => simp [handle, StatusOperationMessage.mark, Mark.on]
  | getAndRemovePacketStatus id' =>
      simp only [handle_getAndRemove, StatusOperationMessage.mark, Mark.on, Set.mem_ofPred_eq,
        AList.mem_erase, Set.mem_sdiff, Set.mem_singleton_iff]
      exact and_comm
  | removePacketStatus id' =>
      simp only [handle, StatusOperationMessage.mark, Mark.on, Set.mem_ofPred_eq, AList.mem_erase,
        Set.mem_sdiff, Set.mem_singleton_iff]
      exact and_comm

section Keys

variable {env : Env} {w w' : ClientWorld} {mv : ClientMove} {s : State} {es : Out}

theorem handleBody_keys (env : Env) (ctx : Ctx) (b : Body) (s : State) (a : Actor) :
    statusKeys (handleBody env ctx b s).1 a =
      if ctx.self = a then (b.mark a).on (statusKeys s a) else statusKeys s a := by
  obtain ⟨self, o, now, res⟩ := ctx
  have changed := handleBody_changedBy env ⟨self, o, now, res⟩ b s
  by_cases same : self = a
  · subst same
    simp only [if_true]
    cases self
    case publishStatus =>
        cases b with
        | publishStatus op future => exact PacketStatusActor.handle_keys s.publishStatus op
        | _ => rfl
    case subscribeStatus =>
        cases b with
        | unitStatus op future => exact PacketStatusActor.handle_keys s.subscribeStatus op
        | _ => rfl
    case unsubscribeStatus =>
        cases b with
        | unitStatus op future => exact PacketStatusActor.handle_keys s.unsubscribeStatus op
        | _ => rfl
    all_goals rfl
  · rw [if_neg same]
    cases self <;> simp only [State.ChangedBy] at changed <;> rw [changed] <;> cases a <;>
      first
        | rfl
        | exact absurd rfl same

theorem statusKeys_step {a : Actor}
    (reacted : w.reaction (system env) (w.results mv.full) mv.label = some (s, es)) :
    (∀ m, mv.label = .take a m → statusKeys s a = (m.body.mark a).on (statusKeys w.state a)) ∧
      ((∀ m, mv.label ≠ .take a m) → statusKeys s a = statusKeys w.state a) := by
  obtain ⟨label, full⟩ := mv
  cases label with
  | take b m =>
      have keys := handleBody_keys env ⟨b, m.origin, w.state.now, w.results full⟩ m.body w.state a
      rw [show handleBody env _ m.body w.state = (s, es) from (World.reaction_take.mp reacted).2.2]
        at keys
      refine ⟨fun m' taken => ?_, fun other => ?_⟩
      · cases taken
        simpa using keys
      · rw [keys, if_neg (fun same => other m (by rw [← same]))]
  | run t =>
      refine ⟨fun m taken => (nomatch taken), fun _ => ?_⟩
      have changed := resume_changed env t (w.results full) w.state
      rw [show resume env t _ w.state = (s, es) from (World.reaction_run.mp reacted).2.2] at changed
      rw [show s = _ from changed]
      cases a <;> rfl
  | give i =>
      refine ⟨fun m taken => (nomatch taken), fun _ => ?_⟩
      have accepted : accept env i (w.results full) w.state = some (s, es) := reacted
      cases i with
      | cause o =>
          rw [(accept_cause accepted).2]
          cases a <;> rfl
      | messageClosed | nextIdElsewhere | advance duration =>
          simp only [accept, Option.some.injEq, Prod.mk.injEq] at accepted
          obtain ⟨rfl, -⟩ := accepted
          cases a <;> rfl

theorem settled_step {a : Actor} (taken : clientStep env w mv = some w')
    (reacted : w.reaction (system env) (w.results mv.full) mv.label = some (s, es))
    (alive : w'.live a) :
    settled w' a = settle ((posts a es).map (·.body.mark a)) (settled w a) := by
  have state := World.fire_state reacted taken
  obtain ⟨handled, kept⟩ := statusKeys_step (a := a) reacted
  rcases World.fire_mail reacted taken alive with ⟨m, rest, label, before, after⟩ | ⟨other, after⟩
  · rw [settled, settled, state, before, after, List.map_append, settle_append, List.map_cons,
      settle_cons, handled m label]
  · rw [settled, settled, state, after, List.map_append, settle_append, kept other]

end Keys

/-! ## Who refers to an entry after a step -/

section Attended

variable {env : Env} {w w' : ClientWorld} {mv : ClientMove} {s : State} {es : Out} {a : Actor}
  {id : UInt16}

theorem Body.mark_serves {b : Body} (drops : b.mark a = .drop id) : a.serves := by
  unfold Body.mark at drops
  split at drops <;> first | rfl | cases drops

theorem results_ne_closed {full : Actor → Bool} (alive : w.live a) :
    w.results full a ≠ some .closed := by
  simp only [World.results, alive, if_true]
  split <;> simp

theorem post_maxRetryCountExceeded {T : Type} (ctx : Ctx) (name : String)
    (status : StatusRecipient T) (id : UInt16) (running : ctx.res status.actor ≠ some .closed) :
    .post status.actor ⟨ctx.origin, status.body (.removePacketStatus id) none⟩ ∈
      maxRetryCountExceeded ctx name status id := by
  unfold maxRetryCountExceeded doSend
  split
  · rename_i closed
    exact absurd closed running
  · exact List.mem_cons_self

theorem lives_on (inv : StopsOnRequest w) (running : ¬ stopRequested w) (serves : a.serves) :
    w.live a := Bool.of_not_eq_false fun dead => running (inv.stopped a serves dead)

theorem Task.looksAt_owner {t : Task} (looks : t.looksAt a id) {b : Actor}
    (owned : (system env).owner t = some b) : b.serves := by
  obtain ⟨o, job⟩ := t
  cases job with
  | timer deadline owner' future =>
      obtain rfl : owner' = some b := owned
      have both : b.serves ∧ future.looksAt a id := by simpa [Task.looksAt] using looks
      exact both.1
  | notify notice => cases looks
  | _ => cases owned

theorem looksAt_of_spawn {t : Task} (inv : StopsOnRequest w') (running : ¬ stopRequested w')
    (taken : clientStep env w mv = some w')
    (reacted : w.reaction (system env) (w.results mv.full) mv.label = some (s, es))
    (spawned : .spawn t ∈ es) (looks : t.looksAt a id) : ∃ t ∈ w'.tasks, t.looksAt a id :=
  ⟨t, World.mem_tasks_of_spawn_fire reacted taken
    (fun _ owned => lives_on inv running (Task.looksAt_owner looks owned)) spawned, looks⟩

/-- A task that looks at an entry leaves one that does, or posts what removes the entry. -/
theorem looksAt_step {t : Task} (inv : StopsOnRequest w') (running : ¬ stopRequested w')
    (taken : clientStep env w mv = some w')
    (reacted : w.reaction (system env) (w.results mv.full) mv.label = some (s, es))
    (member : t ∈ w.tasks) (looks : t.looksAt a id) :
    (∃ t ∈ w'.tasks, t.looksAt a id) ∨ ∃ m, .post a m ∈ es ∧ m.body.mark a = .drop id := by
  by_cases now : mv.label = .run t
  · obtain ⟨o, job⟩ := t
    have resumed : (resume env ⟨o, job⟩ (w.results mv.full) w.state).2 = es :=
      congrArg Prod.snd (World.reaction_run.mp (now ▸ reacted)).2.2
    cases job with
    | timer deadline owner future =>
        obtain ⟨-, looks⟩ : owner.all Actor.serves ∧ future.looksAt a id := by
          simpa [Task.looksAt] using looks
        refine .inl (looksAt_of_spawn (t := ⟨o, .spawned future⟩) inv running taken reacted ?_ looks)
        rw [← resumed]
        exact List.mem_singleton.mpr rfl
    | spawned future =>
        obtain ⟨question, drops⟩ := Future.looksAt_iff.mp looks
        have alive := World.fire_live_le taken (lives_on inv running (Body.mark_serves drops))
        simp only [resume, question] at resumed
        split at resumed
        · rename_i closed
          exact absurd closed (results_ne_closed alive)
        · refine .inl (looksAt_of_spawn inv running taken reacted ?_ looks)
          rw [← resumed]
          exact List.mem_singleton.mpr rfl
        · refine .inr ⟨⟨o, future.question.2⟩, ?_, drops⟩
          rw [← resumed]
          exact List.mem_singleton.mpr rfl
    | _ => cases looks
  · exact .inl ⟨t, World.mem_tasks_fire taken
      (fun _ owned => lives_on inv running (Task.looksAt_owner looks owned)) member now, looks⟩

theorem Attempts.looksAt {ctx : Ctx} {b : Body} {att : Attempt}
    (attempts : Attempts env ctx s b att) (noted : att.note.mark att.status = .put id) :
    att.check.looksAt att.status id ∧ ctx.self.serves := by
  cases attempts with
  | publish1 msg self below valid qos | publish2 msg self below valid qos =>
      cases noted
      exact ⟨by simp [Future.looksAt, Future.question, Body.mark, StatusOperationMessage.mark],
        self ▸ rfl⟩
  | pubrec id' retryCount self below =>
      cases noted
      exact ⟨by simp [Future.looksAt, Future.question, Body.mark, StatusOperationMessage.mark],
        self ▸ rfl⟩
  | subscribe msg self below valid | unsubscribe msg self below valid =>
      cases noted
      exact ⟨by simp [Future.looksAt, Future.question, Body.mark, StatusOperationMessage.mark],
        self ▸ rfl⟩
  | pubrel id' retryCount self below | sendPing lastRetryCount self below => cases noted

theorem attended_of_through {ctx : Ctx} {o : Origin} {b : Body} {att : Attempt} {now : Nat}
    (inv : StopsOnRequest w') (running : ¬ stopRequested w')
    (taken : clientStep env w mv = some w')
    (reacted : w.reaction (system env) (w.results mv.full) mv.label = some (s, es))
    (attempts : Attempts env ctx w.state b att) (noted : att.note.mark att.status = .put id)
    (through : es = [.post att.status ⟨o, att.note⟩,
      .post .send ⟨o, .request (.packet ⟨att.packet, 0⟩)⟩, .emit (.queued o att.packet),
      .spawn ⟨o, .timer (now + commandTimeout) (some ctx.self) att.check⟩]) :
    Attended att.status id w' := by
  refine .inl (looksAt_of_spawn inv running taken reacted
    (t := ⟨o, .timer (now + commandTimeout) (some ctx.self) att.check⟩) ?_ ?_)
  · simp [through]
  · simpa [Task.looksAt] using (attempts.looksAt noted).symm

/-- A note is followed by a task that looks at it, or by a retry under the same identifier. -/
theorem attempt_attended {o : Origin} {self : Actor} {b : Body} {att : Attempt}
    (inv : StopsOnRequest w) (running : ¬ stopRequested w')
    (sent : notedAndSent env w mv) (taken : clientStep env w mv = some w')
    (reacted : w.reaction (system env) (w.results mv.full) mv.label = some (s, es))
    (handles : Handles mv.label self o b)
    (attempts : Attempts env ⟨self, o, w.state.now, w.results mv.full⟩ w.state b att)
    (noted : att.note.mark att.status = .put id) (posted : .post att.status ⟨o, att.note⟩ ∈ es) :
    Attended att.status id w' := by
  rcases attempts.reaction handles reacted with stop | ⟨again, silent | refused⟩ | through
  · exact absurd (stopRequested_of_post inv taken reacted stop) running
  · exact absurd posted (silent _ _)
  · -- only PubrecActor tries again under the same identifier
    have later := onTheWay_of_resend reacted taken again
    obtain ⟨label, full⟩ := mv
    cases attempts with
    | pubrec id' retryCount self' below =>
        obtain rfl : id' = id := Mark.put.inj noted
        obtain rfl : self = .pubrec := self'
        exact .inr ⟨rfl, o, .pubrec, .packet ⟨.pubrec id', _⟩, by simp [Request.rewrites], later⟩
    | publish1 msg self' below valid qos | publish2 msg self' below valid qos =>
        obtain rfl : self = .sendPublish := self'
        rcases handles.label_eq with rfl | ⟨notice, rfl, owner, same⟩
        · simp [notedAndSent, refused, below, valid, qos] at sent
        · cases notice <;> cases same
    | subscribe msg self' below valid =>
        obtain rfl : self = .subscribe := self'
        rcases handles.label_eq with rfl | ⟨notice, rfl, owner, same⟩
        · simp [notedAndSent, refused, below, valid] at sent
        · cases notice <;> cases same
          simp [notedAndSent, refused, below, valid] at sent
    | unsubscribe msg self' below valid =>
        obtain rfl : self = .unsubscribe := self'
        rcases handles.label_eq with rfl | ⟨notice, rfl, owner, same⟩
        · simp [notedAndSent, refused, below, valid] at sent
        · cases notice <;> cases same
          simp [notedAndSent, refused, below, valid] at sent
    | pubrel id' retryCount self' below | sendPing lastRetryCount self' below => cases noted
  · exact attended_of_through (stopsOnRequest_step inv taken) running taken reacted attempts noted
      through

theorem rewrites_step {o : Origin} {dst : Actor} {req : Request} (inv : StopsOnRequest w)
    (running : ¬ stopRequested w') (taken : clientStep env w mv = some w')
    (reacted : w.reaction (system env) (w.results mv.full) mv.label = some (s, es))
    (rewrites : Request.rewrites dst id req) (there : onTheWay o dst req w) :
    Attended .publishStatus id w' ∨
      ∃ m, .post .publishStatus m ∈ es ∧ m.body.mark .publishStatus = .drop id := by
  have inv' := stopsOnRequest_step inv taken
  have alive : w.live .publishStatus := World.fire_live_le taken (lives_on inv' running rfl)
  have removed (ctx : Ctx) (name : String) (res : ctx.res = w.results mv.full)
      (gaveUp : maxRetryCountExceeded ctx name publishStatusRecipient id = es) :
      ∃ m, .post .publishStatus m ∈ es ∧ m.body.mark .publishStatus = .drop id :=
    ⟨⟨ctx.origin, .publishStatus (.removePacketStatus id) none⟩, gaveUp ▸
      post_maxRetryCountExceeded ctx name publishStatusRecipient id
        (res ▸ results_ne_closed alive), rfl⟩
  have serves : dst.serves := by
    unfold Request.rewrites at rewrites
    split at rewrites <;> first | rfl | cases rewrites
  rcases onTheWay_step inv serves taken there with stop | there | label
  · exact absurd stop running
  · exact .inl (.inr ⟨rfl, o, dst, req, rewrites, there⟩)
  · have handles : Handles mv.label dst o (.request req) := label ▸ .take dst o _
    have handled := congrArg Prod.snd (handles.reaction reacted)
    unfold Request.rewrites at rewrites
    split at rewrites
    · rename_i id' retryCount
      obtain rfl : id' = id := of_decide_eq_true rewrites
      by_cases above : retryCount > maxRetryCount
      · exact .inr (removed ⟨.pubrec, o, w.state.now, w.results mv.full⟩ "PubrecActor" rfl
          ((if_pos above).symm.trans handled))
      · have attempts : Attempts env ⟨.pubrec, o, w.state.now, w.results mv.full⟩ w.state _ _ :=
          .pubrec id' retryCount rfl above
        rcases attempts.reaction handles reacted with stop | ⟨again, -⟩ | through
        · exact absurd (stopRequested_of_post inv taken reacted stop) running
        · exact .inl (.inr ⟨rfl, o, .pubrec, .packet ⟨.pubrec id', _⟩, by simp [Request.rewrites],
            onTheWay_of_resend reacted taken again⟩)
        · exact .inl (attended_of_through inv' running taken reacted attempts rfl through)
    · rename_i topic id' payload retryCount
      obtain rfl : id' = id := of_decide_eq_true rewrites
      by_cases above : retryCount > maxRetryCount
      · exact .inr (removed ⟨.recvPublish, o, w.state.now, w.results mv.full⟩ "RecvPublishActor" rfl
          ((if_pos above).symm.trans handled))
      · refine .inl (.inl (looksAt_of_spawn inv' running taken reacted
          (t := ⟨o, .spawned (.recvLevel2 id' ⟨topic, .level2 id', payload⟩ retryCount)⟩) ?_ ?_))
        · rw [← show _ = es from (if_neg above).symm.trans handled]
          exact List.mem_singleton.mpr rfl
        · simp [Task.looksAt, Future.looksAt, Future.question, Body.mark,
            StatusOperationMessage.mark]
    · cases rewrites

theorem level2Answered_exits {ctx : Ctx} (self : ctx.self = .recvPublish) {id retryCount : UInt16}
    {packet : PublishPacket} {answer : Answer} {m : Msg}
    (posted : .post .publishStatus m ∈
      RecvPublishActor.level2Answered ctx id packet retryCount answer) :
    .post .stop ⟨ctx.origin, .stop⟩ ∈
        RecvPublishActor.level2Answered ctx id packet retryCount answer ∨
      .spawn ⟨ctx.origin, .resend (ctx.now + resendDelay) .recvPublish
          (RecvPublishActor.request packet (retryCount + 1))⟩ ∈
        RecvPublishActor.level2Answered ctx id packet retryCount answer ∨
      .spawn ⟨ctx.origin, .timer (ctx.now + commandTimeout) none
          (.checkStatusPhase2 id ⟨packet, retryCount + 1⟩)⟩ ∈
        RecvPublishActor.level2Answered ctx id packet retryCount answer := by
  have silent (tag : String) (req : Request) (e : SendError) :
      .post .publishStatus m ∉ handleSendErrorWithResend ctx tag ctx.self req e := by
    cases e <;> simp [handleSendErrorWithResend, sendError, doSendStop, resend]
  have acknowledged : .post .stop ⟨ctx.origin, .stop⟩ ∈
        RecvPublishActor.acknowledge ctx id packet retryCount ∨
      .spawn ⟨ctx.origin, .resend (ctx.now + resendDelay) .recvPublish
          (RecvPublishActor.request packet (retryCount + 1))⟩ ∈
        RecvPublishActor.acknowledge ctx id packet retryCount ∨
      .spawn ⟨ctx.origin, .timer (ctx.now + commandTimeout) none
          (.checkStatusPhase2 id ⟨packet, retryCount + 1⟩)⟩ ∈
        RecvPublishActor.acknowledge ctx id packet retryCount := by
    simp only [RecvPublishActor.acknowledge, trySend, trySendPacket, self]
    cases ctx.res .publishStatus with
    | some e => cases e <;> simp [handleSendErrorWithResend, sendError, doSendStop, resend]
    | none =>
        cases ctx.res .send with
        | some e => cases e <;> simp [handleSendErrorWithResend, sendError, doSendStop, resend]
        | none => simp [queuePacket]
  unfold RecvPublishActor.level2Answered at posted ⊢
  split at posted
  · rename_i e
    cases e <;> simp [handleMailboxErrorWithResend, sendError, doSendStop, resend] at posted
  · split at posted
    · rename_i fresh
      subst fresh
      simp only [RecvPublishActor.deliver] at posted ⊢
      split at posted
      · exact absurd posted (silent _ _ _)
      · rename_i accepts
        simpa [accepts] using acknowledged
    · rename_i again
      simpa [again] using acknowledged
  · exact acknowledged

@[simp] theorem Body.mark_request (a : Actor) (req : Request) : (Body.request req).mark a = .keep := by
  cases a <;> rfl

@[simp] theorem Body.mark_stop (a : Actor) : Body.stop.mark a = .keep := by
  cases a <;> rfl

theorem Future.question_put (future : Future) (a : Actor) (id : UInt16) :
    future.question.2.mark a ≠ .put id := by
  intro puts
  cases future with
  | statusCheck status self id' check retryMsg => cases status <;> cases a <;> cases puts
  | _ => cases a <;> cases puts

theorem Produces.noted {ctx : Ctx} {b : Body} {m : Msg}
    (produces : Produces env ctx w.state b (.post a m)) (puts : m.body.mark a = .put id) :
    ∃ att, Attempts env ctx w.state b att ∧ a = att.status ∧ m = ⟨ctx.origin, att.note⟩ := by
  generalize shape : (Effect.post a m : ClientEffect) = e at produces
  cases produces with
  | note attempts =>
      cases shape
      exact ⟨_, attempts, rfl, rfl⟩
  | giveUp gives =>
      cases shape
      cases gives <;> cases puts
  | response packet retryCount response =>
      cases shape
      unfold responseTo at response
      split at response <;> cases response <;> cases puts
  | passStop recipient self first member =>
      cases shape
      simp at puts
  | dispatch msg dst name self target =>
      cases shape
      simp at puts
  | _ =>
      cases shape
      try cases puts

/-- Who notes an entry: an attempt, or RecvPublishActor when it acknowledges. -/
theorem put_step {m : Msg} (holds : genuine.Holds w)
    (reacted : w.reaction (system env) (w.results mv.full) mv.label = some (s, es))
    (posted : .post a m ∈ es) (puts : m.body.mark a = .put id) :
    (∃ self o b att, Handles mv.label self o b ∧
        Attempts env ⟨self, o, w.state.now, w.results mv.full⟩ w.state b att ∧
        a = att.status ∧ m = ⟨o, att.note⟩) ∨
      a = .publishStatus ∧ ∃ o packet retryCount answer, packet.qos = .level2 id ∧
        mv.label = .run ⟨o, .resumed (.recvLevel2 id packet retryCount) answer⟩ := by
  cases post_step holds reacted posted with
  | handler handles produces =>
      obtain ⟨att, attempts, status, note⟩ := produces.noted puts
      exact .inl ⟨_, _, _, att, handles, attempts, status, note⟩
  | asks o future b label awaits question =>
      refine absurd puts ?_
      rw [show b = future.question.2 from congrArg Prod.snd question.symm]
      exact future.question_put a id
  | note o id' retryCount packet answer label qos told =>
      obtain rfl := told
      obtain rfl : id' = id := Mark.put.inj puts
      exact .inr ⟨rfl, o, packet, retryCount, answer, qos, label⟩
  | resend | retry | pubrec | stop => simp at puts
  | arrives o label arrives =>
      generalize shape : (Effect.post a m : ClientEffect) = e at arrives
      cases arrives <;> cases shape <;> cases puts

theorem settled_serves (left : id ∈ settled w a) : a.serves := by
  rcases mem_settle_cases left with put | ⟨known, -⟩
  · obtain ⟨m, -, puts⟩ := List.mem_map.mp put
    unfold Body.mark at puts
    split at puts <;> first | rfl | cases puts
  · cases a <;> first | rfl | cases known

/-- Every entry there will be is referred to from outside the mailbox of its status actor. -/
def AllAttended (w : ClientWorld) : Prop := ∀ a id, id ∈ settled w a → Attended a id w

theorem allAttended_step (holds : genuine.Holds w) (inv : StopsOnRequest w)
    (attended : AllAttended w) (sent : notedAndSent env w mv) (running : ¬ stopRequested w')
    (taken : clientStep env w mv = some w') : AllAttended w' := by
  intro a id left
  obtain ⟨s, es, reacted, -⟩ := World.fire_eq_some.mp taken
  have inv' := stopsOnRequest_step inv taken
  rw [settled_step taken reacted (lives_on inv' running (settled_serves left))] at left
  rcases mem_settle_cases left with put | ⟨known, kept⟩
  · obtain ⟨m, posted, puts⟩ := List.mem_map.mp put
    have posted := mem_posts.mp posted
    rcases put_step holds reacted posted puts with
      ⟨self, o, b, att, handles, attempts, rfl, rfl⟩ |
      ⟨rfl, o, packet, retryCount, answer, qos, label⟩
    · exact attempt_attended inv running sent taken reacted handles attempts puts posted
    · have resumed : RecvPublishActor.level2Answered
          ⟨.recvPublish, o, w.state.now, w.results mv.full⟩ id packet retryCount answer = es :=
        congrArg Prod.snd (World.reaction_run.mp (label ▸ reacted)).2.2
      rw [← resumed] at posted
      rcases level2Answered_exits rfl posted with stop | again | timer
      · rw [resumed] at stop
        exact absurd (stopRequested_of_post inv taken reacted stop) running
      · rw [resumed] at again
        obtain ⟨topic, qos', payload⟩ := packet
        cases qos
        exact .inr ⟨rfl, o, .recvPublish, _, by simp [Request.rewrites, RecvPublishActor.request],
          onTheWay_of_resend reacted taken again⟩
      · rw [resumed] at timer
        exact .inl (looksAt_of_spawn inv' running taken reacted timer (by
          simp [Task.looksAt, Future.looksAt, Future.question, Body.mark,
            StatusOperationMessage.mark]))
  · have dropped : ¬ ∃ m, .post a m ∈ es ∧ m.body.mark a = .drop id := by
      rintro ⟨m, posted, drops⟩
      exact kept (List.mem_map.mpr ⟨m, mem_posts.mpr posted, drops⟩)
    rcases attended a id known with ⟨t, member, looks⟩ | ⟨rfl, o, dst, req, rewrites, there⟩
    · exact .inl ((looksAt_step inv' running taken reacted member looks).resolve_right dropped)
    · exact (rewrites_step inv running taken reacted rewrites there).resolve_right dropped

end Attended

/-- While no attempt at a new identifier is refused after its note, something is left that reads,
    rewrites or removes each entry, until the client is asked to stop. -/
theorem entries_attended {env : Env} {seed : Nat} {ls : List ClientMove} {w : ClientWorld}
    (allowed : Along (clientStep env) (fun w mv => notedAndSent env w mv) (init env seed) ls)
    (run : Run env seed ls w) (running : ¬ stopRequested w) {a : Actor} {id : UInt16}
    (known : id ∈ statusKeys w.state a) :
    Attended a id w ∨ ∃ m ∈ w.mail a, m.body.mark a = .drop id := by
  have invariant : genuine.Holds w ∧ StopsOnRequest w ∧ (stopRequested w ∨ AllAttended w) := by
    refine exec_invariant
      (fun w => genuine.Holds w ∧ StopsOnRequest w ∧ (stopRequested w ∨ AllAttended w)) ?_
      ⟨genuine_init env seed, stopsOnRequest_init env seed, .inr fun a id left => ?_⟩ allowed run
    · rintro w mv w' ⟨holds, inv, attended⟩ sent taken
      refine ⟨genuine_step holds taken, stopsOnRequest_step inv taken, ?_⟩
      by_cases stop : stopRequested w'
      · exact .inl stop
      · have attended := attended.resolve_left (mt (stopRequested_step inv taken) stop)
        exact .inr (allAttended_step holds inv attended sent stop taken)
    · have serves := settled_serves left
      rcases mem_settle_cases left with put | ⟨known, -⟩
      · have empty : (init env seed).mail a = [] :=
          if_neg fun same => by simp [same, Actor.serves] at serves
        simp [empty] at put
      · cases a <;> simp [statusKeys, init] at known
  obtain ⟨holds, inv, attended⟩ := invariant
  by_cases dropped : .drop id ∈ (w.mail a).map (·.body.mark a)
  · obtain ⟨m, member, drops⟩ := List.mem_map.mp dropped
    exact .inr ⟨m, member, drops⟩
  · exact .inl (attended.resolve_left running a id (mem_settle_of_mem known dropped))

/-- A level 1 publish that goes out. -/
def sentPublish : List Turn :=
  [.give (.cause ⟨1, .publish "topic" .level1 [1]⟩), .handle .sendPublish, .handle .publishStatus]

theorem entries_attended_sentPublish :
    ∃ w, Run plainEnv 0 (schedule plainEnv (init plainEnv 0) sentPublish) w ∧
      1 ∈ statusKeys w.state .publishStatus ∧ (Attended .publishStatus 1 w ∨
        ∃ m ∈ w.mail .publishStatus, m.body.mark .publishStatus = .drop 1) := by
  obtain ⟨w, run, running, known⟩ :
      ∃ w, Run plainEnv 0 (schedule plainEnv (init plainEnv 0) sentPublish) w ∧
        ¬ stopRequested w ∧ 1 ∈ w.state.publishStatus := ⟨_, rfl, by decide, by decide⟩
  exact ⟨w, run, known, entries_attended (by decide +kernel) run running known⟩

/-- SendActor refuses the packet of an attempt whose note has been accepted. -/
def refusedPublish : List Turn :=
  [.give (.cause ⟨1, .publish "topic" .level1 [1]⟩), .refusing [.send] (.handle .sendPublish),
    .handle .publishStatus]

def refusedSubscribe : List Turn :=
  [.give (.cause ⟨1, .subscribe ⟨"topic", .level1⟩⟩), .handle .subscribe,
    .refusing [.send] (.task 0), .handle .subscribeStatus]

def refusedUnsubscribe : List Turn :=
  [.give (.cause ⟨1, .unsubscribe ⟨"topic"⟩⟩), .handle .unsubscribe,
    .refusing [.send] (.task 0), .handle .unsubscribeStatus]

private theorem not_attended {w : ClientWorld} {a : Actor} {id : UInt16}
    (tasks : w.tasks.all fun t => !t.looksAt a id && match t.job with
      | .resend _ dst req => !Request.rewrites dst id req
      | _ => true)
    (pubrec : w.mail .pubrec = []) (recvPublish : w.mail .recvPublish = [])
    (status : w.mail a = []) :
    ¬ (Attended a id w ∨ ∃ m ∈ w.mail a, m.body.mark a = .drop id) := by
  rw [status]
  rintro ((⟨t, member, looks⟩ | ⟨rfl, o, dst, req, rewrites, ⟨deadline, member⟩ | member⟩) |
    ⟨m, member, -⟩)
  · have := List.all_eq_true.mp tasks t member
    simp [looks] at this
  · have := List.all_eq_true.mp tasks _ member
    simp [rewrites] at this
  · unfold Request.rewrites at rewrites
    split at rewrites
    · simp [pubrec] at member
    · simp [recvPublish] at member
    · cases rewrites
  · cases member

/-- The retry takes another identifier, and nothing is left that refers to the entry. -/
theorem entries_orphaned :
    (∃ w, Run plainEnv 0 (schedule plainEnv (init plainEnv 0) refusedPublish) w ∧
      ¬ stopRequested w ∧ 1 ∈ statusKeys w.state .publishStatus ∧
      ¬ (Attended .publishStatus 1 w ∨
        ∃ m ∈ w.mail .publishStatus, m.body.mark .publishStatus = .drop 1)) ∧
    (∃ w, Run plainEnv 0 (schedule plainEnv (init plainEnv 0) refusedSubscribe) w ∧
      ¬ stopRequested w ∧ 1 ∈ statusKeys w.state .subscribeStatus ∧
      ¬ (Attended .subscribeStatus 1 w ∨
        ∃ m ∈ w.mail .subscribeStatus, m.body.mark .subscribeStatus = .drop 1)) ∧
    ∃ w, Run plainEnv 0 (schedule plainEnv (init plainEnv 0) refusedUnsubscribe) w ∧
      ¬ stopRequested w ∧ 1 ∈ statusKeys w.state .unsubscribeStatus ∧
      ¬ (Attended .unsubscribeStatus 1 w ∨
        ∃ m ∈ w.mail .unsubscribeStatus, m.body.mark .unsubscribeStatus = .drop 1) := by
  refine ⟨⟨_, rfl, by decide, ?_, ?_⟩, ⟨_, rfl, by decide, ?_, ?_⟩, ⟨_, rfl, by decide, ?_, ?_⟩⟩
  · show 1 ∈ State.publishStatus _
    decide
  · exact not_attended (by decide) rfl rfl rfl
  · show 1 ∈ State.subscribeStatus _
    decide
  · exact not_attended (by decide) rfl rfl rfl
  · show 1 ∈ State.unsubscribeStatus _
    decide
  · exact not_attended (by decide) rfl rfl rfl

end ActixMqtt
