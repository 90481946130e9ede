import ActixMqtt.Watching

/-! # Acknowledgements in time

A level 1 publish, a subscription or an unsubscription is sent again when its check finds
the entry that the attempt noted. While nothing but its acknowledgement bears its
identifier, the entry is there when the check reads it, unless the acknowledgement has
been registered since it was noted.
-/

namespace ActixMqtt

open ActorSystem

def VariablePacket.identifier : VariablePacket → Option UInt16
  | .publish packet =>
      match packet.qos with
      | .level0 => none
      | .level1 id | .level2 id => some id
  | .puback id | .pubrec id | .pubrel id | .pubcomp id | .suback id | .unsuback id => some id
  | .subscribe id _ | .unsubscribe id _ => some id
  | _ => none

/-- The packet that acknowledges what status actor `a` keeps under an identifier. -/
def acknowledgementAt : Actor → UInt16 → Option VariablePacket
  | .publishStatus, id => some (.puback id)
  | .subscribeStatus, id => some (.suback id)
  | .unsubscribeStatus, id => some (.unsuback id)
  | _, _ => none

theorem acknowledgementAt_identifier {a : Actor} {id : UInt16} {ack : VariablePacket}
    (acknowledges : acknowledgementAt a id = some ack) : ack.identifier = some id := by
  unfold acknowledgementAt at acknowledges
  split at acknowledges <;> cases acknowledges <;> rfl

/-- The removal of an entry that the packet `ack` has caused. -/
def removedBy (ack : VariablePacket) (a : Actor) (id : UInt16) (m : Msg) : Bool :=
  m.body.mark a = .drop id &&
    match m.origin.cause with
    | .received packet _ => packet = ack
    | _ => false

/-- A packet with the identifier arrives. -/
def arrivingWith (id : UInt16) (mv : ClientMove) : Option VariablePacket :=
  match mv.label with
  | .give (.cause ⟨_, .received packet _⟩) =>
      if packet.identifier = some id then some packet else none
  | _ => none

/-- A handler calls `next_id`. -/
def takesId (env : Env) (mv : ClientMove) : Bool :=
  match mv.label with
  | .take .sendPublish ⟨_, .request (.publish msg)⟩ =>
      !(msg.retryCount > maxRetryCount) && (env.topicNameError msg.topic).isNone &&
        msg.qos ≠ .level0
  | .take .subscribe ⟨_, .request (.batchSubscribe msg)⟩ | .run ⟨_, .notify (.batchSubscribe msg)⟩ =>
      msg.subscriptions.any fun sub => (env.topicFilterError sub.topic).isNone
  | .take .unsubscribe ⟨_, .request (.batchUnsubscribe msg)⟩
  | .run ⟨_, .notify (.batchUnsubscribe msg)⟩ =>
      msg.topics.any fun topic => (env.topicFilterError topic).isNone
  | _ => false

theorem takesId_handled {env : Env} {mv : ClientMove} {a : Actor} {o : Origin} {b : Body}
    (handles : Handles mv.label a o b) :
    takesId env mv = takesId env ⟨.take a ⟨o, b⟩, mv.full⟩ :=
  handles.alike (f := fun label => takesId env ⟨label, mv.full⟩) fun o notice => by
    cases notice <;> rfl

def Job.looksAt (a : Actor) (id : UInt16) : Job → Bool
  | .timer _ _ future | .spawned future => future.looksAt a id
  | _ => false

/-- A timer or a future that has not been answered looks at the entry. -/
def lookedAt (a : Actor) (id : UInt16) (w : ClientWorld) : Bool :=
  w.tasks.any (·.job.looksAt a id) ||
    (w.mail a).any fun m => m.body.mark a = .drop id && m.body.reply.isSome

/-- `next_id` returns the identifier to a handler. -/
def returnsId (env : Env) (id : UInt16) (w : ClientWorld) (mv : ClientMove) : Bool :=
  takesId env mv && (w.state.nextId env).1 = id

/-- The broker sends nothing but `ack` with the identifier, and `next_id` does not return it. -/
def undisturbed (env : Env) (ack : VariablePacket) (id : UInt16) (w : ClientWorld)
    (mv : ClientMove) : Bool :=
  (arrivingWith id mv).all (· = ack) && !returnsId env id w mv

theorem nextId_ne_zero (env : Env) (s : State) : (s.nextId env).1 ≠ 0 := by
  intro zero
  have bound : s.counter % 65535 < 65535 := Nat.mod_lt _ (by decide)
  have same := congrArg UInt16.toNat zero
  simp only [State.nextId, nextId, UInt16.toNat_ofNat', UInt16.toNat_zero] at same
  omega

/-! ## What stems from where -/

/-- Everything in flight stems from origins of one kind. -/
def stemming (ok : Origin → Prop) : Local Actor Msg Task Event where
  mail _ m := ok m.origin
  task t := ok t.origin
  event _ := True

section Step

variable {env : Env} {w w' : ClientWorld} {mv : ClientMove} {s : State} {es : Out}
  {ok : Origin → Prop}

theorem stemming_keeps (env : Env) (ok : Origin → Prop) : (stemming ok).Keeps (system env) := by
  intro a m holds t left
  show ok t.origin
  rwa [orphan_origin left]

theorem stemming_origin {o : Origin} (holds : (stemming ok).Holds w)
    (given : ∀ o, mv.label = .give (.cause o) → ok o)
    (reacted : w.reaction (system env) (w.results mv.full) mv.label = some (s, es))
    (stems : stepOrigin mv.label = some o) : ok o := by
  have source := holds.source reacted
  obtain ⟨label, full⟩ := mv
  cases label with
  | take a m =>
      cases stems
      exact source
  | run t =>
      cases stems
      exact source
  | give i =>
      cases i with
      | cause o' =>
          cases stems
          exact given o rfl
      | messageClosed | nextIdElsewhere | advance duration => cases stems

theorem stemming_step (holds : (stemming ok).Holds w)
    (given : ∀ o, mv.label = .give (.cause o) → ok o) (taken : clientStep env w mv = some w') :
    (stemming ok).Holds w' := by
  obtain ⟨s, es, reacted, -⟩ := World.fire_eq_some.mp taken
  have passed {o : Origin} := stemming_origin (o := o) holds given reacted
  refine holds.fire (stemming_keeps env ok) reacted taken (fun e member => ?_)
  cases e with
  | post dst m => exact passed (origin_step reacted member rfl)
  | spawn t => exact passed (origin_step reacted member rfl)
  | emit event => exact True.intro
  | halt a => exact True.intro

/-! ## One check for each identifier -/

/-- A packet with identifier `id` that is received is `ack`. -/
def OnlyAck (ack : VariablePacket) (id : UInt16) (o : Origin) : Prop :=
  ∀ packet n, o.cause = .received packet n → packet.identifier = some id → packet = ack

theorem Unanswered.awaits {o : Origin} {future : Future} (holds : genuine.Holds w)
    (waits : Unanswered o future w) : o.cause.Awaits future := by
  rcases waits with ⟨deadline, owner, member⟩ | member | member
  · exact holds.tasks _ member
  · exact holds.tasks _ member
  · have genuine : future.question.2.Genuine o.cause future.question.1 := holds.mail _ _ member
    exact (genuine.of_reply (Future.question_reply future)).1

theorem Unanswered.stems {o : Origin} {future : Future} (holds : (stemming ok).Holds w)
    (waits : Unanswered o future w) : ok o := by
  rcases waits with ⟨deadline, owner, member⟩ | member | member
  · exact holds.tasks _ member
  · exact holds.tasks _ member
  · exact holds.mail _ _ member

theorem Unanswered.lookedAt {o : Origin} {future : Future} {a : Actor} {id : UInt16}
    (waits : Unanswered o future w) (looks : future.looksAt a id) : lookedAt a id w := by
  obtain ⟨question, drops⟩ := Future.looksAt_iff.mp looks
  simp only [ActixMqtt.lookedAt, Bool.or_eq_true, List.any_eq_true]
  rcases waits with ⟨deadline, owner, member⟩ | member | member
  · exact .inl ⟨_, member, looks⟩
  · exact .inl ⟨_, member, looks⟩
  · rw [question] at member
    exact .inr ⟨_, member, by simp [drops, Future.question_reply]⟩

theorem Handles.stems {a : Actor} {o : Origin} {b : Body} (handles : Handles mv.label a o b)
    (holds : (stemming ok).Holds w)
    (reacted : w.reaction (system env) (w.results mv.full) mv.label = some (s, es)) : ok o := by
  have source := holds.source reacted
  rcases handles.label_eq with label | ⟨notice, label, rfl, rfl⟩
  · rw [label] at source
    exact source
  · rw [label] at source
    exact source

theorem isCheck_of_looksAt {o : Origin} {future : Future} {a : Actor} {id : UInt16}
    {ack : VariablePacket} (awaits : o.cause.Awaits future) (only : OnlyAck ack id o)
    (acknowledges : acknowledgementAt a id = some ack) (looks : future.looksAt a id) :
    future.isCheck := by
  obtain ⟨question, drops⟩ := Future.looksAt_iff.mp looks
  cases future with
  | recvLevel2 id' packet retryCount =>
      cases question
      cases drops
      cases acknowledges
      obtain ⟨⟨n, cause⟩, qos, -⟩ := awaits
      have same := only _ n cause (by simp [VariablePacket.identifier, qos])
      cases same
  | checkStatusPhase2 id' msg =>
      cases question
      cases drops
      cases acknowledges
      obtain ⟨⟨n, cause⟩, qos⟩ := awaits
      have same := only _ n cause (by simp [VariablePacket.identifier, qos])
      cases same
  | statusCheck | publishLevel2 => rfl
  | pingConnected lastRetryCount | pingPending lastRetryCount | connectAck =>
      cases question
      cases drops

theorem Attempts.takes {o : Origin} {a self : Actor} {id : UInt16} {ack : VariablePacket} {b : Body}
    {att : Attempt} (holds : ActixMqtt.genuine.Holds w) (stems : (stemming (OnlyAck ack id)).Holds w)
    (reacted : w.reaction (system env) (w.results mv.full) mv.label = some (s, es))
    (handles : Handles mv.label self o b)
    (attempts : Attempts env ⟨self, o, w.state.now, w.results mv.full⟩ w.state b att)
    (acknowledges : acknowledgementAt a id = some ack) (looks : att.check.looksAt a id) :
    returnsId env id w mv := by
  suffices both : takesId env mv ∧ (w.state.nextId env).1 = id by simpa [returnsId] using both
  obtain ⟨question, drops⟩ := Future.looksAt_iff.mp looks
  have source := handles.genuine holds reacted
  have only := handles.stems stems reacted
  obtain ⟨label, full⟩ := mv
  cases attempts with
  | publish1 msg self' below valid qos | publish2 msg self' below valid qos =>
      obtain rfl : self = .sendPublish := self'
      cases question
      refine ⟨?_, Mark.drop.inj drops⟩
      rw [takesId_handled handles]
      simp [takesId, below, valid, qos]
  | subscribe msg self' below valid =>
      obtain rfl : self = .subscribe := self'
      cases question
      refine ⟨?_, Mark.drop.inj drops⟩
      rw [takesId_handled handles]
      simpa [takesId] using valid
  | unsubscribe msg self' below valid =>
      obtain rfl : self = .unsubscribe := self'
      cases question
      refine ⟨?_, Mark.drop.inj drops⟩
      rw [takesId_handled handles]
      simpa [takesId] using valid
  | pubrec id' retryCount self' below =>
      obtain rfl : self = .pubrec := self'
      cases question
      cases drops
      cases acknowledges
      obtain same | ⟨⟨n, cause⟩, -⟩ := source
      · cases same
      · cases only _ n cause rfl
  | pubrel id' retryCount self' below =>
      obtain rfl : self = .pubrel := self'
      cases question
      cases drops
      cases acknowledges
      obtain same | ⟨⟨n, cause⟩, -⟩ := source
      · cases same
      · cases only _ n cause rfl
  | sendPing lastRetryCount self' below =>
      cases question
      cases drops

/-! ## What happens to an entry while it is looked at -/

theorem Produces.removes {ctx : Ctx} {a : Actor} {id : UInt16} {b : Body} {m : Msg}
    (produces : Produces env ctx w.state b (.post a m)) (drops : m.body.mark a = .drop id) :
    m.origin = ctx.origin ∧ (GivesUp env ctx w.state b a m.body ∨
      (∃ packet n, b = .request (.packet ⟨packet, n⟩) ∧
        responseTo ctx.self packet = some (a, m.body)) ∨
      id = 0 ∨ ∃ n, ctx.self = .pubrel ∧ b = .request (.packet ⟨.pubrel id, n⟩) ∧
        a = .publishStatus) := by
  generalize shape : (Effect.post a m : ClientEffect) = e at produces
  cases produces with
  | note attempts =>
      cases shape
      refine ⟨rfl, ?_⟩
      cases attempts with
      | pubrel id' retryCount self' below =>
          obtain rfl := Mark.drop.inj drops
          exact .inr (.inr (.inr ⟨retryCount, self', rfl, rfl⟩))
      | _ => cases drops
  | giveUp gives =>
      cases shape
      exact ⟨rfl, .inl gives⟩
  | response packet n response =>
      cases shape
      exact ⟨rfl, .inr (.inl ⟨packet, n, rfl, response⟩)⟩
  | recv0 packet n self' below qos =>
      cases shape
      exact ⟨rfl, .inr (.inr (.inl (Mark.drop.inj drops).symm))⟩
  | dispatch | passStop =>
      cases shape
      simp at drops
  | connack code n op self' =>
      cases shape
      cases drops
  | _ =>
      cases shape
      try cases drops

/-- Who removes an entry: an actor that gives up, a response, a PUBLISH of level 0, PubrelActor, or
    a future that reads it. -/
theorem drop_step {a : Actor} {id : UInt16} {m : Msg} (holds : genuine.Holds w)
    (reacted : w.reaction (system env) (w.results mv.full) mv.label = some (s, es))
    (posted : .post a m ∈ es) (drops : m.body.mark a = .drop id) :
    (∃ self b, Handles mv.label self m.origin b ∧
      (GivesUp env ⟨self, m.origin, w.state.now, w.results mv.full⟩ w.state b a m.body ∨
        (∃ packet n, b = .request (.packet ⟨packet, n⟩) ∧ responseTo self packet = some (a, m.body)) ∨
        id = 0 ∨
        ∃ n, self = .pubrel ∧ b = .request (.packet ⟨.pubrel id, n⟩) ∧ a = .publishStatus)) ∨
      ∃ future, mv.label = .run ⟨m.origin, .spawned future⟩ ∧ future.question = (a, m.body) := by
  cases post_step holds reacted posted with
  | handler handles produces =>
      obtain ⟨o, body⟩ := m
      obtain ⟨rfl, removes⟩ := produces.removes drops
      exact .inl ⟨_, _, handles, removes⟩
  | asks o future b label awaits question => exact .inr ⟨future, label, question⟩
  | note o id' retryCount packet answer label qos told =>
      obtain rfl := told
      cases drops
  | resend | retry | pubrec | stop => simp at drops
  | arrives o label arrives =>
      generalize shape : (Effect.post a m : ClientEffect) = e at arrives
      cases arrives <;> cases shape <;> cases drops

theorem subscribe_silent {o : Origin} {msg : BatchSubscribe}
    (handles : Handles mv.label .subscribe o (.request (.batchSubscribe msg)))
    (reacted : w.reaction (system env) (w.results mv.full) mv.label = some (s, es))
    (invalid : (msg.subscriptions.filter
      fun sub => (env.topicFilterError sub.topic).isNone).isEmpty) : es = [] := by
  have handled := handles.reaction reacted
  simp only [handleBody, SubscribeActor.receive, SubscribeActor.handleBatch,
    SubscribeActor.createPacketAndIdFromMessage, invalid, if_true] at handled
  exact (Prod.mk.inj handled).2.symm

theorem unsubscribe_silent {o : Origin} {msg : BatchUnsubscribe}
    (handles : Handles mv.label .unsubscribe o (.request (.batchUnsubscribe msg)))
    (reacted : w.reaction (system env) (w.results mv.full) mv.label = some (s, es))
    (invalid : (msg.topics.filter fun topic => (env.topicFilterError topic).isNone).isEmpty) :
    es = [] := by
  have handled := handles.reaction reacted
  simp only [handleBody, UnsubscribeActor.receive, UnsubscribeActor.handleBatch,
    UnsubscribeActor.createPacketAndIdFromMessage, invalid, if_true] at handled
  exact (Prod.mk.inj handled).2.symm

theorem GivesUp.spares {ack : VariablePacket} {self a : Actor} {id : UInt16} {o : Origin}
    {b body : Body}
    (gives : GivesUp env ⟨self, o, w.state.now, w.results mv.full⟩ w.state b a body)
    (handles : Handles mv.label self o b) (source : b.Genuine o.cause self)
    (only : OnlyAck ack id o) (acknowledges : acknowledgementAt a id = some ack) (nonzero : id ≠ 0)
    (other : ¬ returnsId env id w mv)
    (reacted : w.reaction (system env) (w.results mv.full) mv.label = some (s, es))
    (posted : .post a ⟨o, body⟩ ∈ es) : body.mark a ≠ .drop id := by
  intro drops
  have untaken : ¬ (takesId env mv ∧ (w.state.nextId env).1 = id) := by
    simpa [returnsId] using other
  cases gives with
  | publish msg self' above => exact absurd (Mark.drop.inj drops).symm nonzero
  | recv packet n id' self' above qos =>
      obtain rfl := Mark.drop.inj drops
      obtain rfl : self = .recvPublish := self'
      obtain same | ⟨⟨n, cause⟩, -⟩ := source
      · cases same
      · cases acknowledges
        rcases qos with ⟨-, zero⟩ | qos | qos
        · exact absurd zero nonzero
        · cases only _ n cause (by simp [VariablePacket.identifier, qos])
        · cases only _ n cause (by simp [VariablePacket.identifier, qos])
  | pubrec id' n self' above | pubrel id' n self' above =>
      obtain rfl := Mark.drop.inj drops
      obtain rfl := self'
      obtain same | ⟨⟨n, cause⟩, -⟩ := source
      · cases same
      · cases acknowledges
        cases only _ n cause rfl
  | subscribe msg self' above =>
      obtain rfl : self = .subscribe := self'
      refine absurd ⟨?_, Mark.drop.inj drops⟩ untaken
      rw [takesId_handled handles]
      by_contra invalid
      have silent := subscribe_silent handles reacted (by simpa [takesId] using invalid)
      rw [silent] at posted
      cases posted
  | unsubscribe msg self' above =>
      obtain rfl : self = .unsubscribe := self'
      refine absurd ⟨?_, Mark.drop.inj drops⟩ untaken
      rw [takesId_handled handles]
      by_contra invalid
      have silent := unsubscribe_silent handles reacted (by simpa [takesId] using invalid)
      rw [silent] at posted
      cases posted
  | sendPing n self' above | pingreq n self' above => cases drops

/-- While `next_id` does not return the identifier, no note of it is posted, and its entry is removed
    by its acknowledgement and by what looks at it. -/
theorem calm_step {ack : VariablePacket} {a : Actor} {id : UInt16} {m : Msg}
    (holds : genuine.Holds w) (stems : (stemming (OnlyAck ack id)).Holds w)
    (acknowledges : acknowledgementAt a id = some ack) (nonzero : id ≠ 0)
    (other : ¬ returnsId env id w mv)
    (reacted : w.reaction (system env) (w.results mv.full) mv.label = some (s, es))
    (posted : .post a m ∈ es) :
    m.body.mark a ≠ .put id ∧ (m.body.mark a = .drop id → removedBy ack a id m ∨
      ∃ future, Unanswered m.origin future w ∧ future.looksAt a id ∧ m.body = future.question.2) := by
  constructor
  · intro puts
    rcases put_step holds reacted posted puts with
      ⟨self, o, b, att, handles, attempts, rfl, rfl⟩ |
      ⟨rfl, o, packet, n, answer, qos, label⟩
    · exact other (attempts.takes holds stems reacted handles acknowledges
        (attempts.looksAt puts).1)
    · have source := holds.source reacted
      have only := stems.source reacted
      rw [label] at source only
      obtain ⟨⟨⟨n, cause⟩, -⟩, -⟩ := source
      cases acknowledges
      cases only _ n cause (by simp [VariablePacket.identifier, qos])
  · intro drops
    rcases drop_step holds reacted posted drops with ⟨self, b, handles, removes⟩ | ⟨future, label, asked⟩
    · have source := handles.genuine holds reacted
      have only := handles.stems stems reacted
      obtain ⟨o, body⟩ := m
      rcases removes with gives | ⟨packet, n, rfl, response⟩ | zero | ⟨n, rfl, rfl, rfl⟩
      · exact absurd drops
          (gives.spares handles source only acknowledges nonzero other reacted posted)
      · obtain same | ⟨⟨n, cause⟩, -⟩ := source
        · simp [same, responseTo] at response
        · have bears : packet.identifier = some id := by
            unfold responseTo at response
            split at response <;> cases response <;> cases drops <;> rfl
          have same := only packet n cause bears
          replace cause : o.cause = .received packet n := cause
          exact .inl (by simp [removedBy, drops, cause, same])
      · exact absurd zero nonzero
      · obtain same | ⟨⟨n, cause⟩, -⟩ := source
        · cases same
        · cases acknowledges
          cases only _ n cause rfl
    · refine .inr ⟨future, .inr (.inl ?_), ?_, by rw [asked]⟩
      · exact (World.reaction_run.mp (label ▸ reacted)).1
      · simp [Future.looksAt, asked, drops]

/-! ## The messages behind the note -/

/-- Until the check has read the entry, only its acknowledgement has been sent to remove it. -/
def Calm (ack : VariablePacket) (a : Actor) (id : UInt16) (read m : Msg) : Prop :=
  m.body.mark a ≠ .put id ∧ (m.body.mark a = .drop id → removedBy ack a id m ∨ m = read)

/-- What is known since an attempt at `w₀` whose check is the future `future` of the origin `o`. -/
structure Watched (w₀ : ClientWorld) (first : Msg) (o : Origin) (future : Future)
    (ack : VariablePacket) (a : Actor) (id : UInt16) (w : ClientWorld) : Prop where
  genuine : genuine.Holds w
  stems : (stemming (OnlyAck ack id)).Holds w
  single : successors o w ≤ 1
  one : ∀ o' future', Unanswered o' future' w → future'.looksAt a id → o' = o ∧ future' = future
  waits : w.live a → Unanswered o future w → ∃ recent more,
    handled a w.log = recent ++ handled a w₀.log ∧ ⟨o, future.question.2⟩ ∉ recent ∧
      inbox a w = inbox a w₀ ++ first :: more ∧ ∀ m ∈ more, Calm ack a id ⟨o, future.question.2⟩ m

theorem watched_step {w₀ : ClientWorld} {first : Msg} {o : Origin} {ack : VariablePacket}
    {a : Actor} {id : UInt16} (watched : Watched w₀ first o future ack a id w)
    (looks : future.looksAt a id) (acknowledges : acknowledgementAt a id = some ack)
    (nonzero : id ≠ 0) (single' : successors o w' ≤ 1)
    (answers : ∀ packet, arrivingWith id mv = some packet → packet = ack)
    (other : ¬ returnsId env id w mv) (taken : clientStep env w mv = some w') :
    Watched w₀ first o future ack a id w' := by
  obtain ⟨s, es, reacted, -⟩ := World.fire_eq_some.mp taken
  have holds' := genuine_step watched.genuine taken
  have stems' : (stemming (OnlyAck ack id)).Holds w' := by
    refine stemming_step watched.stems (fun o label packet n cause bears => ?_) taken
    obtain ⟨serial, _⟩ := o
    cases cause
    exact answers packet (by simp [arrivingWith, label, bears])
  have before {o' : Origin} {future' : Future} (waits : Unanswered o' future' w')
      (looks : future'.looksAt a id) : Unanswered o' future' w := by
    have check := isCheck_of_looksAt (waits.awaits holds') (waits.stems stems') acknowledges looks
    rcases unanswered_step reacted taken check waits with before | ⟨self, b, att, begins⟩
    · exact before
    · obtain rfl := begins.check
      exact absurd (begins.attempts.takes watched.genuine watched.stems reacted begins.handles
        acknowledges looks) other
  refine ⟨holds', stems', single', fun o' future' waits looks => ?_, fun alive waits => ?_⟩
  · exact watched.one o' future' (before waits looks) looks
  · obtain ⟨recent, more, since, fresh, list, calm⟩ :=
      watched.waits (World.fire_live_le taken alive) (before waits looks)
    have grown := inbox_fire reacted taken alive
    have added : ∀ m ∈ more ++ posts a es, Calm ack a id ⟨o, future.question.2⟩ m := by
      intro m member
      rcases List.mem_append.mp member with old | new
      · exact calm m old
      · obtain ⟨unset, dropped⟩ := calm_step watched.genuine watched.stems acknowledges nonzero other
          reacted (mem_posts.mp new)
        refine ⟨unset, fun drops => ?_⟩
        rcases dropped drops with removal | ⟨future', waits', looks', body⟩
        · exact .inl removal
        · obtain ⟨origin, rfl⟩ := watched.one m.origin future' waits' looks'
          obtain ⟨o', b⟩ := m
          obtain rfl : o' = o := origin
          obtain rfl : b = future'.question.2 := body
          exact .inr rfl
    have extended : inbox a w' = inbox a w₀ ++ first :: (more ++ posts a es) := by
      rw [grown, list, List.append_assoc, List.cons_append]
    by_cases taking : ∃ m, mv.label = .take a m
    · obtain ⟨m, label⟩ := taking
      refine ⟨m :: recent, more ++ posts a es, ?_, ?_, extended, added⟩
      · rw [handled_take reacted taken label, since, List.cons_append]
      · -- the check is still to be answered, so this is not its question
        intro read
        rcases List.mem_cons.mp read with rfl | old
        · have question := (Future.looksAt_iff.mp looks).1
          have carries : carriesOn o mv.label := by
            rw [label, ← question]
            exact Future.question_carriesOn o future
          obtain ⟨e, member, asks⟩ := unanswered_carried watched.single reacted taken carries waits
          exact read_silent reacted label member asks
        · exact fresh old
    · refine ⟨recent, more ++ posts a es, ?_, fresh, extended, added⟩
      rw [handled_other reacted taken fun m same => taking ⟨m, same⟩, since]

theorem statusKeys_run {seed : Nat} {ls : List ClientMove} (run : Run env seed ls w) (a : Actor) :
    statusKeys w.state a = settle ((handled a w.log).reverse.map (·.body.mark a)) ∅ := by
  have empty : statusKeys (init env seed).state a = ∅ := by
    cases a <;> simp [init, statusKeys]
  exact settles_run (·.body.mark a) (statusKeys · a) empty
    (fun _ _ _ _ reacted => statusKeys_step reacted) run

/-! ## The attempt -/

/-- No packet with the identifier has come from the broker. -/
def Unborne (id : UInt16) (o : Origin) : Prop :=
  ∀ packet n, o.cause = .received packet n → packet.identifier ≠ some id

theorem unborne_run {seed : Nat} {ls : List ClientMove} {id : UInt16}
    (quiet : Along (clientStep env) (fun _ mv => arrivingWith id mv = none) (init env seed) ls)
    (run : Run env seed ls w) : (stemming (Unborne id)).Holds w := by
  refine exec_invariant (stemming (Unborne id)).Holds ?_ ?_ quiet run
  · intro w mv w' holds none taken
    refine stemming_step holds (fun o label packet n cause bears => ?_) taken
    obtain ⟨serial, _⟩ := o
    cases cause
    simp [arrivingWith, label, bears] at none
  · refine ⟨fun a m member => ?_, fun t member => ?_, fun e member => True.intro⟩
    · simp only [init] at member
      split at member
      · obtain ⟨recipient, -, rfl⟩ := List.mem_map.mp member
        intro packet n cause
        cases cause
      · cases member
    · obtain rfl := List.mem_singleton.mp member
      intro packet n cause
      cases cause

theorem Unborne.onlyAck {id : UInt16} (unborne : (stemming (Unborne id)).Holds w)
    (ack : VariablePacket) : (stemming (OnlyAck ack id)).Holds w :=
  unborne.mono (fun _ _ ok packet n cause bears => absurd bears (ok packet n cause))
    (fun _ ok packet n cause bears => absurd bears (ok packet n cause)) (fun _ ok => ok)

theorem Attempts.noted {ctx : Ctx} {self a : Actor} {b : Body} {att : Attempt} {id : UInt16}
    {ack : VariablePacket} {retry : Request} (attempts : Attempts env ctx s b att)
    (check : att.check = .statusCheck a self id .isSome retry)
    (acknowledges : acknowledgementAt a id = some ack) :
    ctx.self = self ∧ att.status = a ∧ att.note.mark a = .put id ∧ self ≠ a ∧
      att.check.looksAt a id := by
  cases attempts with
  | publish1 msg self' below valid qos | subscribe msg self' below valid
  | unsubscribe msg self' below valid =>
      cases check
      refine ⟨self', rfl, rfl, (fun same => by cases same), ?_⟩
      simp [Future.looksAt, Future.question, Body.mark, StatusOperationMessage.mark]
  | sendPing lastRetryCount self' below =>
      cases check
      cases acknowledges
  | _ => cases check

theorem check_answered {a self : Actor} {o : Origin} {id : UInt16} {ack : VariablePacket}
    {retry : Request} (acknowledges : acknowledgementAt a id = some ack)
    (label : mv.label = .take a ⟨o, (Future.statusCheck a self id .isSome retry).question.2⟩)
    (reacted : w.reaction (system env) (w.results mv.full) mv.label = some (s, es)) :
    ∃ answer, .spawn ⟨o, .resumed (.statusCheck a self id .isSome retry) answer⟩ ∈ es ∧
      ∀ ctx, (id ∈ statusKeys w.state a → Future.resume env ctx
          (.statusCheck a self id .isSome retry) answer = [.post self ⟨ctx.origin, .request retry⟩]) ∧
        (id ∉ statusKeys w.state a →
          Future.resume env ctx (.statusCheck a self id .isSome retry) answer = []) := by
  rw [label] at reacted
  cases a with
  | publishStatus =>
      obtain ⟨-, rfl⟩ := publishStatus_reaction reacted
      rw [PacketStatusActor.handle_getAndRemove]
      exact ⟨_, List.mem_cons_of_mem _ (List.mem_singleton.mpr rfl),
        resume_found rfl (fun e same => by cases same)⟩
  | subscribeStatus =>
      have handled : (_, reply _ (.unitStatus (PacketStatusActor.handle w.state.subscribeStatus
          (.getAndRemovePacketStatus id)).2) (some _)) = (s, es) :=
        (World.reaction_take.mp reacted).2.2
      rw [PacketStatusActor.handle_getAndRemove] at handled
      obtain ⟨-, rfl⟩ := Prod.mk.inj handled
      exact ⟨_, List.mem_singleton.mpr rfl, resume_found rfl (fun e same => by cases same)⟩
  | unsubscribeStatus =>
      have handled : (_, reply _ (.unitStatus (PacketStatusActor.handle w.state.unsubscribeStatus
          (.getAndRemovePacketStatus id)).2) (some _)) = (s, es) :=
        (World.reaction_take.mp reacted).2.2
      rw [PacketStatusActor.handle_getAndRemove] at handled
      obtain ⟨-, rfl⟩ := Prod.mk.inj handled
      exact ⟨_, List.mem_singleton.mpr rfl, resume_found rfl (fun e same => by cases same)⟩
  | _ => cases acknowledges

end Step

theorem watched_start {env : Env} {w₀ w₁ : ClientWorld} {mv : ClientMove} {s : State} {es : Out}
    {self a : Actor} {o : Origin} {b : Body} {att : Attempt} {id : UInt16} {ack : VariablePacket}
    {retry : Request} (holds : genuine.Holds w₀) (single : successors o w₁ ≤ 1)
    (taken : clientStep env w₀ mv = some w₁)
    (reacted : w₀.reaction (system env) (w₀.results mv.full) mv.label = some (s, es))
    (handles : Handles mv.label self o b)
    (attempts : Attempts env ⟨self, o, w₀.state.now, w₀.results mv.full⟩ w₀.state b att)
    (check : att.check = .statusCheck a self id .isSome retry)
    (queued : .emit (.queued o att.packet) ∈ es)
    (acknowledges : acknowledgementAt a id = some ack)
    (unborne : (stemming (Unborne id)).Holds w₀) (unseen : ¬ lookedAt a id w₀) :
    Watched w₀ ⟨o, att.note⟩ o att.check ack a id w₁ ∧
      Grown a (inbox a w₀ ++ [⟨o, att.note⟩]) [] w₁ := by
  obtain ⟨accepts, through⟩ := handles.through attempts reacted queued rfl
  obtain ⟨-, rfl, puts, apart, looks⟩ := attempts.noted check acknowledges
  have stems : (stemming (OnlyAck ack id)).Holds w₀ := Unborne.onlyAck unborne ack
  have unasked : ∀ o, mv.label ≠ .give (.cause o) := by
    intro o' label
    rcases handles.label_eq with same | ⟨notice, same, -⟩
    · rw [same] at label
      cases label
    · rw [same] at label
      cases label
  have alive : w₁.live att.status := by
    have here : w₀.live att.status := by
      by_contra dead
      simp [World.results, dead] at accepts
    rw [World.fire_live reacted taken, here]
    simp [through]
  have posted : posts att.status es = [⟨o, att.note⟩] := by
    have elsewhere : att.status ≠ .send := by
      intro same
      rw [same] at acknowledges
      cases acknowledges
    simp [through, posts, elsewhere.symm]
  have list : inbox att.status w₁ = inbox att.status w₀ ++ [⟨o, att.note⟩] := by
    rw [inbox_fire reacted taken alive, posted]
  have holds' := genuine_step holds taken
  have stems' := stemming_step stems (fun o' label => absurd label (unasked o')) taken
  refine ⟨⟨holds', stems', single, fun o' future' waits looks' => ?_, fun _ _ => ?_⟩, fun _ => ?_,
    fun dead => ?_⟩
  · have isCheck := isCheck_of_looksAt (waits.awaits holds') (waits.stems stems') acknowledges looks'
    rcases unanswered_step reacted taken isCheck waits with before | ⟨self', b', att', begins⟩
    · exact absurd (before.lookedAt looks') unseen
    · have timer := begins.timer
      rw [through] at timer
      have same : o' = o ∧ self' = self ∧ future' = att.check := by simpa using timer
      exact ⟨same.1, same.2.2⟩
  · refine ⟨[], [], ?_, List.not_mem_nil, list, fun m member => absurd member List.not_mem_nil⟩
    rw [handled_other reacted taken, List.nil_append]
    intro m label
    rcases handles.label_eq with same | ⟨notice, same, -⟩
    · rw [same] at label
      cases label
      exact apart rfl
    · rw [same] at label
      cases label
  · rw [list, List.append_nil]
  · rw [alive] at dead
    cases dead

theorem removedBy_mark {ack : VariablePacket} {a : Actor} {id : UInt16} {m : Msg}
    (removal : removedBy ack a id m) : m.body.mark a = .drop id := by
  simpa using (Bool.and_eq_true_iff.mp removal).1

theorem Unborne.not_removed {w : ClientWorld} {ack : VariablePacket} {a : Actor} {id : UInt16}
    {m : Msg} (unborne : (stemming (Unborne id)).Holds w)
    (acknowledges : acknowledgementAt a id = some ack) (removal : removedBy ack a id m) :
    m ∉ w.mail a := by
  intro member
  have stems := (Bool.and_eq_true_iff.mp removal).2
  split at stems
  · rename_i packet n cause
    refine unborne.mail a m member packet n cause ?_
    rw [show packet = ack by simpa using stems]
    exact acknowledgementAt_identifier acknowledges
  · cases stems

/-- What is known of the attempt stays known while nothing but the acknowledgement comes. -/
theorem watched_run {env : Env} {seed : Nat} {ls back : List ClientMove} {w₀ w₁ w : ClientWorld}
    {first : Msg} {o : Origin} {future : Future} {ack : VariablePacket} {a : Actor} {id : UInt16}
    (run : Run env seed ls w₁) (start : Watched w₀ first o future ack a id w₁)
    (looks : future.looksAt a id) (acknowledges : acknowledgementAt a id = some ack)
    (nonzero : id ≠ 0) (calm : Along (clientStep env) (fun w mv => undisturbed env ack id w mv) w₁ back)
    (rest : exec (clientStep env) w₁ back = some w) :
    (∃ ls, Run env seed ls w) ∧ Watched w₀ first o future ack a id w := by
  refine exec_invariant (fun w => (∃ ls, Run env seed ls w) ∧
    Watched w₀ first o future ack a id w) ?_ ⟨⟨_, run⟩, start⟩ calm rest
  rintro w mv w' ⟨⟨ls, run⟩, watched⟩ quiet taken
  have run' : Run env seed (ls ++ [mv]) w' := run.step taken
  obtain ⟨answers, other⟩ : (∀ packet, arrivingWith id mv = some packet → packet = ack) ∧
      ¬ returnsId env id w mv := by
    simpa [undisturbed, Option.all_eq_true] using quiet
  exact ⟨⟨_, run'⟩, watched_step watched looks acknowledges nonzero (successors_le run' o)
    answers other taken⟩

/-- When the check is read, everything since the note that removes the entry is due to the
    acknowledgement. -/
theorem Watched.at_check {w₀ w : ClientWorld} {first : Msg} {o : Origin} {future : Future}
    {ack : VariablePacket} {a : Actor} {id : UInt16} (watched : Watched w₀ first o future ack a id w)
    (looks : future.looksAt a id) (puts : first.body.mark a = .put id) (unseen : ¬ lookedAt a id w₀)
    (alive : w.live a) (head : (w.mail a).head? = some ⟨o, future.question.2⟩) :
    ∃ recent between, handled a w.log = recent ++ handled a w₀.log ∧
      recent = between ++ first :: (w₀.mail a).reverse ∧
      ∀ m ∈ between, m.body.mark a ≠ .put id ∧ (m.body.mark a = .drop id → removedBy ack a id m) := by
  obtain ⟨question, drops⟩ := Future.looksAt_iff.mp looks
  have waiting : Unanswered o future w := .inr (.inr (question ▸ List.mem_of_head? head))
  obtain ⟨recent, more, since, fresh, list, calm⟩ := watched.waits alive waiting
  have split : recent.reverse ++ ⟨o, future.question.2⟩ :: (w.mail a).tail =
      w₀.mail a ++ first :: more := by
    rw [← List.eq_cons_of_mem_head? head]
    simpa [inbox, since] using list
  obtain ⟨between, front, behind⟩ := split_behind split
    (fun member => unseen (Unanswered.lookedAt (.inr (.inr (question ▸ member))) looks)) (by
      rintro rfl
      rw [drops] at puts
      cases puts)
  have order : recent = between.reverse ++ first :: (w₀.mail a).reverse := by
    simpa using congrArg List.reverse front
  refine ⟨recent, between.reverse, since, order, fun m member => ?_⟩
  obtain ⟨unset, dropped⟩ := calm m (behind ▸ List.mem_append_left _ (List.mem_reverse.mp member))
  refine ⟨unset, fun drops => (dropped drops).resolve_right fun read => fresh ?_⟩
  rw [order, ← read]
  exact List.mem_append_left _ member

/-- When an attempt is made under an identifier that nothing in flight is about any more, its note is
    handled before a removal that the acknowledgement causes, and the check sends the request again
    unless such a removal has been handled. -/
theorem acknowledgement_in_time {env : Env} {seed : Nat} {front back : List ClientMove}
    {w₀ w₁ w : ClientWorld} {mv₀ : ClientMove} {s₀ : State} {es₀ : Out} {self a : Actor} {o : Origin}
    {b : Body} {att : Attempt} {id : UInt16} {ack : VariablePacket} {retry : Request}
    (run : Run env seed front w₀) (taken : clientStep env w₀ mv₀ = some w₁)
    (rest : exec (clientStep env) w₁ back = some w)
    (reacted₀ : w₀.reaction (system env) (w₀.results mv₀.full) mv₀.label = some (s₀, es₀))
    (handles : Handles mv₀.label self o b)
    (attempts : Attempts env ⟨self, o, w₀.state.now, w₀.results mv₀.full⟩ w₀.state b att)
    (check : att.check = .statusCheck a self id .isSome retry)
    (queued : .emit (.queued o att.packet) ∈ es₀)
    (acknowledges : acknowledgementAt a id = some ack)
    (unborne : (stemming (Unborne id)).Holds w₀) (unseen : ¬ lookedAt a id w₀) :
    (∀ later m earlier, handled a w.log = (later ++ m :: earlier) ++ handled a w₀.log →
      removedBy ack a id m → ⟨o, att.note⟩ ∈ earlier) ∧
      (Along (clientStep env) (fun w mv => undisturbed env ack id w mv) w₁ back →
        ∀ (mv : ClientMove) s es, mv.label = .take a ⟨o, att.check.question.2⟩ →
          w.reaction (system env) (w.results mv.full) mv.label = some (s, es) →
          ∃ recent answer, handled a w.log = recent ++ handled a w₀.log ∧ ⟨o, att.note⟩ ∈ recent ∧
            .spawn ⟨o, .resumed att.check answer⟩ ∈ es ∧
            ∀ ctx, att.check.resume env ctx answer =
              if recent.any (removedBy ack a id) then [] else [.post self ⟨ctx.origin, .request retry⟩]) := by
  have run₁ : Run env seed (front ++ [mv₀]) w₁ := run.step taken
  obtain ⟨start, grown⟩ := watched_start (genuine_run run) (successors_le run₁ o) taken reacted₀
    handles attempts check queued acknowledges unborne unseen
  obtain ⟨-, -, puts, -, looks⟩ := attempts.noted check acknowledges
  have nonzero : id ≠ 0 := by
    have returns := attempts.takes (genuine_run run) (Unborne.onlyAck unborne ack) reacted₀ handles
      acknowledges looks
    rw [← show (w₀.state.nextId env).1 = id by simpa using (Bool.and_eq_true_iff.mp returns).2]
    exact nextId_ne_zero env w₀.state
  have unnoted {m : Msg} (removal : removedBy ack a id m) : m ≠ ⟨o, att.note⟩ := by
    rintro rfl
    cases (removedBy_mark removal).symm.trans puts
  constructor
  · intro later m earlier since removal
    obtain ⟨more, grown⟩ := grown.later rest
    obtain ⟨between, rest, same, -⟩ := grown.earlier since
      (Unborne.not_removed unborne acknowledges removal) (unnoted removal)
    rw [← List.mem_reverse, same]
    simp
  · intro calm mv s es label reacted
    obtain ⟨⟨ls, run⟩, watched⟩ :=
      watched_run run₁ start looks acknowledges nonzero calm rest
    obtain ⟨alive, head, -⟩ := World.reaction_take.mp (label ▸ reacted)
    obtain ⟨recent, between, since, order, late⟩ :=
      watched.at_check looks puts unseen alive head
    -- nothing but the acknowledgement has removed the entry
    have kept : id ∈ statusKeys w.state a ↔ ¬ recent.any (removedBy ack a id) := by
      rw [statusKeys_run run a, since, order, List.append_assoc, List.cons_append,
        mem_settle_since (fun m => m.body.mark a) (⟨o, att.note⟩ : Msg) puts
          fun m member => (late m member).1]
      constructor
      · intro kept removed
        obtain ⟨m, member, removal⟩ := List.any_eq_true.mp removed
        have behind : m ∈ between := by
          simpa [Unborne.not_removed unborne acknowledges removal, unnoted removal] using member
        exact kept m behind (removedBy_mark removal)
      · intro kept m member drops
        exact kept (List.any_eq_true.mpr
          ⟨m, List.mem_append_left _ member, (late m member).2 drops⟩)
    rw [check] at label ⊢
    obtain ⟨answer, answered, resumes⟩ := check_answered acknowledges label reacted
    refine ⟨recent, answer, since, by simp [order], answered, fun ctx => ?_⟩
    split
    · rename_i removed
      exact (resumes ctx).2 fun present => kept.mp present removed
    · rename_i absent
      exact (resumes ctx).1 (kept.mpr absent)

def publisher : Origin := ⟨1, .publish "topic" .level1 [1]⟩

/-- The PUBACK comes before the check. -/
def registered : List Turn :=
  [.handle .publishStatus, .give (.cause ⟨2, .received (.puback 1) 0⟩), .handle .dispatch,
    .handle .puback, .handle .publishStatus, .give (.advance commandTimeout), .task 0, .task 0]

def registeredCheck : Future :=
  .statusCheck .publishStatus .sendPublish 1 .isSome (.publish ⟨"topic", .level1, [1], 1⟩)

theorem acknowledgement_in_time_registered :
    ∃ w s es answer, Run plainEnv 0 (schedule plainEnv (init plainEnv 0)
        (.give (.cause publisher) :: .handle .sendPublish :: registered)) w ∧
      w.reaction (system plainEnv) (w.results fun _ => false)
        (.take .publishStatus ⟨publisher, registeredCheck.question.2⟩) = some (s, es) ∧
      .spawn ⟨publisher, .resumed registeredCheck answer⟩ ∈ es ∧
      ∀ ctx, registeredCheck.resume plainEnv ctx answer = [] := by
  obtain ⟨w₀, run, quiet, next, none, unseen, w₁, s₀, es₀, taken, reacted₀, queued, w, rest, whole,
      calm, removed, s, es, reacted⟩ :
      ∃ w₀, Run plainEnv 0 (schedule plainEnv (init plainEnv 0) [.give (.cause publisher)]) w₀ ∧
        Along (clientStep plainEnv) (fun _ mv => arrivingWith 1 mv = none) (init plainEnv 0)
          (schedule plainEnv (init plainEnv 0) [.give (.cause publisher)]) ∧
        (w₀.state.nextId plainEnv).1 = 1 ∧ handled .publishStatus w₀.log = [] ∧
        ¬ lookedAt .publishStatus 1 w₀ ∧
        ∃ w₁ s₀ es₀, clientStep plainEnv w₀ ⟨.take .sendPublish
            ⟨publisher, .request (.publish (.new "topic" .level1 [1]))⟩, fun _ => false⟩ = some w₁ ∧
          w₀.reaction (system plainEnv) (w₀.results fun _ => false) (.take .sendPublish
            ⟨publisher, .request (.publish (.new "topic" .level1 [1]))⟩) = some (s₀, es₀) ∧
          es₀[2]? = some (.emit (.queued publisher (.publish ⟨"topic", .level1 1, [1]⟩))) ∧
          ∃ w, exec (clientStep plainEnv) w₁ (schedule plainEnv w₁ registered) = some w ∧
            Run plainEnv 0 (schedule plainEnv (init plainEnv 0)
              (.give (.cause publisher) :: .handle .sendPublish :: registered)) w ∧
            Along (clientStep plainEnv) (fun w mv => undisturbed plainEnv (.puback 1) 1 w mv) w₁
              (schedule plainEnv w₁ registered) ∧
            (handled .publishStatus w.log).any (removedBy (.puback 1) .publishStatus 1) ∧
            ∃ s es, w.reaction (system plainEnv) (w.results fun _ => false)
              (.take .publishStatus ⟨publisher, registeredCheck.question.2⟩) = some (s, es) :=
    ⟨_, rfl, by decide, by decide, by decide, by decide, _, _, _, rfl, rfl, rfl, _, rfl, rfl,
      by decide, by decide, _, _, rfl⟩
  have attempts : Attempts plainEnv ⟨.sendPublish, publisher, w₀.state.now, w₀.results fun _ => false⟩
      w₀.state (.request (.publish (.new "topic" .level1 [1]))) _ :=
    .publish1 _ rfl (by decide) rfl rfl
  rw [next] at attempts
  obtain ⟨-, suppressed⟩ := acknowledgement_in_time run taken rest reacted₀ (.take .sendPublish _ _)
    attempts rfl (List.mem_of_getElem? queued) rfl (unborne_run quiet run) unseen
  obtain ⟨recent, answer, since, -, answered, resumes⟩ :=
    suppressed calm ⟨_, fun _ => false⟩ s es rfl reacted
  rw [none, List.append_nil] at since
  refine ⟨w, s, es, answer, whole, reacted, answered, fun ctx => ?_⟩
  exact (resumes ctx).trans (if_pos (since ▸ removed))

end ActixMqtt
