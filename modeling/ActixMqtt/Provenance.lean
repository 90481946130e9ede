import ActixMqtt.Connected
import ActixMqtt.Leaving
import ActixMqtt.Timely

/-! # Nothing is invented

Whatever the client sends, delivers or notes goes back to something that was given to it. The
invariant says of everything in flight that its origin has arrived; what is queued, accepted or
noted is then read off the handler that does it.
-/

namespace ActixMqtt

open ActorSystem

/-- The origin has reached the client; the first tick is there from the start. -/
def arrived (log : ClientLog) (o : Origin) : Prop :=
  o = setupOrigin ∨ o = ⟨0, .tick⟩ ∨ .gave (.cause o) ∈ log

/-- What the client sends for a cause. Its own packets are valid and carry an identifier. -/
def Cause.Sends (env : Env) (packet : VariablePacket) : Cause → Prop
  | .publish topic qos payload => env.topicNameError topic = none ∧
      ∃ id, (qos ≠ .level0 → id ≠ 0) ∧ packet = .publish ⟨topic, .new qos id, payload⟩
  | .subscribe sub => env.topicFilterError sub.topic = none ∧
      ∃ id, id ≠ 0 ∧ packet = .subscribe id [sub]
  | .unsubscribe unsub => env.topicFilterError unsub.topic = none ∧
      ∃ id, id ≠ 0 ∧ packet = .unsubscribe id [unsub.topic]
  | .connect msg =>
      packet = .connect ⟨env.clientName, msg.userName, msg.password, msg.keepAlive⟩
  | .received (.publish ⟨_, .level1 id, _⟩) _ => packet = .puback id
  | .received (.publish ⟨_, .level2 id, _⟩) _ => packet = .pubrec id
  | .received (.pubrec id) _ => packet = .pubrel id
  | .received (.pubrel id) _ => packet = .pubcomp id
  | .tick => packet = .pingreq
  | _ => False

/-! ## Status entries -/

/-- The entries of the publish status map have a phase, the others have none. -/
abbrev Entry := PacketStatus (Option PublishPacketStatus)

/-- What a status actor has under an identifier. -/
def State.entry (s : State) (id : UInt16) : Actor → Option Entry
  | .publishStatus => (s.publishStatus.lookup id).map fun e => ⟨e.id, e.retryCount, some e.payload⟩
  | .subscribeStatus => (s.subscribeStatus.lookup id).map fun e => ⟨e.id, e.retryCount, none⟩
  | .unsubscribeStatus => (s.unsubscribeStatus.lookup id).map fun e => ⟨e.id, e.retryCount, none⟩
  | .connectStatus => (s.connectStatus.lookup id).map fun e => ⟨e.id, e.retryCount, none⟩
  | .pingStatus => (s.pingStatus.lookup id).map fun e => ⟨e.id, e.retryCount, none⟩
  | _ => none

/-- The entry that a message notes. -/
def Body.notes : Body → Option (UInt16 × Entry)
  | .publishStatus (.setPacketStatus id e) _ => some (id, ⟨e.id, e.retryCount, some e.payload⟩)
  | .unitStatus (.setPacketStatus id e) _ => some (id, ⟨e.id, e.retryCount, none⟩)
  | _ => none

/-- A CONNACK that accepts the connection has been received. -/
def welcomed (log : ClientLog) : Prop :=
  ∃ n message, .gave (.cause ⟨n, .received (.connack .connectionAccepted) message⟩) ∈ log

/-- What an entry at a status actor goes back to. -/
def justified (log : ClientLog) (a : Actor) (id : UInt16) (e : Entry) : Prop :=
  e.id = id ∧ ¬ e.retryCount > maxRetryCount ∧
    match a, e.payload with
    | .publishStatus, some .pendingAck => id ≠ 0 ∧
        ∃ n topic payload, .gave (.cause ⟨n, .publish topic .level1 payload⟩) ∈ log
    | .publishStatus, some .pendingRec => id ≠ 0 ∧
        ∃ n topic payload, .gave (.cause ⟨n, .publish topic .level2 payload⟩) ∈ log
    | .publishStatus, some .pendingComp =>
        ∃ n message, .gave (.cause ⟨n, .received (.pubrec id) message⟩) ∈ log
    | .publishStatus, some .pendingRel => ∃ n topic payload message,
        .gave (.cause ⟨n, .received (.publish ⟨topic, .level2 id, payload⟩) message⟩) ∈ log
    | .subscribeStatus, none => id ≠ 0 ∧ ∃ n sub, .gave (.cause ⟨n, .subscribe sub⟩) ∈ log
    | .unsubscribeStatus, none => id ≠ 0 ∧ ∃ n unsub, .gave (.cause ⟨n, .unsubscribe unsub⟩) ∈ log
    | .connectStatus, none =>
        id = 0 ∧ (∃ n msg, .gave (.cause ⟨n, .connect msg⟩) ∈ log) ∨ id = 1 ∧ welcomed log
    | .pingStatus, none => id = 0 ∧ welcomed log
    | _, _ => False

section Monotone

variable {log log' : ClientLog}

theorem arrived.mono {o : Origin} (more : log ⊆ log') (before : arrived log o) : arrived log' o :=
  before.imp_right (Or.imp_right fun given => more given)

theorem arrived.gave {o : Origin} (before : arrived log o) (other : o.cause ≠ .setup)
    (kind : o.cause ≠ .tick) : .gave (.cause o) ∈ log := by
  rcases before with rfl | rfl | given
  · exact absurd rfl other
  · exact absurd rfl kind
  · exact given

theorem welcomed.mono (more : log ⊆ log') (before : welcomed log) : welcomed log' := by
  obtain ⟨n, message, given⟩ := before
  exact ⟨n, message, more given⟩

theorem justified.mono {a : Actor} {id : UInt16} {e : Entry} (more : log ⊆ log')
    (before : justified log a id e) : justified log' a id e := by
  refine ⟨before.1, before.2.1, ?_⟩
  obtain ⟨-, -, source⟩ := before
  revert source
  split
  · exact fun ⟨own, n, topic, payload, given⟩ => ⟨own, n, topic, payload, more given⟩
  · exact fun ⟨own, n, topic, payload, given⟩ => ⟨own, n, topic, payload, more given⟩
  · exact fun ⟨n, message, given⟩ => ⟨n, message, more given⟩
  · exact fun ⟨n, topic, payload, message, given⟩ => ⟨n, topic, payload, message, more given⟩
  · exact fun ⟨own, n, sub, given⟩ => ⟨own, n, sub, more given⟩
  · exact fun ⟨own, n, unsub, given⟩ => ⟨own, n, unsub, more given⟩
  · exact Or.imp (fun ⟨own, n, msg, given⟩ => ⟨own, n, msg, more given⟩)
      fun ⟨own, accepted⟩ => ⟨own, accepted.mono more⟩
  · exact fun ⟨own, accepted⟩ => ⟨own, accepted.mono more⟩
  · exact False.elim

end Monotone

/-! ## Where an entry comes from -/

theorem PacketStatusActor.lookup_source {T : Type} {map : PacketStatusMap T}
    {op : StatusOperationMessage T} {id : UInt16} {e : PacketStatus T}
    (found : (handle map op).1.lookup id = some e) :
    map.lookup id = some e ∨ op = .setPacketStatus id e := by
  rw [lookup_handle] at found
  split at found
  · rename_i same
    subst same
    cases op with
    | setPacketStatus id e' =>
        cases found
        exact .inr rfl
    | getAndRemovePacketStatus id | removePacketStatus id => cases found
  · exact .inl found

theorem State.ChangedBy.entry {s s' : State} {a b : Actor} {id : UInt16}
    (changed : s.ChangedBy s' b) (other : a ≠ b) : s'.entry id a = s.entry id a := by
  cases a
  case publishStatus => rw [State.entry, changed.publishStatus other.symm, State.entry]
  case subscribeStatus | unsubscribeStatus | connectStatus | pingStatus =>
      cases b <;> first
        | exact absurd rfl other
        | exact (congrArg (State.entry · id _) (show s' = _ from changed)).trans rfl
  all_goals rfl

theorem unitStatusHandle_source {ctx : Ctx} {get : State → PacketStatusMap Unit}
    {set : State → PacketStatusMap Unit → State} (kept : ∀ s map, get (set s map) = map) {b : Body}
    {s : State} {id : UInt16} {e : PacketStatus Unit}
    (found : (get (unitStatusHandle ctx get set b s).1).lookup id = some e) :
    (get s).lookup id = some e ∨ ∃ future, b = .unitStatus (.setPacketStatus id e) future := by
  unfold unitStatusHandle at found
  split at found
  · rename_i op future
    simp only [kept] at found
    exact (PacketStatusActor.lookup_source found).imp_right fun set => ⟨future, by rw [set]⟩
  · exact .inl found
  · exact .inl found
  · exact .inl found

section Step

variable {env : Env} {seed : ℕ} {ls : List ClientMove} {w w' : ClientWorld} {mv : ClientMove}
  {s : State} {es : Out}

/-- An entry was there before, or its actor has just been told to note it. -/
theorem entry_source {a : Actor} {id : UInt16} {e : Entry}
    (reacted : w.reaction (system env) (w.results mv.full) mv.label = some (s, es))
    (found : s.entry id a = some e) :
    w.state.entry id a = some e ∨ ∃ m, mv.label = .take a m ∧ m.body.notes = some (id, e) := by
  rcases state_step reacted with ⟨b, m, label, changed⟩ | ⟨-, changed⟩
  · by_cases own : a = b
    · subst own
      obtain ⟨o, b⟩ := m
      have handled : (handleBody env ⟨a, o, w.state.now, w.results mv.full⟩ b w.state).1 = s :=
        congrArg Prod.fst (World.reaction_take.mp (label ▸ reacted)).2.2
      cases a
      case publishStatus =>
          obtain ⟨e', there, rfl⟩ := Option.map_eq_some_iff.mp found
          have handled : (PublishStatusActor.receive _ w.state b).1 = s := handled
          rw [← handled] at there
          unfold PublishStatusActor.receive at there
          split at there
          · rename_i op future
            rcases PacketStatusActor.lookup_source there with before | rfl
            · exact .inl (Option.map_eq_some_iff.mpr ⟨e', before, rfl⟩)
            · exact .inr ⟨_, label, rfl⟩
          · exact .inl (Option.map_eq_some_iff.mpr ⟨e', there, rfl⟩)
          · exact .inl (Option.map_eq_some_iff.mpr ⟨e', there, rfl⟩)
      case subscribeStatus | unsubscribeStatus | connectStatus | pingStatus =>
          obtain ⟨e', there, rfl⟩ := Option.map_eq_some_iff.mp found
          rw [← handled] at there
          rcases unitStatusHandle_source (fun _ _ => rfl) there with before | ⟨future, rfl⟩
          · exact .inl (Option.map_eq_some_iff.mpr ⟨e', before, rfl⟩)
          · exact .inr ⟨_, label, rfl⟩
      all_goals cases found
    · exact .inl ((changed.entry own).symm.trans found)
  · rw [changed] at found
    exact .inl (by cases a <;> exact found)

end Step

/-! ## What a handler sends and notes -/

section Handlers

variable {env : Env} {ctx : Ctx} {s : State} {log : ClientLog}

theorem Body.Genuine.asks {c : Cause} {a : Actor} {req : Request}
    (genuine : (Body.request req).Genuine c a) (other : a ≠ .send) : c.Asks req :=
  (genuine.resolve_left other).1

theorem Attempts.justified {b : Body} {att : Attempt} (attempts : Attempts env ctx s b att)
    (genuine : b.Genuine ctx.origin.cause ctx.self) (source : arrived log ctx.origin)
    (connected : b.pingPart → welcomed log) {id : UInt16} {e : Entry}
    (notes : att.note.notes = some (id, e)) : justified log att.status id e := by
  obtain ⟨a, ⟨n, cause⟩, now, res⟩ := ctx
  cases attempts with
  | publish1 msg self below valid qos | publish2 msg self below valid qos =>
      cases self
      obtain rfl : cause = .publish msg.topic msg.qos msg.payload := genuine.asks (by simp)
      rw [qos] at source
      cases notes
      exact ⟨rfl, below, nextId_ne_zero env s, n, _, _, source.gave (by simp) (by simp)⟩
  | pubrec id retryCount self below =>
      cases self
      obtain ⟨message, rfl⟩ : ∃ message, cause = .received (.pubrec id) message :=
        genuine.asks (by simp)
      cases notes
      exact ⟨rfl, below, n, message, source.gave (by simp) (by simp)⟩
  | pubrel id retryCount self below => cases notes
  | subscribe msg self below valid =>
      cases self
      obtain ⟨sub, rfl, -⟩ : ∃ sub, cause = .subscribe sub ∧ msg.subscriptions = [sub] :=
        genuine.asks (by simp)
      cases notes
      exact ⟨rfl, below, nextId_ne_zero env s, n, sub, source.gave (by simp) (by simp)⟩
  | unsubscribe msg self below valid =>
      cases self
      obtain ⟨unsub, rfl, -⟩ : ∃ unsub, cause = .unsubscribe unsub ∧ msg.topics = [unsub.topic] :=
        genuine.asks (by simp)
      cases notes
      exact ⟨rfl, below, nextId_ne_zero env s, n, unsub, source.gave (by simp) (by simp)⟩
  | sendPing lastRetryCount self below =>
      cases notes
      exact ⟨rfl, below, rfl, connected rfl⟩

theorem SendPublishActor.queued_valid {msg : Publish} {o : Origin} {packet : VariablePacket}
    (queued : .emit (.queued o packet) ∈ (SendPublishActor.handle env ctx msg s).2) :
    env.topicNameError msg.topic = none := by
  unfold SendPublishActor.handle SendPublishActor.createPacketAndIdFromMessage at queued
  split at queued
  · unfold maxRetryCountExceeded doSend at queued
    split at queued <;> simp [handleSendError, sendError, doSendStop] at queued
  · cases valid : env.topicNameError msg.topic with
    | none => rfl
    | some text => simp [valid, sendError] at queued

theorem Attempts.sends {b : Body} {att : Attempt} (attempts : Attempts env ctx s b att)
    (genuine : b.Genuine ctx.origin.cause ctx.self) :
    ctx.origin.cause.Sends env att.packet := by
  obtain ⟨a, ⟨n, cause⟩, now, res⟩ := ctx
  have own := nextId_ne_zero env s
  cases attempts with
  | publish1 msg self below valid qos | publish2 msg self below valid qos =>
      cases self
      obtain rfl : cause = .publish msg.topic msg.qos msg.payload := genuine.asks (by simp)
      exact ⟨valid, _, fun _ => own, by rw [qos]; rfl⟩
  | pubrec id retryCount self below =>
      cases self
      obtain ⟨message, rfl⟩ : ∃ message, cause = .received (.pubrec id) message :=
        genuine.asks (by simp)
      exact rfl
  | pubrel id retryCount self below =>
      cases self
      obtain ⟨message, rfl⟩ : ∃ message, cause = .received (.pubrel id) message :=
        genuine.asks (by simp)
      exact rfl
  | subscribe msg self below valid =>
      cases self
      obtain ⟨sub, rfl, one⟩ : ∃ sub, cause = .subscribe sub ∧ msg.subscriptions = [sub] :=
        genuine.asks (by simp)
      rw [one] at valid ⊢
      have fine : env.topicFilterError sub.topic = none := by simpa using valid
      exact ⟨fine, _, own, by simp [fine]⟩
  | unsubscribe msg self below valid =>
      cases self
      obtain ⟨unsub, rfl, one⟩ : ∃ unsub, cause = .unsubscribe unsub ∧ msg.topics = [unsub.topic] :=
        genuine.asks (by simp)
      rw [one] at valid ⊢
      have fine : env.topicFilterError unsub.topic = none := by simpa using valid
      exact ⟨fine, _, own, by simp [fine]⟩
  | sendPing lastRetryCount self below =>
      cases self
      obtain rfl : cause = .tick := genuine.asks (by simp)
      exact rfl

/-- What a handler queues is a DISCONNECT, or what its cause asks for. -/
theorem Sends.sends {b : Body} {packet : VariablePacket} (sends : Sends env ctx s b packet)
    (genuine : b.Genuine ctx.origin.cause ctx.self)
    (queued : .emit (.queued ctx.origin packet) ∈ (handleBody env ctx b s).2) :
    (packet = .disconnect ∧ ∃ msg, b = .request (.disconnect msg)) ∨
      ctx.origin.cause.Sends env packet := by
  obtain ⟨a, ⟨n, cause⟩, now, res⟩ := ctx
  cases sends with
  | attempt attempts => exact .inr (attempts.sends genuine)
  | publish0 msg self below qos =>
      cases self
      obtain rfl : cause = .publish msg.topic msg.qos msg.payload := genuine.asks (by simp)
      have valid := SendPublishActor.queued_valid queued
      exact .inr ⟨valid, 0, fun other => absurd qos other, by rw [qos]; rfl⟩
  | puback packet id retryCount self below qos =>
      cases self
      obtain ⟨message, rfl⟩ : ∃ message, cause = .received (.publish packet) message :=
        genuine.asks (by simp)
      obtain ⟨topic, level, payload⟩ := packet
      obtain rfl : level = .level1 id := qos
      exact .inr rfl
  | disconnect msg self through => exact .inl ⟨rfl, msg, rfl⟩
  | connect msg self =>
      obtain rfl : cause = .connect msg := genuine
      exact .inr rfl

theorem ConnackActor.notes_accepted {code : ConnectReturnCode} {dst : Actor} {m : Msg} {id : UInt16}
    {e : Entry} (posted : .post dst m ∈ ConnackActor.handle env ctx code)
    (notes : m.body.notes = some (id, e)) :
    dst = .connectStatus ∧ id = 1 ∧ e = ⟨1, 0, none⟩ ∧ code = .connectionAccepted := by
  unfold ConnackActor.handle at posted
  split at posted
  · simp only [sendError, doSendStop, List.cons_append, List.nil_append, List.mem_cons,
      reduceCtorEq, Effect.post.injEq, List.not_mem_nil, or_false, false_or] at posted
    obtain ⟨-, rfl⟩ := posted
    cases notes
  · rcases List.mem_cons.mp posted with removed | posted
    · obtain ⟨-, rfl⟩ := Effect.post.inj removed
      cases notes
    · split at posted
      · rename_i accepted
        simp only [List.mem_cons, reduceCtorEq, Effect.post.injEq, List.not_mem_nil,
          or_false] at posted
        rcases posted with ⟨rfl, rfl⟩ | ⟨-, rfl⟩
        · cases notes
          exact ⟨rfl, rfl, rfl, accepted⟩
        · cases notes
      · simp only [sendError, doSendStop, List.cons_append, List.nil_append, List.mem_cons,
          reduceCtorEq, Effect.post.injEq, List.not_mem_nil, or_false, false_or] at posted
        obtain ⟨-, rfl⟩ := posted
        cases notes

theorem Produces.justified {b : Body} {dst : Actor} {m : Msg}
    (produces : Produces env ctx s b (.post dst m)) (posted : .post dst m ∈ (handleBody env ctx b s).2)
    (genuine : b.Genuine ctx.origin.cause ctx.self) (source : arrived log ctx.origin)
    (connected : b.pingPart → welcomed log) {id : UInt16} {e : Entry}
    (notes : m.body.notes = some (id, e)) : justified log dst id e := by
  generalize shape : (Effect.post dst m : ClientEffect) = f at produces
  cases produces with
  | note attempts =>
      cases shape
      exact attempts.justified genuine source connected notes
  | giveUp gives =>
      cases shape
      cases gives <;> cases notes
  | response packet retryCount response =>
      cases shape
      unfold responseTo at response
      split at response <;> cases response <;> cases notes
  | connecting msg self =>
      cases shape
      cases notes
      obtain ⟨a, ⟨n, cause⟩, now, res⟩ := ctx
      obtain rfl : cause = .connect msg := genuine
      exact ⟨rfl, by decide, .inl ⟨rfl, n, msg, source.gave (by simp) (by simp)⟩⟩
  | connack code retryCount op self =>
      obtain ⟨a, ⟨n, cause⟩, now, res⟩ := ctx
      cases self
      obtain ⟨message, rfl⟩ : ∃ message, cause = .received (.connack code) message :=
        genuine.asks (by simp)
      obtain ⟨rfl, rfl, rfl, rfl⟩ := ConnackActor.notes_accepted posted notes
      exact ⟨rfl, by decide, .inr ⟨rfl, n, message, source.gave (by simp) (by simp)⟩⟩
  | _ =>
      cases shape
      try cases notes

end Handlers

/-! ## In a run -/

/-- What is known of everything in flight and of what has been sent and delivered. -/
def known (env : Env) (log : ClientLog) : Local Actor Msg Task Event where
  mail a m := arrived log m.origin ∧
    (∀ msg, m.body = .request (.disconnect msg) → leaving log) ∧
    ∀ id e, m.body.notes = some (id, e) → justified log a id e
  task t := arrived log t.origin ∧
    ∀ deadline a msg, t.job = .resend deadline a (.disconnect msg) → leaving log
  event
    | .queued o packet =>
        packet = .disconnect ∧ leaving log ∨ arrived log o ∧ o.cause.Sends env packet
    | .accepted o _ _ => arrived log o
    | _ => True

theorem known_keeps (env : Env) (log : ClientLog) : (known env log).Keeps (system env) := by
  rintro a m holds t left
  obtain ⟨future, -, rfl⟩ := orphan_reply left
  exact ⟨holds.1, nofun⟩

theorem known_mono {env : Env} {log log' : ClientLog} (more : log ⊆ log') {w : ClientWorld}
    (holds : (known env log).Holds w) : (known env log').Holds w := by
  have still : leaving log → leaving log' := fun ⟨n, msg, given⟩ => ⟨n, msg, more given⟩
  refine holds.mono (fun a m before => ?_) (fun t before => ?_) (fun e before => ?_)
  · exact ⟨before.1.mono more, fun msg same => still (before.2.1 msg same),
      fun id e notes => (before.2.2 id e notes).mono more⟩
  · exact ⟨before.1.mono more, fun deadline a msg same => still (before.2 deadline a msg same)⟩
  · cases e with
    | queued o packet =>
        exact before.imp (fun ⟨same, called⟩ => ⟨same, still called⟩)
          fun ⟨source, sends⟩ => ⟨source.mono more, sends⟩
    | accepted o packet message => exact arrived.mono more before
    | error | wrote => exact True.intro

structure Justified (env : Env) (w : ClientWorld) : Prop where
  flight : (known env w.log).Holds w
  pending : w.state.pendingDisconnect → leaving w.log
  accepted : .connectionAccepted ∈ handledCodes w.log → welcomed w.log
  entries : ∀ a id e, w.state.entry id a = some e → justified w.log a id e

theorem justified_init (env : Env) (seed : ℕ) : Justified env (init env seed) where
  flight := by
    refine ⟨fun a m member => ?_, fun t member => ?_, fun e emitted => ?_⟩
    · simp only [init] at member
      split at member
      · obtain ⟨recipient, -, rfl⟩ := List.mem_map.mp member
        refine ⟨.inl rfl, fun msg same => ?_, fun id e notes => ?_⟩
        · cases same
        · cases notes
      · cases member
    · obtain rfl := List.mem_singleton.mp member
      refine ⟨.inr (.inl rfl), fun deadline a msg same => ?_⟩
      cases same
    · exact absurd emitted List.not_mem_nil
  pending waits := by cases waits
  accepted handled := by cases handled
  entries a id e found := by cases a <;> cases found

section Step

variable {env : Env} {seed : ℕ} {ls : List ClientMove} {w w' : ClientWorld} {mv : ClientMove}
  {s : State} {es : Out}

theorem log_subset (taken : clientStep env w mv = some w') : w.log ⊆ w'.log := by
  obtain ⟨s, es, reacted, -⟩ := World.fire_eq_some.mp taken
  rw [World.fire_log reacted taken]
  exact fun r member => List.mem_append_right _ (List.mem_cons_of_mem _ member)

theorem origin_arrived (inv : Justified env w) (taken : clientStep env w mv = some w')
    (reacted : w.reaction (system env) (w.results mv.full) mv.label = some (s, es)) {o : Origin}
    (stems : stepOrigin mv.label = some o) : arrived w'.log o := by
  have source := inv.flight.source reacted
  cases label : mv.label with
  | take a m =>
      rw [label] at stems source
      cases stems
      exact source.1.mono (log_subset taken)
  | run t =>
      rw [label] at stems source
      cases stems
      exact source.1.mono (log_subset taken)
  | give i =>
      rw [label] at stems
      cases i with
      | cause o' =>
          cases stems
          exact .inr (.inr ((gave_step taken).mpr (.inl label)))
      | _ => cases stems

theorem Handles.called {a : Actor} {o : Origin} {msg : Disconnect} (inv : Justified env w)
    (handles : Handles mv.label a o (.request (.disconnect msg)))
    (reacted : w.reaction (system env) (w.results mv.full) mv.label = some (s, es)) :
    leaving w.log := by
  have source := inv.flight.source reacted
  rcases handles.label_eq with label | ⟨notice, -, -, same⟩
  · rw [label] at source
    exact source.2.1 msg rfl
  · cases notice <;> cases same

theorem disconnect_posted (inv : Justified env w) (genuine : genuine.Holds w)
    (taken : clientStep env w mv = some w')
    (reacted : w.reaction (system env) (w.results mv.full) mv.label = some (s, es)) {dst : Actor}
    {o : Origin} {msg : Disconnect} (posted : .post dst ⟨o, .request (.disconnect msg)⟩ ∈ es) :
    leaving w'.log := by
  have still : leaving w.log → leaving w'.log :=
    fun ⟨n, msg, given⟩ => ⟨n, msg, log_subset taken given⟩
  generalize shape : (⟨o, .request (.disconnect msg)⟩ : Msg) = m at posted
  cases post_step genuine reacted posted with
  | handler handles produces =>
      generalize shape' : (Effect.post dst m : ClientEffect) = e at produces
      subst shape
      cases produces with
      | insist msg' self waiting =>
          exact still (inv.pending ((Bool.and_eq_true _ _).mp waiting).1)
      | note attempts =>
          have same := (Msg.mk.inj (Effect.post.inj shape').2).2
          cases attempts <;> cases same
      | giveUp gives =>
          cases shape'
          cases gives
      | response packet retryCount response =>
          cases shape'
          unfold responseTo at response
          split at response <;> simp at response
      | _ => cases shape'
  | asks o' future b label awaits question =>
      cases shape
      cases future with
      | statusCheck status self id check retryMsg => cases status <;> cases question
      | _ => cases question
  | resend o' deadline req label asks home =>
      cases shape
      have source := inv.flight.source reacted
      rw [label] at source
      exact still (source.2 _ _ msg rfl)
  | retry o' future answer req label asks home other =>
      cases shape
      exact absurd (Option.some.inj home).symm other
  | note | pubrec | stop => cases shape
  | arrives o' label arrives =>
      subst shape
      generalize shape : (Effect.post dst ⟨o, .request (.disconnect msg)⟩ : ClientEffect) = e
        at arrives
      cases arrives with
      | disconnect msg' cause =>
          cases shape
          obtain ⟨n, same⟩ := o
          obtain rfl : same = .disconnect msg := cause
          exact ⟨n, msg, (gave_step taken).mpr (.inl label)⟩
      | _ => cases shape

theorem disconnect_resent (inv : Justified env w) (genuine : genuine.Holds w)
    (reacted : w.reaction (system env) (w.results mv.full) mv.label = some (s, es)) {o : Origin}
    {deadline : ℕ} {a : Actor} {msg : Disconnect}
    (spawned : .spawn ⟨o, .resend deadline a (.disconnect msg)⟩ ∈ es) : leaving w.log := by
  have source := genuine.source reacted
  have handled {ctx : Ctx} {b : Body} (handles : Handles mv.label ctx.self ctx.origin b)
      (produces : Produces env ctx w.state b
        (.spawn ⟨o, .resend deadline a (.disconnect msg)⟩)) : leaving w.log := by
    generalize shape : (Effect.spawn ⟨o, .resend deadline a (.disconnect msg)⟩ : ClientEffect) = e
      at produces
    cases produces with
    | resend retries =>
        have same := (Effect.spawn.inj shape)
        have same := (Job.resend.inj (Task.mk.inj same).2).2.2
        cases retries with
        | attempt attempts => cases attempts <;> cases same
        | disconnect msg' self through => exact handles.called inv reacted
        | _ => cases same
    | _ => cases shape
  obtain ⟨label, full⟩ := mv
  cases reaction_causes reacted _ spawned with
  | take a m produces => exact handled (.take a m.origin m.body) produces
  | run t runs =>
      obtain ⟨o', job⟩ := t
      generalize shape : (Effect.spawn ⟨o, .resend deadline a (.disconnect msg)⟩ : ClientEffect) = e
        at runs
      cases runs with
      | notify notice produces =>
          subst shape
          exact @handled ⟨notice.owner, o', w.state.now, w.results full⟩ _
            (.notify o' notice) produces
      | resumed future answer continues =>
          cases continues with
          | timeout future dst req => cases source.2
          | _ => cases shape
      | _ => cases shape
  | arrive o' arrives =>
      generalize shape : (Effect.spawn ⟨o, .resend deadline a (.disconnect msg)⟩ : ClientEffect) = e
        at arrives
      cases arrives <;> cases shape

theorem queued_sends (inv : Justified env w) (genuine : genuine.Holds w)
    (reacted : w.reaction (system env) (w.results mv.full) mv.label = some (s, es)) {o : Origin}
    {packet : VariablePacket} (queued : .emit (.queued o packet) ∈ es) :
    packet = .disconnect ∧ leaving w.log ∨ o.cause.Sends env packet := by
  rcases queued_reaction reacted queued with ⟨a, b, handles, sends⟩ |
    ⟨id, packet', retryCount, answer, label, rfl⟩
  · have fits := handles.genuine genuine reacted
    have handled : (handleBody env ⟨a, o, w.state.now, w.results mv.full⟩ b w.state).2 = es :=
      congrArg Prod.snd (handles.reaction reacted)
    rw [← handled] at queued
    refine (sends.sends fits queued).imp_left fun ⟨same, msg, call⟩ => ⟨same, ?_⟩
    subst call
    exact handles.called inv reacted
  · have source := genuine.source reacted
    rw [label] at source
    obtain ⟨⟨⟨message, cause⟩, qos, -⟩, -⟩ := source
    obtain ⟨n, same⟩ := o
    obtain rfl : same = .received (.publish packet') message := cause
    obtain ⟨topic, level, payload⟩ := packet'
    obtain rfl : level = .level2 id := qos
    exact .inr rfl

theorem accepted_stems {o : Origin} {packet : PublishPacket} {message : PublishMessage}
    (reacted : w.reaction (system env) (w.results mv.full) mv.label = some (s, es))
    (delivered : .emit (.accepted o packet message) ∈ es) : stepOrigin mv.label = some o := by
  rcases accepted_reaction reacted delivered with ⟨_, _, label, -⟩ | ⟨_, label⟩ <;> rw [label] <;> rfl

theorem notes_justified (inv : Justified env w) (pings : PingsConnected env w)
    (taken : clientStep env w mv = some w')
    (reacted : w.reaction (system env) (w.results mv.full) mv.label = some (s, es)) {dst : Actor}
    {m : Msg} (posted : .post dst m ∈ es) {id : UInt16} {e : Entry}
    (notes : m.body.notes = some (id, e)) : justified w'.log dst id e := by
  have genuine := pings.wired.genuine
  cases post_step genuine reacted posted with
  | @handler a o b _ handles produces =>
      have handled : (handleBody env ⟨a, o, w.state.now, w.results mv.full⟩ b w.state).2 = es :=
        congrArg Prod.snd (handles.reaction reacted)
      rw [← handled] at posted
      refine produces.justified posted (handles.genuine genuine reacted)
        (origin_arrived inv taken reacted ?_)
        (fun ping => (inv.accepted (handles.connected pings reacted ping)).mono (log_subset taken))
        notes
      rcases handles.label_eq with label | ⟨notice, label, -, -⟩ <;> rw [label] <;> rfl
  | asks o future b label awaits question =>
      cases future with
      | statusCheck status self id check retryMsg => cases status <;> cases question <;> cases notes
      | _ =>
          cases question
          cases notes
  | note o id retryCount packet answer label qos told =>
      subst told
      cases notes
      have source := genuine.source reacted
      rw [label] at source
      obtain ⟨⟨⟨message, cause⟩, -, below⟩, -⟩ := source
      have source := origin_arrived inv taken reacted (o := o) (by rw [label]; rfl)
      obtain ⟨n, same⟩ := o
      obtain rfl : same = .received (.publish packet) message := cause
      obtain ⟨topic, level, payload⟩ := packet
      obtain rfl : level = .level2 id := qos
      exact ⟨rfl, below, n, topic, payload, message, source.gave (by simp) (by simp)⟩
  | arrives o label arrives =>
      generalize shape : (Effect.post dst m : ClientEffect) = e at arrives
      cases arrives <;> cases shape <;> cases notes
  | resend | retry | pubrec | stop => cases notes

theorem accepted_received (inv : Justified env w) (genuine : genuine.Holds w)
    (taken : clientStep env w mv = some w')
    (reacted : w.reaction (system env) (w.results mv.full) mv.label = some (s, es))
    (handled : .connectionAccepted ∈ takenCode .connack mv) : welcomed w'.log := by
  unfold takenCode at handled
  split at handled
  · rename_i a m label
    obtain ⟨rfl, code⟩ : a = .connack ∧ m.body.code = some .connectionAccepted := by
      simpa using handled
    obtain ⟨⟨n, cause⟩, b⟩ := m
    have source := genuine.source reacted
    rw [label] at source
    have received := origin_arrived inv taken reacted (o := ⟨n, cause⟩) (by rw [label]; rfl)
    obtain ⟨retryCount, rfl⟩ := Body.code_eq_some code
    obtain ⟨message, rfl⟩ : ∃ message, cause = .received (.connack .connectionAccepted) message :=
      Body.Genuine.asks source (by simp)
    exact ⟨n, message, received.gave (by simp) (by simp)⟩
  · cases handled

theorem justified_step (inv : Justified env w) (pings : PingsConnected env w)
    (taken : clientStep env w mv = some w') : Justified env w' := by
  have genuine := pings.wired.genuine
  obtain ⟨s, es, reacted, -⟩ := World.fire_eq_some.mp taken
  have more := log_subset taken
  have still : leaving w.log → leaving w'.log := fun ⟨n, msg, given⟩ => ⟨n, msg, more given⟩
  have source {o : Origin} (stems : stepOrigin mv.label = some o) : arrived w'.log o :=
    origin_arrived inv taken reacted stems
  constructor
  · refine (known_mono more inv.flight).fire (known_keeps env w'.log) reacted taken ?_
    intro e member
    cases e with
    | post dst m =>
        refine ⟨source (origin_step reacted member rfl), fun msg same => ?_,
          fun id e notes => notes_justified inv pings taken reacted member notes⟩
        obtain ⟨o, b⟩ := m
        obtain rfl : b = .request (.disconnect msg) := same
        exact disconnect_posted inv genuine taken reacted member
    | spawn t =>
        refine ⟨source (origin_step reacted member rfl), fun deadline a msg same => ?_⟩
        obtain ⟨o, job⟩ := t
        obtain rfl : job = .resend deadline a (.disconnect msg) := same
        exact still (disconnect_resent inv genuine reacted member)
    | emit e =>
        cases e with
        | queued o packet =>
            exact (queued_sends inv genuine reacted member).imp
              (fun ⟨same, called⟩ => ⟨same, still called⟩)
              fun sends => ⟨source (origin_step reacted member rfl), sends⟩
        | accepted o packet message => exact source (accepted_stems reacted member)
        | error | wrote => exact True.intro
    | halt a => exact True.intro
  · intro pending
    rw [World.fire_state reacted taken] at pending
    by_cases call : ∃ o msg, mv.label = .take .disconnect ⟨o, .request (.disconnect msg)⟩
    · obtain ⟨o, msg, label⟩ := call
      have handles : Handles mv.label .disconnect o (.request (.disconnect msg)) := by
        rw [label]
        exact .take _ _ _
      exact still (handles.called inv reacted)
    · refine still (inv.pending ?_)
      by_cases handles : ∃ m, mv.label = .take .disconnect m
      · obtain ⟨⟨o, b⟩, label⟩ := handles
        by_cases report : ∃ msg, b = .packetSendStatus msg
        · obtain ⟨msg, rfl⟩ := report
          have kept := (report_reaction label reacted).2
          split at kept
          · rw [kept] at pending
            cases pending
          · rwa [kept.1] at pending
        · rwa [idle_reaction label reacted (not_exists.mp report)
            fun msg same => call ⟨o, msg, same ▸ label⟩] at pending
      · rwa [(disconnect_state (not_exists.mp handles) reacted).2] at pending
  · intro handled
    rw [handledCodes_step reacted taken] at handled
    exact (List.mem_append.mp handled).elim (accepted_received inv genuine taken reacted)
      fun before => (inv.accepted before).mono more
  · intro a id e found
    rw [World.fire_state reacted taken] at found
    rcases entry_source reacted found with before | ⟨m, label, notes⟩
    · exact (inv.entries a id e before).mono more
    · have source := inv.flight.source reacted
      rw [label] at source
      exact (source.2.2 id e notes).mono more

theorem justified_run (run : Run env seed ls w) : Justified env w :=
  exec_induction (motive := fun _ w => Justified env w) (justified_init env seed)
    (fun _ _ _ _ before inv taken => justified_step inv (pingsConnected_run before) taken) run

/-- The client sends what was asked for by what it was given, and a DISCONNECT when `disconnect` was
    called. It delivers the messages that it has received, unchanged. -/
theorem nothing_invented (run : Run env seed ls w) :
    (∀ o packet, .emitted (.queued o packet) ∈ w.log →
      packet = .disconnect ∧ leaving w.log ∨ arrived w.log o ∧ o.cause.Sends env packet) ∧
    ∀ o packet message, .emitted (.accepted o packet message) ∈ w.log →
      ∃ n id, o.cause = .received (.publish packet) n ∧ .gave (.cause o) ∈ w.log ∧
        packet.qos.Tells id ∧ message = ⟨id, packet.topicName, packet.payload⟩ := by
  have inv := justified_run run
  refine ⟨fun o packet queued => inv.flight.log _ queued, fun o packet message delivered => ?_⟩
  obtain ⟨⟨n, cause⟩, id, tells, same⟩ := (genuine_run run).log _ delivered
  have source : arrived w.log o := inv.flight.log _ delivered
  exact ⟨n, id, cause, source.gave (by rw [cause]; simp) (by rw [cause]; simp), tells, same⟩

/-- Every entry of a status map goes back to a call or to a packet that the client was given, and its
    retries are not used up. -/
theorem entries_justified (run : Run env seed ls w) {a : Actor} {id : UInt16} {e : Entry}
    (found : w.state.entry id a = some e) : justified w.log a id e :=
  (justified_run run).entries a id e found

end Step

/-- A message of level 2 is received while one of the client's own is on its way. -/
def bothWays : List Turn :=
  [.give (.cause ⟨1, .publish "topic" .level1 [1]⟩), .handle .sendPublish, .handle .publishStatus,
    .give (.cause ⟨2, .received (.publish ⟨"other", .level2 7, [2]⟩) 1⟩), .handle .dispatch,
    .handle .recvPublish, .task 0, .handle .publishStatus, .task 0, .handle .publishStatus]

theorem nothing_invented_bothWays : ∃ w,
    Run plainEnv 0 (schedule plainEnv (init plainEnv 0) bothWays) w ∧
      arrived w.log ⟨1, .publish "topic" .level1 [1]⟩ ∧
      .gave (.cause ⟨2, .received (.publish ⟨"other", .level2 7, [2]⟩) 1⟩) ∈ w.log := by
  obtain ⟨w, run, queued, delivered⟩ : ∃ w,
      Run plainEnv 0 (schedule plainEnv (init plainEnv 0) bothWays) w ∧
        .emitted (.queued ⟨1, .publish "topic" .level1 [1]⟩
          (.publish ⟨"topic", .level1 1, [1]⟩)) ∈ w.log ∧
        .emitted (.accepted ⟨2, .received (.publish ⟨"other", .level2 7, [2]⟩) 1⟩
          ⟨"other", .level2 7, [2]⟩ ⟨7, "other", [2]⟩) ∈ w.log :=
    ⟨_, rfl, by decide +kernel, by decide +kernel⟩
  obtain ⟨sends, delivers⟩ := nothing_invented run
  obtain ⟨n, id, -, given, -⟩ := delivers _ _ _ delivered
  rcases sends _ _ queued with ⟨other, -⟩ | ⟨source, -⟩
  · cases other
  · exact ⟨w, run, source, given⟩

/-- The entry of a ping once the connection is accepted. -/
def notedPing : List Turn := pingsWhenConnected ++ [.handle .pingStatus]

theorem entries_justified_bothWays :
    (∃ w, Run plainEnv 0 (schedule plainEnv (init plainEnv 0) bothWays) w ∧
      justified w.log .publishStatus 1 ⟨1, 0, some .pendingAck⟩ ∧
      justified w.log .publishStatus 7 ⟨7, 0, some .pendingRel⟩) ∧
    ∃ w, Run plainEnv 0 (schedule plainEnv (init plainEnv 0) notedPing) w ∧
      justified w.log .pingStatus 0 ⟨0, 0, none⟩ := by
  obtain ⟨w, run, own, other⟩ : ∃ w,
      Run plainEnv 0 (schedule plainEnv (init plainEnv 0) bothWays) w ∧
        w.state.entry 1 .publishStatus = some ⟨1, 0, some .pendingAck⟩ ∧
        w.state.entry 7 .publishStatus = some ⟨7, 0, some .pendingRel⟩ :=
    ⟨_, rfl, by decide +kernel, by decide +kernel⟩
  obtain ⟨w', run', ping⟩ : ∃ w,
      Run plainEnv 0 (schedule plainEnv (init plainEnv 0) notedPing) w ∧
        w.state.entry 0 .pingStatus = some ⟨0, 0, none⟩ :=
    ⟨_, rfl, by decide +kernel⟩
  exact ⟨⟨w, run, entries_justified run own, entries_justified run other⟩, w', run',
    entries_justified run' ping⟩

end ActixMqtt
