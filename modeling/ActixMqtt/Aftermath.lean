import ActixMqtt.Ending
import ActixMqtt.Pipeline
import ActixMqtt.Provenance

/-! # After the end

DisconnectActor, ConnectActor, ConnackActor, DispatchActor and the connect status actor are not
registered with StopActor and go on after the client has ended, and so do futures and delayed
resends. Whatever these do and whatever is called or received, nothing more is sent.
-/

namespace ActixMqtt

open ActorSystem

section Step

variable {env : Env} {seed : ℕ} {ls : List ClientMove} {w w' : ClientWorld} {mv : ClientMove}
  {s : State} {es : Out}

theorem queues_open {res : Actor → Option SendError} {a : Actor} {b : Body}
    (queues : queues env res s a b) : res .send ≠ some .closed := by
  intro closed
  unfold ActixMqtt.queues at queues
  split at queues <;> simp [closed] at queues

theorem queuesPacket_open (queues : queuesPacket env w mv) : w.live .send := by
  suffices opened : w.results mv.full .send ≠ some .closed by
    by_contra dead
    exact opened (if_neg dead)
  unfold queuesPacket at queues
  split at queues
  · exact queues_open queues
  · exact queues_open queues
  · intro closed
    simp [queuesPubrec, closed] at queues
  · cases queues

theorem unsent_step (known : genuine.Holds w) (dead : w.live .send = false)
    (taken : clientStep env w mv = some w') : sent w'.log = sent w.log := by
  obtain ⟨s, es, reacted, -⟩ := World.fire_eq_some.mp taken
  rw [sent_step reacted taken, ← paired_step known reacted, List.filterMap_eq_nil_iff.mpr,
    List.append_nil]
  intro m posted
  rcases queuesPacket_of_post known reacted (mem_posts.mp posted) with stop | queues
  · simp [Msg.handed, stop]
  · rw [queuesPacket_open queues] at dead
    cases dead

/-- RecvPublishActor's future knows that it is to deliver the message. -/
def aboutToDeliver (w : ClientWorld) (o : Origin) (packet : PublishPacket) : Prop :=
  ∃ id, packet.qos = .level2 id ∧
    ⟨o, .resumed (.recvLevel2 id packet 0) (.publishStatus none)⟩ ∈ w.tasks

theorem delivered_step (known : genuine.Holds w) (dead : w.live .recvPublish = false)
    (reacted : w.reaction (system env) (w.results mv.full) mv.label = some (s, es)) {o : Origin}
    {packet : PublishPacket} {message : PublishMessage}
    (delivered : .emit (.accepted o packet message) ∈ es) : aboutToDeliver w o packet := by
  have source := known.source reacted
  rcases accepted_reaction reacted delivered with ⟨_, _, label, -⟩ | ⟨id, label⟩
  · rw [label] at reacted
    have alive := (World.reaction_take.mp reacted).1
    rw [dead] at alive
    cases alive
  · rw [label] at source reacted
    obtain ⟨⟨-, level2, -⟩, -⟩ := source
    exact ⟨id, level2, (World.reaction_run.mp reacted).1⟩

/-- Once the publish status actor has stopped, no future is told any more that it is to deliver. -/
theorem aboutToDeliver_step (dead : w.live .publishStatus = false)
    (taken : clientStep env w mv = some w') {o : Origin} {packet : PublishPacket}
    (later : aboutToDeliver w' o packet) : aboutToDeliver w o packet := by
  obtain ⟨id, level2, waits⟩ := later
  refine ⟨id, level2, ?_⟩
  obtain ⟨s, es, reacted, -⟩ := World.fire_eq_some.mp taken
  rcases World.mem_tasks_of_fire reacted taken waits with before | spawned | ⟨a, m, -, left, -⟩
  · exact before
  · obtain ⟨label, full⟩ := mv
    generalize shape : (Effect.spawn ⟨o, .resumed (.recvLevel2 id packet 0) (.publishStatus none)⟩ :
      ClientEffect) = e at spawned
    cases reaction_causes reacted e spawned with
    | take a m produces =>
        obtain ⟨o', b⟩ := m
        cases produces with
        | answer op future self =>
            obtain rfl : a = .publishStatus := self
            have alive := (World.reaction_take.mp reacted).1
            rw [dead] at alive
            cases alive
        | _ => cases shape
    | run t runs =>
        obtain ⟨o', job⟩ := t
        cases runs with
        | notify notice produces =>
            subst shape
            cases notice <;> cases produces
        | resumed future answer continues =>
            subst shape
            cases continues
        | _ => cases shape
    | arrive o' arrives => cases arrives <;> cases shape
    | messageClosed => cases shape
  · obtain ⟨future, -, same⟩ := orphan_reply left
    cases same

theorem entry_kept {a : Actor} (dead : w.live a = false)
    (reacted : w.reaction (system env) (w.results mv.full) mv.label = some (s, es)) (id : UInt16) :
    s.entry id a = w.state.entry id a := by
  rcases state_step reacted with ⟨b, m, label, changed⟩ | ⟨-, changed⟩
  · have other : a ≠ b := by
      rintro rfl
      have alive := (World.reaction_take.mp (label ▸ reacted)).1
      rw [dead] at alive
      cases alive
    exact changed.entry other
  · rw [changed]
    cases a <;> rfl

/-- What remains of a client since it ended at `w`. -/
structure SilentSince (env : Env) (w w' : ClientWorld) : Prop where
  ended : Ended env w'
  sent : sent w'.log = sent w.log
  written : written w'.log = written w.log
  entries : ∀ a id, a ≠ .connectStatus → w'.state.entry id a = w.state.entry id a
  delivered : ∀ o packet message, .emitted (.accepted o packet message) ∈ w'.log →
    .emitted (.accepted o packet message) ∈ w.log ∨ aboutToDeliver w o packet
  delivers : ∀ o packet, aboutToDeliver w' o packet → aboutToDeliver w o packet

theorem Ended.dead (ended : Ended env w) {a : Actor}
    (member : a ∈ [Actor.send, .publishStatus, .subscribeStatus, .unsubscribeStatus, .pingStatus,
      .recvPublish]) : w.live a = false := by
  have registered : ∀ a ∈ [Actor.send, .publishStatus, .subscribeStatus, .unsubscribeStatus,
      .pingStatus, .recvPublish], a ≠ .clientStop ∧ a ∈ stopRecipients env := by
    cases clientStop : env.clientStop <;> simp [stopRecipients, clientStop]
  exact ended.2 a (registered a member).2 (registered a member).1

theorem Ended.step (ended : Ended env w) (taken : clientStep env w mv = some w') :
    Ended env w' :=
  ⟨World.fire_dead taken ended.1,
    fun a registered own => World.fire_dead taken (ended.2 a registered own)⟩

theorem SilentSince.refl (ended : Ended env w) : SilentSince env w w where
  ended := ended
  sent := rfl
  written := rfl
  entries _ _ _ := rfl
  delivered _ _ _ before := .inl before
  delivers _ _ before := before

theorem SilentSince.step {start : ClientWorld} (silent : SilentSince env start w)
    (known : genuine.Holds w) (taken : clientStep env w mv = some w') :
    SilentSince env start w' := by
  obtain ⟨s, es, reacted, -⟩ := World.fire_eq_some.mp taken
  have dead := @Ended.dead _ _ silent.ended
  constructor
  · exact silent.ended.step taken
  · exact (unsent_step known (dead (by decide)) taken).trans silent.sent
  · rcases written_step reacted taken with same | ⟨alive, -⟩
    · exact same.trans silent.written
    · rw [dead (by decide)] at alive
      cases alive
  · intro a id other
    rw [World.fire_state reacted taken, ← silent.entries a id other]
    cases a
    case connectStatus => exact absurd rfl other
    case publishStatus | subscribeStatus | unsubscribeStatus | pingStatus =>
        exact entry_kept (dead (by decide)) reacted id
    all_goals rfl
  · intro o packet message delivered
    rcases (emitted_step reacted taken).mp delivered with now | before
    · exact .inr (silent.delivers o packet (delivered_step known (dead (by decide)) reacted now))
    · exact silent.delivered o packet message before
  · intro o packet later
    exact silent.delivers o packet (aboutToDeliver_step (dead (by decide)) taken later)

/-- A client that has ended writes nothing more and its entries stay, whatever is called or received
    afterwards. It delivers no message but those that it had found to be new before. -/
theorem silent_after_end (run : Run env seed ls w) (ended : Ended env w) {moves : List ClientMove}
    (later : exec (clientStep env) w moves = some w') : SilentSince env w w' := by
  have preserved : ∀ v mv v', genuine.Holds v ∧ SilentSince env w v → clientStep env v mv = some v' →
      genuine.Holds v' ∧ SilentSince env w v' :=
    fun _ _ _ ⟨known, silent⟩ taken => ⟨genuine_step known taken, silent.step known taken⟩
  exact (exec_preserves preserved ⟨genuine_run run, .refl ended⟩ later).2

end Step

/-- The connection is lost when a level 2 message has just been found to be new. -/
def lostOnDelivery : List Turn :=
  List.replicate 18 (.handle .stop) ++
    [.give (.cause ⟨1, .received (.publish ⟨"topic", .level2 7, [1]⟩) 1⟩), .handle .dispatch,
      .handle .recvPublish, .task 0, .handle .publishStatus,
      .give (.cause ⟨2, .parseError "end of stream"⟩), .handle .stop] ++
    ((stopRecipients plainEnv).filter (· ≠ .recv)).map .handle

theorem silent_after_end_lostOnDelivery : ∃ w w',
    Run plainEnv 0 (schedule plainEnv (init plainEnv 0) lostOnDelivery) w ∧ Ended plainEnv w ∧
      exec (clientStep plainEnv) w (schedule plainEnv w [.task 0]) = some w' ∧
      .emitted (.accepted ⟨1, .received (.publish ⟨"topic", .level2 7, [1]⟩) 1⟩
        ⟨"topic", .level2 7, [1]⟩ ⟨7, "topic", [1]⟩) ∈ w'.log ∧ sent w'.log = sent w.log := by
  obtain ⟨w, w', run, stopped, told, later, delivered⟩ : ∃ w w',
      Run plainEnv 0 (schedule plainEnv (init plainEnv 0) lostOnDelivery) w ∧
        w.live .stop = false ∧ (∀ a ∈ stopRecipients plainEnv, a ≠ .clientStop → w.live a = false) ∧
        exec (clientStep plainEnv) w (schedule plainEnv w [.task 0]) = some w' ∧
        .emitted (.accepted ⟨1, .received (.publish ⟨"topic", .level2 7, [1]⟩) 1⟩
          ⟨"topic", .level2 7, [1]⟩ ⟨7, "topic", [1]⟩) ∈ w'.log :=
    ⟨_, _, rfl, by decide +kernel, by decide +kernel, rfl, by decide +kernel⟩
  have silent := silent_after_end run ⟨stopped, told⟩ later
  exact ⟨w, w', run, ⟨stopped, told⟩, later, delivered, silent.sent⟩

end ActixMqtt
