import ActixMqtt.Handles
import ActixMqtt.Watching

/-! # The wait for CONNACK

ConnectActor notes key 0 when it sends CONNECT and looks at it again when its timer has run
out. ConnackActor removes the key. The question of the timer's future goes through the
mailbox of the connect status actor like everything else, so that actor decides which of
the two came first.
-/

namespace ActixMqtt

open ActorSystem

/-- What ConnectActor tells the connect status actor when it handles a Connect. -/
def connectNote (o : Origin) : Msg := ⟨o, .unitStatus (.setPacketStatus 0 ⟨0, 0, ()⟩) none⟩

/-- The question of the future that ConnectActor's timer spawns. -/
def connectRead (o : Origin) : Msg := ⟨o, Future.connectAck.question.2⟩

/-- What a message does to the keys of the connect status map. -/
def Body.connectMark : Body → Mark UInt16
  | .unitStatus op _ => op.mark
  | _ => .keep

def connectKeys (s : State) : Set UInt16 := {id | id ∈ s.connectStatus}

/-- ConnackActor's RemovePacketStatus(0). -/
def removedByConnack (m : Msg) : Bool :=
  m.body = .unitStatus (.removePacketStatus 0) none && m.origin.cause matches .received (.connack _) _

/-- What may follow the note of `o` while its question waits. -/
def NotedSince (o : Origin) (m : Msg) : Prop :=
  m.body.connectMark ≠ .put 0 ∧
    (m.body.connectMark = .drop 0 → removedByConnack m ∨ m = connectRead o)

/-- What is handled between the note and the question. -/
def NotedUntil (m : Msg) : Prop :=
  m.body.connectMark ≠ .put 0 ∧ (m.body.connectMark = .drop 0 → removedByConnack m)

/-- The question has been answered by what was handled since the note. -/
def Decided (o : Origin) (answer : Answer) (log : ClientLog) : Prop :=
  ∃ later between earlier status,
    handled .connectStatus log =
      later ++ connectRead o :: (between ++ connectNote o :: earlier) ∧
    answer = .unitStatus status ∧ (status.isSome ↔ between.any removedByConnack = false)

theorem removedByConnack_mark {m : Msg} (removed : removedByConnack m) :
    m.body.connectMark = .drop 0 := by
  have shape : m.body = .unitStatus (.removePacketStatus 0) none := by
    simpa using (Bool.and_eq_true_iff.mp removed).1
  rw [shape]
  rfl

section Step

variable {env : Env} {w w' : ClientWorld} {mv : ClientMove} {s : State} {es : Out}

/-! ## The connect status map -/

theorem connectKeys_step
    (reacted : w.reaction (system env) (w.results mv.full) mv.label = some (s, es)) :
    (∀ m, mv.label = .take .connectStatus m →
        connectKeys s = m.body.connectMark.on (connectKeys w.state)) ∧
      ((∀ m, mv.label ≠ .take .connectStatus m) → connectKeys s = connectKeys w.state) := by
  constructor
  · rintro ⟨o, b⟩ label
    obtain ⟨-, -, handled⟩ := World.reaction_take.mp (label ▸ reacted)
    obtain ⟨rfl, -⟩ := Prod.mk.inj handled
    cases b with
    | unitStatus op future => exact PacketStatusActor.handle_keys w.state.connectStatus op
    | _ => rfl
  · intro other
    rcases connectStatus_state reacted with same | ⟨o, op, future, label⟩
    · rw [connectKeys, connectKeys, same]
    · exact absurd label (other _)

theorem connectKeys_run {seed : Nat} {ls : List ClientMove} (run : Run env seed ls w) :
    connectKeys w.state =
      settle ((handled .connectStatus w.log).reverse.map (·.body.connectMark)) ∅ := by
  refine settles_run (·.body.connectMark) connectKeys ?_ (fun _ _ _ _ reacted => connectKeys_step reacted) run
  simp [init, connectKeys]

/-! ## Who tells the connect status actor what -/

theorem connack_posts {o : Origin} {code : ConnectReturnCode} {n : UInt16} {m : Msg}
    (label : mv.label = .take .connack ⟨o, .request (.packet ⟨.connack code, n⟩)⟩)
    (reacted : w.reaction (system env) (w.results mv.full) mv.label = some (s, es))
    (posted : .post .connectStatus m ∈ es) :
    m = ⟨o, .unitStatus (.removePacketStatus 0) none⟩ ∨
      m = ⟨o, .unitStatus (.setPacketStatus 1 ⟨1, 0, ()⟩) none⟩ := by
  have handled : ConnackActor.handle env ⟨.connack, o, w.state.now, w.results mv.full⟩ code = es :=
    (Prod.mk.inj (World.reaction_take.mp (label ▸ reacted)).2.2).2
  subst handled
  unfold ConnackActor.handle at posted
  split at posted
  · simp [sendError, doSendStop] at posted
  · split at posted
    · simpa using posted
    · exact .inl (by simpa [sendError, doSendStop] using posted)

theorem connectStatus_posted {m : Msg} (wired : Wired env w)
    (reacted : w.reaction (system env) (w.results mv.full) mv.label = some (s, es))
    (posted : .post .connectStatus m ∈ es) :
    (∃ msg, mv.label = .take .connect ⟨m.origin, .connect msg⟩) ∨
      (∃ future, mv.label = .run ⟨m.origin, .spawned future⟩ ∧
        future.question = (.connectStatus, m.body)) ∨
      removedByConnack m ∨ m.body.connectMark = .put 1 ∨ m.body.connectMark = .keep := by
  have source := wired.genuine.source reacted
  cases post_step wired.genuine reacted posted with
  | @handler self o b m handles produces =>
      cases produces.signals rfl with
      | passStop recipient self' first member => exact .inr (.inr (.inr (.inr rfl)))
      | connecting msg self' =>
          obtain rfl : self = .connect := self'
          rcases handles.label_eq with label | ⟨notice, -, owner, -⟩
          · exact .inl ⟨msg, label⟩
          · cases notice <;> cases owner
      | connack code retryCount op self' =>
          obtain rfl : self = .connack := self'
          rcases handles.label_eq with label | ⟨notice, -, owner, -⟩
          · rw [label] at source
            rcases connack_posts label reacted posted with same | same
            · cases same
              rcases source with sent | ⟨⟨n, cause⟩, -⟩
              · cases sent
              · refine .inr (.inr (.inl ?_))
                simp [removedByConnack, show o.cause = _ from cause]
            · cases same
              exact .inr (.inr (.inr (.inl rfl)))
          · cases notice <;> cases owner
  | asks o future b label awaits question => exact .inr (.inl ⟨future, label, question⟩)
  | resend o deadline req label asks home | retry o future answer req label asks home other =>
      exact .inr (.inr (.inr (.inr rfl)))
  | note o id retryCount packet answer label qos told => cases told
  | pubrec o id retryCount packet answer label told => cases told
  | stop o told => exact .inr (.inr (.inr (.inr rfl)))
  | arrives o label arrival =>
      generalize shape : (Effect.post .connectStatus m : ClientEffect) = e at arrival
      cases arrival <;> cases shape

/-! ## One timer -/

theorem connectAck_step {o : Origin}
    (reacted : w.reaction (system env) (w.results mv.full) mv.label = some (s, es))
    (taken : clientStep env w mv = some w') (waits : Unanswered o .connectAck w') :
    Unanswered o .connectAck w ∨
      (∃ msg, mv.label = .take .connect ⟨o, .connect msg⟩) ∧
        .spawn ⟨o, .timer (w.state.now + commandTimeout) (some .connect) .connectAck⟩ ∈ es := by
  rcases unanswered_fire reacted taken waits with before | ⟨e, member, asks⟩
  · exact .inl before.of_consume
  rcases asks_step reacted member asks with before | ⟨a, o', b, handles, produces⟩ |
    ⟨o', future', answer, continues⟩
  · exact .inl before
  · cases asks with
    | question =>
        have silent := produces.reply
        rw [Future.question_reply] at silent
        cases silent
    | timer deadline owner =>
        generalize shape : (Effect.spawn ⟨o, .timer deadline owner .connectAck⟩ : ClientEffect) = e
          at produces
        cases produces with
        | check attempts =>
            generalize checked : Attempt.check _ = future at shape
            cases shape
            cases attempts <;> cases checked
        | connectTimer msg self =>
            cases shape
            obtain rfl : a = .connect := self
            rcases handles.label_eq with label | ⟨notice, -, owner, -⟩
            · exact .inr ⟨⟨msg, label⟩, member⟩
            · cases notice <;> cases owner
        | _ => cases shape
    | spawned =>
        generalize shape : (Effect.spawn ⟨o, .spawned .connectAck⟩ : ClientEffect) = e at produces
        cases produces <;> cases shape
  · cases asks with
    | question =>
        have silent := continues.reply
        rw [Future.question_reply] at silent
        cases silent
    | timer deadline owner => cases continues
    | spawned => cases continues

theorem connect_noted {o : Origin} {msg : Connect} {t : Task}
    (label : mv.label = .take .connect ⟨o, .connect msg⟩)
    (reacted : w.reaction (system env) (w.results mv.full) mv.label = some (s, es))
    (spawned : .spawn t ∈ es) : posts .connectStatus es = [connectNote o] := by
  have handled : ConnectActor.handle env ⟨.connect, o, w.state.now, w.results mv.full⟩ msg = es :=
    (Prod.mk.inj (World.reaction_take.mp (label ▸ reacted)).2.2).2
  subst handled
  unfold ConnectActor.handle doSend at spawned ⊢
  dsimp only at spawned ⊢
  split at spawned
  · simp [sendError, doSendStop] at spawned
  · split at spawned
    · simp [sendError, doSendStop] at spawned
    · simp [queuePacket, posts, connectNote]

theorem connectsHandled_connect {o : Origin} {msg : Connect}
    (label : mv.label = .take .connect ⟨o, .connect msg⟩)
    (reacted : w.reaction (system env) (w.results mv.full) mv.label = some (s, es))
    (taken : clientStep env w mv = some w') :
    connectsHandled w'.log = connectsHandled w.log + 1 := by
  rw [connectsHandled_step reacted taken, label]
  exact List.countP_cons_of_pos rfl

theorem connectsHandled_le (taken : clientStep env w mv = some w') :
    connectsHandled w.log ≤ connectsHandled w'.log := by
  obtain ⟨s, es, reacted, -⟩ := World.fire_eq_some.mp taken
  rw [connectsHandled_step reacted taken]
  exact (List.sublist_cons_self _ _).countP_le

end Step

/-- What a client that handles one Connect knows of its timer. -/
structure OneDeadline (w : ClientWorld) : Prop where
  asked : ∀ o, Unanswered o .connectAck w → connectsHandled w.log ≠ 0
  one : ∀ o o', Unanswered o .connectAck w → Unanswered o' .connectAck w → o = o'
  noted : ∀ o, Unanswered o .connectAck w →
    Between .connectStatus (connectNote o) (connectRead o) (NotedSince o) NotedUntil w
  answered : ∀ o answer, ⟨o, .resumed .connectAck answer⟩ ∈ w.tasks → Decided o answer w.log

section Step

variable {env : Env} {seed : Nat} {ls : List ClientMove} {w w' : ClientWorld} {mv : ClientMove}
  {s : State} {es : Out}

theorem oneDeadline_init (env : Env) (seed : Nat) : OneDeadline (init env seed) := by
  have idle (o : Origin) : ¬ Unanswered o .connectAck (init env seed) := by
    rintro (⟨deadline, owner, member⟩ | member | member)
    · cases List.mem_singleton.mp member
    · cases List.mem_singleton.mp member
    · cases member
  refine ⟨fun o waits => absurd waits (idle o), fun o _ waits => absurd waits (idle o),
    fun o waits => absurd waits (idle o), fun o answer member => ?_⟩
  cases List.mem_singleton.mp member

theorem OneDeadline.first {o : Origin} {msg : Connect} (known : OneDeadline w)
    (once : connectsHandled w'.log ≤ 1) (taken : clientStep env w mv = some w')
    (label : mv.label = .take .connect ⟨o, .connect msg⟩) (o' : Origin) :
    ¬ Unanswered o' .connectAck w := by
  obtain ⟨s, es, reacted, -⟩ := World.fire_eq_some.mp taken
  have handled := connectsHandled_connect label reacted taken
  exact fun waits => known.asked o' waits (by omega)

/-- While a question waits, the connect status actor is told nothing but that a CONNACK came. -/
theorem notedSince_posted {o : Origin} {m : Msg} (wired : Wired env w) (known : OneDeadline w)
    (once : connectsHandled w'.log ≤ 1) (taken : clientStep env w mv = some w')
    (reacted : w.reaction (system env) (w.results mv.full) mv.label = some (s, es))
    (waits : Unanswered o .connectAck w) (posted : .post .connectStatus m ∈ es) :
    NotedSince o m := by
  rcases connectStatus_posted wired reacted posted with ⟨msg, label⟩ | ⟨future, label, question⟩ |
    removed | connected | kept
  · exact absurd waits (known.first once taken label o)
  · obtain ⟨o', b⟩ := m
    have there : ⟨o', .spawned future⟩ ∈ w.tasks := (World.reaction_run.mp (label ▸ reacted)).1
    cases future with
    | connectAck =>
        obtain rfl := known.one o o' waits (.inr (.inl there))
        cases question
        exact ⟨nofun, fun _ => .inr rfl⟩
    | pingConnected n =>
        cases question
        exact ⟨nofun, nofun⟩
    | statusCheck status self id check retryMsg =>
        obtain ⟨-, checkOf⟩ : Cause.Awaits _ (.statusCheck status self id check retryMsg) :=
          wired.genuine.tasks _ there
        cases checkOf <;> cases question
    | _ => cases question
  · rw [NotedSince, removedByConnack_mark removed]
    exact ⟨nofun, fun _ => .inl removed⟩
  · rw [NotedSince, connected]
    exact ⟨by simp, nofun⟩
  · rw [NotedSince, kept]
    exact ⟨nofun, nofun⟩

theorem connectNoted_step {o : Origin} (run : Run env seed ls w) (wired : Wired env w)
    (alive : w.live .connectStatus) (known : OneDeadline w)
    (once : connectsHandled w'.log ≤ 1) (taken : clientStep env w mv = some w')
    (waits : Unanswered o .connectAck w') :
    Between .connectStatus (connectNote o) (connectRead o) (NotedSince o) NotedUntil w' := by
  obtain ⟨s, es, reacted, -⟩ := World.fire_eq_some.mp taken
  have alive' := connectStatus_live_step wired taken alive
  rcases connectAck_step reacted taken waits with before | ⟨⟨msg, label⟩, spawned⟩
  · refine (known.noted o before).fire reacted taken alive' (fun m posted =>
      notedSince_posted wired known once taken reacted before (mem_posts.mp posted)) ?_
    intro m label since
    refine ⟨since.1, fun drops => (since.2 drops).resolve_right ?_⟩
    -- the question still waits, so it is not what is handled
    rintro rfl
    have carries : carriesOn o mv.label := by
      rw [label]
      exact Future.question_carriesOn o .connectAck
    obtain ⟨e, member, asks⟩ :=
      unanswered_carried (successors_le run o) reacted taken carries waits
    exact read_silent reacted label member asks
  · exact Between.start reacted taken alive' (connect_noted label reacted spawned) fun waiting =>
      known.first once taken label o (.inr (.inr waiting))

/-- The question is answered by what was handled since the note. -/
theorem read_decided {o : Origin} (run : Run env seed ls w) (known : OneDeadline w)
    (taken : clientStep env w mv = some w')
    (label : mv.label = .take .connectStatus (connectRead o)) :
    Decided o (.unitStatus (w.state.connectStatus.lookup 0)) w'.log := by
  obtain ⟨s, es, reacted, -⟩ := World.fire_eq_some.mp taken
  have head := (World.reaction_take.mp (label ▸ reacted)).2.1
  have waits : Unanswered o .connectAck w := .inr (.inr (List.mem_of_head? head))
  obtain ⟨between, earlier, order, calm, -⟩ := (known.noted o waits).at_last head (by
    rintro same
    cases (Msg.mk.inj same).2)
  refine ⟨[], between, earlier, _, by rw [handled_take reacted taken label, order]; rfl, rfl, ?_⟩
  have keys : 0 ∈ connectKeys w.state ↔ ∀ m ∈ between, m.body.connectMark ≠ .drop 0 := by
    rw [connectKeys_run run, order]
    exact mem_settle_since (fun m => m.body.connectMark) (connectNote o) rfl fun m member =>
      (calm m member).1
  rw [AList.lookup_isSome, show 0 ∈ w.state.connectStatus ↔ 0 ∈ connectKeys w.state from Iff.rfl,
    keys, List.any_eq_false]
  constructor
  · exact fun kept m member removed => kept m member (removedByConnack_mark removed)
  · exact fun kept m member drops => kept m member ((calm m member).2 drops)

theorem connectAck_answered {o : Origin} {answer : Answer} (wired : Wired env w)
    (alive : w.live .connectStatus)
    (reacted : w.reaction (system env) (w.results mv.full) mv.label = some (s, es))
    (spawned : .spawn ⟨o, .resumed .connectAck answer⟩ ∈ es) :
    mv.label = .take .connectStatus (connectRead o) ∧
      answer = .unitStatus (w.state.connectStatus.lookup 0) := by
  have source := wired.genuine.source reacted
  obtain ⟨label, full⟩ := mv
  generalize shape : (Effect.spawn ⟨o, .resumed .connectAck answer⟩ : ClientEffect) = e at spawned
  cases reaction_causes reacted e spawned with
  | take a m produces =>
      obtain ⟨o', b⟩ := m
      have asked (replies : b.reply = some .connectAck) : a = .connectStatus ∧
          b = Future.connectAck.question.2 := by
        have question := (Body.Genuine.of_reply source replies).2
        exact ⟨(congrArg Prod.fst question).symm, (congrArg Prod.snd question).symm⟩
      have origin : o' = o := by
        subst shape
        exact (produces.origin o rfl).symm
      have replies : b.reply = some .connectAck := by
        cases produces <;> cases shape <;> rfl
      obtain ⟨rfl, rfl⟩ := asked replies
      subst origin
      refine ⟨rfl, ?_⟩
      have handled : (_, reply _ (.unitStatus (PacketStatusActor.handle w.state.connectStatus
          (.getAndRemovePacketStatus 0)).2) (some _)) = (s, es) :=
        (World.reaction_take.mp reacted).2.2
      rw [PacketStatusActor.handle_getAndRemove] at handled
      obtain ⟨-, rfl⟩ := Prod.mk.inj handled
      rw [← shape] at spawned
      cases List.mem_singleton.mp spawned
      rfl
  | run t runs =>
      obtain ⟨o', job⟩ := t
      cases runs with
      | closed future refused =>
          cases shape
          exact absurd refused (results_ne_closed alive)
      | notify notice produces =>
          subst shape
          cases notice <;> cases produces
      | resumed future' answer' continues =>
          subst shape
          cases continues
      | _ => cases shape
  | arrive o' arrives => cases arrives <;> cases shape
  | messageClosed => cases shape

theorem Decided.step {o : Origin} {answer : Answer} (decided : Decided o answer w.log)
    (taken : clientStep env w mv = some w') : Decided o answer w'.log := by
  obtain ⟨s, es, reacted, -⟩ := World.fire_eq_some.mp taken
  obtain ⟨later, between, earlier, status, order, known⟩ := decided
  by_cases takes : ∃ m, mv.label = .take .connectStatus m
  · obtain ⟨m, label⟩ := takes
    exact ⟨m :: later, between, earlier, status,
      by rw [handled_take reacted taken label, order]; rfl, known⟩
  · exact ⟨later, between, earlier, status,
      by rw [handled_other reacted taken fun m label => takes ⟨m, label⟩, order], known⟩

theorem answered_step {o : Origin} {answer : Answer} (run : Run env seed ls w)
    (wired : Wired env w) (alive : w.live .connectStatus) (known : OneDeadline w)
    (taken : clientStep env w mv = some w')
    (waits : ⟨o, .resumed .connectAck answer⟩ ∈ w'.tasks) : Decided o answer w'.log := by
  obtain ⟨s, es, reacted, -⟩ := World.fire_eq_some.mp taken
  rcases World.mem_tasks_of_fire reacted taken waits with before | spawned |
    ⟨a, ⟨o', b⟩, halted, left, source⟩
  · exact (known.answered o answer before).step taken
  · obtain ⟨label, rfl⟩ := connectAck_answered wired alive reacted spawned
    exact read_decided run known taken label
  · -- the connect status actor drops no question, because it does not stop
    have genuine : b.Genuine o'.cause a := by
      rcases source with there | posted
      · exact wired.genuine.mail a _ there
      · exact genuine_effects wired.genuine reacted _ posted
    have replies : b.reply = some .connectAck := by
      obtain ⟨future, replies, same⟩ := orphan_reply left
      cases same
      exact replies
    have question := (genuine.of_reply replies).2
    obtain rfl : Actor.connectStatus = a := congrArg Prod.fst question
    exact absurd halted (World.not_halt_of_live reacted taken
      (connectStatus_live_step wired taken alive))

theorem oneDeadline_step (run : Run env seed ls w) (wired : Wired env w)
    (alive : w.live .connectStatus) (known : OneDeadline w) (once : connectsHandled w'.log ≤ 1)
    (taken : clientStep env w mv = some w') : OneDeadline w' := by
  obtain ⟨s, es, reacted, -⟩ := World.fire_eq_some.mp taken
  refine ⟨fun o waits => ?_, fun o o' waits waits' => ?_,
    fun o => connectNoted_step run wired alive known once taken,
    fun o answer => answered_step run wired alive known taken⟩
  · rcases connectAck_step reacted taken waits with before | ⟨⟨msg, label⟩, -⟩
    · have := known.asked o before
      have := connectsHandled_le taken
      omega
    · rw [connectsHandled_connect label reacted taken]
      exact Nat.succ_ne_zero _
  · rcases connectAck_step reacted taken waits with before | ⟨⟨msg, label⟩, -⟩ <;>
      rcases connectAck_step reacted taken waits' with before' | ⟨⟨msg', label'⟩, -⟩
    · exact known.one o o' before before'
    · exact absurd before (known.first once taken label' o)
    · exact absurd before' (known.first once taken label o')
    · cases label.symm.trans label'
      rfl

end Step

theorem oneDeadline_run {env : Env} {seed : Nat} {ls : List ClientMove} {w : ClientWorld}
    (run : Run env seed ls w) (once : connectsHandled w.log ≤ 1) : OneDeadline w := by
  have both : Wired env w ∧ w.live .connectStatus ∧ (connectsHandled w.log ≤ 1 → OneDeadline w) := by
    refine exec_induction
      (motive := fun _ w => Wired env w ∧ w.live .connectStatus ∧
        (connectsHandled w.log ≤ 1 → OneDeadline w)) ?_ ?_ run
    · exact ⟨wired_init env seed, rfl, fun _ => oneDeadline_init env seed⟩
    · rintro ls w mv w' run ⟨wired, alive, known⟩ taken
      exact ⟨wired_step wired taken, connectStatus_live_step wired taken alive, fun once =>
        oneDeadline_step run wired alive (known ((connectsHandled_le taken).trans once)) once taken⟩
  exact both.2.2 once

/-- When the check of the only Connect is answered, the client is ended with an error if the connect
    status actor was not told of a CONNACK between the note and the question, and otherwise
    ConnectActor alone is stopped. -/
theorem timeout_consistent {env : Env} {seed : Nat} {ls : List ClientMove} {w w' : ClientWorld}
    {mv : ClientMove} {o : Origin} {answer : Answer} (run : Run env seed ls w)
    (once : connectsHandled w.log ≤ 1) (taken : clientStep env w mv = some w')
    (label : mv.label = .run ⟨o, .resumed .connectAck answer⟩) :
    ∃ later between earlier s es,
      handled .connectStatus w.log =
        later ++ connectRead o :: (between ++ connectNote o :: earlier) ∧
      w.reaction (system env) (w.results mv.full) mv.label = some (s, es) ∧
      es = if between.any removedByConnack then [.post .connect ⟨o, .stop⟩]
        else [.emit (.error o "ConnectActor::status_recipient_ack" .invalidData
          "Doesn't got connect ack from server, exit"), .post .stop ⟨o, .stop⟩] := by
  obtain ⟨s, es, reacted, -⟩ := World.fire_eq_some.mp taken
  obtain ⟨there, -, resumed⟩ := World.reaction_run.mp (label ▸ reacted)
  obtain ⟨later, between, earlier, status, order, rfl, found⟩ :=
    (oneDeadline_run run once).answered o answer there
  refine ⟨later, between, earlier, s, es, order, reacted, ?_⟩
  obtain ⟨-, rfl⟩ := Prod.mk.inj resumed
  cases status with
  | none =>
      have came : between.any removedByConnack = true := by simpa using found
      rw [if_pos came]
      rfl
  | some status =>
      have silent : between.any removedByConnack = false := by simpa using found
      rw [silent]
      rfl

/-- No CONNACK comes before the check is answered. -/
def unansweredConnect : List Turn :=
  [.give (.cause ⟨1, .connect plainConnect⟩), .handle .connect, .handle .connectStatus,
    .give (.advance 5000), .task 0, .task 0, .handle .connectStatus]

theorem timeout_consistent_unansweredConnect : ∃ w later between earlier s es,
    Run plainEnv 0 (schedule plainEnv (init plainEnv 0) unansweredConnect) w ∧
      handled .connectStatus w.log = later ++ connectRead ⟨1, .connect plainConnect⟩ ::
        (between ++ connectNote ⟨1, .connect plainConnect⟩ :: earlier) ∧
      w.reaction (system plainEnv) (w.results fun _ => false) (.run ⟨⟨1, .connect plainConnect⟩,
        .resumed .connectAck (.unitStatus (some ⟨0, 0, ()⟩))⟩) = some (s, es) ∧
      es = if between.any removedByConnack
        then [.post .connect ⟨⟨1, .connect plainConnect⟩, .stop⟩]
        else [.emit (.error ⟨1, .connect plainConnect⟩ "ConnectActor::status_recipient_ack"
          .invalidData "Doesn't got connect ack from server, exit"),
          .post .stop ⟨⟨1, .connect plainConnect⟩, .stop⟩] := by
  obtain ⟨w, w', run, once, taken⟩ : ∃ w w',
      Run plainEnv 0 (schedule plainEnv (init plainEnv 0) unansweredConnect) w ∧
        connectsHandled w.log ≤ 1 ∧
        clientStep plainEnv w ⟨.run ⟨⟨1, .connect plainConnect⟩,
          .resumed .connectAck (.unitStatus (some ⟨0, 0, ()⟩))⟩, fun _ => false⟩ = some w' :=
    ⟨_, _, rfl, by decide, rfl⟩
  obtain ⟨later, between, earlier, s, es, order, reacted, effects⟩ :=
    timeout_consistent run once taken rfl
  exact ⟨w, later, between, earlier, s, es, run, order, reacted, effects⟩

end ActixMqtt
