import ActixMqtt.Disconnecting

/-! # The handshake

Key 1 of the connect status map is set by an accepting CONNACK and by nothing else, and
never removed. ConnackActor believes the broker: it does not ask whether CONNECT has been
sent, and goes on after a CONNACK that refuses the connection. What is true of the
connected status is what is true of the CONNACKs that arrive.
-/

namespace ActixMqtt

open ActorSystem

/-! ## Who is told to stop, and what the connect status actor is asked -/

/-- StopMessages go to registered actors, StopActor and ConnectActor; the connect status actor is
    asked about key 0 or told that the client is connected; no CONNACK is sent again. -/
def wired (env : Env) : Local Actor Msg Task Event where
  mail a m := match m.body with
    | .stop => a ∈ stopRecipients env ∨ a = .stop ∨ a = .connect
    | .addStopRecipient recipient => recipient ∈ stopRecipients env
    | .unitStatus op _ => a = .connectStatus → op.key = 0 ∨ op = .setPacketStatus 1 ⟨1, 0, ()⟩
    | _ => True
  task t := match t.job with
    | .resend _ _ (.packet msg) => ∀ code, msg.packet ≠ .connack code
    | _ => True
  event _ := True

structure Wired (env : Env) (w : ClientWorld) : Prop where
  genuine : genuine.Holds w
  flight : (wired env).Holds w
  recipients : ∀ a ∈ w.state.stopRecipients, a ∈ stopRecipients env

theorem wired_init (env : Env) (seed : Nat) : Wired env (init env seed) where
  genuine := genuine_init env seed
  flight := by
    refine ⟨fun a m member => ?_, fun t member => ?_, fun e member => nomatch member⟩
    · simp only [init] at member
      split at member
      · obtain ⟨recipient, registered, rfl⟩ := List.mem_map.mp member
        exact registered
      · cases member
    · obtain rfl := List.mem_singleton.mp member
      exact True.intro
  recipients a member := nomatch member

theorem wired_keeps (env : Env) : (wired env).Keeps (system env) := by
  rintro a m holds t left
  obtain ⟨future, -, rfl⟩ := orphan_reply left
  exact True.intro

section Step

variable {env : Env} {w w' : ClientWorld} {mv : ClientMove} {s : State} {es : Out}

theorem responseTo_wired {a dst : Actor} {packet : VariablePacket} {op : Body} {o : Origin}
    (response : responseTo a packet = some (dst, op)) : (wired env).mail dst ⟨o, op⟩ := by
  unfold responseTo at response
  split at response <;> cases response <;> first | exact True.intro | exact nofun

theorem responseTo_not_connack {a dst : Actor} {packet : VariablePacket} {op : Body}
    (response : responseTo a packet = some (dst, op)) (code : ConnectReturnCode) :
    packet ≠ .connack code := by
  intro same
  unfold responseTo at response
  split at response <;> cases response <;> cases same

theorem Produces.wired {ctx : Ctx} {b : Body} {e : ClientEffect}
    (produces : Produces env ctx s b e) (other : ctx.self ≠ .connack)
    (recipients : ∀ a ∈ s.stopRecipients, a ∈ stopRecipients env) : (wired env).effect e := by
  cases produces with
  | askStop => exact .inr (.inl rfl)
  | note attempts => cases attempts <;> first | exact True.intro | exact nofun
  | giveUp gives => cases gives <;> first | exact True.intro | exact nofun
  | response packet retryCount response => exact responseTo_wired response
  | passStop recipient self first member => exact .inl (recipients _ member)
  | resend retries =>
      cases retries with
      | attempt attempts => cases attempts <;> first | exact True.intro | exact nofun
      | recv1 packet id retryCount self below qos => exact nofun
      | response packet retryCount response => exact responseTo_not_connack response
      | disconnect msg self through => exact True.intro
  | connecting msg self => exact fun _ => .inl rfl
  | connack code retryCount op self => exact absurd self other
  | connected code retryCount self => exact absurd self other
  | haltConnack code retryCount self => exact absurd self other
  | _ => exact True.intro

theorem connack_wired {ctx : Ctx} {b : Body} (self : ctx.self = .connack) {e : ClientEffect}
    (member : e ∈ (handleBody env ctx b s).2) : (wired env).effect e := by
  obtain ⟨a, o, now, res⟩ := ctx
  cases self
  simp only [handleBody] at member
  unfold ConnackActor.receive at member
  split at member
  · obtain rfl := List.mem_singleton.mp member
    exact True.intro
  · unfold ConnackActor.handle at member
    split at member
    · simp only [sendError, doSendStop, List.cons_append, List.nil_append, List.mem_cons,
        List.not_mem_nil, or_false] at member
      rcases member with rfl | rfl
      · exact True.intro
      · exact .inr (.inl rfl)
    · rcases List.mem_cons.mp member with rfl | rest
      · exact fun _ => .inl rfl
      · split at rest
        · simp only [List.mem_cons, List.not_mem_nil, or_false] at rest
          rcases rest with rfl | rfl | rfl
          · exact fun _ => .inr rfl
          · exact .inr (.inr rfl)
          · exact True.intro
        · simp only [sendError, doSendStop, List.cons_append, List.nil_append, List.mem_cons,
            List.not_mem_nil, or_false] at rest
          rcases rest with rfl | rfl
          · exact True.intro
          · exact .inr (.inl rfl)
  · cases member

theorem handleBody_wired {ctx : Ctx} {b : Body} {e : ClientEffect}
    (recipients : ∀ a ∈ s.stopRecipients, a ∈ stopRecipients env)
    (member : e ∈ (handleBody env ctx b s).2) : (wired env).effect e := by
  by_cases self : ctx.self = .connack
  · exact connack_wired self member
  · exact (handleBody_produces env ctx s b e member).wired self recipients

theorem Continues.wired {ctx : Ctx} {future : Future} {answer : Answer} {e : ClientEffect}
    (continues : Continues ctx future answer e) (fits : answer.Fits future) :
    (wired env).effect e := by
  cases continues with
  | askStop => exact .inr (.inl rfl)
  | stopConnect answer => exact .inr (.inr rfl)
  | timeout future dst req => cases fits
  | resend id retryCount packet answer known => exact nofun
  | redeliver id packet => exact nofun
  | _ => exact True.intro

theorem Future.question_wired {c : Cause} {o : Origin} {future : Future} (awaits : c.Awaits future) :
    (wired env).mail future.question.1 ⟨o, future.question.2⟩ := by
  cases future with
  | statusCheck status self id check retryMsg =>
      obtain ⟨-, checkOf⟩ := awaits
      cases checkOf <;> first | exact True.intro | exact nofun
  | pingPending lastRetryCount => exact nofun
  | connectAck => exact fun _ => .inl rfl
  | _ => exact True.intro

theorem recipients_step (wired : Wired env w)
    (reacted : w.reaction (system env) (w.results mv.full) mv.label = some (s, es)) :
    ∀ a ∈ s.stopRecipients, a ∈ stopRecipients env := by
  rcases state_step reacted with ⟨a, ⟨o, b⟩, label, changed⟩ | ⟨-, changed⟩
  · cases a
    case stop =>
        obtain ⟨-, head, handled⟩ := World.reaction_take.mp (label ▸ reacted)
        have there := wired.flight.mail _ _ (List.mem_of_mem_head? head)
        have handled : StopActor.receive ⟨.stop, o, w.state.now, w.results mv.full⟩ w.state b =
          (s, es) := handled
        unfold StopActor.receive at handled
        split at handled
        · obtain ⟨rfl, -⟩ := Prod.mk.inj handled
          intro a member
          rcases List.mem_append.mp member with before | now
          · exact wired.recipients a before
          · obtain rfl := List.mem_singleton.mp now
            exact there
        · unfold StopActor.handle at handled
          split at handled <;> obtain ⟨rfl, -⟩ := Prod.mk.inj handled <;> exact wired.recipients
        · obtain ⟨rfl, -⟩ := Prod.mk.inj handled
          exact wired.recipients
    all_goals
      simp only [State.ChangedBy] at changed
      rw [changed]
      exact wired.recipients
  · rw [changed]
    exact wired.recipients

theorem wired_step (wired : Wired env w) (taken : clientStep env w mv = some w') :
    Wired env w' := by
  obtain ⟨s, es, reacted, -⟩ := World.fire_eq_some.mp taken
  have source := wired.genuine.source reacted
  have again := wired.flight.source reacted
  refine ⟨genuine_step wired.genuine taken, ?_, ?_⟩
  · refine wired.flight.fire (wired_keeps env) reacted taken (fun e member => ?_)
    obtain ⟨label, full⟩ := mv
    cases reaction_causes reacted e member with
    | take a m produces =>
        rw [← (Prod.mk.inj (World.reaction_take.mp reacted).2.2).2] at member
        exact handleBody_wired wired.recipients member
    | run t runs =>
        obtain ⟨o, job⟩ := t
        cases runs with
        | notify notice produces =>
            exact produces.wired (by cases notice <;> nofun) wired.recipients
        | asks future accepts => exact Future.question_wired source
        | resumed future answer continues => exact continues.wired source.2
        | _ => exact True.intro
    | arrive o arrives =>
        cases arrives with
        | askStop => exact .inr (.inl rfl)
        | _ => exact True.intro
    | messageClosed => exact True.intro
  · rw [World.fire_state reacted taken]
    exact recipients_step wired reacted

theorem wired_run {seed : Nat} {ls : List ClientMove} (run : Run env seed ls w) : Wired env w :=
  exec_preserves (fun _ _ _ => wired_step) (wired_init env seed) run

/-! ## The connected status -/

/-- ConnackActor handles an accepting CONNACK while the connect status mailbox has room. -/
def registersConnack (w : ClientWorld) (mv : ClientMove) : Bool :=
  match mv.label with
  | .take .connack ⟨_, .request (.packet ⟨.connack code, _⟩)⟩ =>
      code = .connectionAccepted && (w.results mv.full .connectStatus).isNone
  | _ => false

/-- The message that tells the connect status actor of an accepting CONNACK. -/
def Msg.tellsConnected (m : Msg) : Prop :=
  ∃ future, m.body = .unitStatus (.setPacketStatus 1 ⟨1, 0, ()⟩) future

/-- Key 1 is set or about to be set. -/
def connectedSoon (w : ClientWorld) : Prop :=
  1 ∈ w.state.connectStatus ∨ ∃ m ∈ w.mail .connectStatus, m.tellsConnected

theorem connack_reaction {o : Origin} {code : ConnectReturnCode} {n : UInt16}
    (label : mv.label = .take .connack ⟨o, .request (.packet ⟨.connack code, n⟩)⟩)
    (reacted : w.reaction (system env) (w.results mv.full) mv.label = some (s, es)) :
    if registersConnack w mv then
      es = [.post .connectStatus ⟨o, .unitStatus (.removePacketStatus 0) none⟩,
        .post .connectStatus ⟨o, .unitStatus (.setPacketStatus 1 ⟨1, 0, ()⟩) none⟩,
        .post .connect ⟨o, .stop⟩, .halt .connack]
    else ∀ e ∈ es, (∀ a, e ≠ .halt a) ∧ ∀ m, e = .post .connectStatus m → ¬ m.tellsConnected := by
  have handled : ConnackActor.handle env ⟨.connack, o, w.state.now, w.results mv.full⟩ code = es :=
    (Prod.mk.inj (World.reaction_take.mp (label ▸ reacted)).2.2).2
  subst handled
  rw [registersConnack, label]
  unfold ConnackActor.handle
  dsimp only
  cases w.results mv.full .connectStatus with
  | some e => simp [sendError, doSendStop]
  | none =>
      by_cases accepted : code = .connectionAccepted
      · simp [accepted]
      · simp [accepted, sendError, doSendStop, Msg.tellsConnected]

theorem connectStatus_taken {o : Origin} {op : StatusOperationMessage Unit} {future : Option Future}
    (label : mv.label = .take .connectStatus ⟨o, .unitStatus op future⟩)
    (reacted : w.reaction (system env) (w.results mv.full) mv.label = some (s, es)) :
    s.connectStatus = (PacketStatusActor.handle w.state.connectStatus op).1 :=
  (congrArg State.connectStatus
    (Prod.mk.inj (World.reaction_take.mp (label ▸ reacted)).2.2).1).symm

theorem connectStatus_state
    (reacted : w.reaction (system env) (w.results mv.full) mv.label = some (s, es)) :
    s.connectStatus = w.state.connectStatus ∨
      ∃ o op future, mv.label = .take .connectStatus ⟨o, .unitStatus op future⟩ := by
  rcases state_step reacted with ⟨a, ⟨o, b⟩, label, changed⟩ | ⟨-, changed⟩
  · cases a
    case connectStatus =>
        cases b with
        | unitStatus op future => exact .inr ⟨o, op, future, label⟩
        | _ =>
            have handled := (World.reaction_take.mp (label ▸ reacted)).2.2
            exact .inl (congrArg State.connectStatus (Prod.mk.inj handled).1).symm
    all_goals
      simp only [State.ChangedBy] at changed
      exact .inl (by rw [changed])
  · exact .inl (by rw [changed])

theorem Produces.toldConnected {ctx : Ctx} {b : Body} {m : Msg}
    (produces : Produces env ctx w.state b (.post .connectStatus m)) (tells : m.tellsConnected) :
    ctx.self = .connack ∧ ∃ code n, b = .request (.packet ⟨.connack code, n⟩) := by
  obtain ⟨o, b'⟩ := m
  obtain ⟨future, body⟩ := tells
  cases body
  cases produces.signals rfl with
  | connack code retryCount op self => exact ⟨self, code, retryCount, rfl⟩

theorem registersConnack_of_post {m : Msg} (wired : Wired env w)
    (reacted : w.reaction (system env) (w.results mv.full) mv.label = some (s, es))
    (posted : .post .connectStatus m ∈ es) (tells : m.tellsConnected) : registersConnack w mv := by
  cases post_step wired.genuine reacted posted with
  | handler handles produces =>
      obtain ⟨self, code, n, rfl⟩ := produces.toldConnected tells
      obtain rfl : _ = Actor.connack := self
      rcases handles.label_eq with label | ⟨notice, label, owner, -⟩
      · have done := connack_reaction label reacted
        split at done
        · assumption
        · exact absurd tells ((done _ posted).2 _ rfl)
      · cases notice <;> cases owner
  | asks o future b label awaits question =>
      obtain ⟨future', body⟩ := tells
      cases future with
      | statusCheck status self id check retryMsg =>
          obtain ⟨-, checkOf⟩ := awaits
          cases checkOf <;> cases question
      | _ => cases question <;> cases body
  | note o id retryCount packet answer label qos told => cases told
  | resend | retry | pubrec | stop =>
      obtain ⟨_, same⟩ := tells
      cases same
  | arrives o label arrives => cases arrives

/-- DisconnectActor handles a Disconnect that does not wait. -/
def letsThrough (w : ClientWorld) (mv : ClientMove) : Bool :=
  match mv.label with
  | .take .disconnect ⟨_, .request (.disconnect msg)⟩ => msg.force || w.state.packetSendFinished
  | _ => false

theorem unregistered_halt {a : Actor} (wired : Wired env w)
    (reacted : w.reaction (system env) (w.results mv.full) mv.label = some (s, es))
    (halted : .halt a ∈ es) (unregistered : a ∉ stopRecipients env)
    (other : a ≠ .stop ∧ a ≠ .connect ∧ a ≠ .message) :
    a = .disconnect ∧ letsThrough w mv ∨ a = .connack ∧ registersConnack w mv := by
  obtain ⟨label, full⟩ := mv
  cases reaction_causes reacted _ halted with
  | take self m produces =>
      obtain ⟨o, b⟩ := m
      generalize shape : (Effect.halt a : ClientEffect) = e at produces
      cases produces with
      | halt running =>
          cases shape
          have told := wired.flight.mail _ _
            (List.mem_of_mem_head? (World.reaction_take.mp reacted).2.1)
          rcases told with registered | stop | connect
          · exact absurd registered unregistered
          · exact absurd stop other.1
          · exact absurd connect other.2.1
      | haltStop self' first =>
          cases shape
          exact absurd rfl other.1
      | leave msg self' through =>
          cases shape
          obtain rfl : self = .disconnect := self'
          exact .inl ⟨rfl, through⟩
      | haltConnack code retryCount self' =>
          cases shape
          obtain rfl : self = .connack := self'
          refine .inr ⟨rfl, ?_⟩
          have label : (⟨.take .connack ⟨o, .request (.packet ⟨.connack code, retryCount⟩)⟩, full⟩ :
            ClientMove).label = .take .connack ⟨o, .request (.packet ⟨.connack code, retryCount⟩)⟩ :=
              rfl
          have done := connack_reaction label reacted
          split at done
          · assumption
          · exact absurd rfl ((done _ halted).1 .connack)
      | _ => cases shape
  | run t runs =>
      generalize shape : (Effect.halt a : ClientEffect) = e at runs
      obtain ⟨o, job⟩ := t
      cases runs with
      | notify notice produces =>
          subst shape
          cases notice <;> cases produces
      | resumed future answer continues =>
          subst shape
          cases continues
      | _ => cases shape
  | arrive o arrives =>
      cases arrives with
      | haltRecv text cause => exact absurd (by simp [stopRecipients]) unregistered
      | haltSend text cause => exact absurd (by simp [stopRecipients]) unregistered
  | messageClosed => exact absurd rfl other.2.2

theorem connectStatus_unregistered (env : Env) : Actor.connectStatus ∉ stopRecipients env := by
  cases clientStop : env.clientStop <;> simp [stopRecipients, clientStop]

theorem disconnect_unregistered (env : Env) : Actor.disconnect ∉ stopRecipients env := by
  cases clientStop : env.clientStop <;> simp [stopRecipients, clientStop]

theorem connectStatus_live_step (wired : Wired env w) (taken : clientStep env w mv = some w')
    (alive : w.live .connectStatus) : w'.live .connectStatus := by
  obtain ⟨s, es, reacted, -⟩ := World.fire_eq_some.mp taken
  have running : .halt .connectStatus ∉ es := fun halted => by
    rcases unregistered_halt wired reacted halted (connectStatus_unregistered env) (by decide) with
      ⟨same, -⟩ | ⟨same, -⟩ <;> cases same
  rwa [World.fire_live reacted taken running]

theorem disconnect_dead_step (wired : Wired env w) (taken : clientStep env w mv = some w') :
    w'.live .disconnect = false ↔ w.live .disconnect = false ∨ letsThrough w mv := by
  obtain ⟨s, es, reacted, -⟩ := World.fire_eq_some.mp taken
  constructor
  · intro dead
    by_cases halted : .halt .disconnect ∈ es
    · rcases unregistered_halt wired reacted halted (disconnect_unregistered env) (by decide) with
        ⟨-, through⟩ | ⟨same, -⟩
      · exact .inr through
      · cases same
    · rw [World.fire_live reacted taken halted] at dead
      exact .inl dead
  · rintro (dead | through)
    · exact World.fire_dead taken dead
    · unfold letsThrough at through
      split at through
      · rename_i o msg label
        have left := disconnect_reaction label reacted
        rw [if_pos through] at left
        exact Bool.of_not_eq_true fun alive => World.not_halt_of_live reacted taken alive left.1
      · cases through

theorem connected_handle {map : PacketStatusMap Unit} {op : StatusOperationMessage Unit}
    (known : op.key = 0 ∨ op = .setPacketStatus 1 ⟨1, 0, ()⟩) :
    1 ∈ (PacketStatusActor.handle map op).1 ↔ 1 ∈ map ∨ op = .setPacketStatus 1 ⟨1, 0, ()⟩ := by
  rw [← AList.lookup_isSome, ← AList.lookup_isSome, PacketStatusActor.lookup_handle]
  rcases known with key | rfl
  · have other : op ≠ .setPacketStatus 1 ⟨1, 0, ()⟩ := by
      rintro rfl
      cases key
    simp [key, other]
  · simp [StatusOperationMessage.key, StatusOperationMessage.stored]

/-- What makes the client connected is an accepting CONNACK. -/
theorem connectedSoon_step (wired : Wired env w) (alive : w.live .connectStatus)
    (taken : clientStep env w mv = some w') :
    connectedSoon w' ↔ connectedSoon w ∨ registersConnack w mv := by
  obtain ⟨s, es, reacted, -⟩ := World.fire_eq_some.mp taken
  have alive' := connectStatus_live_step wired taken alive
  have source := wired.flight.source reacted
  rw [connectedSoon, World.fire_state reacted taken]
  constructor
  · rintro (set | ⟨m, there, tells⟩)
    · rcases connectStatus_state reacted with same | ⟨o, op, future, label⟩
      · exact .inl (.inl (same ▸ set))
      · rw [label] at source
        rw [connectStatus_taken label reacted, connected_handle (source rfl)] at set
        rcases set with before | rfl
        · exact .inl (.inl before)
        · have head := (World.reaction_take.mp (label ▸ reacted)).2.1
          exact .inl (.inr ⟨⟨o, .unitStatus (.setPacketStatus 1 ⟨1, 0, ()⟩) future⟩,
            List.mem_of_mem_head? head, future, rfl⟩)
    · rcases World.mem_mail_of_fire reacted taken there with before | posted
      · exact .inl (.inr ⟨m, before, tells⟩)
      · exact .inr (registersConnack_of_post wired reacted posted tells)
  · rintro ((set | ⟨m, there, tells⟩) | registers)
    · refine .inl ?_
      rcases connectStatus_state reacted with same | ⟨o, op, future, label⟩
      · exact same ▸ set
      · rw [label] at source
        rw [connectStatus_taken label reacted, connected_handle (source rfl)]
        exact .inl set
    · by_cases now : mv.label = .take .connectStatus m
      · obtain ⟨o, b⟩ := m
        obtain ⟨future, rfl⟩ := tells
        refine .inl ?_
        rw [connectStatus_taken now reacted, connected_handle (.inr rfl)]
        exact .inr rfl
      · exact .inr ⟨m, World.mem_mail_fire taken alive' there now, tells⟩
    · have registered := registers
      unfold registersConnack at registers
      split at registers
      · rename_i o code n label
        have done := connack_reaction label reacted
        rw [if_pos registered] at done
        refine .inr ⟨⟨o, .unitStatus (.setPacketStatus 1 ⟨1, 0, ()⟩) none⟩, ?_, none, rfl⟩
        refine World.mem_mail_of_post reacted taken alive' ?_
        simp [done]
      · cases registers

end Step

theorem connectedSoon_run {env : Env} {seed : Nat} {ls : List ClientMove} {w : ClientWorld}
    (run : Run env seed ls w) : w.live .connectStatus ∧ (connectedSoon w ↔
      Sometime (clientStep env) (fun w mv => registersConnack w mv) (init env seed) ls) := by
  have preserved (w : ClientWorld) (mv : ClientMove) (w' : ClientWorld)
      (inv : Wired env w ∧ w.live .connectStatus) (taken : clientStep env w mv = some w') :
      Wired env w' ∧ w'.live .connectStatus :=
    ⟨wired_step inv.1 taken, connectStatus_live_step inv.1 taken inv.2⟩
  have start : Wired env (init env seed) ∧ (init env seed).live .connectStatus :=
    ⟨wired_init env seed, rfl⟩
  refine ⟨(exec_preserves preserved start run).2, ?_⟩
  rw [exec_sometime preserved (fun w mv w' inv taken => connectedSoon_step inv.1 inv.2 taken) start
    run]
  refine or_iff_right ?_
  rintro (set | ⟨m, there, -⟩)
  · cases set
  · cases there

/-- Why DisconnectActor stopped. -/
theorem disconnect_dead_run {env : Env} {seed : Nat} {ls : List ClientMove} {w : ClientWorld}
    (run : Run env seed ls w) : w.live .disconnect = false ↔
      Sometime (clientStep env) (fun w mv => letsThrough w mv) (init env seed) ls := by
  rw [exec_sometime (p := fun w => w.live .disconnect = false) (fun _ _ _ => wired_step)
    (fun w mv w' inv taken => disconnect_dead_step inv taken) (wired_init env seed) run]
  exact or_iff_right nofun

/-! ## The order of CONNACKs -/

/-- The return code of a CONNACK on its way. -/
def Body.code : Body → Option ConnectReturnCode
  | .request (.packet ⟨.connack code, _⟩) => some code
  | _ => none

/-- The CONNACKs that ConnackActor has handled, newest first. -/
def handledCodes (log : ClientLog) : List ConnectReturnCode :=
  log.filterMap fun
    | .took .connack m => m.body.code
    | _ => none

def waitingCodes (a : Actor) (w : ClientWorld) : List ConnectReturnCode :=
  (w.mail a).filterMap (·.body.code)

/-- The CONNACKs in the order in which ConnackActor has handled them or will. -/
def codes (w : ClientWorld) : List ConnectReturnCode :=
  (handledCodes w.log).reverse ++ (waitingCodes .connack w ++ waitingCodes .dispatch w)

/-- The CONNACK that a step brings in. -/
def arrivingCode (mv : ClientMove) : List ConnectReturnCode :=
  match mv.label with
  | .give (.cause ⟨_, .received (.connack code) _⟩) => [code]
  | _ => []

/-- The CONNACK that a step takes out of a mailbox. -/
def takenCode (a : Actor) (mv : ClientMove) : List ConnectReturnCode :=
  match mv.label with
  | .take b m => if b = a then m.body.code.toList else []
  | _ => []

/-- CONNECT has been queued to SendActor. -/
def connectQueued (log : ClientLog) : Bool :=
  log.any (· matches .emitted (.queued _ (.connect _)))

/-- A CONNACK that refuses the connection has arrived. -/
def refusalArrived (log : ClientLog) : Bool :=
  log.any fun
    | .gave (.cause ⟨_, .received (.connack code) _⟩) => code ≠ .connectionAccepted
    | _ => false

/-- The broker accepts a connection that it has been asked for and has not refused. -/
def brokerAnswers (w : ClientWorld) (mv : ClientMove) : Bool :=
  arrivingCode mv ≠ [.connectionAccepted] || connectQueued w.log && !refusalArrived w.log

/-- The actors that handlers send to, beside StopActor's and DispatchActor's. -/
def Actor.isToldByAll : Actor → Bool
  | .stop | .send | .disconnect | .connect | .publishStatus | .subscribeStatus
  | .unsubscribeStatus | .connectStatus | .pingStatus => true
  | _ => false

theorem Produces.post_cases {env : Env} {ctx : Ctx} {s : State} {b : Body} {dst : Actor} {m : Msg}
    (produces : Produces env ctx s b (.post dst m)) :
    dst.isToldByAll ∨ m.body = .stop ∨ ∃ msg name, ctx.self = .dispatch ∧
      b = .request (.packet msg) ∧ DispatchActor.target msg.packet = some (dst, name) ∧
        m = ⟨ctx.origin, .request (.packet ⟨msg.packet, 0⟩)⟩ := by
  generalize shape : (Effect.post dst m : ClientEffect) = e at produces
  cases produces with
  | note attempts => cases attempts <;> cases shape <;> exact .inl rfl
  | giveUp gives =>
      cases shape
      cases gives <;> exact .inl rfl
  | response packet retryCount response =>
      cases shape
      unfold responseTo at response
      split at response <;> cases response <;> exact .inl rfl
  | dispatch msg dst name self target =>
      cases shape
      exact .inr (.inr ⟨msg, name, self, rfl, target, rfl⟩)
  | passStop recipient self first member =>
      cases shape
      exact .inr (.inl rfl)
  | _ =>
      cases shape
      try exact .inl rfl

section Order

variable {env : Env} {w w' : ClientWorld} {mv : ClientMove} {s : State} {es : Out}

theorem Body.code_eq_some {b : Body} {code : ConnectReturnCode} (named : b.code = some code) :
    ∃ n, b = .request (.packet ⟨.connack code, n⟩) := by
  unfold Body.code at named
  split at named <;> cases named
  exact ⟨_, rfl⟩

theorem Future.question_code (future : Future) : future.question.2.code = none := by
  cases future with
  | statusCheck status self id check retryMsg => cases status <;> rfl
  | _ => rfl

/-- A CONNACK is posted to DispatchActor when it arrives and to ConnackActor when it is
    dispatched. -/
theorem code_posted (wired : Wired env w)
    (reacted : w.reaction (system env) (w.results mv.full) mv.label = some (s, es)) {a : Actor}
    {m : Msg} {code : ConnectReturnCode} (posted : .post a m ∈ es) (other : a.isToldByAll = false)
    (named : m.body.code = some code) :
    (a = .connack ∧
        ∃ o n, mv.label = .take .dispatch ⟨o, .request (.packet ⟨.connack code, n⟩)⟩) ∨
      a = .dispatch ∧ ∃ o n, mv.label = .give (.cause o) ∧ o.cause = .received (.connack code) n := by
  have produced {ctx : Ctx} {b : Body} (produces : Produces env ctx w.state b (.post a m)) :
      ctx.self = .dispatch ∧ a = .connack ∧ ∃ n, b = .request (.packet ⟨.connack code, n⟩) := by
    rcases produces.post_cases with all | stop | ⟨msg, name, self, rfl, target, rfl⟩
    · rw [other] at all
      cases all
    · rw [stop] at named
      cases named
    · obtain ⟨packet, n⟩ := msg
      obtain ⟨_, same⟩ := Body.code_eq_some named
      cases same
      cases target
      exact ⟨self, rfl, n, rfl⟩
  obtain ⟨label, full⟩ := mv
  have source := wired.flight.source reacted
  have asked := wired.genuine.source reacted
  cases reaction_causes reacted _ posted with
  | take self m' produces =>
      obtain ⟨o, b⟩ := m'
      obtain ⟨rfl, rfl, n, rfl⟩ := produced produces
      exact .inl ⟨rfl, o, n, rfl⟩
  | run t runs =>
      obtain ⟨o, job⟩ := t
      generalize shape : (Effect.post a m : ClientEffect) = e at runs
      cases runs with
      | notify notice produces =>
          subst shape
          obtain ⟨-, -, n, same⟩ := produced produces
          cases notice <;> cases same
      | resend deadline dst req =>
          cases shape
          obtain ⟨n, same⟩ := Body.code_eq_some named
          cases same
          exact absurd rfl (source code)
      | asks future accepts =>
          cases shape
          rw [Future.question_code] at named
          cases named
      | resumed future answer continues =>
          subst shape
          cases continues with
          | checked status self id check retryMsg answer passes =>
              obtain ⟨⟨-, checkOf⟩, -⟩ := asked
              cases checkOf <;> cases named
          | _ => cases named
      | _ => cases shape
  | arrive o arrives =>
      generalize shape : (Effect.post a m : ClientEffect) = e at arrives
      cases arrives with
      | received packet message cause =>
          cases shape
          obtain ⟨n, same⟩ := Body.code_eq_some named
          cases same
          exact .inr ⟨rfl, o, message, rfl, cause⟩
      | _ =>
          cases shape
          try cases named

theorem posts_connack (wired : Wired env w)
    (reacted : w.reaction (system env) (w.results mv.full) mv.label = some (s, es)) :
    ((posts .connack es).filterMap (·.body.code)).Sublist (takenCode .dispatch mv) := by
  by_cases dispatched :
      ∃ o code n, mv.label = .take .dispatch ⟨o, .request (.packet ⟨.connack code, n⟩)⟩
  · obtain ⟨o, code, n, label⟩ := dispatched
    have handled : DispatchActor.handle ⟨.dispatch, o, w.state.now, w.results mv.full⟩
        (.connack code) = es :=
      (Prod.mk.inj (World.reaction_take.mp (label ▸ reacted)).2.2).2
    subst handled
    simp only [DispatchActor.handle, DispatchActor.target, trySend, takenCode, label]
    cases w.results mv.full .connack with
    | none => simp [posts, Body.code]
    | some e => cases e <;> simp [handleSendError, sendError, doSendStop, posts]
  · rw [List.filterMap_eq_nil_iff.mpr fun m posted => ?_]
    · exact List.nil_sublist _
    · by_contra unnamed
      obtain ⟨code, named⟩ := Option.ne_none_iff_exists'.mp unnamed
      rcases code_posted wired reacted (mem_posts.mp posted) rfl named with
        ⟨-, o, n, label⟩ | ⟨same, -⟩
      · exact dispatched ⟨o, code, n, label⟩
      · cases same

theorem posts_dispatch (wired : Wired env w)
    (reacted : w.reaction (system env) (w.results mv.full) mv.label = some (s, es)) :
    ((posts .dispatch es).filterMap (·.body.code)).Sublist (arrivingCode mv) := by
  by_cases arrives : ∃ o code n, mv.label = .give (.cause o) ∧ o.cause = .received (.connack code) n
  · obtain ⟨o, code, n, label, cause⟩ := arrives
    rw [label] at reacted
    have accepted : accept env (.cause o) (w.results mv.full) w.state = some (s, es) := reacted
    simp only [accept, arrive, cause, Option.ite_none_left_eq_some, Option.some.injEq,
      Prod.mk.injEq] at accepted
    obtain ⟨-, -, -, rfl⟩ := accepted
    obtain ⟨serial, _⟩ := o
    cases cause
    simp only [RecvActor.handle, trySend, arrivingCode, label]
    cases w.results mv.full .dispatch with
    | none => simp [posts, Body.code]
    | some e => simp [sendError, posts]
  · rw [List.filterMap_eq_nil_iff.mpr fun m posted => ?_]
    · exact List.nil_sublist _
    · by_contra unnamed
      obtain ⟨code, named⟩ := Option.ne_none_iff_exists'.mp unnamed
      rcases code_posted wired reacted (mem_posts.mp posted) rfl named with
        ⟨same, -⟩ | ⟨-, o, n, label, cause⟩
      · cases same
      · exact arrives ⟨o, code, n, label, cause⟩

theorem waitingCodes_consume (a : Actor)
    (reacted : w.reaction (system env) (w.results mv.full) mv.label = some (s, es)) :
    waitingCodes a w = takenCode a mv ++ waitingCodes a (w.consume s mv.label) := by
  obtain ⟨label, full⟩ := mv
  cases label with
  | take b m =>
      by_cases same : b = a
      · subst same
        have head := (World.reaction_take.mp reacted).2.1
        simp only [waitingCodes, takenCode, World.consume, Function.update_self, if_pos]
        rw [← List.cons_head?_tail head, List.filterMap_cons]
        cases m.body.code <;> rfl
      · have apart : a ≠ b := fun h => same h.symm
        simp [waitingCodes, takenCode, World.consume, Function.update_of_ne apart, same]
  | run t | give i => rfl

theorem handledCodes_step
    (reacted : w.reaction (system env) (w.results mv.full) mv.label = some (s, es))
    (taken : clientStep env w mv = some w') :
    handledCodes w'.log = takenCode .connack mv ++ handledCodes w.log := by
  rw [World.fire_log reacted taken, handledCodes, List.filterMap_append]
  rw [List.filterMap_eq_nil_iff.mpr fun r emitted => ?_]
  · obtain ⟨label, full⟩ := mv
    cases label with
    | take a m =>
        by_cases same : a = .connack
        · subst same
          cases named : m.body.code <;>
            simp [Label.record, takenCode, handledCodes, named]
        · simp [Label.record, takenCode, handledCodes, same]
    | run t | give i => simp [Label.record, takenCode, handledCodes]
  · obtain ⟨e, -, rfl⟩ := List.mem_map.mp emitted
    rfl

theorem codes_step (wired : Wired env w) (taken : clientStep env w mv = some w') :
    (codes w').Sublist (codes w ++ arrivingCode mv) := by
  obtain ⟨s, es, reacted, -⟩ := World.fire_eq_some.mp taken
  have kept (a : Actor) : (waitingCodes a w').Sublist
      (waitingCodes a (w.consume s mv.label) ++ (posts a es).filterMap (·.body.code)) := by
    rw [waitingCodes, waitingCodes, ← List.filterMap_append]
    exact (World.fire_mail_sublist reacted taken a).filterMap _
  have single : (takenCode .connack mv).reverse = takenCode .connack mv := by
    unfold takenCode
    split
    · split
      · cases Body.code _ <;> rfl
      · rfl
    · rfl
  have split : codes w ++ arrivingCode mv = (handledCodes w.log).reverse ++ takenCode .connack mv ++
      ((waitingCodes .connack (w.consume s mv.label) ++ takenCode .dispatch mv) ++
        (waitingCodes .dispatch (w.consume s mv.label) ++ arrivingCode mv)) := by
    rw [codes, waitingCodes_consume .connack reacted, waitingCodes_consume .dispatch reacted]
    simp only [List.append_assoc]
  rw [split, codes, handledCodes_step reacted taken, List.reverse_append, single]
  have connack := (kept .connack).trans
    ((List.Sublist.refl _).append (posts_connack wired reacted))
  have dispatch := (kept .dispatch).trans
    ((List.Sublist.refl _).append (posts_dispatch wired reacted))
  exact (List.Sublist.refl _).append (connack.append dispatch)

/-- What the client and a broker that accepts only what it was asked for make of a handshake. -/
structure Handshake (env : Env) (w : ClientWorld) : Prop where
  wired : Wired env w
  order : (codes w).Pairwise fun a b => b = .connectionAccepted → a = .connectionAccepted
  refused : ∀ code ∈ codes w, code ≠ .connectionAccepted → refusalArrived w.log
  asked : .connectionAccepted ∈ codes w → connectQueued w.log
  handled : ∀ later m earlier, w.log = later ++ .took .connack m :: earlier →
    m.body.code = some .connectionAccepted →
      connectQueued earlier ∧ ∀ code ∈ handledCodes earlier, code = .connectionAccepted

theorem handshake_init (env : Env) (seed : Nat) : Handshake env (init env seed) := by
  have empty : codes (init env seed) = [] := rfl
  refine ⟨wired_init env seed, ?_, ?_, ?_, fun later m earlier split => ?_⟩
  · rw [empty]
    exact .nil
  · rw [empty]
    exact fun _ member => nomatch member
  · rw [empty]
    exact fun member => nomatch member
  · have none : (init env seed).log = [] := rfl
    rw [none] at split
    simp at split

theorem noted_step (reacted : w.reaction (system env) (w.results mv.full) mv.label = some (s, es))
    (taken : clientStep env w mv = some w') :
    (connectQueued w.log → connectQueued w'.log) ∧ (refusalArrived w.log → refusalArrived w'.log) := by
  simp only [connectQueued, refusalArrived, World.fire_log reacted taken, List.any_append,
    List.any_cons, Bool.or_eq_true]
  exact ⟨fun noted => .inr (.inr noted), fun noted => .inr (.inr noted)⟩

theorem refusalArrived_step {code : ConnectReturnCode}
    (reacted : w.reaction (system env) (w.results mv.full) mv.label = some (s, es))
    (taken : clientStep env w mv = some w') (arrives : code ∈ arrivingCode mv)
    (refuses : code ≠ .connectionAccepted) : refusalArrived w'.log := by
  unfold arrivingCode at arrives
  split at arrives
  · rename_i label
    obtain rfl := List.mem_singleton.mp arrives
    simp [refusalArrived, World.fire_log reacted taken, label, Label.record, refuses]
  · cases arrives

theorem handshake_step (handshake : Handshake env w) (answers : brokerAnswers w mv)
    (taken : clientStep env w mv = some w') : Handshake env w' := by
  obtain ⟨s, es, reacted, -⟩ := World.fire_eq_some.mp taken
  have kept := codes_step handshake.wired taken
  have noted := noted_step reacted taken
  have asked (arrives : .connectionAccepted ∈ arrivingCode mv) :
      connectQueued w.log ∧ refusalArrived w.log = false := by
    have single : arrivingCode mv = [.connectionAccepted] := by
      unfold arrivingCode at arrives ⊢
      split at arrives
      · rw [List.mem_singleton.mp arrives]
      · cases arrives
    simpa [brokerAnswers, single] using answers
  refine ⟨wired_step handshake.wired taken, ?_, fun code member refuses => ?_, fun member => ?_,
    fun later m earlier split accepted => ?_⟩
  · refine (List.pairwise_append.mpr ⟨handshake.order, ?_, ?_⟩).sublist kept
    · unfold arrivingCode
      split <;> simp
    · rintro a before b arrives rfl
      by_contra refuses
      have arrived := handshake.refused a before refuses
      rw [(asked arrives).2] at arrived
      cases arrived
  · rcases List.mem_append.mp (kept.mem member) with before | arrives
    · exact noted.2 (handshake.refused code before refuses)
    · exact refusalArrived_step reacted taken arrives refuses
  · rcases List.mem_append.mp (kept.mem member) with before | arrives
    · exact noted.1 (handshake.asked before)
    · exact noted.1 (asked arrives).1
  · rcases World.fire_split reacted taken (by simp) split with ⟨record, rfl, -⟩ | ⟨before, was, -⟩
    · have here : takenCode .connack mv = [.connectionAccepted] := by
        obtain ⟨label, full⟩ := mv
        cases label <;> cases record
        simp [takenCode, accepted]
      have order := handshake.order
      have inside := handshake.asked
      rw [codes, waitingCodes_consume .connack reacted, here] at order inside
      refine ⟨inside (by simp), fun code member => ?_⟩
      exact (List.pairwise_append.mp order).2.2 code (List.mem_reverse.mpr member) _ (by simp) rfl
    · exact handshake.handled before m earlier was accepted

theorem handshake_run {seed : Nat} {ls : List ClientMove}
    (broker : Along (clientStep env) (fun w mv => brokerAnswers w mv) (init env seed) ls)
    (run : Run env seed ls w) : Handshake env w :=
  exec_invariant (Handshake env) (fun _ _ _ => handshake_step) (handshake_init env seed) broker run

theorem accepted_step (wired : Wired env w) (alive : w.live .connectStatus)
    (handled : connectedSoon w → .connectionAccepted ∈ handledCodes w.log)
    (taken : clientStep env w mv = some w') (soon : connectedSoon w') :
    .connectionAccepted ∈ handledCodes w'.log := by
  obtain ⟨s, es, reacted, -⟩ := World.fire_eq_some.mp taken
  rw [handledCodes_step reacted taken, List.mem_append]
  rcases (connectedSoon_step wired alive taken).mp soon with before | registers
  · exact .inr (handled before)
  · refine .inl ?_
    unfold registersConnack at registers
    split at registers
    · rename_i o code n label
      simp only [Bool.and_eq_true, decide_eq_true_eq] at registers
      simp [takenCode, label, Body.code, registers.1]
    · cases registers

theorem accepted_run {seed : Nat} {ls : List ClientMove} (run : Run env seed ls w)
    (soon : connectedSoon w) : .connectionAccepted ∈ handledCodes w.log := by
  have preserved (w : ClientWorld) (mv : ClientMove) (w' : ClientWorld)
      (inv : Wired env w ∧ w.live .connectStatus ∧
        (connectedSoon w → .connectionAccepted ∈ handledCodes w.log))
      (taken : clientStep env w mv = some w') : Wired env w' ∧ w'.live .connectStatus ∧
        (connectedSoon w' → .connectionAccepted ∈ handledCodes w'.log) :=
    ⟨wired_step inv.1 taken, connectStatus_live_step inv.1 taken inv.2.1,
      accepted_step inv.1 inv.2.1 inv.2.2 taken⟩
  refine (exec_preserves preserved ⟨wired_init env seed, rfl, ?_⟩ run).2.2 soon
  rintro (set | ⟨m, there, -⟩)
  · cases set
  · cases there

end Order

/-- The client is connected when an accepting CONNACK was handled, CONNECT was queued before it and
    no refusing CONNACK was handled before it, provided the broker accepts only connections that it
    has been asked for and has not refused. -/
theorem connected_handshake {env : Env} {seed : Nat} {ls : List ClientMove} {w : ClientWorld}
    (run : Run env seed ls w)
    (broker : Along (clientStep env) (fun w mv => brokerAnswers w mv) (init env seed) ls)
    (connected : 1 ∈ w.state.connectStatus) :
    .connectionAccepted ∈ handledCodes w.log ∧
      ∀ later m earlier, w.log = later ++ .took .connack m :: earlier →
        m.body.code = some .connectionAccepted →
          connectQueued earlier ∧ ∀ code ∈ handledCodes earlier, code = .connectionAccepted :=
  ⟨accepted_run run (.inl connected), (handshake_run broker run).handled⟩

/-- An accepting CONNACK arrives, is dispatched and handled, and the status map hears of it. -/
def acceptingConnack (serial : Nat) : List Turn :=
  [.give (.cause ⟨serial, .received (.connack .connectionAccepted) 0⟩), .handle .dispatch,
    .handle .connack, .handle .connectStatus, .handle .connectStatus]

def acceptedConnect : List Turn :=
  [.give (.cause ⟨1, .connect ⟨none, none, none⟩⟩), .handle .connect, .handle .connectStatus] ++
    acceptingConnack 2

theorem connected_handshake_acceptedConnect :
    ∃ w, Run plainEnv 0 (schedule plainEnv (init plainEnv 0) acceptedConnect) w ∧
      1 ∈ w.state.connectStatus ∧ .connectionAccepted ∈ handledCodes w.log ∧
      ∀ later m earlier, w.log = later ++ .took .connack m :: earlier →
        m.body.code = some .connectionAccepted →
          connectQueued earlier ∧ ∀ code ∈ handledCodes earlier, code = .connectionAccepted := by
  obtain ⟨w, run, connected⟩ :
      ∃ w, Run plainEnv 0 (schedule plainEnv (init plainEnv 0) acceptedConnect) w ∧
        1 ∈ w.state.connectStatus :=
    ⟨_, rfl, by decide⟩
  exact ⟨w, run, connected, connected_handshake run (by decide +kernel) connected⟩

/-- CONNECT, a CONNACK that refuses it, and one that accepts it after all. -/
def refusedThenAccepted : List Turn :=
  [.give (.cause ⟨1, .connect ⟨none, none, none⟩⟩), .handle .connect, .handle .connectStatus,
    .give (.cause ⟨2, .received (.connack .notAuthorized) 0⟩), .handle .dispatch,
    .handle .connack, .handle .connectStatus] ++ acceptingConnack 3

/-- A client is connected without a CONNECT, and after a refusal. -/
theorem connected_unasked :
    (∃ w, Run plainEnv 0 (schedule plainEnv (init plainEnv 0) (acceptingConnack 1)) w ∧
      1 ∈ w.state.connectStatus ∧ connectQueued w.log = false) ∧
    ∃ w, Run plainEnv 0 (schedule plainEnv (init plainEnv 0) refusedThenAccepted) w ∧
      1 ∈ w.state.connectStatus ∧ handledCodes w.log = [.connectionAccepted, .notAuthorized] :=
  ⟨⟨_, rfl, by decide, rfl⟩, _, rfl, by decide, rfl⟩

end ActixMqtt
