import ActixMqtt.Connecting

/-! # The handles of a client

`MqttClient` is a handle: the addresses it still has of the actors, and the options
that `connect` uses up. `Clone` copies all of it, so the handles of one client share
its actors but not what they have used up.
-/

namespace ActixMqtt

open ActorSystem

structure MqttOptions where
  userName : Option String
  password : Option String
  keepAlive : Option UInt16
  deriving DecidableEq, Repr

/-- Whether a handle still has each address, and its options. -/
structure MqttClient where
  connAddr : Bool
  pubAddr : Bool
  subAddr : Bool
  unsubAddr : Bool
  disconnectAddr : Bool
  connStatusAddr : Bool
  options : Option MqttOptions
  deriving DecidableEq, Repr

namespace MqttClient

/-- The handle that `new` returns. -/
def new (options : MqttOptions) : MqttClient := ⟨true, true, true, true, true, true, some options⟩

/-- What `connect` sends to ConnectActor, when the handle was not used for it before. -/
def connectMsg (client : MqttClient) : Option Connect :=
  match client.connAddr, client.options with
  | true, some options => some ⟨options.userName, options.password, options.keepAlive⟩
  | _, _ => none

/-- The handle after `connect`, which takes the address and the options in any case. -/
def connected (client : MqttClient) : MqttClient :=
  { client with connAddr := false, options := none }

def clearAllAddrs (client : MqttClient) (includeDisconnect : Bool) : MqttClient :=
  { client with
    pubAddr := false
    subAddr := false
    unsubAddr := false
    connAddr := false
    connStatusAddr := false
    disconnectAddr := client.disconnectAddr && !includeDisconnect }

def isDisconnected (client : MqttClient) (w : ClientWorld) : Bool :=
  if client.disconnectAddr then !w.live .disconnect else true

/-- What the connect status actor answers when its mailbox is empty. -/
def isConnected (client : MqttClient) (w : ClientWorld) : Except ErrorKind Bool :=
  if client.connStatusAddr then
    if w.live .connectStatus then .ok (1 ∈ w.state.connectStatus) else .error .notConnected
  else .ok false

end MqttClient

/-! ## What a handle sees of the end -/

/-- Once the mailboxes are drained, a handle of any run shows that the client has ended if and only
    if a Disconnect was let through, unless the handle has given up the address of DisconnectActor,
    and no accepting CONNACK was registered, unless it has given up that of the connect status
    actor. It does not matter whether and why StopActor has stopped the other actors. -/
theorem end_visible {env : Env} {seed : Nat} {ls : List ClientMove} {w : ClientWorld}
    (run : Run env seed ls w) (drained : ∀ a, w.mail a = []) (client : MqttClient) :
    (client.isDisconnected w ∧ client.isConnected w ≠ .ok true) ↔
      (client.disconnectAddr = false ∨
        Sometime (clientStep env) (fun w mv => letsThrough w mv) (init env seed) ls) ∧
      (client.connStatusAddr = false ∨
        ¬ Sometime (clientStep env) (fun w mv => registersConnack w mv) (init env seed) ls) := by
  obtain ⟨alive, connected⟩ := connectedSoon_run run
  rw [← disconnect_dead_run run, ← connected]
  have known : connectedSoon w ↔ 1 ∈ w.state.connectStatus := by
    simp [connectedSoon, drained]
  rw [known, MqttClient.isDisconnected, MqttClient.isConnected, if_pos alive]
  refine and_congr ?_ ?_
  · cases client.disconnectAddr <;> simp
  · cases client.connStatusAddr <;> simp

/-- StopActor registers its recipients and stops, and so do they. -/
def stopAll : List Turn :=
  List.replicate 19 (.handle .stop) ++ (stopRecipients plainEnv).map .handle

/-- `disconnect(true)` without a connection. -/
def forcedDisconnect : List Turn :=
  [.give (.cause ⟨1, .disconnect ⟨true⟩⟩), .handle .disconnect, .handle .send] ++ stopAll

/-- A clone of the handle on which `disconnect` was called shows the end. -/
theorem end_visible_forcedDisconnect :
    ∃ w, Run plainEnv 0 (schedule plainEnv (init plainEnv 0) forcedDisconnect) w ∧
      w.state.stopping ∧ (MqttClient.new ⟨none, none, none⟩).isDisconnected w ∧
      (MqttClient.new ⟨none, none, none⟩).isConnected w ≠ .ok true := by
  obtain ⟨w, run, stopped, drained⟩ :
      ∃ w, Run plainEnv 0 (schedule plainEnv (init plainEnv 0) forcedDisconnect) w ∧
        w.state.stopping ∧ ∀ a, w.mail a = [] :=
    ⟨_, rfl, rfl, fun a => by cases a <;> rfl⟩
  refine ⟨w, run, stopped, (end_visible run drained (.new ⟨none, none, none⟩)).mpr ?_⟩
  exact ⟨.inr (by decide +kernel), .inr (by decide +kernel)⟩

/-- The connection is lost: the stream ends with a packet that does not parse. -/
def lostConnection : List Turn :=
  [.give (.cause ⟨1, .connect ⟨none, none, none⟩⟩), .handle .connect, .handle .send,
    .give (.cause ⟨2, .received (.connack .connectionAccepted) 0⟩), .handle .dispatch,
    .handle .connack, .handle .connectStatus, .handle .connectStatus, .handle .connectStatus,
    .handle .connect, .give (.cause ⟨3, .parseError "end of stream"⟩)] ++ stopAll

/-- The handle still shows a connected client. -/
theorem end_invisible :
    ∃ w, Run plainEnv 0 (schedule plainEnv (init plainEnv 0) lostConnection) w ∧
      w.state.stopping ∧ (∀ a, w.mail a = []) ∧
      (MqttClient.new ⟨none, none, none⟩).isDisconnected w = false ∧
      (MqttClient.new ⟨none, none, none⟩).isConnected w = .ok true :=
  ⟨_, rfl, rfl, fun a => by cases a <;> rfl, rfl, rfl⟩

/-! ## Sessions -/

/-- A client with all the handles the user holds. -/
structure Session where
  handles : List MqttClient
  world : ClientWorld

/-- What the user calls on a handle. -/
inductive Call where
  | clone
  | connect
  | subscribe (topic : String) (qos : QualityOfService)
  | unsubscribe (topic : String)
  | publish (topic : String) (qos : QualityOfService) (payload : List UInt8)
  | disconnect (force : Bool)
  deriving DecidableEq, Repr

/-- What a call sends to the actors; `none` when it returns an error, or is not about them. -/
def Call.cause (client : MqttClient) : Call → Option Cause
  | .clone => none
  | .connect => client.connectMsg.map .connect
  | .subscribe topic qos => if client.subAddr then some (.subscribe ⟨topic, qos⟩) else none
  | .unsubscribe topic => if client.unsubAddr then some (.unsubscribe ⟨topic⟩) else none
  | .publish topic qos payload => if client.pubAddr then some (.publish topic qos payload) else none
  | .disconnect force => if client.disconnectAddr then some (.disconnect ⟨force⟩) else none

/-- The handles after a call on the `i`-th. -/
def Call.handles (handles : List MqttClient) (i : Nat) (client : MqttClient) : Call → List MqttClient
  | .clone => handles ++ [client]
  | .connect => handles.set i client.connected
  | .disconnect force => if client.disconnectAddr then handles.set i (client.clearAllAddrs force)
      else handles
  | _ => handles

inductive SessionMove where
  | inner (mv : ClientMove)
  | call (i serial : Nat) (call : Call)

def Cause.fromUser : Cause → Bool
  | .publish _ _ _ | .subscribe _ | .unsubscribe _ | .connect _ | .disconnect _ => true
  | _ => false

/-- A step of the client that is not a call of the user. -/
def ClientMove.isInner (mv : ClientMove) : Bool :=
  match mv.label with
  | .give (.cause o) => !o.cause.fromUser
  | _ => true

/-- The user's calls enter the client through a handle. -/
def sessionStep (env : Env) (c : Session) : SessionMove → Option Session
  | .inner mv =>
      if mv.isInner then (clientStep env c.world mv).map fun w => { c with world := w } else none
  | .call i serial call =>
      (c.handles[i]?).bind fun client =>
        let handles := call.handles c.handles i client
        match call.cause client with
        | none => some ⟨handles, c.world⟩
        | some cause =>
            (clientStep env c.world ⟨.give (.cause ⟨serial, cause⟩), fun _ => false⟩).map
              fun w => ⟨handles, w⟩

def Session.new (env : Env) (seed : Nat) (options : MqttOptions) : Session :=
  ⟨[.new options], init env seed⟩

/-! ## Connecting once -/

/-- A Connect has been sent to ConnectActor. -/
def connectSent (log : ClientLog) : Bool :=
  log.any (· matches .gave (.cause ⟨_, .connect _⟩))

/-- The calls of `connect` that ConnectActor has handled, so that they have returned Ok. -/
def connectsHandled (log : ClientLog) : Nat :=
  log.countP (· matches .took .connect ⟨_, .connect _⟩)

def connectsQueued (log : ClientLog) : Nat :=
  log.countP (· matches .emitted (.queued _ (.connect _)))

/-- The Connects that ConnectActor handles before it stops. -/
def toConnect : List Body → Nat
  | [] => 0
  | .connect _ :: bodies => toConnect bodies + 1
  | .stop :: _ => 0
  | _ :: bodies => toConnect bodies

def connectMail (w : ClientWorld) : List Body := (w.mail .connect).map (·.body)

/-- ConnectActor handles no Connect that is sent to it from now on. -/
def connectClosed (w : ClientWorld) : Bool := !w.live .connect || .stop ∈ connectMail w

/-- A second Connect is sent only when ConnectActor has stopped or is about to. -/
def connectsOnce (c : Session) : SessionMove → Bool
  | .call i _ .connect =>
      ((c.handles[i]?).bind MqttClient.connectMsg).isNone || !connectSent c.world.log ||
        connectClosed c.world
  | _ => true

section Step

variable {env : Env} {w w' : ClientWorld} {mv : ClientMove} {s : State} {es : Out}

theorem toConnect_step {m : Msg} (holds : genuine.Holds w)
    (reacted : w.reaction (system env) (w.results mv.full) mv.label = some (s, es))
    (posted : .post .connect m ∈ es) :
    m.body = .stop ∨ ∃ n msg, mv.label = .give (.cause ⟨n, .connect msg⟩) ∧
      m = ⟨⟨n, .connect msg⟩, .connect msg⟩ := by
  cases post_step holds reacted posted with
  | handler handles produces =>
      cases produces.signals rfl with
      | passStop | connected => exact .inl rfl
  | asks o future b label awaits question =>
      exact absurd (congrArg Prod.fst question) awaits.asked.2.2.1
  | resend o deadline req label asks home | retry o future answer req label asks home other =>
      exact absurd rfl (Request.home_ne home).2.1
  | note o id retryCount packet answer label qos told => cases told
  | pubrec o id retryCount packet answer label told => cases told
  | stop o told => exact .inl rfl
  | arrives o label arrives =>
      obtain ⟨n, cause⟩ := o
      cases arrives with
      | connect msg same =>
          cases same
          exact .inr ⟨n, msg, label, rfl⟩

theorem connect_reaction {o : Origin} {msg : Connect}
    (label : mv.label = .take .connect ⟨o, .connect msg⟩)
    (reacted : w.reaction (system env) (w.results mv.full) mv.label = some (s, es)) :
    (emits es).countP (· matches .queued _ (.connect _)) ≤ 1 ∧ .halt .connect ∉ es := by
  have handled : ConnectActor.handle env ⟨.connect, o, w.state.now, w.results mv.full⟩ msg = es :=
    (Prod.mk.inj (World.reaction_take.mp (label ▸ reacted)).2.2).2
  subst handled
  unfold ConnectActor.handle doSend
  dsimp only
  split
  · simp [sendError, doSendStop, emits]
  · split
    · simp [sendError, doSendStop, emits]
    · simp [queuePacket, emits]

theorem connect_queued {o : Origin} {packet : ConnectPacket}
    (reacted : w.reaction (system env) (w.results mv.full) mv.label = some (s, es))
    (queued : .emit (.queued o (.connect packet)) ∈ es) :
    ∃ msg, mv.label = .take .connect ⟨o, .connect msg⟩ := by
  rcases queued_reaction reacted queued with ⟨a, b, handles, sends⟩ |
    ⟨id, packet', retryCount, answer, -, same⟩
  · generalize same : VariablePacket.connect packet = queued' at sends
    cases sends with
    | attempt attempts => cases attempts <;> cases same
    | connect msg self =>
        obtain rfl : a = .connect := self
        rcases handles.label_eq with label | ⟨notice, -, owner, -⟩
        · exact ⟨msg, label⟩
        · cases notice <;> cases owner
    | _ => cases same
  · cases same

theorem connectsHandled_step
    (reacted : w.reaction (system env) (w.results mv.full) mv.label = some (s, es))
    (taken : clientStep env w mv = some w') :
    connectsHandled w'.log = connectsHandled (mv.label.record :: w.log) := by
  have emitted : ((emits es).reverse.map Record.emitted : ClientLog).countP
      (· matches .took .connect ⟨_, .connect _⟩) = 0 := by
    rw [List.countP_map]
    exact List.countP_eq_zero.mpr fun e _ => nofun
  rw [World.fire_log reacted taken, connectsHandled, List.countP_append, emitted, Nat.zero_add]
  rfl

theorem connectsQueued_step
    (reacted : w.reaction (system env) (w.results mv.full) mv.label = some (s, es))
    (taken : clientStep env w mv = some w') :
    connectsQueued w'.log = connectsQueued w.log +
      (emits es).countP (· matches .queued _ (.connect _)) := by
  rw [connectsQueued, World.fire_countP reacted taken (by cases mv.label <;> rfl), ← connectsQueued]
  congr 1
  refine List.countP_congr fun e _ => ?_
  cases e with
  | queued o packet => cases packet <;> rfl
  | _ => rfl

/-- At most one Connect is handled, and at most one CONNECT queued for it. -/
structure OneConnect (w : ClientWorld) : Prop where
  once : connectsHandled w.log + (if w.live .connect then toConnect (connectMail w) else 0) ≤ 1
  unsent : connectSent w.log = false →
    connectsHandled w.log = 0 ∧ ∀ b ∈ connectMail w, ∀ msg, b ≠ .connect msg
  queued : connectsQueued w.log ≤ connectsHandled w.log

theorem oneConnect_init (env : Env) (seed : Nat) : OneConnect (init env seed) := by
  have empty : connectMail (init env seed) = [] := rfl
  have unwritten : (init env seed).log = [] := rfl
  constructor
  · rw [empty, unwritten, toConnect, ite_self]
    exact Nat.zero_le 1
  · rw [empty, unwritten]
    intro unsent
    refine ⟨rfl, fun b member => ?_⟩
    cases member
  · rw [unwritten]
    exact Nat.le_refl 0

theorem toConnect_eq_zero {bodies : List Body} (other : ∀ b ∈ bodies, ∀ msg, b ≠ .connect msg) :
    toConnect bodies = 0 := by
  fun_induction toConnect bodies with
  | case1 => rfl
  | case2 msg bodies ih => exact absurd rfl (other _ List.mem_cons_self msg)
  | case3 bodies => rfl
  | case4 b bodies connect stop ih =>
      exact ih fun b member => other b (List.mem_cons_of_mem _ member)

theorem toConnect_stops {bodies : List Body} (stops : ∀ b ∈ bodies, b = .stop) :
    toConnect bodies = 0 :=
  toConnect_eq_zero fun b member msg same => by cases (stops b member).symm.trans same

theorem toConnect_append (front back : List Body) :
    toConnect (front ++ back) =
      toConnect front + if .stop ∈ front then 0 else toConnect back := by
  fun_induction toConnect front with
  | case1 => simp
  | case2 msg bodies ih =>
      simp only [List.cons_append, toConnect, ih, List.mem_cons, reduceCtorEq, false_or]
      omega
  | case3 bodies => simp [toConnect]
  | case4 b bodies connect stop ih =>
      have other : ¬ (.stop : Body) = b := fun same => stop same.symm
      rw [List.cons_append, toConnect.eq_4 _ _ connect stop, ih]
      simp [other]

theorem connectsHandled_other (other : ∀ o msg, mv.label ≠ .take .connect ⟨o, .connect msg⟩)
    (log : ClientLog) : connectsHandled (mv.label.record :: log) = connectsHandled log := by
  refine List.countP_cons_of_neg ?_
  cases label : mv.label with
  | take a m =>
      obtain ⟨o, b⟩ := m
      intro matched
      simp only [Label.record] at matched
      split at matched
      · rename_i same
        cases same
        exact other _ _ label
      · cases matched
  | run t | give i =>
      intro matched
      cases matched

theorem connectSent_step
    (reacted : w.reaction (system env) (w.results mv.full) mv.label = some (s, es))
    (taken : clientStep env w mv = some w') (unsent : connectSent w'.log = false) :
    connectSent w.log = false ∧ ∀ n msg, mv.label ≠ .give (.cause ⟨n, .connect msg⟩) := by
  rw [World.fire_log reacted taken, connectSent, List.any_append, List.any_cons] at unsent
  obtain ⟨-, rest⟩ := Bool.or_eq_false_iff.mp unsent
  obtain ⟨now, before⟩ := Bool.or_eq_false_iff.mp rest
  refine ⟨before, fun n msg label => ?_⟩
  rw [label] at now
  cases now

theorem connectMail_step (holds : genuine.Holds w)
    (reacted : w.reaction (system env) (w.results mv.full) mv.label = some (s, es))
    (other : ∀ n msg, mv.label ≠ .give (.cause ⟨n, .connect msg⟩)) :
    ∀ b ∈ (posts .connect es).map (·.body), b = .stop := by
  intro b member
  obtain ⟨m, posted, rfl⟩ := List.mem_map.mp member
  rcases toConnect_step holds reacted (mem_posts.mp posted) with stop | ⟨n, msg, label, -⟩
  · exact stop
  · exact absurd label (other n msg)

theorem oneConnect_take {o : Origin} {msg : Connect} (holds : genuine.Holds w) (one : OneConnect w)
    (label : mv.label = .take .connect ⟨o, .connect msg⟩) (taken : clientStep env w mv = some w') :
    OneConnect w' := by
  obtain ⟨s, es, reacted, -⟩ := World.fire_eq_some.mp taken
  obtain ⟨counted, running⟩ := connect_reaction label reacted
  obtain ⟨alive, head, -⟩ := World.reaction_take.mp (label ▸ reacted)
  have other : ∀ n msg, mv.label ≠ .give (.cause ⟨n, .connect msg⟩) := by
    rw [label]
    nofun
  have quiet := toConnect_stops (connectMail_step holds reacted other)
  have alive' : w'.live .connect := by
    rw [World.fire_live reacted taken running]
    exact alive
  have handled : connectsHandled w'.log = connectsHandled w.log + 1 := by
    rw [connectsHandled_step reacted taken, label]
    exact List.countP_cons_of_pos rfl
  obtain ⟨rest, mail⟩ := List.head?_eq_some_iff.mp head
  have once := one.once
  have waiting : connectMail w = .connect msg :: rest.map (·.body) := by
    rw [connectMail, mail]
    rfl
  rw [if_pos alive, waiting, toConnect] at once
  constructor
  · rw [if_pos alive', handled]
    rcases World.fire_mail reacted taken alive' with ⟨m, rest', label', mail', after⟩ | ⟨untaken, -⟩
    · rw [label] at label'
      cases label'
      obtain ⟨-, rfl⟩ := List.cons.inj (mail.symm.trans mail')
      rw [connectMail, after, List.map_append, toConnect_append, quiet, ite_self]
      omega
    · exact absurd label (untaken _)
  · intro unsent
    have absent := (one.unsent (connectSent_step reacted taken unsent).1).2
    exact absurd rfl (absent (.connect msg) (waiting ▸ List.mem_cons_self) msg)
  · rw [connectsQueued_step reacted taken, handled]
    exact Nat.add_le_add one.queued counted

theorem toConnect_waiting
    (reacted : w.reaction (system env) (w.results mv.full) mv.label = some (s, es))
    (taken : clientStep env w mv = some w') (alive : w'.live .connect)
    (other : ∀ o msg, mv.label ≠ .take .connect ⟨o, .connect msg⟩) :
    toConnect (connectMail w') ≤ toConnect (connectMail w ++ (posts .connect es).map (·.body)) := by
  rw [toConnect_append]
  rcases World.fire_mail reacted taken alive with ⟨⟨o, b⟩, rest, label, before, after⟩ | ⟨-, after⟩
  · rw [connectMail, connectMail, before, after, List.map_cons, List.map_append, toConnect_append]
    have running : b ≠ .stop := by
      rintro rfl
      have stopped : stopHandler ⟨.connect, o, w.state.now, w.results mv.full⟩ = es :=
        (Prod.mk.inj (World.reaction_take.mp (label ▸ reacted)).2.2).2
      refine World.not_halt_of_live reacted taken alive ?_
      rw [← stopped]
      exact List.mem_singleton.mpr rfl
    have kind : ∀ msg, b ≠ .connect msg := by
      rintro msg rfl
      exact other o msg label
    rw [toConnect.eq_4 _ _ kind running]
    simp [running.symm]
  · rw [connectMail, after, List.map_append, toConnect_append, ← connectMail]

theorem toConnect_given {n : Nat} {msg : Connect}
    (reacted : w.reaction (system env) (w.results mv.full) mv.label = some (s, es))
    (label : mv.label = .give (.cause ⟨n, .connect msg⟩)) :
    toConnect ((posts .connect es).map (·.body)) = 1 := by
  rw [label] at reacted
  have accepted : accept env (.cause ⟨n, .connect msg⟩) (w.results mv.full) w.state =
    some (s, es) := reacted
  simp only [accept, arrive, Option.ite_none_left_eq_some, Option.some.injEq,
    Prod.mk.injEq] at accepted
  obtain ⟨-, -, rfl⟩ := accepted
  rfl

theorem oneConnect_step (holds : genuine.Holds w) (one : OneConnect w)
    (allowed : ∀ n msg, mv.label = .give (.cause ⟨n, .connect msg⟩) →
      connectSent w.log = false ∨ connectClosed w)
    (taken : clientStep env w mv = some w') : OneConnect w' := by
  by_cases handles : ∃ o msg, mv.label = .take .connect ⟨o, .connect msg⟩
  · obtain ⟨o, msg, label⟩ := handles
    exact oneConnect_take holds one label taken
  obtain ⟨s, es, reacted, -⟩ := World.fire_eq_some.mp taken
  have other : ∀ o msg, mv.label ≠ .take .connect ⟨o, .connect msg⟩ :=
    fun o msg label => handles ⟨o, msg, label⟩
  have handled : connectsHandled w'.log = connectsHandled w.log :=
    (connectsHandled_step reacted taken).trans (connectsHandled_other other _)
  have queued : (emits es).countP (· matches .queued _ (.connect _)) = 0 := by
    refine List.countP_eq_zero.mpr fun e member matched => ?_
    split at matched
    · obtain ⟨msg, label⟩ := connect_queued reacted (mem_emits.mp member)
      exact other _ _ label
    · cases matched
  constructor
  · rw [handled]
    split
    · rename_i alive'
      have once := one.once
      rw [if_pos (World.fire_live_le taken alive')] at once
      have waiting := toConnect_waiting reacted taken alive' other
      refine Nat.le_trans (Nat.add_le_add_left waiting _) ?_
      rw [toConnect_append]
      by_cases gives : ∃ n msg, mv.label = .give (.cause ⟨n, .connect msg⟩)
      · obtain ⟨n, msg, label⟩ := gives
        rcases allowed n msg label with unsent | closed
        · obtain ⟨none, absent⟩ := one.unsent unsent
          rw [none, toConnect_eq_zero absent, toConnect_given reacted label]
          split <;> omega
        · have stop : .stop ∈ connectMail w := by
            simpa [connectClosed, World.fire_live_le taken alive'] using closed
          rw [if_pos stop]
          exact once
      · have quiet := toConnect_stops (connectMail_step holds reacted
          fun n msg label => gives ⟨n, msg, label⟩)
        rw [quiet, ite_self]
        exact once
    · exact Nat.le_trans (Nat.le_add_right _ _) one.once
  · intro unsent
    obtain ⟨before, ungiven⟩ := connectSent_step reacted taken unsent
    obtain ⟨none, absent⟩ := one.unsent before
    refine ⟨handled.trans none, fun b member msg same => ?_⟩
    obtain ⟨m, there, rfl⟩ := List.mem_map.mp member
    rcases World.mem_mail_of_fire reacted taken there with old | posted
    · exact absent _ (List.mem_map.mpr ⟨m, old, rfl⟩) msg same
    · rw [connectMail_step holds reacted ungiven _
        (List.mem_map.mpr ⟨m, mem_posts.mpr posted, rfl⟩)] at same
      cases same
  · rw [connectsQueued_step reacted taken, handled, queued]
    exact one.queued

end Step

/-- The world of a session moves as a client does; a Connect comes from a call of `connect` on a
    handle that was not used for it. -/
theorem session_taken {env : Env} {c c' : Session} {mv : SessionMove}
    (taken : sessionStep env c mv = some c') :
    c'.world = c.world ∨ ∃ mv', clientStep env c.world mv' = some c'.world ∧
      ∀ n msg, mv'.label = .give (.cause ⟨n, .connect msg⟩) →
        ∃ i client, mv = .call i n .connect ∧ c.handles[i]? = some client ∧
          client.connectMsg = some msg := by
  cases mv with
  | inner mv =>
      simp only [sessionStep] at taken
      split at taken
      · rename_i inner
        obtain ⟨w', stepped, rfl⟩ := Option.map_eq_some_iff.mp taken
        refine .inr ⟨mv, stepped, fun n msg label => ?_⟩
        rw [ClientMove.isInner, label] at inner
        cases inner
      · cases taken
  | call i serial call =>
      obtain ⟨client, held, called⟩ := Option.bind_eq_some_iff.mp taken
      dsimp only at called
      split at called
      · cases called
        exact .inl rfl
      · rename_i cause sent
        obtain ⟨w', stepped, rfl⟩ := Option.map_eq_some_iff.mp called
        refine .inr ⟨_, stepped, fun n msg label => ?_⟩
        cases label
        cases call with
        | connect =>
            obtain ⟨msg', unused, same⟩ := Option.map_eq_some_iff.mp sent
            cases same
            exact ⟨i, client, rfl, held, unused⟩
        | clone => cases sent
        | subscribe topic qos | unsubscribe topic | publish topic qos payload
        | disconnect force =>
            simp only [Call.cause] at sent
            split at sent <;> cases sent

/-- When `connect` is called through a further handle only after ConnectActor has stopped or is
    about to, one CONNECT is queued at most, and one call of `connect` at most is handled, so that
    every other call returns an error. -/
theorem connect_once {env : Env} {seed : Nat} {options : MqttOptions} {ms : List SessionMove}
    {c : Session}
    (allowed : Along (sessionStep env) (fun c mv => connectsOnce c mv)
      (Session.new env seed options) ms)
    (run : exec (sessionStep env) (Session.new env seed options) ms = some c) :
    connectsQueued c.world.log ≤ 1 ∧ connectsHandled c.world.log ≤ 1 := by
  have invariant := exec_invariant (fun c : Session => genuine.Holds c.world ∧ OneConnect c.world)
    (fun c mv c' inv once taken => by
      rcases session_taken taken with same | ⟨mv', stepped, called⟩
      · rw [same]
        exact inv
      · refine ⟨genuine_step inv.1 stepped, oneConnect_step inv.1 inv.2 (fun n msg label => ?_) stepped⟩
        obtain ⟨i, client, rfl, held, unused⟩ := called n msg label
        simpa [connectsOnce, held, unused] using once)
    ⟨genuine_init env seed, oneConnect_init env seed⟩ allowed run
  have once := invariant.2.once
  have queued := invariant.2.queued
  omega

/-- A step of the client while no mailbox is full. -/
def SessionMove.quiet (label : Label Actor Msg Task Input) : SessionMove :=
  .inner ⟨label, fun _ => false⟩

def plainConnect : Connect := ⟨none, none, none⟩

/-- The second handle connects when ConnectActor has been told that the first has succeeded. -/
def connectAfterConnack : List SessionMove :=
  [.call 0 0 .clone, .call 0 1 .connect,
    .quiet (.take .connect ⟨⟨1, .connect plainConnect⟩, .connect plainConnect⟩),
    .quiet (.give (.cause ⟨2, .received (.connack .connectionAccepted) 0⟩)),
    .quiet (.take .dispatch ⟨⟨2, .received (.connack .connectionAccepted) 0⟩,
      .request (.packet ⟨.connack .connectionAccepted, 0⟩)⟩),
    .quiet (.take .connack ⟨⟨2, .received (.connack .connectionAccepted) 0⟩,
      .request (.packet ⟨.connack .connectionAccepted, 0⟩)⟩),
    .call 1 3 .connect]

theorem connect_once_afterConnack :
    ∃ c, exec (sessionStep plainEnv) (Session.new plainEnv 0 ⟨none, none, none⟩)
        connectAfterConnack = some c ∧
      c.world.live .connect ∧ connectsQueued c.world.log ≤ 1 ∧ connectsHandled c.world.log ≤ 1 := by
  obtain ⟨c, run, alive⟩ : ∃ c, exec (sessionStep plainEnv)
      (Session.new plainEnv 0 ⟨none, none, none⟩) connectAfterConnack = some c ∧
        c.world.live .connect :=
    ⟨_, rfl, rfl⟩
  exact ⟨c, run, alive, connect_once (by decide +kernel) run⟩

/-- Two handles connect one after the other. -/
def connectTwice : List SessionMove :=
  [.call 0 0 .clone, .call 0 1 .connect, .call 1 2 .connect,
    .quiet (.take .connect ⟨⟨1, .connect plainConnect⟩, .connect plainConnect⟩),
    .quiet (.take .connect ⟨⟨2, .connect plainConnect⟩, .connect plainConnect⟩)]

theorem connect_twice :
    ∃ c, exec (sessionStep plainEnv) (Session.new plainEnv 0 ⟨none, none, none⟩)
        connectTwice = some c ∧
      connectsQueued c.world.log = 2 ∧ connectsHandled c.world.log = 2 :=
  ⟨_, rfl, rfl, rfl⟩

end ActixMqtt
