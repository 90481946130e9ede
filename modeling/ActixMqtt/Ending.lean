import ActixMqtt.Activity
import ActixMqtt.Broadcast

/-! # All or nothing

A client does not end by halves. What stops one of the actors that StopActor knows asks
StopActor to stop them all, each of them is told, and nothing keeps a StopMessage from being
handled: at rest either all of them run or none does.
-/

namespace ActixMqtt

open ActorSystem

/-- StopActor and the actors registered with it have stopped; what the user's own actor does with
    its StopMessage is not the client's business. -/
def Ended (env : Env) (w : ClientWorld) : Prop :=
  w.live .stop = false ∧ ∀ a ∈ stopRecipients env, a ≠ .clientStop → w.live a = false

def Running (env : Env) (w : ClientWorld) : Prop :=
  w.live .stop ∧ ∀ a ∈ stopRecipients env, w.live a

/-- A call of `disconnect(true)` has been handed to DisconnectActor. -/
def forcedOff (log : ClientLog) : Prop := ∃ n, .gave (.cause ⟨n, .disconnect ⟨true⟩⟩) ∈ log

section Step

variable {env : Env} {seed : ℕ} {ls : List ClientMove} {w w' : ClientWorld} {mv : ClientMove}
  {s : State} {es : Out}

/-! ## Who stops asks for the stop -/

theorem stopping_asked (taken : clientStep env w mv = some w') (stopping : w'.state.stopping) :
    stopRequested w := by
  obtain ⟨s, es, reacted, -⟩ := World.fire_eq_some.mp taken
  rw [World.fire_state reacted taken] at stopping
  by_cases handles : ∃ m, mv.label = .take .stop m
  · obtain ⟨⟨o, b⟩, label⟩ := handles
    obtain ⟨-, head, handled⟩ := World.reaction_take.mp (label ▸ reacted)
    have handled : StopActor.receive ⟨.stop, o, w.state.now, w.results mv.full⟩ w.state b =
      (s, es) := handled
    unfold StopActor.receive at handled
    split at handled
    · obtain ⟨rfl, -⟩ := Prod.mk.inj handled
      exact .inl stopping
    · exact .inr ⟨_, List.mem_of_mem_head? head, rfl⟩
    · obtain ⟨rfl, -⟩ := Prod.mk.inj handled
      exact .inl stopping
  · rw [(stop_kept reacted fun m label => handles ⟨m, label⟩).1] at stopping
    exact .inl stopping

theorem requested_run (run : Run env seed ls w) : stopRequested w ↔ .stop ∈ stops env seed ls := by
  refine exec_induction (motive := fun ls w => stopRequested w ↔ .stop ∈ stops env seed ls) ?_ ?_ run
  · constructor
    · rintro (stopping | ⟨m, member, stop⟩)
      · cases stopping
      · obtain ⟨recipient, -, rfl⟩ := List.mem_map.mp member
        cases stop
    · exact nofun
  · intro ls w mv w' before same taken
    obtain ⟨s, es, reacted, -⟩ := World.fire_eq_some.mp taken
    have inv := stopsOnRequest_run before
    rw [stops_concat before reacted, List.mem_append, ← same, mem_stopsOf]
    constructor
    · rintro (stopping | ⟨m, member, stop⟩)
      · exact .inl (stopping_asked taken stopping)
      · rcases World.mem_mail_of_fire reacted taken member with old | posted
        · exact .inl (.inr ⟨m, old, stop⟩)
        · obtain ⟨o, b⟩ := m
          obtain rfl : b = .stop := stop
          exact .inr ⟨o, posted⟩
    · rintro (old | ⟨o, posted⟩)
      · exact stopRequested_step inv taken old
      · exact stopRequested_of_post inv taken reacted posted

theorem recv_halts (reacted : w.reaction (system env) (w.results mv.full) mv.label = some (s, es))
    (halted : .halt .recv ∈ es) : ∃ o, .post .stop ⟨o, .stop⟩ ∈ es := by
  obtain ⟨label, full⟩ := mv
  generalize shape : (Effect.halt .recv : ClientEffect) = e at halted
  cases reaction_causes reacted e halted with
  | take a m produces =>
      obtain ⟨o, b⟩ := m
      cases produces with
      | halt other =>
          cases shape
          have handled : RecvActor.stopped ⟨.recv, o, w.state.now, w.results full⟩ = es :=
            congrArg Prod.snd (World.reaction_take.mp reacted).2.2
          refine ⟨o, ?_⟩
          rw [← handled]
          simp [RecvActor.stopped, doSendStop]
      | _ => cases shape
  | run t runs =>
      obtain ⟨o, job⟩ := t
      cases runs with
      | notify notice produces =>
          subst shape
          cases notice <;> cases produces
      | resumed future answer continues =>
          subst shape
          cases continues
      | _ => cases shape
  | arrive o arrives =>
      cases arrives with
      | haltRecv text cause =>
          have accepted : accept env (.cause o) (w.results full) w.state = some (s, es) := reacted
          simp only [accept, arrive, cause, Option.ite_none_left_eq_some, Option.some.injEq,
            Prod.mk.injEq] at accepted
          obtain ⟨-, -, -, rfl⟩ := accepted
          exact ⟨o, by simp [RecvActor.parseFailed, RecvActor.stopped, doSendStop]⟩
      | _ => cases shape
  | messageClosed => cases shape

theorem clientStop_lives
    (reacted : w.reaction (system env) (w.results mv.full) mv.label = some (s, es)) :
    .halt .clientStop ∉ es := by
  intro halted
  obtain ⟨label, full⟩ := mv
  generalize shape : (Effect.halt .clientStop : ClientEffect) = e at halted
  cases reaction_causes reacted e halted with
  | take a m produces =>
      obtain ⟨o, b⟩ := m
      have self : a = .clientStop := by
        cases produces <;> cases shape
        rfl
      subst self
      have handled : [] = es := congrArg Prod.snd (World.reaction_take.mp reacted).2.2
      rw [← handled] at halted
      cases halted
  | run t runs =>
      obtain ⟨o, job⟩ := t
      cases runs with
      | notify notice produces =>
          subst shape
          cases notice <;> cases produces
      | resumed future answer continues =>
          subst shape
          cases continues
      | _ => cases shape
  | arrive o arrives => cases arrives <;> cases shape
  | messageClosed => cases shape

theorem registered_cases {a : Actor} (registered : a ∈ stopRecipients env) :
    a.serves ∨ a = .recv ∨ a = .clientStop ∧ env.clientStop := by
  cases a
  case recv => exact .inr (.inl rfl)
  case clientStop => exact .inr (.inr ⟨rfl, by simpa [stopRecipients] using registered⟩)
  all_goals first
    | exact .inl rfl
    | cases clientStop : env.clientStop <;> simp [stopRecipients, clientStop] at registered

theorem stopped_requested (run : Run env seed ls w) :
    ∀ a ∈ stopRecipients env, w.live a = false → stopRequested w := by
  refine exec_induction
    (motive := fun _ w => ∀ a ∈ stopRecipients env, w.live a = false → stopRequested w) ?_ ?_ run
  · intro a registered dead
    rcases registered_cases registered with serves | rfl | ⟨rfl, clientStop⟩
    · exact (stopsOnRequest_init env seed).stopped a serves dead
    · cases dead
    · simp [init, clientStop] at dead
  · intro _ w mv w' before requested taken a registered dead
    obtain ⟨s, es, reacted, -⟩ := World.fire_eq_some.mp taken
    have inv := stopsOnRequest_run before
    by_cases halted : .halt a ∈ es
    · rcases registered_cases registered with serves | rfl | ⟨rfl, -⟩
      · exact (stopsOnRequest_step inv taken).stopped a serves dead
      · obtain ⟨o, asked⟩ := recv_halts reacted halted
        exact stopRequested_of_post inv taken reacted asked
      · exact absurd halted (clientStop_lives reacted)
    · rw [World.fire_live reacted taken halted] at dead
      exact stopRequested_step inv taken (requested a registered dead)

theorem disconnect_asks
    (reacted : w.reaction (system env) (w.results mv.full) mv.label = some (s, es))
    (through : letsThrough w mv) : ∃ o, .post .stop ⟨o, .stop⟩ ∈ es := by
  unfold letsThrough at through
  split at through
  · rename_i o msg label
    have handled : (DisconnectActor.handle ⟨.disconnect, o, w.state.now, w.results mv.full⟩ msg
        w.state).2 = es := congrArg Prod.snd (World.reaction_take.mp (label ▸ reacted)).2.2
    refine ⟨o, ?_⟩
    rw [← handled, DisconnectActor.handle, if_pos through]
    simp [doSendStop]
  · cases through

theorem disconnect_given {n : ℕ} {msg : Disconnect}
    (label : mv.label = .give (.cause ⟨n, .disconnect msg⟩))
    (reacted : w.reaction (system env) (w.results mv.full) mv.label = some (s, es)) :
    .post .disconnect ⟨⟨n, .disconnect msg⟩, .request (.disconnect msg)⟩ ∈ es := by
  rw [label] at reacted
  have accepted : accept env (.cause ⟨n, .disconnect msg⟩) (w.results mv.full) w.state =
    some (s, es) := reacted
  simp only [accept, arrive, Option.ite_none_left_eq_some, Option.some.injEq,
    Prod.mk.injEq] at accepted
  obtain ⟨-, -, rfl⟩ := accepted
  exact List.mem_singleton.mpr rfl

/-- What a forced Disconnect comes to. -/
structure Forcing (w : ClientWorld) : Prop where
  left : w.live .disconnect = false → stopRequested w
  waits : forcedOff w.log →
    stopRequested w ∨ ∃ o, ⟨o, .request (.disconnect ⟨true⟩)⟩ ∈ w.mail .disconnect

theorem forcing_step (run : Run env seed ls w) (forcing : Forcing w)
    (taken : clientStep env w mv = some w') : Forcing w' := by
  obtain ⟨s, es, reacted, -⟩ := World.fire_eq_some.mp taken
  have inv := stopsOnRequest_run run
  have wired := wired_run run
  have left : w'.live .disconnect = false → stopRequested w' := by
    intro dead
    by_cases halted : .halt .disconnect ∈ es
    · have unregistered : .disconnect ∉ stopRecipients env := by
        cases clientStop : env.clientStop <;> simp [stopRecipients, clientStop]
      rcases unregistered_halt wired reacted halted unregistered (by decide) with ⟨-, through⟩ |
        ⟨same, -⟩
      · obtain ⟨o, asked⟩ := disconnect_asks reacted through
        exact stopRequested_of_post inv taken reacted asked
      · cases same
    · rw [World.fire_live reacted taken halted] at dead
      exact stopRequested_step inv taken (forcing.left dead)
  refine ⟨left, fun forced => ?_⟩
  cases alive : w'.live .disconnect with
  | false => exact .inl (left alive)
  | true =>
      rcases forced with ⟨n, given⟩
      rcases (gave_step taken).mp given with label | before
      · exact .inr ⟨⟨n, .disconnect ⟨true⟩⟩,
          World.mem_mail_of_post reacted taken alive (disconnect_given label reacted)⟩
      · rcases forcing.waits ⟨n, before⟩ with requested | ⟨o, waiting⟩
        · exact .inl (stopRequested_step inv taken requested)
        · by_cases handles : mv.label = .take .disconnect ⟨o, .request (.disconnect ⟨true⟩)⟩
          · have through : letsThrough w mv := by simp [letsThrough, handles]
            obtain ⟨o', asked⟩ := disconnect_asks reacted through
            exact .inl (stopRequested_of_post inv taken reacted asked)
          · exact .inr ⟨o, World.mem_mail_fire taken alive waiting handles⟩

theorem forcing_init (env : Env) (seed : ℕ) : Forcing (init env seed) where
  left dead := by cases dead
  waits := fun ⟨_, given⟩ => nomatch given

theorem forcing_run (run : Run env seed ls w) : Forcing w :=
  exec_induction (motive := fun _ w => Forcing w) (forcing_init env seed)
    (fun _ _ _ _ before forcing taken => forcing_step before forcing taken) run

theorem forcedOff_later {moves : List ClientMove}
    (later : exec (clientStep env) w moves = some w') (forced : forcedOff w.log) :
    forcedOff w'.log := by
  have kept : ∀ w mv w', forcedOff w.log → clientStep env w mv = some w' → forcedOff w'.log :=
    fun _ _ _ ⟨n, given⟩ taken => ⟨n, (gave_step taken).mpr (.inr given)⟩
  exact exec_preserves kept forced later

/-! ## Who is told stops -/

theorem stop_halts (ctx : Ctx) (registered : ctx.self ∈ stopRecipients env)
    (own : ctx.self ≠ .clientStop) : .halt ctx.self ∈ (handleBody env ctx .stop s).2 := by
  obtain ⟨a, o, now, res⟩ := ctx
  rcases registered_cases registered with serves | rfl | ⟨rfl, -⟩
  · cases a <;> first
      | exact List.mem_singleton.mpr rfl
      | cases serves
  · exact List.mem_cons_self
  · exact absurd rfl own

/-- The first StopMessage is behind all that was to be registered, so every registered actor is
    told. -/
theorem first_stop (run : Run env seed ls w)
    (reacted : w.reaction (system env) (w.results mv.full) mv.label = some (s, es))
    (running : w.state.stopping = false) (stops : s.stopping) :
    ∃ o, es = (stopRecipients env).map (fun recipient => .post recipient ⟨o, .stop⟩) ++
      [.halt .stop] := by
  obtain ⟨-, adds, rest, mail, told, registered⟩ := (broadcasting_run run).waiting running
  by_cases handles : ∃ m, mv.label = .take .stop m
  · obtain ⟨⟨o, b⟩, label⟩ := handles
    obtain ⟨-, head, handled⟩ := World.reaction_take.mp (label ▸ reacted)
    rw [mail] at head
    cases adds with
    | cons recipient adds =>
        obtain ⟨rfl, rfl⟩ := Msg.mk.inj (Option.some.inj head)
        obtain rfl := congrArg Prod.fst handled
        exact absurd (running.symm.trans stops) (by simp)
    | nil =>
        obtain rfl : b = .stop := told _ (List.mem_of_mem_head? head)
        have handled : StopActor.handle ⟨.stop, o, w.state.now, w.results mv.full⟩ w.state =
          (s, es) := handled
        simp only [StopActor.handle, running, Bool.false_eq_true, if_false, Prod.mk.injEq]
          at handled
        obtain ⟨-, rfl⟩ := handled
        exact ⟨o, by rw [← registered, List.append_nil]⟩
  · rw [(stop_kept reacted fun m label => handles ⟨m, label⟩).1, running] at stops
    cases stops

/-- Once StopActor has passed the StopMessage on, it waits at each registered actor that lives. -/
theorem told_run (run : Run env seed ls w) : w.state.stopping → ∀ a ∈ stopRecipients env,
    a ≠ .clientStop → w.live a → ∃ m ∈ w.mail a, m.body = .stop := by
  refine exec_induction (motive := fun _ w => w.state.stopping → ∀ a ∈ stopRecipients env,
    a ≠ .clientStop → w.live a → ∃ m ∈ w.mail a, m.body = .stop) nofun ?_ run
  intro ls w mv w' before told taken stopping a registered own alive
  obtain ⟨s, es, reacted, -⟩ := World.fire_eq_some.mp taken
  cases already : w.state.stopping with
  | true =>
      obtain ⟨m, waiting, stop⟩ := told already a registered own (World.fire_live_le taken alive)
      by_cases now : mv.label = .take a m
      · obtain ⟨o, b⟩ := m
        obtain rfl : b = .stop := stop
        have handled : (handleBody env ⟨a, o, w.state.now, w.results mv.full⟩ .stop w.state).2 =
          es := congrArg Prod.snd (World.reaction_take.mp (now ▸ reacted)).2.2
        refine absurd ?_ (World.not_halt_of_live reacted taken alive)
        rw [← handled]
        exact stop_halts ⟨a, o, w.state.now, w.results mv.full⟩ registered own
      · exact ⟨m, World.mem_mail_fire taken alive waiting now, stop⟩
  | false =>
      obtain ⟨o, passed⟩ := first_stop before reacted already
        (by rwa [World.fire_state reacted taken] at stopping)
      refine ⟨⟨o, .stop⟩, World.mem_mail_of_post reacted taken alive ?_, rfl⟩
      rw [passed]
      exact List.mem_append_left _ (List.mem_map.mpr ⟨a, registered, rfl⟩)

/-! ## At rest -/

theorem AtRest.requested (rest : AtRest w) : stopRequested w ↔ w.state.stopping := by
  refine ⟨fun requested => requested.resolve_right ?_, .inl⟩
  rintro ⟨m, member, -⟩
  rw [rest.1 .stop] at member
  cases member

theorem AtRest.ended (rest : AtRest w) (run : Run env seed ls w) (requested : stopRequested w) :
    Ended env w := by
  have stopping := rest.requested.mp requested
  refine ⟨(broadcasting_run run).dead stopping, fun a registered own => ?_⟩
  by_contra alive
  obtain ⟨m, waiting, -⟩ :=
    told_run run stopping a registered own (Bool.eq_true_of_not_eq_false alive)
  rw [rest.1 a] at waiting
  cases waiting

theorem running_unless_requested (run : Run env seed ls w) (calm : ¬ stopRequested w) :
    Running env w := by
  refine ⟨((broadcasting_run run).waiting ?_).1, fun a registered => ?_⟩
  · exact Bool.eq_false_iff.mpr fun stopping => calm (.inl stopping)
  · by_contra dead
    exact calm (stopped_requested run a registered (Bool.eq_false_of_not_eq_true dead))

/-- At rest the client has ended when StopActor was ever sent a StopMessage, whatever for, and runs
    when it was not. -/
theorem all_or_nothing (run : Run env seed ls w) (rest : AtRest w) :
    (.stop ∈ stops env seed ls → Ended env w) ∧ (.stop ∉ stops env seed ls → Running env w) := by
  rw [← requested_run run]
  exact ⟨rest.ended run, running_unless_requested run⟩

/-- The first tick of a client finds that there is no connection. -/
def idle : List Turn :=
  List.replicate 18 (.handle .stop) ++ [.task 0, .task 0, .handle .connectStatus, .task 0]

/-- The stream ends while a publish is being sent. -/
def lostWhileSending : List Turn :=
  [.give (.cause ⟨1, .publish "a" .level1 []⟩), .handle .sendPublish,
    .give (.cause ⟨2, .parseError "end of stream"⟩)]

/-- What is left to do then. -/
def leftToDo : List Turn :=
  List.map Turn.handle (List.replicate 19 .stop ++ [.send, .send, .publishStatus, .disconnect,
    .publishStatus, .subscribeStatus, .unsubscribeStatus, .pingStatus, .sendPublish, .recvPublish,
    .puback, .pubrec, .pubrel, .pubcomp, .subscribe, .suback, .unsubscribe, .unsuback, .pingreq,
    .pingresp])

theorem all_or_nothing_idleAndLost :
    (∃ w, Run plainEnv 0 (schedule plainEnv (init plainEnv 0) idle) w ∧ Running plainEnv w) ∧
      ∃ w, Run plainEnv 0 (schedule plainEnv (init plainEnv 0) (lostWhileSending ++ leftToDo)) w ∧
        Ended plainEnv w := by
  constructor
  · obtain ⟨w, run, drained, done, calm⟩ : ∃ w,
        Run plainEnv 0 (schedule plainEnv (init plainEnv 0) idle) w ∧ (∀ a, w.mail a = []) ∧
          w.tasks = [] ∧ .stop ∉ stops plainEnv 0 (schedule plainEnv (init plainEnv 0) idle) :=
      ⟨_, rfl, fun a => by cases a <;> rfl, rfl, by decide +kernel⟩
    exact ⟨w, run, (all_or_nothing run ⟨drained, done⟩).2 calm⟩
  · obtain ⟨w, run, drained, done, asked⟩ : ∃ w,
        Run plainEnv 0 (schedule plainEnv (init plainEnv 0) (lostWhileSending ++ leftToDo)) w ∧
          (∀ a, w.mail a = []) ∧ w.tasks = [] ∧ .stop ∈ stops plainEnv 0
            (schedule plainEnv (init plainEnv 0) (lostWhileSending ++ leftToDo)) :=
      ⟨_, rfl, fun a => by cases a <;> rfl, rfl, by decide +kernel⟩
    exact ⟨w, run, (all_or_nothing run ⟨drained, done⟩).1 asked⟩

theorem requested_later {moves : List ClientMove} (run : Run env seed ls w)
    (later : exec (clientStep env) w moves = some w') (requested : stopRequested w) :
    stopRequested w' := by
  have kept : ∀ w mv w', StopsOnRequest w ∧ stopRequested w → clientStep env w mv = some w' →
      StopsOnRequest w' ∧ stopRequested w' :=
    fun _ _ _ inv taken => ⟨stopsOnRequest_step inv.1 taken, stopRequested_step inv.1 taken inv.2⟩
  exact (exec_preserves kept ⟨stopsOnRequest_run run, requested⟩ later).2

/-- Whatever a client does that is left alone, it does not go on for ever, it can go on until it is
    at rest, and it has ended then if it had been asked to stop or forced to disconnect. -/
theorem left_alone (run : Run env seed ls w) {moves : List ClientMove}
    (later : exec (clientStep env) w moves = some w') (quiet : ∀ mv ∈ moves, alone mv) :
    moves.countP (·.label.internal) ≤ effort.left w ∧
      (¬ AtRest w' → ∃ next w'', exec (clientStep env) w' next = some w'' ∧
        (∀ mv ∈ next, alone mv) ∧ 0 < next.countP (·.label.internal)) ∧
      (AtRest w' → .stop ∈ stops env seed ls ∨ forcedOff w.log → Ended env w') := by
  have onwards := run.append later
  refine ⟨?_, moves_on onwards, fun rest cause => rest.ended onwards ?_⟩
  · have spent := left_le_alone run later quiet
    omega
  · rcases cause with asked | forced
    · exact requested_later run later ((requested_run run).mpr asked)
    · refine ((forcing_run onwards).waits (forcedOff_later later forced)).resolve_right ?_
      rintro ⟨o, waiting⟩
      rw [rest.1 .disconnect] at waiting
      cases waiting

theorem left_alone_lostWhileSending : ∃ w w',
    Run plainEnv 0 (schedule plainEnv (init plainEnv 0) lostWhileSending) w ∧
      exec (clientStep plainEnv) w (schedule plainEnv w leftToDo) = some w' ∧
      39 ≤ effort.left w ∧ Ended plainEnv w' := by
  obtain ⟨w, w', run, asked, later, quiet, steps, drained, done⟩ : ∃ w w',
      Run plainEnv 0 (schedule plainEnv (init plainEnv 0) lostWhileSending) w ∧
        .stop ∈ stops plainEnv 0 (schedule plainEnv (init plainEnv 0) lostWhileSending) ∧
        exec (clientStep plainEnv) w (schedule plainEnv w leftToDo) = some w' ∧
        (∀ mv ∈ schedule plainEnv w leftToDo, alone mv) ∧
        (schedule plainEnv w leftToDo).countP (·.label.internal) = 39 ∧
        (∀ a, w'.mail a = []) ∧ w'.tasks = [] :=
    ⟨_, _, rfl, by decide +kernel, rfl, by decide +kernel, by decide +kernel,
      fun a => by cases a <;> rfl, rfl⟩
  obtain ⟨bound, -, ends⟩ := left_alone run later quiet
  exact ⟨w, w', run, later, steps ▸ bound, ends ⟨drained, done⟩ (.inl asked)⟩

end Step

end ActixMqtt
