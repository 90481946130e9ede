import ActixMqtt.Effects

/-! # The end of a client

An actor that serves packets stops only after StopActor has been asked to end the
client. `stopRequested` holds from the first StopMessage on its way to StopActor,
and stays.
-/

namespace ActixMqtt

open ActorSystem

/-- The client has been stopped, or a StopMessage waits at StopActor. -/
def stopRequested (w : ClientWorld) : Prop :=
  w.state.stopping ∨ ∃ m ∈ w.mail .stop, m.body = .stop

instance (w : ClientWorld) : Decidable (stopRequested w) :=
  inferInstanceAs (Decidable (_ ∨ ∃ m ∈ w.mail .stop, m.body = .stop))

/-- The actors that only the end of the client stops. -/
def Actor.serves : Actor → Bool
  | .stop | .connect | .connack | .disconnect | .recv | .message | .clientStop => false
  | _ => true

theorem Actor.serves_apart {a : Actor} (serves : a.serves) : a ≠ .stop ∧ a ≠ .connect := by
  constructor <;> rintro rfl <;> cases serves

/-- What stops a serving actor has its cause in a request to stop. -/
structure StopsOnRequest (w : ClientWorld) : Prop where
  stopActor : w.live .stop = false → w.state.stopping
  stopped : ∀ a : Actor, a.serves → w.live a = false → stopRequested w
  stopping : ∀ a : Actor, a.serves → ∀ m ∈ w.mail a, m.body = .stop → stopRequested w

theorem stopsOnRequest_init (env : Env) (seed : Nat) : StopsOnRequest (init env seed) where
  stopActor dead := by simp [init] at dead
  stopped a serves dead := by cases a <;> simp [init, Actor.serves] at dead serves
  stopping a serves m member stop := by
    simp only [init] at member
    split at member
    · obtain ⟨recipient, _, rfl⟩ := List.mem_map.mp member
      cases stop
    · simp at member

section Step

variable {env : Env} {w w' : ClientWorld} {mv : ClientMove} {s : State} {es : Out}

theorem handleBody_stopping (env : Env) (ctx : Ctx) (b : Body) (s : State) :
    (s.stopping → (handleBody env ctx b s).1.stopping) ∧
      (ctx.self = .stop → b = .stop → (handleBody env ctx b s).1.stopping) := by
  obtain ⟨a, o, now, res⟩ := ctx
  have changed := handleBody_changedBy env ⟨a, o, now, res⟩ b s
  cases a
  case stop =>
      simp only [handleBody, StopActor.receive]
      split
      · exact ⟨id, by simp⟩
      · unfold StopActor.handle
        split
        · rename_i already
          exact ⟨id, fun _ _ => already⟩
        · exact ⟨fun _ => rfl, fun _ _ => rfl⟩
      · rename_i other
        exact ⟨id, fun _ stop => absurd stop other⟩
  all_goals
    simp only [State.ChangedBy] at changed
    rw [changed]
    exact ⟨id, fun self => by cases self⟩

theorem stopping_step (taken : clientStep env w mv = some w') :
    (w.state.stopping → w'.state.stopping) ∧
      ∀ m, mv.label = .take .stop m → m.body = .stop → w'.state.stopping := by
  obtain ⟨s, es, reacted, -⟩ := World.fire_eq_some.mp taken
  rw [World.fire_state reacted taken]
  obtain ⟨label, full⟩ := mv
  cases label with
  | take a m =>
      obtain ⟨-, -, handled⟩ := World.reaction_take.mp reacted
      have kept := handleBody_stopping env ⟨a, m.origin, w.state.now, w.results full⟩
        m.body w.state
      rw [show handleBody env _ m.body w.state = (s, es) from handled] at kept
      refine ⟨kept.1, fun m' same stop => ?_⟩
      cases same
      exact kept.2 rfl stop
  | run t =>
      refine ⟨fun before => ?_, fun m same => nomatch same⟩
      obtain ⟨-, -, resumed⟩ := World.reaction_run.mp reacted
      have changed := resume_changed env t (w.results full) w.state
      rw [show resume env t _ w.state = (s, es) from resumed] at changed
      rw [show s = _ from changed]
      exact before
  | give i =>
      refine ⟨fun before => ?_, fun m same => nomatch same⟩
      have accepted : accept env i (w.results full) w.state = some (s, es) := reacted
      cases i with
      | cause o =>
          rw [(accept_cause accepted).2]
          exact before
      | messageClosed | nextIdElsewhere | advance duration =>
          simp only [accept, Option.some.injEq, Prod.mk.injEq] at accepted
          obtain ⟨rfl, -⟩ := accepted
          exact before

/-- Which steps halt which actors. -/
theorem halts_step {a : Actor} (reacted : w.reaction (system env) (w.results mv.full) mv.label =
      some (s, es)) (halted : .halt a ∈ es) (relevant : a.serves ∨ a = .stop) :
    (∃ m, mv.label = .take a m ∧ m.body = .stop) ∨
      (a = .send ∧ ∃ o, .post .stop ⟨o, .stop⟩ ∈ es) := by
  obtain ⟨label, full⟩ := mv
  cases reaction_causes reacted _ halted with
  | take self m produces =>
      refine .inl ⟨m, ?_⟩
      obtain ⟨o, b⟩ := m
      generalize shape : (Effect.halt a : ClientEffect) = e at produces
      cases produces with
      | halt other =>
          cases shape
          exact ⟨rfl, rfl⟩
      | haltStop self' first =>
          cases shape
          obtain rfl : self = .stop := self'
          exact ⟨rfl, rfl⟩
      | leave msg self' through =>
          cases shape
          simp [Actor.serves] at relevant
      | haltConnack code retryCount self' =>
          cases shape
          simp [Actor.serves] at relevant
      | _ => cases shape
  | run t runs =>
      generalize shape : (Effect.halt a : ClientEffect) = e at runs
      obtain ⟨o, job⟩ := t
      cases runs with
      | notify notice produces =>
          subst shape
          cases notice <;> cases produces
      | resumed future answer continues =>
          subst shape
          cases continues
      | _ => cases shape
  | arrive o arrives =>
      cases arrives with
      | haltRecv text cause => simp [Actor.serves] at relevant
      | haltSend text cause =>
          refine .inr ⟨rfl, o, ?_⟩
          have accepted : accept env (.cause o) (w.results full) w.state = some (s, es) := reacted
          simp only [accept, arrive, cause, Option.ite_none_left_eq_some, Option.some.injEq,
            Prod.mk.injEq] at accepted
          obtain ⟨-, -, -, rfl⟩ := accepted
          simp [SendActor.error, sendError, doSendStop]
  | messageClosed => simp [Actor.serves] at relevant

theorem stops_step {a : Actor} {m : Msg}
    (reacted : w.reaction (system env) (w.results mv.full) mv.label = some (s, es))
    (posted : .post a m ∈ es) (other : a ≠ .stop ∧ a ≠ .connect) (stop : m.body = .stop) :
    ∃ m', mv.label = .take .stop m' ∧ m'.body = .stop := by
  obtain ⟨label, full⟩ := mv
  cases reaction_causes reacted _ posted with
  | take self m' produces =>
      obtain ⟨o, b⟩ := m'
      generalize shape : (Effect.post a m : ClientEffect) = e at produces
      cases produces with
      | askStop =>
          cases shape
          exact absurd rfl other.1
      | passStop recipient self' first member =>
          obtain rfl : self = .stop := self'
          exact ⟨_, rfl, rfl⟩
      | connected code retryCount self' =>
          cases shape
          exact absurd rfl other.2
      | note attempts =>
          cases shape
          cases attempts <;> cases stop
      | giveUp gives =>
          cases shape
          cases gives <;> cases stop
      | response packet retryCount response =>
          cases shape
          unfold responseTo at response
          split at response <;> cases response <;> cases stop
      | _ =>
          cases shape
          try cases stop
  | run t runs =>
      obtain ⟨o, job⟩ := t
      generalize shape : (Effect.post a m : ClientEffect) = e at runs
      cases runs with
      | notify notice produces =>
          subst shape
          generalize shape : (Effect.post a m : ClientEffect) = e at produces
          cases notice <;> cases produces
          all_goals cases shape
          any_goals cases stop
          any_goals exact absurd rfl other.1
          all_goals
            rename_i derived
            cases derived <;> cases stop
      | resumed future answer continues =>
          subst shape
          generalize shape : (Effect.post a m : ClientEffect) = e at continues
          cases continues <;> cases shape
          any_goals cases stop
          · exact absurd rfl other.1
          · exact absurd rfl other.2
      | asks future accepts =>
          cases shape
          cases future with
          | statusCheck status self id check retryMsg => cases status <;> cases stop
          | _ => cases stop
      | _ =>
          cases shape
          try cases stop
  | arrive o arrives =>
      generalize shape : (Effect.post a m : ClientEffect) = e at arrives
      cases arrives <;> cases shape
      any_goals cases stop
      exact absurd rfl other.1

theorem stopActor_step (inv : StopsOnRequest w) (taken : clientStep env w mv = some w')
    (dead : w'.live .stop = false) : w'.state.stopping := by
  obtain ⟨s, es, reacted, -⟩ := World.fire_eq_some.mp taken
  by_cases halted : .halt .stop ∈ es
  · rcases halts_step reacted halted (.inr rfl) with ⟨m, label, stop⟩ | ⟨same, -⟩
    · exact (stopping_step taken).2 m label stop
    · cases same
  · rw [World.fire_live reacted taken halted] at dead
    exact (stopping_step taken).1 (inv.stopActor dead)

theorem stopRequested_of_post (inv : StopsOnRequest w) (taken : clientStep env w mv = some w')
    (reacted : w.reaction (system env) (w.results mv.full) mv.label = some (s, es)) {o : Origin}
    (asked : .post .stop ⟨o, .stop⟩ ∈ es) : stopRequested w' := by
  cases alive : w'.live .stop with
  | true => exact .inr ⟨_, World.mem_mail_of_post reacted taken alive asked, rfl⟩
  | false => exact .inl (stopActor_step inv taken alive)

theorem stopRequested_step (inv : StopsOnRequest w) (taken : clientStep env w mv = some w')
    (requested : stopRequested w) : stopRequested w' := by
  rcases requested with stopping | ⟨m, member, stop⟩
  · exact .inl ((stopping_step taken).1 stopping)
  · cases alive : w'.live .stop with
    | true =>
        by_cases now : mv.label = .take .stop m
        · exact .inl ((stopping_step taken).2 m now stop)
        · exact .inr ⟨m, World.mem_mail_fire taken alive member now, stop⟩
    | false => exact .inl (stopActor_step inv taken alive)

theorem stopsOnRequest_step (inv : StopsOnRequest w) (taken : clientStep env w mv = some w') :
    StopsOnRequest w' := by
  obtain ⟨s, es, reacted, -⟩ := World.fire_eq_some.mp taken
  refine ⟨stopActor_step inv taken, fun a serves dead => ?_, fun a serves m member stop => ?_⟩
  · by_cases halted : .halt a ∈ es
    · rcases halts_step reacted halted (.inl serves) with ⟨m, label, stop⟩ | ⟨-, o, asked⟩
      · rw [label] at reacted
        have member : m ∈ w.mail a := List.mem_of_mem_head? (World.reaction_take.mp reacted).2.1
        exact stopRequested_step inv taken (inv.stopping a serves m member stop)
      · exact stopRequested_of_post inv taken reacted asked
    · rw [World.fire_live reacted taken halted] at dead
      exact stopRequested_step inv taken (inv.stopped a serves dead)
  · rcases World.mem_mail_of_fire reacted taken member with before | posted
    · exact stopRequested_step inv taken (inv.stopping a serves m before stop)
    · obtain ⟨m', label, stop'⟩ := stops_step reacted posted (Actor.serves_apart serves) stop
      exact .inl ((stopping_step taken).2 m' label stop')

theorem stopsOnRequest_run {seed : Nat} {ls : List ClientMove} (run : Run env seed ls w) :
    StopsOnRequest w :=
  exec_preserves (fun _ _ _ inv taken => stopsOnRequest_step inv taken)
    (stopsOnRequest_init env seed) run

end Step

/-! ## Requests on their way -/

/-- A request waits in the mailbox of an actor, or in a future of `resend` to this actor. -/
def onTheWay (o : Origin) (a : Actor) (req : Request) (w : ClientWorld) : Prop :=
  (∃ deadline, ⟨o, .resend deadline a req⟩ ∈ w.tasks) ∨ ⟨o, .request req⟩ ∈ w.mail a

section OnTheWay

variable {env : Env} {w w' : ClientWorld} {mv : ClientMove} {s : State} {es : Out} {o : Origin}
  {a : Actor} {req : Request}

theorem onTheWay_of_resend (reacted : w.reaction (system env) (w.results mv.full) mv.label =
      some (s, es)) (taken : clientStep env w mv = some w') {deadline : Nat}
    (spawned : .spawn ⟨o, .resend deadline a req⟩ ∈ es) : onTheWay o a req w' :=
  .inl ⟨deadline,
    World.mem_tasks_of_spawn_fire reacted taken (fun b owned => by cases owned) spawned⟩

theorem onTheWay_of_post (inv : StopsOnRequest w) (serves : a.serves)
    (reacted : w.reaction (system env) (w.results mv.full) mv.label = some (s, es))
    (taken : clientStep env w mv = some w') (posted : .post a ⟨o, .request req⟩ ∈ es) :
    stopRequested w' ∨ onTheWay o a req w' := by
  cases alive : w'.live a with
  | false => exact .inl ((stopsOnRequest_step inv taken).stopped a serves alive)
  | true => exact .inr (.inr (World.mem_mail_of_post reacted taken alive posted))

/-- A request stays on its way until its actor takes it or the client is to end. -/
theorem onTheWay_step (inv : StopsOnRequest w) (serves : a.serves)
    (taken : clientStep env w mv = some w') (there : onTheWay o a req w) :
    stopRequested w' ∨ onTheWay o a req w' ∨ mv.label = .take a ⟨o, .request req⟩ := by
  obtain ⟨s, es, reacted, -⟩ := World.fire_eq_some.mp taken
  rcases there with ⟨deadline, member⟩ | member
  · by_cases now : mv.label = .run ⟨o, .resend deadline a req⟩
    · rw [now] at reacted
      obtain ⟨-, -, resumed⟩ := World.reaction_run.mp reacted
      rw [← now] at reacted
      refine (onTheWay_of_post inv serves reacted taken ?_).imp_right .inl
      rw [← (Prod.mk.inj resumed).2]
      exact List.mem_singleton.mpr rfl
    · exact .inr (.inl (.inl
        ⟨deadline, World.mem_tasks_fire taken (fun b owned => by cases owned) member now⟩))
  · cases alive : w'.live a with
    | false => exact .inl ((stopsOnRequest_step inv taken).stopped a serves alive)
    | true =>
        by_cases now : mv.label = .take a ⟨o, .request req⟩
        · exact .inr (.inr now)
        · exact .inr (.inl (.inr (World.mem_mail_fire taken alive member now)))

end OnTheWay

end ActixMqtt
