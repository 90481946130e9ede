import ActixMqtt.Actors.Inbox
import ActixMqtt.Cleanup
import ActixMqtt.Retransmission

/-! # The check of an attempt

An attempt notes its phase, queues its packet and sets a timer. Until the check that the
timer starts is answered, it is the one thing that is left of the chain of its origin,
and only attempts start checks.
-/

namespace ActixMqtt

open ActorSystem

/-- The keys that an actor alone updates are what the messages it has handled make of them. -/
theorem settles_run {env : Env} {seed : Nat} {ls : List ClientMove} {w : ClientWorld} {κ : Type}
    {a : Actor} (mark : Msg → Mark κ) (keys : State → Set κ) (empty : keys (init env seed).state = ∅)
    (step : ∀ (w : ClientWorld) (mv : ClientMove) (s : State) (es : Out),
      w.reaction (system env) (w.results mv.full) mv.label = some (s, es) →
        (∀ m, mv.label = .take a m → keys s = (mark m).on (keys w.state)) ∧
          ((∀ m, mv.label ≠ .take a m) → keys s = keys w.state))
    (run : Run env seed ls w) :
    keys w.state = settle ((handled a w.log).reverse.map mark) ∅ := by
  have preserved (w : ClientWorld) (mv : ClientMove) (w' : ClientWorld)
      (settles : keys w.state = settle ((handled a w.log).reverse.map mark) ∅)
      (taken : clientStep env w mv = some w') :
      keys w'.state = settle ((handled a w'.log).reverse.map mark) ∅ := by
    obtain ⟨s, es, reacted, -⟩ := World.fire_eq_some.mp taken
    obtain ⟨updates, keeps⟩ := step w mv s es reacted
    exact settles_fire mark keys reacted taken updates keeps settles
  exact exec_preserves preserved empty run

/-- The future waits for its timer, for a place in a mailbox, or in the mailbox of the status actor
    it asks. -/
def Unanswered (o : Origin) (future : Future) (w : ClientWorld) : Prop :=
  (∃ deadline owner, ⟨o, .timer deadline owner future⟩ ∈ w.tasks) ∨
    ⟨o, .spawned future⟩ ∈ w.tasks ∨ ⟨o, future.question.2⟩ ∈ w.mail future.question.1

/-- The effect makes the future wait for one of these. -/
inductive Asks (o : Origin) (future : Future) : ClientEffect → Prop where
  | timer (deadline : Nat) (owner : Option Actor) :
      Asks o future (.spawn ⟨o, .timer deadline owner future⟩)
  | spawned : Asks o future (.spawn ⟨o, .spawned future⟩)
  | question : Asks o future (.post future.question.1 ⟨o, future.question.2⟩)

/-- The futures that the timers of attempts start. -/
def Future.isCheck : Future → Bool
  | .statusCheck _ _ _ _ _ | .publishLevel2 _ _ => true
  | _ => false

theorem Future.question_reply (future : Future) : future.question.2.reply = some future := by
  cases future with
  | statusCheck status self id check retryMsg => cases status <;> rfl
  | _ => rfl


theorem Future.question_inj {future other : Future} (same : future.question.2 = other.question.2) :
    future = other := by
  have replies := congrArg Body.reply same
  rw [question_reply, question_reply] at replies
  exact Option.some.inj replies

section Step

variable {env : Env} {w w' : ClientWorld} {mv : ClientMove} {s : State} {es : Out} {o : Origin}
  {future : Future}

theorem unanswered_fire (reacted : w.reaction (system env) (w.results mv.full) mv.label = some (s, es))
    (taken : clientStep env w mv = some w') (waits : Unanswered o future w') :
    Unanswered o future (w.consume s mv.label) ∨ ∃ e ∈ es, Asks o future e := by
  obtain ⟨s', es', reacted', rfl⟩ := World.fire_eq_some.mp taken
  obtain ⟨rfl, rfl⟩ := Prod.mk.inj (Option.some.inj (reacted.symm.trans reacted'))
  have left {job : Job} (member : ⟨o, job⟩ ∈ ((w.consume s mv.label).applyAll (system env) es).tasks)
      (asking : ∀ future answer, job ≠ .resumed future answer) :
      ⟨o, job⟩ ∈ (w.consume s mv.label).tasks ∨ .spawn ⟨o, job⟩ ∈ es := by
    rcases World.mem_tasks_applyAll _ _ member with before | spawned | ⟨a, m, -, orphaned, -⟩
    · exact .inl before
    · exact .inr spawned
    · obtain ⟨future, -, same⟩ := orphan_reply orphaned
      cases same
      exact absurd rfl (asking _ _)
  rcases waits with ⟨deadline, owner, member⟩ | member | member
  · rcases left member (fun _ _ same => by cases same) with before | spawned
    · exact .inl (.inl ⟨deadline, owner, before⟩)
    · exact .inr ⟨_, spawned, .timer deadline owner⟩
  · rcases left member (fun _ _ same => by cases same) with before | spawned
    · exact .inl (.inr (.inl before))
    · exact .inr ⟨_, spawned, .spawned⟩
  · rcases World.mem_mail_applyAll (system env) (w.consume s mv.label) member with before | posted
    · exact .inl (.inr (.inr before))
    · exact .inr ⟨_, posted, .question⟩

theorem Unanswered.of_consume {label : Label Actor Msg Task Input}
    (waits : Unanswered o future (w.consume s label)) : Unanswered o future w := by
  cases label with
  | take a m =>
      rcases waits with timer | spawned | member
      · exact .inl timer
      · exact .inr (.inl spawned)
      · refine .inr (.inr ?_)
        by_cases same : future.question.1 = a
        · rw [same] at member ⊢
          simp only [World.consume, Function.update_self] at member
          exact List.mem_of_mem_tail member
        · simpa [World.consume, Function.update_of_ne same] using member
  | run t =>
      rcases waits with ⟨deadline, owner, member⟩ | member | member
      · exact .inl ⟨deadline, owner, List.mem_of_mem_erase member⟩
      · exact .inr (.inl (List.mem_of_mem_erase member))
      · exact .inr (.inr member)
  | give i => exact waits

theorem Produces.reply {ctx : Ctx} {b : Body} {dst : Actor} {m : Msg}
    (produces : Produces env ctx s b (.post dst m)) : m.body.reply = none := by
  generalize shape : (Effect.post dst m : ClientEffect) = e at produces
  cases produces with
  | note attempts =>
      cases shape
      cases attempts <;> rfl
  | giveUp gives =>
      cases shape
      cases gives <;> rfl
  | response packet retryCount response =>
      cases shape
      unfold responseTo at response
      split at response <;> cases response <;> rfl
  | _ =>
      cases shape
      try rfl

theorem Continues.reply {ctx : Ctx} {answer : Answer} {dst : Actor} {m : Msg}
    (continues : Continues ctx future answer (.post dst m)) : m.body.reply = none := by
  generalize shape : (Effect.post dst m : ClientEffect) = e at continues
  cases continues <;> cases shape <;> rfl

theorem Arrives.reply {dst : Actor} {m : Msg} (arrives : Arrives o (.post dst m)) :
    m.body.reply = none := by
  generalize shape : (Effect.post dst m : ClientEffect) = e at arrives
  cases arrives <;> cases shape <;> rfl

theorem Produces.asks {ctx : Ctx} {b : Body} {e : ClientEffect} (produces : Produces env ctx s b e)
    (check : future.isCheck) (asks : Asks o future e) :
    ctx.origin = o ∧ e = .spawn ⟨o, .timer (ctx.now + commandTimeout) (some ctx.self) future⟩ ∧
      ∃ att, Attempts env ctx s b att ∧ att.check = future := by
  cases asks with
  | timer deadline owner =>
      generalize shape : (Effect.spawn ⟨o, .timer deadline owner future⟩ : ClientEffect) = e at produces
      cases produces with
      | check attempts =>
          cases shape
          exact ⟨rfl, rfl, _, attempts, rfl⟩
      | connectTimer msg self =>
          cases shape
          cases check
      | _ => cases shape
  | spawned =>
      generalize shape : (Effect.spawn ⟨o, .spawned future⟩ : ClientEffect) = e at produces
      cases produces with
      | recv2 | ping =>
          cases shape
          cases check
      | _ => cases shape
  | question =>
      have silent := produces.reply
      rw [Future.question_reply] at silent
      cases silent

/-- An attempt at `label` whose check waits from now on. -/
structure Begins (env : Env) (w : ClientWorld) (mv : ClientMove) (es : Out) (o : Origin)
    (future : Future) (a : Actor) (b : Body) (att : Attempt) : Prop where
  handles : Handles mv.label a o b
  attempts : Attempts env ⟨a, o, w.state.now, w.results mv.full⟩ w.state b att
  check : att.check = future
  timer : .spawn ⟨o, .timer (w.state.now + commandTimeout) (some a) future⟩ ∈ es

/-- A step makes a future wait that waited before, or a handler or another future starts it. -/
theorem asks_step (reacted : w.reaction (system env) (w.results mv.full) mv.label = some (s, es))
    {e : ClientEffect} (member : e ∈ es) (asks : Asks o future e) :
    Unanswered o future w ∨
      (∃ a o' b, Handles mv.label a o' b ∧
        Produces env ⟨a, o', w.state.now, w.results mv.full⟩ w.state b e) ∨
      ∃ o' future' answer,
        Continues ⟨future'.self, o', w.state.now, w.results mv.full⟩ future' answer e := by
  obtain ⟨label, full⟩ := mv
  cases reaction_causes reacted _ member with
  | take a m produces => exact .inr (.inl ⟨a, m.origin, m.body, .take a _ _, produces⟩)
  | run t runs =>
      obtain ⟨o', job⟩ := t
      have there := (World.reaction_run.mp reacted).1
      cases runs with
      | notify notice produces => exact .inr (.inl ⟨_, o', _, .notify o' notice, produces⟩)
      | resumed future' answer continues => exact .inr (.inr ⟨o', future', answer, continues⟩)
      | timer deadline owner future' =>
          cases asks
          exact .inl (.inl ⟨deadline, owner, there⟩)
      | waits future' refused =>
          cases asks
          exact .inl (.inr (.inl there))
      | asks future' accepts =>
          generalize shape : (Effect.post future'.question.1 ⟨o', future'.question.2⟩ :
            ClientEffect) = e at asks
          cases asks with
          | question =>
              obtain ⟨-, same⟩ := Effect.post.inj shape
              obtain ⟨rfl, asked⟩ := Msg.mk.inj same
              obtain rfl := Future.question_inj asked
              exact .inl (.inr (.inl there))
          | _ => cases shape
      | resend deadline dst req =>
          generalize shape : (Effect.post dst ⟨o', .request req⟩ : ClientEffect) = e at asks
          cases asks with
          | question =>
              obtain ⟨-, same⟩ := Effect.post.inj shape
              have silent := congrArg Body.reply (Msg.mk.inj same).2
              rw [Future.question_reply] at silent
              cases silent
          | _ => cases shape
      | closed future' refused => cases asks
  | arrive o' arrives =>
      cases asks with
      | question =>
          have silent := arrives.reply
          rw [Future.question_reply] at silent
          cases silent
      | _ => cases arrives
  | messageClosed => cases asks

theorem unanswered_step
    (reacted : w.reaction (system env) (w.results mv.full) mv.label = some (s, es))
    (taken : clientStep env w mv = some w') (check : future.isCheck)
    (waits : Unanswered o future w') :
    Unanswered o future w ∨ ∃ a b att, Begins env w mv es o future a b att := by
  rcases unanswered_fire reacted taken waits with before | ⟨e, member, asks⟩
  · exact .inl before.of_consume
  rcases asks_step reacted member asks with before | ⟨a, o', b, handles, produces⟩ |
    ⟨o', future', answer, continues⟩
  · exact .inl before
  · obtain ⟨rfl, rfl, att, attempts, checks⟩ := produces.asks check asks
    exact .inr ⟨a, b, att, handles, attempts, checks, member⟩
  · cases asks with
    | question =>
        have silent := continues.reply
        rw [Future.question_reply] at silent
        cases silent
    | timer deadline owner =>
        cases continues
        cases check
    | spawned =>
        cases continues
        cases check

/-- The future waits, and no timer of it is cancelled before the client is asked to stop. -/
def Pursued (o : Origin) (future : Future) (w : ClientWorld) : Prop :=
  (∃ deadline owner, ⟨o, .timer deadline owner future⟩ ∈ w.tasks ∧ owner.all Actor.serves) ∨
    ⟨o, .spawned future⟩ ∈ w.tasks ∨ ⟨o, future.question.2⟩ ∈ w.mail future.question.1

theorem Pursued.unanswered (pursued : Pursued o future w) : Unanswered o future w := by
  rcases pursued with ⟨deadline, owner, member, -⟩ | member
  · exact .inl ⟨deadline, owner, member⟩
  · exact .inr member

/-- A future waits until the status actor takes its question. -/
theorem pursued_step (inv : StopsOnRequest w') (running : ¬ stopRequested w')
    (serves : future.question.1.serves) (taken : clientStep env w mv = some w')
    (pursued : Pursued o future w) :
    Pursued o future w' ∨ mv.label = .take future.question.1 ⟨o, future.question.2⟩ := by
  obtain ⟨s, es, reacted, -⟩ := World.fire_eq_some.mp taken
  have alive := lives_on inv running serves
  have spawn (spawned : .spawn ⟨o, .spawned future⟩ ∈ es) : Pursued o future w' :=
    .inr (.inl (World.mem_tasks_of_spawn_fire reacted taken (fun b owned => by cases owned) spawned))
  rcases pursued with ⟨deadline, owner, member, served⟩ | member | member
  · by_cases now : mv.label = .run ⟨o, .timer deadline owner future⟩
    · have resumed := (World.reaction_run.mp (now ▸ reacted)).2.2
      refine .inl (spawn ?_)
      rw [← (Prod.mk.inj resumed).2]
      exact List.mem_singleton.mpr rfl
    · refine .inl (.inl ⟨deadline, owner, World.mem_tasks_fire taken (fun b owned => ?_) member now,
        served⟩)
      obtain rfl : owner = some b := owned
      exact lives_on inv running served
  · by_cases now : mv.label = .run ⟨o, .spawned future⟩
    · have resumed : (resume env ⟨o, .spawned future⟩ (w.results mv.full) w.state).2 = es :=
        congrArg Prod.snd (World.reaction_run.mp (now ▸ reacted)).2.2
      simp only [resume] at resumed
      split at resumed
      · rename_i closed
        exact absurd closed (results_ne_closed (World.fire_live_le taken alive))
      · refine .inl (spawn ?_)
        rw [← resumed]
        exact List.mem_singleton.mpr rfl
      · refine .inl (.inr (.inr (World.mem_mail_of_post reacted taken alive ?_)))
        rw [← resumed]
        exact List.mem_singleton.mpr rfl
    · exact .inl (.inr (.inl
        (World.mem_tasks_fire taken (fun b owned => by cases owned) member now)))
  · by_cases now : mv.label = .take future.question.1 ⟨o, future.question.2⟩
    · exact .inr now
    · exact .inl (.inr (.inr (World.mem_mail_fire taken alive member now)))

/-- The effects that only an attempt has that goes through. -/
def goesThrough : ClientEffect → Bool
  | .spawn ⟨_, .timer _ _ _⟩ | .emit (.queued _ _) => true
  | _ => false

theorem Attempt.out_of_through {ctx : Ctx} {statusTag sendTag : String} {att : Attempt}
    {e : ClientEffect} (member : e ∈ att.out ctx statusTag sendTag) (through : goesThrough e) :
    ctx.res att.status = none ∧ att.out ctx statusTag sendTag =
      [.post att.status ⟨ctx.origin, att.note⟩,
        .post .send ⟨ctx.origin, .request (.packet ⟨att.packet, 0⟩)⟩,
        .emit (.queued ctx.origin att.packet),
        .spawn ⟨ctx.origin, .timer (ctx.now + commandTimeout) (some ctx.self) att.check⟩] := by
  have refused {tag : String} {addr : Actor} {msg : Request} {error : SendError}
      (member : e ∈ handleSendErrorWithResend ctx tag addr msg error) : goesThrough e = false := by
    cases error with
    | closed | full =>
        simp only [handleSendErrorWithResend, sendError, doSendStop, resend, List.cons_append,
          List.nil_append, List.mem_cons, List.not_mem_nil, or_false] at member
        rcases member with rfl | rfl <;> rfl
  unfold Attempt.out trySend trySendPacket at member ⊢
  cases status : ctx.res att.status with
  | some error =>
      rw [status] at member
      rw [refused member] at through
      cases through
  | none =>
      cases send : ctx.res .send with
      | some error =>
          rw [status, send] at member
          rcases List.mem_cons.mp member with rfl | member
          · cases through
          · rw [refused member] at through
            cases through
      | none => exact ⟨rfl, rfl⟩

theorem Handles.through {a : Actor} {b : Body} {att : Attempt} {e : ClientEffect}
    (handles : Handles mv.label a o b)
    (attempts : Attempts env ⟨a, o, w.state.now, w.results mv.full⟩ w.state b att)
    (reacted : w.reaction (system env) (w.results mv.full) mv.label = some (s, es))
    (member : e ∈ es) (through : goesThrough e) :
    w.results mv.full att.status = none ∧
      es = [.post att.status ⟨o, att.note⟩, .post .send ⟨o, .request (.packet ⟨att.packet, 0⟩)⟩,
        .emit (.queued o att.packet),
        .spawn ⟨o, .timer (w.state.now + commandTimeout) (some a) att.check⟩] := by
  obtain ⟨statusTag, sendTag, attempted⟩ := attempts.handleBody_eq
  rw [handles.reaction reacted] at attempted
  obtain rfl : es = _ := attempted
  exact Attempt.out_of_through member through

theorem Begins.through {a : Actor} {b : Body} {att : Attempt}
    (begins : Begins env w mv es o future a b att)
    (reacted : w.reaction (system env) (w.results mv.full) mv.label = some (s, es)) :
    es = [.post att.status ⟨o, att.note⟩, .post .send ⟨o, .request (.packet ⟨att.packet, 0⟩)⟩,
      .emit (.queued o att.packet),
      .spawn ⟨o, .timer (w.state.now + commandTimeout) (some a) att.check⟩] :=
  (begins.handles.through begins.attempts reacted begins.timer rfl).2

/-! ## One thing at a time -/

/-- The step takes up what carries the origin on. -/
def carriesOn (o : Origin) : Label Actor Msg Task Input → Bool
  | .take a m => m.origin = o ∧ m.body.succeeds a
  | .run t => t.origin = o ∧ t.job.succeeds
  | .give _ => false

theorem successors_consume (single : successors o w ≤ 1)
    (reacted : w.reaction (system env) (w.results mv.full) mv.label = some (s, es))
    (carries : carriesOn o mv.label) : successors o (w.consume s mv.label) = 0 := by
  have consumed := (ChainWeight.alive.only o).toWeight.flow_consume reacted
  have cost : (ChainWeight.alive.only o).toWeight.cost mv.label = 1 := by
    obtain ⟨label, full⟩ := mv
    cases label with
    | take a m =>
        have both : m.origin = o ∧ m.body.succeeds a := by simpa [carriesOn] using carries
        show (ChainWeight.alive.only o).body m.origin a m.body = 1
        rw [ChainWeight.body_only, ChainWeight.alive_body, if_pos both.1, if_pos both.2]
    | run t =>
        have both : t.origin = o ∧ t.job.succeeds := by simpa [carriesOn] using carries
        show (ChainWeight.alive.only o).job t.origin t.job = 1
        rw [ChainWeight.job_only, ChainWeight.alive_job, if_pos both.1, if_pos both.2]
    | give i => cases carries
  rw [cost, ChainWeight.flow_alive, ChainWeight.flow_alive] at consumed
  omega

theorem successors_of_mail {a : Actor} {m : Msg} (member : m ∈ w.mail a)
    (succeeds : m.body.succeeds a) : 0 < successors m.origin w := by
  have here : 0 < (w.mail a).countP fun m' => m'.origin = m.origin ∧ m'.body.succeeds a :=
    List.countP_pos_iff.mpr ⟨m, member, by simp [succeeds]⟩
  have share := Finset.add_sum_erase Finset.univ
    (fun a => (w.mail a).countP fun m' => m'.origin = m.origin ∧ m'.body.succeeds a)
    (Finset.mem_univ a)
  simp only [successors]
  omega

theorem successors_of_task {t : Task} (member : t ∈ w.tasks) (succeeds : t.job.succeeds) :
    0 < successors t.origin w := by
  have here : 0 < w.tasks.countP fun t' => t'.origin = t.origin ∧ t'.job.succeeds :=
    List.countP_pos_iff.mpr ⟨t, member, by simp [succeeds]⟩
  simp only [successors]
  omega

theorem Future.question_succeeds (future : Future) : future.question.2.succeeds future.question.1 := by
  cases future with
  | statusCheck status self id check retryMsg => cases status <;> rfl
  | _ => rfl

theorem Unanswered.successor (waits : Unanswered o future w) : 0 < successors o w := by
  rcases waits with ⟨deadline, owner, member⟩ | member | member
  · exact successors_of_task (t := ⟨o, .timer deadline owner future⟩) member rfl
  · exact successors_of_task (t := ⟨o, .spawned future⟩) member rfl
  · exact successors_of_mail (m := ⟨o, future.question.2⟩) member (Future.question_succeeds future)

theorem unanswered_carried (single : successors o w ≤ 1)
    (reacted : w.reaction (system env) (w.results mv.full) mv.label = some (s, es))
    (taken : clientStep env w mv = some w') (carries : carriesOn o mv.label)
    (waits : Unanswered o future w') : ∃ e ∈ es, Asks o future e := by
  refine (unanswered_fire reacted taken waits).resolve_left fun before => ?_
  have left := before.successor
  rw [successors_consume single reacted carries] at left
  cases left

theorem Begins.carriesOn {a : Actor} {b : Body} {att : Attempt}
    (begins : Begins env w mv es o future a b att) : carriesOn o mv.label := by
  rcases begins.handles.label_eq with label | ⟨notice, label, -⟩
  · rw [label]
    cases begins.attempts with
    | pubrec id n self below | pubrel id n self below =>
        obtain rfl := self
        simp [ActixMqtt.carriesOn, Body.succeeds]
    | _ => simp [ActixMqtt.carriesOn, Body.succeeds]
  · rw [label]
    simp [ActixMqtt.carriesOn, Job.succeeds]

theorem Begins.fresh {a : Actor} {b : Body} {att : Attempt}
    (begins : Begins env w mv es o future a b att) (single : successors o w ≤ 1)
    (reacted : w.reaction (system env) (w.results mv.full) mv.label = some (s, es))
    (apart : a ≠ future.question.1) : ⟨o, future.question.2⟩ ∉ w.mail future.question.1 := by
  intro before
  have kept : Unanswered o future (w.consume s mv.label) := by
    refine .inr (.inr ?_)
    rcases begins.handles.label_eq with label | ⟨notice, label, -⟩
    · rw [label]
      show _ ∈ Function.update w.mail a (w.mail a).tail future.question.1
      rwa [Function.update_of_ne apart.symm]
    · rw [label]
      exact before
  have left := kept.successor
  rw [successors_consume single reacted begins.carriesOn] at left
  cases left

theorem Future.question_carriesOn (o : Origin) (future : Future) :
    carriesOn o (.take future.question.1 ⟨o, future.question.2⟩) := by
  simp [carriesOn, Future.question_succeeds]

theorem read_silent {a : Actor} {o o' : Origin} {future future' : Future} {e : ClientEffect}
    (reacted : w.reaction (system env) (w.results mv.full) mv.label = some (s, es))
    (label : mv.label = .take a ⟨o, future.question.2⟩) (member : e ∈ es)
    (asks : Asks o' future' e) : False := by
  obtain ⟨label', full⟩ := mv
  obtain rfl : label' = _ := label
  have replies := Future.question_reply future
  generalize future.question.2 = b at reacted replies
  cases reaction_causes reacted e member with
  | take a m produces =>
      cases asks with
      | question =>
          have silent := produces.reply
          rw [Future.question_reply] at silent
          cases silent
      | timer deadline owner =>
          generalize shape : (Effect.spawn ⟨o', .timer deadline owner future'⟩ : ClientEffect) = e
            at produces
          cases produces with
          | check attempts =>
              cases attempts <;> cases replies
          | connectTimer msg self => cases replies
          | _ => cases shape
      | spawned =>
          generalize shape : (Effect.spawn ⟨o', .spawned future'⟩ : ClientEffect) = e at produces
          cases produces with
          | recv2 | ping => cases replies
          | _ => cases shape

theorem spawned_asks {o' : Origin} {future' : Future} {e : ClientEffect}
    (reacted : w.reaction (system env) (w.results mv.full) mv.label = some (s, es))
    (label : mv.label = .run ⟨o, .spawned future⟩) (member : e ∈ es) (asks : Asks o' future' e) :
    future' = future := by
  obtain ⟨label', full⟩ := mv
  obtain rfl : label' = _ := label
  cases reaction_causes reacted e member with
  | run t runs =>
      cases runs with
      | closed future refused => cases asks
      | waits future refused =>
          cases asks
          rfl
      | asks future accepts =>
          generalize shape : (Effect.post future.question.1 ⟨o, future.question.2⟩ :
            ClientEffect) = e at asks
          cases asks with
          | question =>
              exact (Future.question_inj (Msg.mk.inj (Effect.post.inj shape).2).2).symm
          | _ => cases shape

theorem resume_found {T : Type} {map : PacketStatusMap T} {a self : Actor} {id : UInt16} {retry : Request}
    {answer : Answer} (shown : StatusCheck.isSome.passes answer = (map.lookup id).isSome)
    (answered : ∀ e, answer ≠ .error e) (ctx : Ctx) :
    (id ∈ map → Future.resume env ctx (.statusCheck a self id .isSome retry) answer =
        [.post self ⟨ctx.origin, .request retry⟩]) ∧
      (id ∉ map → Future.resume env ctx (.statusCheck a self id .isSome retry) answer = []) := by
  have known : (map.lookup id).isSome ↔ id ∈ map := AList.lookup_isSome
  have resumed : Future.resume env ctx (.statusCheck a self id .isSome retry) answer =
      if StatusCheck.isSome.passes answer then [.post self ⟨ctx.origin, .request retry⟩] else [] := by
    cases answer with
    | error e => exact absurd rfl (answered e)
    | _ => rfl
  rw [resumed, shown]
  constructor
  · intro present
    rw [if_pos (known.mpr present)]
  · intro absent
    rw [if_neg (fun found => absent (known.mp found))]

end Step

end ActixMqtt
