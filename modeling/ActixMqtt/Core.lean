import ActixMqtt.Actors.Projection
import ActixMqtt.Genuine

/-! # The core of a client

The actors that read or write the publish status map, taken out of the client: messages
from the other actors, identifiers taken elsewhere and the passing of time come from the
surroundings, and every step is told what its try_sends return. A `View` keeps some of the
origins and some of the phases. `follows_run` takes every run of a client to a run of the
core that has only what the view keeps, as long as the rest does not touch it.
-/

namespace ActixMqtt

open ActorSystem

/-- The actors that read or write the publish status map. -/
def Actor.core : Actor → Bool
  | .publishStatus | .sendPublish | .recvPublish | .puback | .pubrec | .pubrel | .pubcomp => true
  | _ => false

def Future.core (future : Future) : Bool := future.question.1 = .publishStatus

def Job.core : Job → Bool
  | .resend _ dst _ => dst.core
  | .timer _ _ future | .spawned future | .resumed future _ => future.core
  | .notify _ => false

/-- What the core gets from its surroundings. -/
inductive Surrounding where
  | enter (a : Actor) (m : Msg)
  | outside (now counter : Nat)
  deriving DecidableEq, Repr

abbrev CoreWorld := World Actor Msg Task Surrounding Event State

abbrev CoreLabel := Label Actor Msg Task Surrounding

def core (env : Env) : System Actor Msg Task Surrounding Event State where
  handle := handle env
  resume := resume env
  accept i _ s := match i with
    | .enter a m => some (s, [.post a m])
    | .outside now counter => some ({ s with now := now, counter := counter }, [])
  ready := ready
  owner := owner
  orphan := orphan

/-- A step of the core and what its try_sends return. -/
structure CoreMove where
  label : CoreLabel
  res : Actor → Option SendError

/-- The origin of a move, unless it only passes time. -/
def CoreMove.origin (c : CoreMove) : Option Origin :=
  match c.label with
  | .take _ m | .give (.enter _ m) => some m.origin
  | .run t => some t.origin
  | .give (.outside _ _) => none

def coreStep (env : Env) (v : CoreWorld) (mv : CoreMove) : Option CoreWorld :=
  v.fire (core env) mv.res mv.label

def coreInit (env : Env) (seed : Nat) : CoreWorld where
  live := (init env seed).live
  mail _ := []
  tasks := []
  log := []
  state := (init env seed).state

/-- The packets of an outbound publish. -/
def VariablePacket.outbound : VariablePacket → Bool
  | .publish _ | .pubrel _ => true
  | _ => false

/-- The origins and the phases that are looked at. -/
structure View where
  keep : Origin → Bool
  visible : PublishPacketStatus → Bool

namespace View

/-- Nothing is left out. -/
def whole : View := ⟨fun _ => true, fun _ => true⟩

def entry (V : View) (status : Option (PacketStatus PublishPacketStatus)) :
    Option (PacketStatus PublishPacketStatus) :=
  status.filter fun status => V.visible status.payload

theorem entry_entry (V : View) (status : Option (PacketStatus PublishPacketStatus)) :
    V.entry (V.entry status) = V.entry status := by
  rw [entry, entry, Option.filter_filter]
  simp

def answer (V : View) : Answer → Answer
  | .publishStatus status => .publishStatus (V.entry status)
  | answer => answer

def job (V : View) : Job → Job
  | .resumed future answer => .resumed future (V.answer answer)
  | job => job

def task (V : View) (t : Task) : Option Task :=
  if t.job.core && V.keep t.origin then some ⟨t.origin, V.job t.job⟩ else none

def event (V : View) : Event → Bool
  | .queued o packet => V.keep o && packet.outbound
  | _ => false

def lens (V : View) : Lens Actor Msg Task Event where
  actor := Actor.core
  msg m := V.keep m.origin
  task := V.task
  event := V.event

/-- What is shown of a step, as a step of the core. -/
abbrev label {I : Type} (V : View) (l : Label Actor Msg Task I) : Option CoreLabel :=
  V.lens.label l

/-- The message comes to the core from its surroundings. -/
def enter (V : View) : ClientEffect → Option CoreMove
  | .post a m =>
      if a.core && V.keep m.origin then some ⟨.give (.enter a m), fun _ => none⟩ else none
  | _ => none

/-- What the core sees of a step outside of it. -/
def outside (V : View) (env : Env) (w : ClientWorld) (mv : ClientMove) : List CoreMove :=
  match w.reaction (system env) (w.results mv.full) mv.label with
  | some (s, es) => ⟨.give (.outside s.now s.counter), fun _ => none⟩ :: es.filterMap V.enter
  | none => []

/-- The steps of the core for a step of the client. -/
def image (V : View) (env : Env) (w : ClientWorld) (mv : ClientMove) : List CoreMove :=
  match mv.label with
  | .take a m =>
      if a.core then if V.keep m.origin then [⟨.take a m, w.results mv.full⟩] else []
      else V.outside env w mv
  | .run t =>
      if t.job.core then (V.task t).toList.map fun t' => ⟨.run t', w.results mv.full⟩
      else V.outside env w mv
  | .give _ => V.outside env w mv

theorem image_keep {V : View} {env : Env} {w : ClientWorld} {mv : ClientMove} {c : CoreMove}
    (member : c ∈ V.image env w mv) : ∀ o ∈ c.origin, V.keep o := by
  have outside (there : c ∈ V.outside env w mv) : ∀ o ∈ c.origin, V.keep o := by
    unfold View.outside at there
    split at there
    · rcases List.mem_cons.mp there with rfl | entered
      · intro o same
        cases same
      · obtain ⟨e, -, enters⟩ := List.mem_filterMap.mp entered
        cases e with
        | post a m =>
            simp only [enter] at enters
            split at enters
            · rename_i shown
              cases enters
              intro o same
              cases same
              exact ((Bool.and_eq_true _ _).mp shown).2
            · cases enters
        | _ => cases enters
    · cases there
  unfold View.image at member
  split at member
  · split at member
    · split at member
      · rename_i keep
        rw [List.mem_singleton.mp member]
        intro o same
        cases same
        exact keep
      · cases member
    · exact outside member
  · rename_i t label
    split at member
    · obtain ⟨t', image, rfl⟩ := List.mem_map.mp member
      intro o same
      cases same
      simp only [Option.mem_toList, View.task] at image
      split at image
      · rename_i shown
        cases image
        exact ((Bool.and_eq_true _ _).mp shown).2
      · cases image
    · exact outside member
  · exact outside member

@[simp] theorem whole_entry (status : Option (PacketStatus PublishPacketStatus)) :
    whole.entry status = status := by
  cases status <;> rfl

@[simp] theorem whole_answer (answer : Answer) : whole.answer answer = answer := by
  cases answer with
  | publishStatus status => rw [View.answer, whole_entry]
  | _ => rfl

@[simp] theorem whole_job (job : Job) : whole.job job = job := by
  cases job with
  | resumed future answer => rw [View.job, whole_answer]
  | _ => rfl

@[simp] theorem whole_keep (o : Origin) : whole.keep o := rfl

theorem whole_task (t : Task) : whole.task t = if t.job.core then some t else none := by
  simp [View.task]

end View

/-- The status actor handles what the view leaves out only where it leaves the entry out, answers a
    level 1 check only where the view has the whole answer, and no actor of the core is stopped on
    account of what the view leaves out. -/
def View.allows (V : View) (w : ClientWorld) (mv : ClientMove) : Bool :=
  match mv.label with
  | .take .publishStatus ⟨o, .publishStatus op future⟩ =>
      let status := w.state.publishStatus.lookup op.key
      if V.keep o then match future with
        | some (.statusCheck _ _ _ .isSome _) => V.entry status = status
        | _ => true
      else V.entry status = none
  | .take a ⟨o, .stop⟩ => !a.core || V.keep o
  | _ => true

/-! ## What is known of everything in flight -/

/-- The phases that the chain of a cause notes. -/
def Cause.Notes : Cause → PublishPacketStatus → Prop
  | .publish _ qos _, .pendingAck => qos = .level1
  | .publish _ qos _, .pendingRec => qos = .level2
  | .received (.publish _) _, .pendingRel => True
  | .received (.pubrec _) _, .pendingComp => True
  | _, _ => False

def Body.Notes (c : Cause) : Body → Prop
  | .publishStatus (.setPacketStatus _ status) _ => c.Notes status.payload
  | _ => True

/-- A timer belongs to the actor its future acts for, or to nobody. -/
def Job.Owned : Job → Prop
  | .timer _ owner future => ∀ a, owner = some a → a = future.self
  | _ => True

def anchored : Local Actor Msg Task Event where
  mail a m := m.body.Genuine m.origin.cause a ∧ m.body.Notes m.origin.cause
  task t := t.job.Genuine t.origin.cause ∧ t.job.Owned
  event := Event.Genuine

theorem anchored_orphans {a : Actor} {m : Msg} (known : anchored.mail a m) {t : Task}
    (left : t ∈ orphan m) : anchored.task t := by
  refine ⟨genuine_keeps plainEnv a m known.1 t left, ?_⟩
  obtain ⟨future, -, rfl⟩ := orphan_reply left
  exact True.intro

section Anchored

variable {env : Env} {ctx : Ctx} {s : State}

theorem Attempts.anchored {b : Body} {a : Attempt} (attempts : Attempts env ctx s b a)
    (source : b.Genuine ctx.origin.cause ctx.self) :
    a.note.Notes ctx.origin.cause ∧ a.check.self = ctx.self := by
  cases attempts with
  | publish1 msg self below valid qos =>
      obtain sent | ⟨asks, -⟩ := source
      · simp [self] at sent
      · refine ⟨?_, self.symm⟩
        rw [show ctx.origin.cause = _ from asks]
        exact qos
  | publish2 msg self below valid qos =>
      obtain sent | ⟨asks, -⟩ := source
      · simp [self] at sent
      · refine ⟨?_, self.symm⟩
        rw [show ctx.origin.cause = _ from asks]
        exact qos
  | pubrec id retryCount self below =>
      obtain sent | ⟨⟨message, cause⟩, -⟩ := source
      · simp [self] at sent
      · refine ⟨?_, self.symm⟩
        rw [cause]
        exact True.intro
  | pubrel id retryCount self below | subscribe msg self below valid
  | unsubscribe msg self below valid | sendPing lastRetryCount self below =>
      exact ⟨True.intro, self.symm⟩

theorem Produces.anchored {b : Body} {e : ClientEffect} (produces : Produces env ctx s b e)
    (source : b.Genuine ctx.origin.cause ctx.self) : anchored.effect e := by
  have known := produces.genuine source
  cases produces with
  | note attempts => exact ⟨known, (attempts.anchored source).1⟩
  | check attempts =>
      refine ⟨known, fun a owned => ?_⟩
      rw [(attempts.anchored source).2]
      exact (Option.some.inj owned).symm
  | giveUp gives => exact ⟨known, by cases gives <;> exact True.intro⟩
  | response packet retryCount response =>
      refine ⟨known, ?_⟩
      unfold responseTo at response
      split at response <;> cases response <;> exact True.intro
  | connectTimer msg self => exact ⟨known, fun a owned => (Option.some.inj owned).symm⟩
  | error | queued | accept | wrote => exact known
  | halt | haltStop | leave | haltConnack => exact True.intro
  | _ => exact ⟨known, True.intro⟩

theorem Continues.anchored {future : Future} {answer : Answer} {e : ClientEffect}
    (continues : Continues ctx future answer e) (awaits : ctx.origin.cause.Awaits future)
    (fits : answer.Fits future) : anchored.effect e := by
  have known := continues.genuine awaits fits
  cases continues with
  | note id retryCount packet answer known' =>
      refine ⟨known, ?_⟩
      obtain ⟨⟨message, cause⟩, -⟩ := awaits
      show ctx.origin.cause.Notes _
      rw [cause]
      exact True.intro
  | timer id retryCount packet answer known' => exact ⟨known, fun a owned => nomatch owned⟩
  | error | accept | queued => exact known
  | _ => exact ⟨known, True.intro⟩

theorem Runs.anchored {res : Actor → Option SendError} {o : Origin} {job : Job} {e : ClientEffect}
    (runs : Runs env res s o job e) (source : job.Genuine o.cause) : anchored.effect e := by
  cases runs with
  | notify notice produces =>
      refine produces.anchored ?_
      cases notice <;> exact .inr ⟨source, .inr rfl⟩
  | resumed future answer continues => exact continues.anchored source.1 source.2
  | asks future accepts =>
      refine ⟨(Runs.asks future accepts : Runs env res s o _ _).genuine source, ?_⟩
      cases future with
      | statusCheck status self id check retryMsg => cases status <;> exact True.intro
      | _ => exact True.intro
  | resend deadline dst req => exact ⟨.inr ⟨source.1, .inr source.2⟩, True.intro⟩
  | timer deadline owner future => exact ⟨source, True.intro⟩
  | closed future refused => exact ⟨⟨source, rfl⟩, True.intro⟩
  | waits future refused => exact ⟨source, True.intro⟩

theorem Arrives.anchored {o : Origin} {e : ClientEffect} (arrives : Arrives o e) :
    anchored.effect e := by
  have known := arrives.genuine
  cases arrives with
  | error | haltRecv | haltSend => exact known
  | _ => exact ⟨known, True.intro⟩

end Anchored

theorem Future.question_core {c : Cause} {future : Future} (awaits : c.Awaits future) :
    future.question.1.core = future.core := by
  cases future with
  | statusCheck status self id check retryMsg =>
      obtain ⟨-, check⟩ := awaits
      cases check <;> rfl
  | _ => rfl

theorem Future.self_core {c : Cause} {future : Future} (awaits : c.Awaits future)
    (core : future.core) : future.self.core := by
  cases future with
  | statusCheck status self id check retryMsg =>
      obtain ⟨-, check⟩ := awaits
      cases check <;> first | rfl | cases core
  | pingConnected lastRetryCount | pingPending lastRetryCount | connectAck => cases core
  | _ => rfl

theorem View.task_orphan (V : View) {a : Actor} {m : Msg} (known : anchored.mail a m) {t : Task}
    (left : t ∈ orphan m) : V.task t = if a.core && V.keep m.origin then some t else none := by
  obtain ⟨future, replies, rfl⟩ := orphan_reply left
  obtain ⟨awaits, question⟩ := known.1.of_reply replies
  have core : future.core = a.core := by
    rw [← Future.question_core awaits, question]
  simp only [View.task, Job.core, core]
  rfl

theorem View.fits (V : View) (env : Env) : V.lens.Fits (system env) anchored where
  shown a m known core keep := by
    refine (List.filterMap_congr fun t left => ?_).trans List.filterMap_some
    exact (V.task_orphan known left).trans (if_pos ((Bool.and_eq_true _ _).mpr ⟨core, keep⟩))
  hidden a m known hidden := by
    refine List.filterMap_eq_nil_iff.mpr fun t left => ?_
    exact (V.task_orphan known left).trans
      (if_neg fun both => hidden ((Bool.and_eq_true _ _).mp both))
  owner t t' known image := by
    simp only [View.lens, View.task] at image
    split at image
    · rename_i shown
      obtain ⟨core, -⟩ := (Bool.and_eq_true _ _).mp shown
      cases image
      obtain ⟨o, job⟩ := t
      cases job with
      | timer deadline owner future =>
          refine ⟨rfl, fun a owned => ?_⟩
          rw [known.2 a owned]
          exact Future.self_core known.1 core
      | notify notice => cases core
      | resend | spawned | resumed => exact ⟨rfl, fun a owned => nomatch owned⟩
    · cases image

theorem View.fits_core (V : View) (env : Env) : V.lens.Fits (core env) anchored :=
  ⟨(V.fits env).shown, (V.fits env).hidden, (V.fits env).owner⟩

theorem anchored_keeps (env : Env) : anchored.Keeps (system env) :=
  fun _ _ known _ left => anchored_orphans known left

theorem anchored_keeps_core (env : Env) : anchored.Keeps (core env) :=
  fun _ _ known _ left => anchored_orphans known left

/-! ## What is shown of a step -/

section Shown

variable {env : Env} {ctx : Ctx} {s : State} {V : View} {o : Origin} {e : ClientEffect}

theorem View.effect_hidden (hidden : V.keep o = false) (origin : ∀ o' ∈ effectOrigin e, o' = o)
    (running : ∀ a, e = .halt a → a.core = false) : V.lens.effect e = none := by
  cases e with
  | post a m =>
      have same : m.origin = o := origin _ rfl
      simp [View.lens, Lens.effect, same, hidden]
  | spawn t =>
      have same : t.origin = o := origin _ rfl
      simp [View.lens, Lens.effect, View.task, same, hidden]
  | emit event =>
      cases event with
      | queued o' packet =>
          have same : o' = o := origin _ rfl
          simp [View.lens, Lens.effect, View.event, same, hidden]
      | _ => rfl
  | halt a => simp [View.lens, Lens.effect, running a rfl]

/-- All of a step that the view keeps is shown, but for what an answer says. -/
theorem View.effect_kept (kept : V.keep o) (origin : ∀ o' ∈ effectOrigin e, o' = o)
    (plain : ∀ t, e = .spawn t → V.job t.job = t.job) :
    V.lens.effect e = View.whole.lens.effect e := by
  cases e with
  | post a m =>
      have same : m.origin = o := origin _ rfl
      simp [View.lens, View.whole, Lens.effect, same, kept]
  | spawn t =>
      have same : t.origin = o := origin _ rfl
      simp [View.lens, Lens.effect, View.task, same, kept, plain t rfl]
  | emit event =>
      cases event with
      | queued o' packet =>
          have same : o' = o := origin _ rfl
          simp [View.lens, View.whole, Lens.effect, View.event, same, kept]
      | _ => rfl
  | halt a => rfl

/-- Outside of the core, only messages to its actors are shown. -/
def Outer (e : ClientEffect) : Prop :=
  View.whole.lens.effect e = none ∨ ∃ a m, e = .post a m

theorem outer_spawn {t : Task} (outer : t.job.core = false) : Outer (.spawn t) :=
  .inl (by simp [View.lens, Lens.effect, View.task, outer])

theorem outer_halt {a : Actor} (outer : a.core = false) : Outer (.halt a) :=
  .inl (by simp [View.lens, Lens.effect, outer])

theorem Produces.outer {b : Body} (produces : Produces env ctx s b e)
    (source : b.Genuine ctx.origin.cause ctx.self) (self : ctx.self.core = false) :
    Outer e := by
  cases produces with
  | check attempts =>
      refine outer_spawn ?_
      cases attempts <;> simp_all [Actor.core] <;> rfl
  | queued sends =>
      refine .inl ?_
      cases sends with
      | attempt attempts => cases attempts <;> simp_all [Actor.core] <;> rfl
      | publish0 msg self' below qos => simp [self', Actor.core] at self
      | _ => rfl
  | resend retries => exact outer_spawn self
  | recv2 packet retryCount id self' below qos => simp [self', Actor.core] at self
  | answer op future self' => simp [self', Actor.core] at self
  | unitAnswer op future status =>
      refine outer_spawn ((Future.question_core source.1).symm.trans ?_)
      rw [source.2, self]
  | existence id future found =>
      refine outer_spawn ((Future.question_core source.1).symm.trans ?_)
      rw [source.2, self]
  | halt other => exact outer_halt self
  | haltStop | leave | haltConnack => exact outer_halt rfl
  | subscribe | unsubscribe | ping | connectTimer => exact outer_spawn rfl
  | error | accept | wrote => exact .inl rfl
  | _ => exact .inr ⟨_, _, rfl⟩

theorem Continues.outer {future : Future} {answer : Answer}
    (continues : Continues ctx future answer e) (outer : future.core = false)
    (fits : answer.Fits future) : Outer e := by
  cases continues with
  | timeout future dst req => cases fits
  | pingPending lastRetryCount answer => exact outer_spawn rfl
  | redeliver | resend | timer | queued => cases outer
  | error | accept => exact .inl rfl
  | _ => exact .inr ⟨_, _, rfl⟩

theorem Runs.outer {res : Actor → Option SendError} {job : Job} (runs : Runs env res s o job e)
    (source : job.Genuine o.cause) (outer : job.core = false) : Outer e := by
  cases runs with
  | notify notice produces =>
      refine produces.outer ?_ (by cases notice <;> rfl)
      cases notice <;> exact .inr ⟨source, .inr rfl⟩
  | resumed future answer continues => exact continues.outer outer source.2
  | timer | closed | waits => exact outer_spawn outer
  | _ => exact .inr ⟨_, _, rfl⟩

theorem Arrives.outer (arrives : Arrives o e) : Outer e := by
  cases arrives with
  | haltRecv | haltSend => exact outer_halt rfl
  | tick => exact outer_spawn rfl
  | error => exact .inl rfl
  | _ => exact .inr ⟨_, _, rfl⟩

end Shown

section Steps

variable {env : Env} {w w' : ClientWorld} {v v' : CoreWorld} {mv : ClientMove} {c : CoreMove}
  {s : State} {es : Out}

theorem anchored_effects (holds : anchored.Holds w)
    (reacted : w.reaction (system env) (w.results mv.full) mv.label = some (s, es)) :
    ∀ e ∈ es, anchored.effect e := by
  intro e member
  have source := holds.source reacted
  obtain ⟨label, full⟩ := mv
  cases reaction_causes reacted e member with
  | take a m produces => exact produces.anchored source.1
  | run t runs => exact runs.anchored source.1
  | arrive o arrives => exact arrives.anchored
  | messageClosed => exact True.intro

theorem anchored_step (holds : anchored.Holds w) (taken : clientStep env w mv = some w') :
    anchored.Holds w' := by
  obtain ⟨s, es, reacted, -⟩ := World.fire_eq_some.mp taken
  exact holds.fire (anchored_keeps env) reacted taken (anchored_effects holds reacted)

theorem anchored_core (holds : anchored.Holds v)
    (reacted : v.reaction (core env) c.res c.label = some (s, es))
    (entering : ∀ a m, c.label = .give (.enter a m) → anchored.mail a m) :
    ∀ e ∈ es, anchored.effect e := by
  intro e member
  have source := holds.source reacted
  obtain ⟨label, res⟩ := c
  cases label with
  | take a m =>
      have produces := handleBody_produces env ⟨a, m.origin, v.state.now, res⟩ v.state m.body
      rw [show handleBody env _ m.body v.state = (s, es) from (World.reaction_take.mp reacted).2.2]
        at produces
      exact (produces e member).anchored source.1
  | run t =>
      have runs := resume_runs env t res v.state
      rw [show resume env t _ v.state = (s, es) from (World.reaction_run.mp reacted).2.2] at runs
      exact (runs e member).anchored source.1
  | give i =>
      cases i with
      | enter a m =>
          obtain ⟨-, rfl⟩ := Prod.mk.inj (Option.some.inj reacted)
          rw [List.mem_singleton.mp member]
          exact entering a m rfl
      | outside now counter =>
          obtain ⟨-, rfl⟩ := Prod.mk.inj (Option.some.inj reacted)
          cases member

end Steps

/-! ## The handlers of the core -/

section Handlers

variable {env : Env} {ctx : Ctx} {s s' : State}

/-- Beside the publish status actor, the core reads nothing but the counter. -/
theorem handleBody_core (env : Env) {ctx : Ctx} (core : ctx.self.core) (other : ctx.self ≠ .publishStatus)
    (counter : s'.counter = s.counter) (b : Body) :
    (handleBody env ctx b s').2 = (handleBody env ctx b s).2 ∧
      (handleBody env ctx b s').1.counter = (handleBody env ctx b s).1.counter := by
  obtain ⟨self, o, now, res⟩ := ctx
  cases self
  case publishStatus => exact absurd rfl other
  case sendPublish =>
      simp only [handleBody, SendPublishActor.receive]
      split
      · rename_i msg
        simp only [SendPublishActor.handle, SendPublishActor.createPacketAndIdFromMessage,
          State.nextId, counter]
        split
        · exact ⟨rfl, counter⟩
        · cases env.topicNameError msg.topic with
          | some e => exact ⟨rfl, counter⟩
          | none => cases msg.qos <;> exact ⟨rfl, by simp [counter]⟩
      · exact ⟨rfl, counter⟩
      · exact ⟨rfl, counter⟩
  case recvPublish =>
      simp only [handleBody, RecvPublishActor.receive]
      split <;> exact ⟨rfl, counter⟩
  case puback =>
      simp only [handleBody, PubackActor.receive]
      split <;> exact ⟨rfl, counter⟩
  case pubrec =>
      simp only [handleBody, PubrecActor.receive]
      split <;> exact ⟨rfl, counter⟩
  case pubrel =>
      simp only [handleBody, PubrelActor.receive]
      split <;> exact ⟨rfl, counter⟩
  case pubcomp =>
      simp only [handleBody, PubcompActor.receive]
      split <;> exact ⟨rfl, counter⟩
  all_goals cases core

theorem resume_core (env : Env) {t : Task} (core : t.job.core) (res : Actor → Option SendError)
    (clock : s'.now = s.now) :
    resume env t res s' = (s', (resume env t res s).2) := by
  obtain ⟨o, job⟩ := t
  cases job with
  | notify notice => cases core
  | spawned future =>
      simp only [resume]
      split <;> rfl
  | resumed future answer => simp only [resume, clock]
  | _ => rfl

theorem handleBody_counter (env : Env) (ctx : Ctx) (core : ctx.self.core) {b : Body}
    (quiet : ctx.self = .sendPublish → ∀ msg, b ≠ .request (.publish msg)) (s : State) :
    (handleBody env ctx b s).1.counter = s.counter := by
  have changed := handleBody_changedBy env ctx b s
  obtain ⟨self, o, now, res⟩ := ctx
  cases self
  case sendPublish =>
      simp only [handleBody, SendPublishActor.receive]
      split
      · exact absurd rfl (quiet rfl _)
      · rfl
      · rfl
  case publishStatus | recvPublish | puback | pubrec | pubrel | pubcomp =>
      simp only [State.ChangedBy] at changed
      rw [changed]
  all_goals cases core

theorem ready_clock (t : Task) (clock : s'.now = s.now) : ready t s' = ready t s := by
  simp only [ready, clock]

end Handlers

/-! ## Following a run of the client -/

/-- What the view needs of the program: it keeps the publishes, it keeps who notes a phase exactly
    when it shows the phase, and no other check that it keeps depends on what it hides. -/
structure View.Sound (V : View) : Prop where
  publish : ∀ o msg, o.cause.Asks (.publish msg) → V.keep o
  notes : ∀ o phase, o.cause.Notes phase → V.keep o = V.visible phase
  checks : ∀ o future, V.keep o → o.cause.Awaits future → future.core →
    (∀ status self id retryMsg, future ≠ .statusCheck status self id .isSome retryMsg) →
    ∀ env ctx answer, future.resume env ctx answer = future.resume env ctx (V.answer answer)

theorem View.whole_sound : whole.Sound where
  publish o msg asks := rfl
  notes o phase notes := rfl
  checks o future keep awaits core other env ctx answer := by rw [whole_answer]

/-- The answers in flight say all that their futures look at. -/
def sufficient (V : View) : Local Actor Msg Task Event where
  mail _ _ := True
  task t := match t.job with
    | .resumed future answer => V.keep t.origin → future.core →
        ∀ env ctx, future.resume env ctx answer = future.resume env ctx (V.answer answer)
    | _ => True
  event _ := True

/-- No answer that is looked at ever says more than the view shows. -/
structure Sufficient (V : View) (w : ClientWorld) : Prop where
  flight : (sufficient V).Holds w
  past : ∀ t, .ran t ∈ w.log → (sufficient V).task t

/-- The core `v` is where the client `w` is, as far as the view goes. -/
structure Follows (V : View) (w : ClientWorld) (v : CoreWorld) : Prop where
  client : anchored.Holds w
  answers : Sufficient V w
  core : anchored.Holds v
  glimpse : V.lens.of w = View.whole.lens.of v
  clock : v.state.now = w.state.now
  counter : v.state.counter = w.state.counter
  entries : ∀ id, v.state.publishStatus.lookup id = V.entry (w.state.publishStatus.lookup id)

section Follow

variable {env : Env} {V : View} {w w' : ClientWorld} {v : CoreWorld} {mv : ClientMove} {s : State}
  {es : Out}

theorem sufficient_plain {future : Future} {answer : Answer} (plain : V.answer answer = answer)
    (o : Origin) : (sufficient V).task ⟨o, .resumed future answer⟩ :=
  fun _ _ _ _ => by rw [plain]

theorem sufficient_step (sound : V.Sound) (holds : anchored.Holds w)
    (answers : Sufficient V w) (allowed : V.allows w mv)
    (taken : clientStep env w mv = some w') : Sufficient V w' := by
  obtain ⟨s, es, reacted, -⟩ := World.fire_eq_some.mp taken
  have source := holds.source reacted
  refine ⟨?_, answers.flight.ran_fire reacted taken answers.past⟩
  refine answers.flight.fire ?_ reacted taken fun e member => ?_
  · rintro a m - t left
    obtain ⟨future, -, rfl⟩ := orphan_reply left
    exact sufficient_plain rfl _
  · obtain ⟨label, full⟩ := mv
    cases reaction_causes reacted e member with
    | take a m produces =>
        obtain ⟨o, b⟩ := m
        cases produces with
        | answer op future self =>
            obtain rfl : a = .publishStatus := self
            obtain ⟨⟨awaits, question⟩, -⟩ := source
            intro keep core env' ctx
            by_cases level1 : ∃ status self id retryMsg,
                future = .statusCheck status self id .isSome retryMsg
            · obtain ⟨status, self, id, retryMsg, rfl⟩ := level1
              have shown : V.entry (w.state.publishStatus.lookup op.key) =
                  w.state.publishStatus.lookup op.key := by
                simpa [View.allows, show V.keep o from keep] using allowed
              cases status <;> cases question
              rw [PacketStatusActor.handle_getAndRemove, View.answer,
                show V.entry (w.state.publishStatus.lookup id) = _ from shown]
              rfl
            · exact sound.checks o future keep awaits core
                (fun status self id retryMsg same => level1 ⟨status, self, id, retryMsg, same⟩)
                env' ctx _
        | unitAnswer | existence => exact sufficient_plain rfl _
        | _ => exact True.intro
    | run t runs =>
        obtain ⟨o, job⟩ := t
        cases runs with
        | closed future refused => exact sufficient_plain rfl _
        | notify notice produces => cases notice <;> cases produces <;> exact True.intro
        | resumed future answer continues => cases continues <;> exact True.intro
        | _ => exact True.intro
    | arrive o arrives => cases arrives <;> exact True.intro
    | messageClosed => exact True.intro

theorem View.effect_outer {e : ClientEffect} (outer : Outer e) :
    V.lens.effect e = none ∧ V.enter e = none ∨
      (V.enter e).isSome ∧ V.lens.effect e = some e ∧ View.whole.lens.effect e = some e := by
  cases e with
  | post a m =>
      by_cases shown : a.core && V.keep m.origin
      · refine .inr ⟨?_, if_pos shown, ?_⟩
        · simp [View.enter, shown]
        · simp [View.lens, Lens.effect, ((Bool.and_eq_true _ _).mp shown).1]
      · exact .inl ⟨if_neg shown, if_neg shown⟩
  | spawn t =>
      refine .inl ⟨?_, rfl⟩
      rcases outer with hidden | ⟨a, m, same⟩
      · have outside : t.job.core = false := by
          simpa [View.lens, Lens.effect, View.whole_task] using hidden
        simp [View.lens, Lens.effect, View.task, outside]
      · cases same
  | emit event =>
      refine .inl ⟨?_, rfl⟩
      rcases outer with hidden | ⟨a, m, same⟩
      · cases event with
        | queued o packet =>
            have outside : packet.outbound = false := by
              simpa [View.lens, Lens.effect, View.event] using hidden
            simp [View.lens, Lens.effect, View.event, outside]
        | _ => rfl
      · cases same
  | halt a =>
      refine .inl ⟨?_, rfl⟩
      rcases outer with hidden | ⟨a', m, same⟩
      · exact hidden
      · cases same

theorem View.enter_lets (env : Env) {e : ClientEffect} {c : CoreMove} (enters : V.enter e = some c) :
    ∃ res i, (∀ v, coreStep env v c = v.fire (core env) res (.give i)) ∧
      ∀ s, (core env).accept i res s = some (s, [e]) := by
  cases e with
  | post a m =>
      simp only [View.enter, Option.ite_none_right_eq_some, Option.some.injEq] at enters
      obtain ⟨-, rfl⟩ := enters
      exact ⟨_, .enter a m, fun _ => rfl, fun _ => rfl⟩
  | _ => cases enters

theorem follows_outside (sound : V.Sound) (follows : Follows V w v) (allowed : V.allows w mv)
    (taken : clientStep env w mv = some w')
    (reacted : w.reaction (system env) (w.results mv.full) mv.label = some (s, es))
    (outer : ∀ e ∈ es, Outer e)
    (unseen : V.label mv.label = none)
    (entries : s.publishStatus = w.state.publishStatus) :
    ∃ v', exec (coreStep env) v (V.outside env w mv) = some v' ∧ Follows V w' v' := by
  have effects := anchored_effects follows.client reacted
  have state := World.fire_state reacted taken
  obtain ⟨v₁, passed⟩ : ∃ v₁,
    coreStep env v ⟨.give (.outside s.now s.counter), fun _ => none⟩ = some v₁ := ⟨_, rfl⟩
  have reacted₁ : v.reaction (core env) (fun _ => none) (.give (.outside s.now s.counter)) =
    some ({ v.state with now := s.now, counter := s.counter }, []) := rfl
  have holds₁ : anchored.Holds v₁ := follows.core.fire (anchored_keeps_core env) reacted₁ passed
    (fun e member => nomatch member)
  have glimpse₁ : View.whole.lens.of v₁ = View.whole.lens.of v :=
    Lens.of_fire (J := Surrounding) (View.whole.fits_core env) (anchored_keeps_core env)
      follows.core reacted₁ passed (fun e member => nomatch member)
  have state₁ := World.fire_state reacted₁ passed
  obtain ⟨v', run, holds', state', glimpse⟩ := Lens.exec_enter (View.whole.fits_core env)
    (anchored_keeps_core env) (fun _ _ enters => View.enter_lets env enters) holds₁ effects
    fun e member => View.effect_outer (outer e member)
  refine ⟨v', ?_, anchored_step follows.client taken,
    sufficient_step sound follows.client follows.answers allowed taken, holds', ?_, ?_, ?_, ?_⟩
  · rw [View.outside, reacted]
    exact exec_cons_eq_some.mpr ⟨v₁, passed, run⟩
  · rw [Lens.of_fire (J := Surrounding) (V.fits env) (anchored_keeps env) follows.client reacted
      taken effects, show V.lens.label mv.label = none from unseen, glimpse, glimpse₁, ← follows.glimpse]
    rfl
  · rw [state', state₁, state]
  · rw [state', state₁, state]
  · intro id
    rw [state', state₁, state, entries]
    exact follows.entries id

theorem follows_hidden (sound : V.Sound) (follows : Follows V w v) (allowed : V.allows w mv)
    (taken : clientStep env w mv = some w')
    (reacted : w.reaction (system env) (w.results mv.full) mv.label = some (s, es))
    (hidden : ∀ e ∈ es, V.lens.effect e = none)
    (unseen : V.label mv.label = none)
    (clock : s.now = w.state.now) (counter : s.counter = w.state.counter)
    (entries : ∀ id, V.entry (s.publishStatus.lookup id) =
      V.entry (w.state.publishStatus.lookup id)) : Follows V w' v := by
  have state := World.fire_state reacted taken
  refine ⟨anchored_step follows.client taken,
    sufficient_step sound follows.client follows.answers allowed taken, follows.core, ?_, ?_, ?_, ?_⟩
  · rw [Lens.of_fire (J := Surrounding) (V.fits env) (anchored_keeps env) follows.client reacted
      taken (anchored_effects follows.client reacted),
      show V.lens.label mv.label = none from unseen,
      List.filterMap_eq_nil_iff.mpr hidden]
    exact follows.glimpse
  · rw [state, clock, follows.clock]
  · rw [state, counter, follows.counter]
  · intro id
    rw [state, entries]
    exact follows.entries id

theorem follows_kept (sound : V.Sound) (follows : Follows V w v) (allowed : V.allows w mv)
    (taken : clientStep env w mv = some w')
    (reacted : w.reaction (system env) (w.results mv.full) mv.label = some (s, es))
    {label : CoreLabel} {s' : State} {es' : Out}
    (reacted' : v.reaction (core env) (w.results mv.full) label = some (s', es'))
    (inner : ∀ a m, label ≠ .give (.enter a m))
    (seen : V.label mv.label = View.whole.label label)
    (shown : es.filterMap V.lens.effect = es'.filterMap View.whole.lens.effect)
    (clock : s'.now = s.now) (counter : s'.counter = s.counter)
    (entries : ∀ id, s'.publishStatus.lookup id = V.entry (s.publishStatus.lookup id)) :
    ∃ v', coreStep env v ⟨label, w.results mv.full⟩ = some v' ∧ Follows V w' v' := by
  obtain ⟨v', followed⟩ : ∃ v', v.fire (core env) (w.results mv.full) label = some v' :=
    ⟨_, World.fire_eq_some.mpr ⟨s', es', reacted', rfl⟩⟩
  have effects := anchored_effects follows.client reacted
  have effects' : ∀ e ∈ es', anchored.effect e :=
    anchored_core (c := ⟨label, w.results mv.full⟩) follows.core reacted'
      fun a m same => absurd same (inner a m)
  have state := World.fire_state reacted taken
  have state' := World.fire_state reacted' followed
  refine ⟨v', followed, anchored_step follows.client taken,
    sufficient_step sound follows.client follows.answers allowed taken,
    follows.core.fire (anchored_keeps_core env) reacted' followed effects', ?_, ?_, ?_, ?_⟩
  · rw [Lens.of_fire (J := Surrounding) (V.fits env) (anchored_keeps env) follows.client reacted
      taken effects, Lens.of_fire (J := Surrounding) (View.whole.fits_core env)
      (anchored_keeps_core env) follows.core reacted' followed effects',
      show V.lens.label mv.label = View.whole.lens.label label from seen, shown, follows.glimpse]
    rfl
  · rw [state', state, clock]
  · rw [state', state, counter]
  · intro id
    rw [state', state]
    exact entries id

theorem Produces.plain {ctx : Ctx} {b : Body} {e : ClientEffect} {s : State}
    (produces : Produces env ctx s b e) (other : ctx.self ≠ .publishStatus) (t : Task)
    (spawned : e = .spawn t) : V.job t.job = t.job := by
  cases produces with
  | answer op future self => exact absurd self other
  | _ =>
      cases spawned
      try rfl

theorem Runs.plain {res : Actor → Option SendError} {o : Origin} {job : Job} {e : ClientEffect}
    {s : State} (runs : Runs env res s o job e) (core : job.core) (t : Task)
    (spawned : e = .spawn t) : V.job t.job = t.job := by
  cases runs with
  | notify notice produces => cases core
  | resumed future answer continues =>
      cases continues <;> cases spawned <;> rfl
  | _ =>
      cases spawned
      try rfl

theorem kept_operation (env : Env) (follows : Follows V w v) (sound : V.Sound) {o : Origin}
    {op : StatusOperationMessage PublishPacketStatus} {future : Option Future}
    {res : Actor → Option SendError} (keep : V.keep o)
    (notes : (Body.publishStatus op future).Notes o.cause) :
    let map := (PacketStatusActor.handle w.state.publishStatus op).1
    let after := handle env .publishStatus ⟨o, .publishStatus op future⟩ res v.state
    ((Effect.post .disconnect ⟨o, .packetSendStatus ⟨map.keys.length == 0⟩⟩ ::
        (future.map fun future => Effect.spawn ⟨o, .resumed future (.publishStatus
          (PacketStatusActor.handle w.state.publishStatus op).2)⟩).toList).filterMap V.lens.effect =
      after.2.filterMap View.whole.lens.effect) ∧
    after.1.now = w.state.now ∧ after.1.counter = w.state.counter ∧
    ∀ id, after.1.publishStatus.lookup id = V.entry (map.lookup id) := by
  have answered : (PacketStatusActor.handle v.state.publishStatus op).2 =
      V.entry (PacketStatusActor.handle w.state.publishStatus op).2 := by
    simp only [PacketStatusActor.answer_handle]
    cases op with
    | getAndRemovePacketStatus id => exact follows.entries id
    | _ => rfl
  refine ⟨?_, follows.clock, follows.counter, fun id => ?_⟩
  · cases future with
    | none => rfl
    | some future =>
        have answer (status : Option (PacketStatus PublishPacketStatus)) :
            V.lens.effect (.spawn ⟨o, .resumed future (.publishStatus status)⟩) =
              View.whole.lens.effect (.spawn ⟨o, .resumed future (.publishStatus (V.entry status))⟩) := by
          simp [View.lens, Lens.effect, View.task, View.job, View.answer, Job.core, keep]
        refine (List.filterMap_cons_none rfl).trans (.trans ?_ (List.filterMap_cons_none rfl).symm)
        show List.filterMap _ [_] = List.filterMap _ [_]
        rw [List.filterMap_cons, List.filterMap_cons, answer, ← answered]
        rfl
  · show (PacketStatusActor.handle v.state.publishStatus op).1.lookup id = _
    rw [PacketStatusActor.lookup_handle, PacketStatusActor.lookup_handle]
    split
    · cases op with
      | setPacketStatus id status =>
          have visible : V.visible status.payload :=
            (sound.notes o status.payload notes).symm.trans keep
          simp [StatusOperationMessage.stored, View.entry, Option.filter, visible]
      | _ => rfl
    · exact follows.entries id

theorem kept_take (follows : Follows V w v) (sound : V.Sound) {a : Actor} {m : Msg}
    {full : Actor → Bool} (core' : a.core) (keep : V.keep m.origin)
    (reacted : w.reaction (system env) (w.results full) (.take a m) = some (s, es)) :
    ∃ s' es', v.reaction (core env) (w.results full) (.take a m) = some (s', es') ∧
      es.filterMap V.lens.effect = es'.filterMap View.whole.lens.effect ∧
      s'.now = s.now ∧ s'.counter = s.counter ∧
      ∀ id, s'.publishStatus.lookup id = V.entry (s.publishStatus.lookup id) := by
  obtain ⟨alive, head, handled⟩ := World.reaction_take.mp reacted
  obtain ⟨alive', head'⟩ := Lens.take_enabled follows.glimpse core' core' keep (fun _ => rfl) alive head
  have source := follows.client.mail a m (List.mem_of_mem_head? head)
  by_cases status : a = .publishStatus
  · subst status
    refine ⟨_, _, World.reaction_take.mpr ⟨alive', head', rfl⟩, ?_⟩
    obtain ⟨o, b⟩ := m
    cases b with
    | publishStatus op future =>
        obtain ⟨rfl, rfl⟩ := publishStatus_reaction reacted
        exact kept_operation env follows sound keep source.2
    | _ =>
        obtain ⟨rfl, rfl⟩ := Prod.mk.inj handled
        exact ⟨rfl, follows.clock, follows.counter, follows.entries⟩
  · let ctx : Ctx := ⟨a, m.origin, w.state.now, w.results full⟩
    have other : ctx.self ≠ .publishStatus := status
    have produces := handleBody_produces env ctx w.state m.body
    have clock := (handleBody_changedBy env ctx m.body w.state).now
    have clock' := (handleBody_changedBy env ctx m.body v.state).now
    have entries := (handleBody_changedBy env ctx m.body w.state).publishStatus other
    have entries' := (handleBody_changedBy env ctx m.body v.state).publishStatus other
    obtain ⟨out, counter⟩ := handleBody_core env core' other follows.counter m.body
    obtain ⟨s', es', handled'⟩ : ∃ s' es', handleBody env ctx m.body v.state = (s', es') :=
      ⟨_, _, rfl⟩
    have reacted' : v.reaction (core env) (w.results full) (.take a m) = some (s', es') := by
      refine World.reaction_take.mpr ⟨alive', head', ?_⟩
      show handleBody env ⟨a, m.origin, v.state.now, w.results full⟩ m.body v.state = _
      rw [follows.clock]
      exact handled'
    rw [show handleBody env ctx m.body w.state = (s, es) from handled]
      at produces clock entries out counter
    rw [handled'] at clock' entries' out counter
    refine ⟨s', es', reacted', ?_, ?_, counter, fun id => ?_⟩
    · rw [show es' = es from out]
      exact List.filterMap_congr fun e member =>
        View.effect_kept keep (produces e member).origin ((produces e member).plain status)
    · exact clock'.trans (follows.clock.trans clock.symm)
    · rw [show s'.publishStatus = _ from entries', show s.publishStatus = _ from entries]
      exact follows.entries id

@[simp] theorem View.job_core (job : Job) : (V.job job).core = job.core := by
  cases job <;> rfl

theorem View.ready_job (t : Task) : ready ⟨t.origin, V.job t.job⟩ = ready t := by
  obtain ⟨o, job⟩ := t
  cases job <;> rfl

theorem View.resume_job {t : Task} (known : (sufficient V).task t) (keep : V.keep t.origin)
    (core : t.job.core) (res : Actor → Option SendError) (s : State) :
    resume env ⟨t.origin, V.job t.job⟩ res s = resume env t res s := by
  obtain ⟨o, job⟩ := t
  cases job with
  | resumed future answer => exact congrArg (Prod.mk s) (known keep core env _).symm
  | _ => rfl

theorem kept_run (follows : Follows V w v) {t : Task} {full : Actor → Bool} (core' : t.job.core)
    (keep : V.keep t.origin)
    (reacted : w.reaction (system env) (w.results full) (.run t) = some (s, es)) :
    v.reaction (core env) (w.results full) (.run ⟨t.origin, V.job t.job⟩) = some (v.state, es) ∧
      es.filterMap V.lens.effect = es.filterMap View.whole.lens.effect ∧ s = w.state := by
  obtain ⟨member, due, resumed⟩ := World.reaction_run.mp reacted
  obtain rfl : w.state = s := by
    have same := resume_core env core' (w.results full) (s := w.state) rfl
    exact (Prod.mk.inj (same.symm.trans resumed)).1
  have image : V.task t = some ⟨t.origin, V.job t.job⟩ :=
    if_pos ((Bool.and_eq_true _ _).mpr ⟨core', keep⟩)
  obtain ⟨u, there, same⟩ := Lens.run_enabled follows.glimpse member image
  have found : (⟨t.origin, V.job t.job⟩ : Task) ∈ v.tasks := by
    rw [show View.whole.lens.task u = _ from View.whole_task u] at same
    split at same
    · exact Option.some.inj same ▸ there
    · cases same
  have due' : ready ⟨t.origin, V.job t.job⟩ v.state := by
    rw [View.ready_job, ready_clock t follows.clock]
    exact due
  have resumed' : resume env ⟨t.origin, V.job t.job⟩ (w.results full) v.state = (v.state, es) := by
    rw [resume_core env (by simpa using core') (w.results full) follows.clock,
      View.resume_job (follows.answers.flight.tasks t member) keep core',
      show resume env t (w.results full) w.state = (w.state, es) from resumed]
  have runs := resume_runs env t (w.results full) w.state
  rw [show resume env t (w.results full) w.state = (w.state, es) from resumed] at runs
  refine ⟨World.reaction_run.mpr ⟨found, due', resumed'⟩, ?_, rfl⟩
  exact List.filterMap_congr fun e member =>
    View.effect_kept keep (runs e member).origin ((runs e member).plain core')

/-- A message that the view leaves out changes nothing that the view shows. -/
theorem hidden_take (holds : anchored.Holds w) (sound : V.Sound) {a : Actor} {m : Msg}
    {full : Actor → Bool} (core' : a.core) (hidden : V.keep m.origin = false)
    (allowed : V.allows w ⟨.take a m, full⟩)
    (reacted : w.reaction (system env) (w.results full) (.take a m) = some (s, es)) :
    (∀ e ∈ es, V.lens.effect e = none) ∧ s.now = w.state.now ∧ s.counter = w.state.counter ∧
      ∀ id, V.entry (s.publishStatus.lookup id) = V.entry (w.state.publishStatus.lookup id) := by
  obtain ⟨alive, head, handled⟩ := World.reaction_take.mp reacted
  have source := holds.mail a m (List.mem_of_mem_head? head)
  obtain ⟨o, b⟩ := m
  let ctx : Ctx := ⟨a, o, w.state.now, w.results full⟩
  have produces := handleBody_produces env ctx w.state b
  have clock := (handleBody_changedBy env ctx b w.state).now
  rw [show handleBody env ctx b w.state = (s, es) from handled] at produces clock
  refine ⟨fun e member => ?_, clock, ?_, ?_⟩
  · refine View.effect_hidden hidden (produces e member).origin fun a' halts => ?_
    obtain rfl := halts
    cases produces _ member with
    | halt other => simp [View.allows, core', show V.keep o = false from hidden] at allowed
    | haltStop | leave | haltConnack => rfl
  · have quiet : a = .sendPublish → ∀ msg, b ≠ .request (.publish msg) := by
      rintro rfl msg rfl
      obtain sent | ⟨asks, -⟩ := source.1
      · cases sent
      · rw [sound.publish o msg asks] at hidden
        cases hidden
    have counter := handleBody_counter env ctx core' quiet w.state
    rwa [show handleBody env ctx b w.state = (s, es) from handled] at counter
  · by_cases status : a = .publishStatus
    · subst status
      cases b with
      | publishStatus op future =>
          obtain ⟨rfl, -⟩ := publishStatus_reaction reacted
          intro id
          show V.entry ((PacketStatusActor.handle w.state.publishStatus op).1.lookup id) = _
          rw [PacketStatusActor.lookup_handle]
          split
          · rename_i same
            have absent : V.entry (w.state.publishStatus.lookup op.key) = none := by
              simpa [View.allows, show V.keep o = false from hidden] using allowed
            rw [same, absent]
            cases op with
            | setPacketStatus id' status =>
                have hidden' : V.visible status.payload = false :=
                  (sound.notes o status.payload source.2).symm.trans hidden
                simp [StatusOperationMessage.stored, View.entry, Option.filter, hidden']
            | _ => rfl
          · rfl
      | _ =>
          obtain ⟨rfl, rfl⟩ := Prod.mk.inj handled
          exact fun id => rfl
    · have entries := (handleBody_changedBy env ctx b w.state).publishStatus status
      rw [show handleBody env ctx b w.state = (s, es) from handled] at entries
      exact fun id => congrArg (fun map => V.entry (AList.lookup id map)) entries

theorem hidden_run {t : Task} {full : Actor → Bool} (core' : t.job.core)
    (hidden : V.keep t.origin = false)
    (reacted : w.reaction (system env) (w.results full) (.run t) = some (s, es)) :
    (∀ e ∈ es, V.lens.effect e = none) ∧ s = w.state := by
  obtain ⟨-, -, resumed⟩ := World.reaction_run.mp reacted
  obtain rfl : w.state = s := by
    have same := resume_core env core' (w.results full) (s := w.state) rfl
    exact (Prod.mk.inj (same.symm.trans resumed)).1
  have runs := resume_runs env t (w.results full) w.state
  rw [show resume env t (w.results full) w.state = (w.state, es) from resumed] at runs
  refine ⟨fun e member => ?_, rfl⟩
  refine View.effect_hidden hidden (runs e member).origin fun a halts => ?_
  obtain rfl := halts
  obtain ⟨o, job⟩ := t
  cases runs _ member with
  | notify notice produces => cases core'
  | resumed future answer continues => cases continues

/-- A step of another actor, of a task that is not about the publish status map, or of the
    environment. -/
def outsideCore : Label Actor Msg Task Input → Prop
  | .take a _ => a.core = false
  | .run t => t.job.core = false
  | .give _ => True

theorem outer_step (holds : anchored.Holds w)
    (reacted : w.reaction (system env) (w.results mv.full) mv.label = some (s, es))
    (outside : outsideCore mv.label) : ∀ e ∈ es, Outer e := by
  intro e member
  have source := holds.source reacted
  obtain ⟨label, full⟩ := mv
  cases reaction_causes reacted e member with
  | take a m produces => exact produces.outer source.1 outside
  | run t runs => exact runs.outer source.1 outside
  | arrive o arrives => exact arrives.outer
  | messageClosed => exact outer_halt rfl

theorem View.label_outside {label : Label Actor Msg Task Input} (outside : outsideCore label) :
    V.label label = none := by
  cases label with
  | take a m => simp [Lens.label, View.lens, show a.core = false from outside]
  | run t => simp [Lens.label, View.lens, View.task, show t.job.core = false from outside]
  | give i => rfl

theorem entries_outside
    (reacted : w.reaction (system env) (w.results mv.full) mv.label = some (s, es))
    (outside : outsideCore mv.label) : s.publishStatus = w.state.publishStatus := by
  rcases state_step reacted with ⟨a, m, label, changed⟩ | ⟨-, same⟩
  · refine changed.publishStatus fun core => ?_
    rw [label, core] at outside
    cases outside
  · rw [same]

/-- The core follows every step that the view allows. -/
theorem follows_step (sound : V.Sound) (follows : Follows V w v) (allowed : V.allows w mv)
    (taken : clientStep env w mv = some w') :
    ∃ v', exec (coreStep env) v (V.image env w mv) = some v' ∧ Follows V w' v' := by
  obtain ⟨s, es, reacted, -⟩ := World.fire_eq_some.mp taken
  obtain ⟨label, full⟩ := mv
  have outside (outer : outsideCore label) :=
    follows_outside sound follows allowed taken reacted
      (outer_step follows.client reacted outer) (View.label_outside outer)
      (entries_outside reacted outer)
  have kept {label' : CoreLabel} {v' : CoreWorld}
      (image : V.image env w ⟨label, full⟩ = [⟨label', w.results full⟩])
      (followed : coreStep env v ⟨label', w.results full⟩ = some v') :
      exec (coreStep env) v (V.image env w ⟨label, full⟩) = some v' := by
    rw [image]
    exact exec_cons_eq_some.mpr ⟨v', followed, rfl⟩
  have skipped (image : V.image env w ⟨label, full⟩ = []) :
      exec (coreStep env) v (V.image env w ⟨label, full⟩) = some v := by
    rw [image]
    rfl
  cases label with
  | take a m =>
      by_cases core' : a.core
      · by_cases keep : V.keep m.origin
        · obtain ⟨s', es', reacted', shown, clock, counter, entries⟩ :=
            kept_take follows sound core' keep reacted
          have seen : V.label (.take a m : Label Actor Msg Task Input) =
              View.whole.label (.take a m : CoreLabel) := by
            simp [Lens.label, View.lens, keep]
          obtain ⟨v', followed, follows'⟩ := follows_kept sound follows allowed taken reacted
            reacted' (fun _ _ same => by cases same) seen shown clock counter entries
          exact ⟨v', kept (by simp [View.image, core', keep]) followed, follows'⟩
        · have hidden := Bool.of_not_eq_true keep
          obtain ⟨quiet, clock, counter, entries⟩ :=
            hidden_take follows.client sound core' hidden allowed reacted
          have unseen : V.label (.take a m : Label Actor Msg Task Input) = none := by
            simp [Lens.label, View.lens, hidden]
          refine ⟨v, skipped (by simp [View.image, core', hidden]), ?_⟩
          exact follows_hidden sound follows allowed taken reacted quiet unseen clock counter
            entries
      · have outer := Bool.of_not_eq_true core'
        have image : V.image env w ⟨.take a m, full⟩ = V.outside env w ⟨.take a m, full⟩ := by
          simp [View.image, outer]
        rw [image]
        exact outside outer
  | run t =>
      by_cases core' : t.job.core
      · by_cases keep : V.keep t.origin
        · obtain ⟨reacted', shown, rfl⟩ := kept_run follows core' keep reacted
          have task : V.task t = some ⟨t.origin, V.job t.job⟩ :=
            if_pos ((Bool.and_eq_true _ _).mpr ⟨core', keep⟩)
          have seen : V.label (.run t : Label Actor Msg Task Input) =
              View.whole.label (.run ⟨t.origin, V.job t.job⟩ : CoreLabel) := by
            simp [Lens.label, View.lens, task, View.whole_task, core']
          obtain ⟨v', followed, follows'⟩ := follows_kept sound follows allowed taken reacted
            reacted' (fun _ _ same => by cases same) seen shown follows.clock follows.counter
            follows.entries
          exact ⟨v', kept (by simp [View.image, core', task]) followed, follows'⟩
        · have hidden := Bool.of_not_eq_true keep
          obtain ⟨quiet, rfl⟩ := hidden_run core' hidden reacted
          have task : V.task t = none := by simp [View.task, hidden]
          refine ⟨v, skipped (by simp [View.image, core', task]), ?_⟩
          exact follows_hidden sound follows allowed taken reacted quiet
            (by simp [Lens.label, View.lens, task]) rfl rfl (fun _ => rfl)
      · have outer := Bool.of_not_eq_true core'
        have image : V.image env w ⟨.run t, full⟩ = V.outside env w ⟨.run t, full⟩ := by
          simp [View.image, outer]
        rw [image]
        exact outside outer
  | give i => exact outside True.intro

end Follow

theorem anchored_init (env : Env) (seed : Nat) : anchored.Holds (init env seed) where
  mail a m member := by
    refine ⟨(genuine_init env seed).mail a m member, ?_⟩
    simp only [init] at member
    split at member
    · obtain ⟨recipient, -, rfl⟩ := List.mem_map.mp member
      exact True.intro
    · cases member
  tasks t member := by
    refine ⟨(genuine_init env seed).tasks t member, ?_⟩
    rw [List.mem_singleton.mp member]
    exact True.intro
  log e member := nomatch member

theorem follows_init (env : Env) (V : View) (seed : Nat) :
    Follows V (init env seed) (coreInit env seed) where
  client := anchored_init env seed
  answers := {
    flight := {
      mail := fun a m _ => True.intro
      tasks := fun t member => by
        rw [List.mem_singleton.mp member]
        exact True.intro
      log := fun e member => nomatch member }
    past := fun t ran => nomatch ran }
  core := ⟨fun a m member => (nomatch member), fun t member => (nomatch member),
    fun e member => nomatch member⟩
  glimpse := by
    have mail (a : Actor) : V.lens.box a ((init env seed).mail a) = [] := by
      cases a <;> simp [Lens.box, View.lens, Actor.core, init]
    have mail' (a : Actor) : View.whole.lens.box a ((coreInit env seed).mail a) = [] :=
      Lens.box_nil _ a
    simp only [Lens.of, mail, mail']
    rfl
  clock := rfl
  counter := rfl
  entries id := rfl

/-- The core follows every run whose steps the view allows. -/
theorem follows_run {env : Env} {V : View} {seed : Nat} {ls : List ClientMove} {w : ClientWorld}
    (sound : V.Sound) (allowed : Along (clientStep env) (fun w mv => V.allows w mv) (init env seed) ls)
    (run : exec (clientStep env) (init env seed) ls = some w) :
    ∃ v, exec (coreStep env) (coreInit env seed)
        (follow (clientStep env) (V.image env) (init env seed) ls) = some v ∧ Follows V w v :=
  exec_follow (fun _ _ _ _ follows allowed taken => follows_step sound follows allowed taken)
    (follows_init env V seed) allowed run

theorem View.whole_allows (w : ClientWorld) (mv : ClientMove) : View.whole.allows w mv := by
  unfold View.allows
  split
  · rw [if_pos (View.whole_keep _)]
    split <;> simp
  · simp
  · rfl

/-- Every run of a client is a run of its core, with all it does. -/
theorem core_run {env : Env} {seed : Nat} {ls : List ClientMove} {w : ClientWorld}
    (run : exec (clientStep env) (init env seed) ls = some w) :
    ∃ v, exec (coreStep env) (coreInit env seed)
        (follow (clientStep env) (View.whole.image env) (init env seed) ls) = some v ∧
      Follows View.whole w v :=
  follows_run View.whole_sound (Along.of_forall View.whole_allows _ _) run

end ActixMqtt
