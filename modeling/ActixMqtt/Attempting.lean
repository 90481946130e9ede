import ActixMqtt.Protocols.Retrying
import ActixMqtt.Streams

/-! # Requests as retried tasks

The actors that send a packet and wait for its acknowledgement follow one policy: attempts
are numbered by the retry counter, up to `MAX_RETRY_COUNT`, the next one comes no earlier
than `COMMAND_TIMEOUT` after a packet that was queued and `RESEND_DELAY` after one that was
not. The attempts at each request, whatever happens around them, form a history of this
policy.
-/

namespace ActixMqtt

open ActorSystem

def retryPolicy : Retrying.Policy where
  cap := maxRetryCount.toNat
  timeout := commandTimeout
  pause := resendDelay
  shorter := by decide

/-- The number of the attempt that is made when the request is handled. -/
def Request.attempt : Request → Option ℕ
  | .publish msg => some msg.retryCount.toNat
  | .packet ⟨.pubrec _, retryCount⟩ | .packet ⟨.pubrel _, retryCount⟩ => some retryCount.toNat
  | .batchSubscribe msg => some msg.retryCount.toNat
  | .batchUnsubscribe msg => some msg.retryCount.toNat
  | .sendPing lastRetryCount => some lastRetryCount.toNat
  | _ => none

/-- The attempt at the request of `o` that a step makes. -/
def attemptNow (o : Origin) : Label Actor Msg Task Input → Option ℕ
  | .take a ⟨o', .request req⟩ => if o' = o ∧ req.home = some a then req.attempt else none
  | .run ⟨o', .notify notice⟩ => if o' = o then notice.request.attempt else none
  | _ => none

/-- Whether a step queues a packet. -/
def queuesNow (env : Env) (w : ClientWorld) (mv : ClientMove) : Bool :=
  match w.reaction (system env) (w.results mv.full) mv.label with
  | some (_, es) => (emits es).any (· matches .queued _ _)
  | none => false

def attemptsAt (env : Env) (o : Origin) (w : ClientWorld) (mv : ClientMove) :
    List Retrying.Attempt :=
  match attemptNow o mv.label with
  | some number => [⟨number, w.state.now, queuesNow env w mv⟩]
  | none => []

/-- The attempts at the request of `o` in a run, with the time of each. -/
def attemptsOf (env : Env) (seed : Nat) (o : Origin) (ls : List ClientMove) :
    List Retrying.Attempt :=
  follow (clientStep env) (attemptsAt env o) (init env seed) ls

/-- The times at which packets are queued for `o`. -/
def queuedAt (env : Env) (o : Origin) (w : ClientWorld) (mv : ClientMove) : List ℕ :=
  match w.reaction (system env) (w.results mv.full) mv.label with
  | some (_, es) => (emits es).filterMap fun
      | .queued o' packet => if o' = o ∧ packet ≠ .disconnect then some w.state.now else none
      | _ => none
  | none => []

def queuingTimes (env : Env) (seed : ℕ) (o : Origin) (ls : List ClientMove) : List ℕ :=
  follow (clientStep env) (queuedAt env o) (init env seed) ls

/-! ## The next attempt -/

/-- The attempt that a request leads to next. -/
def Request.number (req : Request) : ℕ := req.attempt.getD 0

def Future.number : Future → ℕ
  | .statusCheck _ _ _ _ retryMsg => retryMsg.number
  | .publishLevel2 _ msg => msg.retryCount.toNat
  | _ => 0

/-- DispatchActor starts the counter of what it passes on. -/
def Body.number (a : Actor) : Body → ℕ
  | .request req => if a = .dispatch then 0 else req.number
  | .publishStatus _ (some future) | .unitStatus _ (some future) | .statusExistence _ future =>
      future.number
  | _ => 0

def Job.number : Job → ℕ
  | .resend _ dst req => (Body.request req).number dst
  | .timer _ _ future | .spawned future | .resumed future _ => future.number
  | .notify notice => notice.request.number

/-- The time from which on a task may run. -/
def Job.readyAt (now : ℕ) : Job → ℕ
  | .resend deadline _ _ | .timer deadline _ _ => deadline
  | _ => now

theorem ready_iff {t : Task} {s : State} : ready t s ↔ t.job.readyAt s.now ≤ s.now := by
  obtain ⟨o, job⟩ := t
  cases job with
  | resend deadline dst req | timer deadline owner future => exact decide_eq_true_iff
  | _ => exact ⟨fun _ => Nat.le_refl _, fun _ => rfl⟩

/-- Whatever carries the origin on leads to attempt `v.number`, and not before `v.earliest`. -/
def due (o : Origin) (v : Retrying.State) (now : ℕ) : Local Actor Msg Task Event where
  mail a m := m.origin = o → m.body.succeeds a →
    m.body.number a = v.number ∧ v.earliest ≤ now ∧ v.number ≤ retryPolicy.cap + 1
  task t := t.origin = o → t.job.succeeds →
    t.job.number = v.number ∧ v.earliest ≤ t.job.readyAt now ∧ v.number ≤ retryPolicy.cap + 1
  event _ := True

/-- The attempt that an effect leads to, when it carries its origin on. -/
def effectNumber : ClientEffect → Option ℕ
  | .post dst m => if m.body.succeeds dst then some (m.body.number dst) else none
  | .spawn t => if t.job.succeeds then some t.job.number else none
  | _ => none

def effectReadyAt (now : ℕ) : ClientEffect → ℕ
  | .spawn t => t.job.readyAt now
  | _ => now

theorem due_effect {o : Origin} {v : Retrying.State} {now : ℕ} {e : ClientEffect}
    (law : effectOrigin e = some o → ∀ n ∈ effectNumber e,
      n = v.number ∧ v.earliest ≤ effectReadyAt now e ∧ v.number ≤ retryPolicy.cap + 1) :
    (due o v now).effect e := by
  cases e with
  | post dst m =>
      intro mine succeeds
      exact law (congrArg some mine) _ (by simp [effectNumber, succeeds])
  | spawn t =>
      intro mine succeeds
      exact law (congrArg some mine) _ (by simp [effectNumber, succeeds])
  | emit event => exact True.intro
  | halt a => exact True.intro

theorem due_mono {o : Origin} {v : Retrying.State} {now later : ℕ} {w : ClientWorld}
    (holds : (due o v now).Holds w) (after : now ≤ later) : (due o v later).Holds w := by
  refine holds.mono (fun a m known mine succeeds => ?_) (fun t known mine succeeds => ?_)
    fun _ known => known
  · obtain ⟨number, early, within⟩ := known mine succeeds
    exact ⟨number, early.trans after, within⟩
  · obtain ⟨number, early, within⟩ := known mine succeeds
    refine ⟨number, early.trans ?_, within⟩
    cases t.job with
    | resend deadline dst req | timer deadline owner future => exact Nat.le_refl deadline
    | notify notice | spawned future | resumed future answer => exact after

theorem due_keeps (env : Env) (o : Origin) (v : Retrying.State) (now : ℕ) :
    (due o v now).Keeps (system env) := by
  rintro a ⟨o', b⟩ holds t left
  obtain ⟨future, replies, rfl⟩ := orphan_reply left
  intro mine _
  cases b with
  | publishStatus op reply | unitStatus op reply =>
      obtain rfl : reply = some future := replies
      exact holds mine rfl
  | statusExistence id reply =>
      obtain rfl : reply = future := Option.some.inj replies
      exact holds mine rfl
  | _ => cases replies

theorem due_of_none {o : Origin} {w : ClientWorld} (none : successors o w = 0) (v : Retrying.State)
    (now : ℕ) : (due o v now).Holds w where
  mail a m member mine succeeds := by
    have some := successors_of_mail member succeeds
    rw [mine] at some
    omega
  tasks t member mine succeeds := by
    have some := successors_of_task member succeeds
    rw [mine] at some
    omega
  log _ _ := True.intro

/-! ## What an effect leads to -/

section Laws

variable {env : Env} {ctx : Ctx} {s : State} {c : Cause} {b : Body}

/-- The message is an attempt of its actor. -/
def Body.attempts (a : Actor) (b : Body) : Prop :=
  ∃ req, b = .request req ∧ req.home = some a ∧ req.attempt.isSome

theorem Attempts.number {att : ActixMqtt.Attempt} (attempts : Attempts env ctx s b att) :
    b.attempts ctx.self ∧ b.number ctx.self ≤ retryPolicy.cap ∧
      (Body.request att.retry).number ctx.self = b.number ctx.self + 1 ∧
        att.check.number = b.number ctx.self + 1 := by
  obtain ⟨a, o, now, res⟩ := ctx
  cases attempts with
  | publish1 msg self below valid qos | publish2 msg self below valid qos =>
      cases self
      exact ⟨⟨_, rfl, rfl, rfl⟩, retry_le.mp below, retry_succ below, retry_succ below⟩
  | pubrec id retryCount self below | pubrel id retryCount self below =>
      cases self
      exact ⟨⟨_, rfl, rfl, rfl⟩, retry_le.mp below, retry_succ below, retry_succ below⟩
  | subscribe msg self below valid | unsubscribe msg self below valid =>
      cases self
      exact ⟨⟨_, rfl, rfl, rfl⟩, retry_le.mp below, retry_succ below, retry_succ below⟩
  | sendPing lastRetryCount self below =>
      cases self
      exact ⟨⟨_, rfl, rfl, rfl⟩, retry_le.mp below, retry_succ below, retry_succ below⟩

theorem Attempts.note_silent {att : ActixMqtt.Attempt} (attempts : Attempts env ctx s b att) :
    att.note.succeeds att.status = false := by
  cases attempts <;> rfl

theorem GivesUp.note_silent {a : Actor} {op : Body} (gives : GivesUp env ctx s b a op) :
    op.succeeds a = false := by
  cases gives <;> rfl

theorem responseTo_note_silent {a dst : Actor} {packet : VariablePacket} {op : Body}
    (response : responseTo a packet = some (dst, op)) : op.succeeds dst = false := by
  unfold responseTo at response
  split at response <;> cases response <;> rfl

theorem responseTo_number {a dst : Actor} {packet : VariablePacket} {op : Body}
    (response : responseTo a packet = some (dst, op)) :
    (∀ n, (Body.request (.packet ⟨packet, n⟩)).succeeds a) ∧
      ∀ n, (Body.request (.packet ⟨packet, n⟩)).number a = 0 := by
  unfold responseTo at response
  split at response <;> cases response <;> exact ⟨fun _ => rfl, fun _ => rfl⟩

theorem Produces.next {e : ClientEffect} (produces : Produces env ctx s b e)
    (attempts : b.attempts ctx.self) : ∀ n ∈ effectNumber e,
      n = b.number ctx.self + 1 ∧ b.number ctx.self ≤ retryPolicy.cap ∧
        ctx.now + resendDelay ≤ effectReadyAt ctx.now e := by
  obtain ⟨req, rfl, home, attempt⟩ := attempts
  intro n leads
  cases produces with
  | check attempts =>
      cases leads
      exact ⟨attempts.number.2.2.2, attempts.number.2.1,
        Nat.add_le_add_left retryPolicy.shorter ctx.now⟩
  | resend retries =>
      cases retries with
      | attempt attempts =>
          obtain ⟨-, within, next, -⟩ := attempts.number
          simp only [effectNumber] at leads
          split at leads
          · cases leads
            exact ⟨next, within, Nat.le_refl _⟩
          · cases leads
      | recv1 packet id retryCount self below qos => cases attempt
      | response packet retryCount response =>
          unfold responseTo at response
          split at response <;> first | cases attempt | cases response
      | disconnect msg self through => cases attempt
  | note attempts => simp [effectNumber, attempts.note_silent] at leads
  | giveUp gives => simp [effectNumber, gives.note_silent] at leads
  | response packet retryCount response =>
      simp [effectNumber, responseTo_note_silent response] at leads
  | recv2 packet retryCount id self below qos => cases attempt
  | ping lastRetryCount self => cases attempt
  | dispatch msg dst name self target => exact absurd self (Request.home_ne home).2.2.1
  | send sends => simp [effectNumber, Body.succeeds] at leads
  | _ => cases leads

theorem fresh_number (a : Actor) (packet : VariablePacket) :
    (Body.request (.packet ⟨packet, 0⟩)).number a = 0 := by
  cases packet <;> simp [Body.number, Request.number, Request.attempt]

theorem Produces.number {e : ClientEffect} (produces : Produces env ctx s b e)
    (other : ¬ b.attempts ctx.self) : ∀ n ∈ effectNumber e,
      b.succeeds ctx.self ∧ n = b.number ctx.self ∧ ctx.now ≤ effectReadyAt ctx.now e := by
  obtain ⟨self, o, now, res⟩ := ctx
  intro n leads
  cases produces with
  | note attempts | check attempts => exact absurd attempts.number.1 other
  | resend retries =>
      cases retries with
      | attempt attempts => exact absurd attempts.number.1 other
      | recv1 packet id retryCount home below qos =>
          cases home
          cases leads
          exact ⟨rfl, rfl, Nat.le_add_right _ _⟩
      | response packet retryCount response =>
          obtain ⟨succeeds, number⟩ := responseTo_number response
          simp only [effectNumber] at leads
          split at leads
          · cases leads
            exact ⟨succeeds _, (number _).trans (number _).symm, Nat.le_add_right _ _⟩
          · cases leads
      | disconnect msg self through => cases leads
  | giveUp gives => simp [effectNumber, gives.note_silent] at leads
  | response packet retryCount response =>
      simp [effectNumber, responseTo_note_silent response] at leads
  | recv2 packet retryCount id home below qos =>
      cases home
      cases leads
      exact ⟨rfl, rfl, Nat.le_refl _⟩
  | answer op future home | unitAnswer op future status | existence id future found =>
      cases leads
      exact ⟨rfl, rfl, Nat.le_refl _⟩
  | subscribe msg home | unsubscribe msg home =>
      cases leads
      exact ⟨rfl, rfl, Nat.le_refl _⟩
  | ping lastRetryCount home =>
      cases home
      cases leads
      exact ⟨rfl, rfl, Nat.le_refl _⟩
  | connectTimer msg home =>
      cases leads
      exact ⟨rfl, rfl, Nat.le_add_right _ _⟩
  | dispatch msg dst name home target =>
      cases home
      simp only [effectNumber] at leads
      split at leads
      · cases leads
        exact ⟨rfl, fresh_number dst msg.packet, Nat.le_refl _⟩
      · cases leads
  | send sends => simp [effectNumber, Body.succeeds] at leads
  | _ => cases leads

theorem Continues.number {c : Cause} {future : Future} {answer : Answer} {e : ClientEffect}
    (continues : Continues ctx future answer e) (awaits : c.Awaits future)
    (fits : answer.Fits future) : ∀ n ∈ effectNumber e,
      n = future.number ∧ ctx.now ≤ effectReadyAt ctx.now e := by
  intro n leads
  cases continues with
  | checked status self id check retryMsg answer passes =>
      have elsewhere : self ≠ .dispatch := (Request.home_ne awaits.2.home.1).2.2.1
      simp only [effectNumber] at leads
      split at leads
      · cases leads
        exact ⟨if_neg elsewhere, Nat.le_refl _⟩
      · cases leads
  | timeout future dst req => cases fits
  | send id retryCount packet answer known => simp [effectNumber, Body.succeeds] at leads
  | redeliver | resend | timer =>
      cases leads
      exact ⟨rfl, Nat.le_add_right _ _⟩
  | publishChecked | phase2 | pingPending | sendPing =>
      cases leads
      exact ⟨rfl, Nat.le_refl _⟩
  | _ => cases leads

theorem Future.question_number (future : Future) :
    future.question.2.number future.question.1 = future.number := by
  cases future with
  | statusCheck status self id check retryMsg => cases status <;> rfl
  | _ => rfl

theorem Notice.request_number (notice : Notice) :
    (Body.request notice.request).number notice.owner = notice.request.number := by
  cases notice <;> rfl

theorem Runs.number {res : Actor → Option SendError} {o : Origin} {job : Job} {e : ClientEffect}
    (runs : Runs env res s o job e) (source : job.Genuine o.cause)
    (other : ∀ notice, job = .notify notice → notice.request.attempt = none)
    (due : job.readyAt s.now ≤ s.now) : ∀ n ∈ effectNumber e,
      job.succeeds ∧ n = job.number ∧ job.readyAt s.now ≤ effectReadyAt s.now e := by
  intro n leads
  cases runs with
  | resend deadline dst req =>
      simp only [effectNumber] at leads
      split at leads
      · rename_i succeeds
        cases leads
        exact ⟨succeeds, rfl, due⟩
      · cases leads
  | timer deadline owner future =>
      cases leads
      exact ⟨rfl, rfl, due⟩
  | notify notice produces =>
      have silent : ¬ (Body.request notice.request).attempts notice.owner := by
        rintro ⟨req, same, -, attempt⟩
        cases same
        rw [other notice rfl] at attempt
        cases attempt
      obtain ⟨-, number, early⟩ := produces.number silent n leads
      exact ⟨rfl, number.trans notice.request_number, early⟩
  | closed future refused | waits future refused =>
      cases leads
      exact ⟨rfl, rfl, Nat.le_refl _⟩
  | asks future accepts =>
      simp only [effectNumber, future.question_succeeds, if_true, Option.mem_some_iff] at leads
      subst leads
      exact ⟨rfl, future.question_number, Nat.le_refl _⟩
  | resumed future answer continues =>
      obtain ⟨number, early⟩ := continues.number source.1 source.2 n leads
      exact ⟨rfl, number, early⟩

theorem Arrives.number {o : Origin} {e : ClientEffect} (arrives : Arrives o e) :
    ∀ n ∈ effectNumber e, n = 0 := by
  intro n leads
  cases arrives <;> cases leads <;> rfl

end Laws

/-! ## One step -/

section Step

variable {env : Env} {w w' : ClientWorld} {mv : ClientMove} {s : State} {es : Out} {a : Actor}
  {o : Origin} {b : Body} {v : Retrying.State}

theorem Handles.produces {e : ClientEffect} (handles : Handles mv.label a o b)
    (reacted : w.reaction (system env) (w.results mv.full) mv.label = some (s, es))
    (member : e ∈ es) : Produces env ⟨a, o, w.state.now, w.results mv.full⟩ w.state b e := by
  have produces := handleBody_produces env ⟨a, o, w.state.now, w.results mv.full⟩ w.state b
  rw [handles.reaction reacted] at produces
  exact produces e member

theorem Handles.unique {label : Label Actor Msg Task Input} {a' : Actor} {b' : Body}
    (handles : Handles label a o b) (again : Handles label a' o b') : a' = a ∧ b' = b := by
  cases handles <;> cases again <;> exact ⟨rfl, rfl⟩

theorem attemptNow_eq_some {label : Label Actor Msg Task Input} {n : ℕ}
    (attempt : attemptNow o label = some n) : ∃ a b, Handles label a o b ∧ b.attempts a ∧
      b.number a = n ∧ carriesOn o label := by
  unfold attemptNow at attempt
  split at attempt
  · rename_i a o' req
    split at attempt
    · rename_i home
      obtain ⟨rfl, home⟩ := home
      have apart := Request.home_ne home
      refine ⟨a, _, .take a o' _, ⟨req, rfl, home, by simp [attempt]⟩, ?_, ?_⟩
      · simp [Body.number, Request.number, apart.2.2.1, attempt]
      · simp only [carriesOn, decide_eq_true_eq, true_and]
        cases req with
        | disconnect msg => cases attempt
        | packet msg => exact decide_eq_true apart.1
        | _ => rfl
    · cases attempt
  · rename_i o' notice
    split at attempt
    · rename_i mine
      subst mine
      refine ⟨_, _, .notify o' notice, ⟨_, rfl, ?_, by simp [attempt]⟩, ?_, by simp [carriesOn, Job.succeeds]⟩
      · cases notice with
        | pingreq lastRetryCount => cases attempt
        | _ => rfl
      · rw [notice.request_number, Request.number, attempt, Option.getD_some]
    · cases attempt
  · cases attempt

theorem attemptNow_eq_none {label : Label Actor Msg Task Input}
    (other : attemptNow o label = none) (handles : Handles label a o b) : ¬ b.attempts a := by
  rintro ⟨req, rfl, home, attempt⟩
  cases handles with
  | take a o b => simp [attemptNow, home] at other; simp [other] at attempt
  | notify o notice => simp [attemptNow] at other; simp [other] at attempt

theorem Handles.due (handles : Handles mv.label a o b) (holds : (due o v w.state.now).Holds w)
    (reacted : w.reaction (system env) (w.results mv.full) mv.label = some (s, es))
    (carries : carriesOn o mv.label) :
    b.number a = v.number ∧ v.earliest ≤ w.state.now ∧ v.number ≤ retryPolicy.cap + 1 := by
  have source := holds.source reacted
  rcases handles.label_eq with label | ⟨notice, label, rfl, rfl⟩
  · rw [label] at source carries
    simp only [carriesOn, decide_eq_true_eq, true_and] at carries
    exact source rfl carries
  · rw [label] at source
    rw [notice.request_number]
    exact source rfl rfl

theorem level0_out {ctx : Ctx} {msg : Publish} {packet : VariablePacket}
    (below : ¬ msg.retryCount > maxRetryCount) (qos : msg.qos = .level0)
    (queued : .emit (.queued o packet) ∈ (SendPublishActor.handle env ctx msg s).2) :
    (SendPublishActor.handle env ctx msg s).2 =
      queuePacket ctx (.publish ⟨msg.topic, .level0, msg.payload⟩) := by
  cases valid : env.topicNameError msg.topic with
  | some text =>
      simp [SendPublishActor.handle, below, SendPublishActor.createPacketAndIdFromMessage, valid,
        sendError] at queued
  | none =>
      simp only [SendPublishActor.handle, below, SendPublishActor.createPacketAndIdFromMessage,
        valid, qos, SendPublishActor.level0, trySendPacket] at queued ⊢
      cases accepted : ctx.res .send with
      | none => rfl
      | some e =>
          rw [accepted] at queued
          cases e <;> simp [handleSendError, sendError, doSendStop] at queued

/-- An attempt that queues a packet queues this one alone and puts the next attempt off. -/
theorem Handles.sent {packet : VariablePacket} (handles : Handles mv.label a o b)
    (attempts : b.attempts a)
    (reacted : w.reaction (system env) (w.results mv.full) mv.label = some (s, es))
    (queued : .emit (.queued o packet) ∈ es) :
    (emits es = [.queued o packet] ∧ packet ≠ .disconnect) ∧ b.number a ≤ retryPolicy.cap ∧
      ∀ e ∈ es, ∀ n ∈ effectNumber e, w.state.now + commandTimeout ≤ effectReadyAt w.state.now e := by
  rcases queued_reaction reacted queued with ⟨a', b', again, sends⟩ | ⟨id, packet', n, answer, label, -⟩
  · obtain ⟨rfl, rfl⟩ := handles.unique again
    cases sends with
    | attempt made =>
        obtain rfl := (handles.through made reacted queued rfl).2
        refine ⟨⟨rfl, by cases made <;> simp⟩, made.number.2.1, fun e member n leads => ?_⟩
        simp only [List.mem_cons, List.not_mem_nil, or_false] at member
        rcases member with rfl | rfl | rfl | rfl
        · simp [effectNumber, made.note_silent] at leads
        · simp [effectNumber, Body.succeeds] at leads
        · cases leads
        · exact Nat.le_refl _
    | publish0 msg self below qos =>
        cases self
        have handled := handles.reaction reacted
        obtain rfl : (SendPublishActor.handle env _ msg w.state).2 = es := congrArg Prod.snd handled
        rw [level0_out below qos queued]
        refine ⟨⟨rfl, by simp⟩, retry_le.mp below, fun e member n leads => ?_⟩
        simp only [queuePacket, List.mem_cons, List.not_mem_nil, or_false] at member
        rcases member with rfl | rfl
        · simp [effectNumber, Body.succeeds] at leads
        · cases leads
    | puback packet id retryCount self below qos | disconnect msg self through =>
        obtain ⟨req, same, -, attempt⟩ := attempts
        cases same
        cases attempt
    | connect msg self =>
        obtain ⟨req, same, -⟩ := attempts
        cases same
  · rw [label] at handles
    cases handles

theorem queuesNow_iff (reacted : w.reaction (system env) (w.results mv.full) mv.label = some (s, es)) :
    queuesNow env w mv ↔ ∃ o packet, .emit (.queued o packet) ∈ es := by
  simp only [queuesNow, reacted, List.any_eq_true]
  constructor
  · rintro ⟨e, member, isQueued⟩
    cases e with
    | queued o packet => exact ⟨o, packet, mem_emits.mp member⟩
    | _ => cases isQueued
  · rintro ⟨o, packet, member⟩
    exact ⟨_, mem_emits.mpr member, rfl⟩

theorem Handles.queues (handles : Handles mv.label a o b)
    (reacted : w.reaction (system env) (w.results mv.full) mv.label = some (s, es))
    (queued : ∃ o packet, .emit (.queued o packet) ∈ es) :
    ∃ packet, .emit (.queued o packet) ∈ es := by
  obtain ⟨o', packet, member⟩ := queued
  have stems := origin_step reacted member rfl
  rcases handles.label_eq with label | ⟨notice, label, -⟩ <;>
  · rw [label] at stems
    cases stems
    exact ⟨packet, member⟩

/-- An attempt is the one that is due, and the next one is due in time. -/
theorem due_attempt (single : successors o w ≤ 1) (holds : (due o v w.state.now).Holds w)
    (reacted : w.reaction (system env) (w.results mv.full) mv.label = some (s, es))
    (taken : clientStep env w mv = some w') (handles : Handles mv.label a o b)
    (attempts : b.attempts a) (carries : carriesOn o mv.label) :
    ∃ v', retryPolicy.step v ⟨b.number a, w.state.now, queuesNow env w mv⟩ = some v' ∧
      (due o v' w.state.now).Holds w' := by
  obtain ⟨number, late, within⟩ := handles.due holds reacted carries
  have queued (queues : queuesNow env w mv) : ∃ packet, .emit (.queued o packet) ∈ es :=
    handles.queues reacted ((queuesNow_iff reacted).mp queues)
  refine ⟨_, Retrying.Policy.step_eq_some.mpr ⟨⟨number, late, number ▸ within, fun queues => ?_⟩, rfl⟩, ?_⟩
  · obtain ⟨packet, member⟩ := queued queues
    exact (handles.sent attempts reacted member).2.1
  · obtain ⟨s', es', reacted', rfl⟩ := World.fire_eq_some.mp taken
    obtain ⟨rfl, rfl⟩ := Prod.mk.inj (Option.some.inj (reacted.symm.trans reacted'))
    refine (due_of_none (successors_consume single reacted carries) _ _).applyAll
      (due_keeps env o _ _) fun e member => due_effect fun _ n leads => ?_
    obtain ⟨next, below, paused⟩ :=
      (handles.produces reacted member).next attempts n leads
    refine ⟨number ▸ next, ?_, number ▸ Nat.succ_le_succ below⟩
    show w.state.now + (if queuesNow env w mv then commandTimeout else resendDelay) ≤ _
    split
    · rename_i queues
      obtain ⟨packet, emitted⟩ := queued queues
      exact (handles.sent attempts reacted emitted).2.2 e member n leads
    · exact paused

theorem due_other {e : ClientEffect} (known : genuine.Holds w)
    (holds : (due o v w.state.now).Holds w) (fresh : w.state.serial ≤ o.serial → v = Retrying.start)
    (reacted : w.reaction (system env) (w.results mv.full) mv.label = some (s, es))
    (other : attemptNow o mv.label = none) (member : e ∈ es) (mine : effectOrigin e = some o) :
    ∀ n ∈ effectNumber e, n = v.number ∧ v.earliest ≤ effectReadyAt w.state.now e ∧
      v.number ≤ retryPolicy.cap + 1 := by
  intro n leads
  have source := holds.source reacted
  have genuine := known.source reacted
  have causes := reaction_causes reacted e member
  generalize mv.label = label at *
  cases causes with
  | take a m produces =>
      obtain rfl := produces.origin o mine
      have silent := attemptNow_eq_none other (.take a m.origin m.body)
      obtain ⟨succeeds, number, early⟩ := produces.number silent n leads
      obtain ⟨same, late, within⟩ := source rfl succeeds
      exact ⟨number.trans same, late.trans early, within⟩
  | run t runs =>
      obtain rfl := runs.origin o mine
      have due : t.job.readyAt w.state.now ≤ w.state.now :=
        ready_iff.mp (World.reaction_run.mp reacted).2.1
      have silent (notice : Notice) (same : t.job = .notify notice) :
          notice.request.attempt = none := by
        obtain ⟨o, job⟩ := t
        subst same
        simpa [attemptNow] using other
      obtain ⟨succeeds, number, early⟩ := runs.number genuine silent due n leads
      obtain ⟨same, late, within⟩ := source rfl succeeds
      exact ⟨number.trans same, late.trans early, within⟩
  | arrive o' arrives =>
      obtain rfl := arrives.origin o mine
      obtain rfl := fresh (accept_cause reacted).1
      exact ⟨arrives.number n leads, Nat.zero_le _, Nat.zero_le _⟩
  | messageClosed => cases mine

theorem due_step (known : genuine.Holds w) (single : successors o w ≤ 1)
    (stems : (stemming fun o => o.serial < w.state.serial).Holds w)
    (holds : (due o v w.state.now).Holds w) (fresh : w.state.serial ≤ o.serial → v = Retrying.start)
    (taken : clientStep env w mv = some w') :
    ∃ v', exec retryPolicy.step v (attemptsAt env o w mv) = some v' ∧
      (due o v' w'.state.now).Holds w' ∧ (w'.state.serial ≤ o.serial → v' = Retrying.start) := by
  obtain ⟨s, es, reacted, -⟩ := World.fire_eq_some.mp taken
  have later := clock_grows taken
  cases attempt : attemptNow o mv.label with
  | some n =>
      obtain ⟨a, b, handles, attempts, rfl, carries⟩ := attemptNow_eq_some attempt
      obtain ⟨v', made, next⟩ := due_attempt single holds reacted taken handles attempts carries
      refine ⟨v', ?_, due_mono next later, fun unused => ?_⟩
      · simp only [attemptsAt, attempt, exec, made, Option.bind_some]
      · have used : o.serial < w.state.serial := handles.stems stems reacted
        have grown := (serial_grows taken).1
        omega
  | none =>
      refine ⟨v, by simp [attemptsAt, attempt, exec], due_mono ?_ later, fun unused =>
        fresh ((serial_grows taken).1.trans unused)⟩
      exact holds.fire (due_keeps env o v _) reacted taken fun e member =>
        due_effect (due_other known holds fresh reacted attempt member)

theorem queued_attempt {packet : VariablePacket} (known : genuine.Holds w)
    (retransmits : o.cause.Retransmits) (counted : packet ≠ .disconnect)
    (reacted : w.reaction (system env) (w.results mv.full) mv.label = some (s, es))
    (queued : .emit (.queued o packet) ∈ es) : ∃ n, attemptNow o mv.label = some n := by
  have explained : o.cause.Explains packet := genuine_effects known reacted _ queued
  have one : ChainWeight.left.packet o packet = 1 :=
    ChainWeight.left_packet retransmits explained counted
  cases attempt : attemptNow o mv.label with
  | some n => exact ⟨n, rfl⟩
  | none =>
      rcases queued_reaction reacted queued with ⟨a, b, handles, sends⟩ | ⟨id, _, _, _, _, rfl⟩
      · have silent := attemptNow_eq_none attempt handles
        cases sends with
        | attempt made => exact absurd made.number.1 silent
        | publish0 msg self below qos =>
            exact absurd ⟨_, rfl, congrArg some self.symm, rfl⟩ silent
        | disconnect msg self through => exact absurd rfl counted
        | puback | connect => cases one
      · cases one

/-- What is queued for a cause that is tried again is queued by an attempt, one packet by each. -/
theorem queuedAt_eq (known : genuine.Holds w) (retransmits : o.cause.Retransmits)
    (taken : clientStep env w mv = some w') : queuedAt env o w mv =
      ((attemptsAt env o w mv).filter Retrying.Attempt.sent).map Retrying.Attempt.time := by
  obtain ⟨s, es, reacted, -⟩ := World.fire_eq_some.mp taken
  have queues := queuesNow_iff reacted
  simp only [queuedAt, reacted, attemptsAt]
  cases attempt : attemptNow o mv.label with
  | none =>
      refine List.filterMap_eq_nil_iff.mpr fun e member => ?_
      cases e with
      | queued o' packet =>
          refine if_neg ?_
          rintro ⟨rfl, counted⟩
          obtain ⟨n, some⟩ := queued_attempt known retransmits counted reacted (mem_emits.mp member)
          rw [attempt] at some
          cases some
      | _ => rfl
  | some n =>
      obtain ⟨a, b, handles, attempts, -, -⟩ := attemptNow_eq_some attempt
      by_cases sent : queuesNow env w mv
      · obtain ⟨packet, member⟩ := handles.queues reacted (queues.mp sent)
        obtain ⟨only, counted⟩ := (handles.sent attempts reacted member).1
        simp [only, counted, sent]
      · have none : ∀ o packet, .emit (.queued o packet) ∉ es := fun o packet member =>
          sent (queues.mpr ⟨o, packet, member⟩)
        rw [List.filter_cons_of_neg (by simpa using sent), List.filter_nil, List.map_nil]
        refine List.filterMap_eq_nil_iff.mpr fun e member => ?_
        cases e with
        | queued o' packet => exact absurd (mem_emits.mp member) (none o' packet)
        | _ => rfl

end Step

/-! ## Whole runs -/

theorem due_init (env : Env) (seed : ℕ) (o : Origin) : (due o Retrying.start 0).Holds (init env seed) where
  mail a m member mine succeeds := by
    simp only [init] at member
    split at member
    · obtain ⟨recipient, -, rfl⟩ := List.mem_map.mp member
      cases succeeds
    · cases member
  tasks t member mine _ := by
    obtain rfl := List.mem_singleton.mp member
    exact ⟨rfl, Nat.le_refl 0, Nat.zero_le _⟩
  log _ _ := True.intro

section Runs

variable {env : Env} {seed : ℕ} {ls : List ClientMove} {w : ClientWorld} {o : Origin}

theorem attempts_run (run : Run env seed ls w) (o : Origin) :
    ∃ v, exec retryPolicy.step Retrying.start (attemptsOf env seed o ls) = some v ∧
      (due o v w.state.now).Holds w ∧ (w.state.serial ≤ o.serial → v = Retrying.start) := by
  refine exec_induction (motive := fun ls w => ∃ v,
    exec retryPolicy.step Retrying.start (attemptsOf env seed o ls) = some v ∧
      (due o v w.state.now).Holds w ∧ (w.state.serial ≤ o.serial → v = Retrying.start))
    ⟨_, rfl, due_init env seed o, fun _ => rfl⟩ ?_ run
  rintro ls w mv w' before ⟨v, made, holds, fresh⟩ taken
  obtain ⟨v', next, holds', fresh'⟩ := due_step (genuine_run before) (successors_le before o)
    (routing_run before).stems holds fresh taken
  refine ⟨v', ?_, holds', fresh'⟩
  rw [attemptsOf, follow_concat before, exec_append]
  exact (congrArg (Option.bind · _) made).trans next

theorem attempts_history (run : Run env seed ls w) (o : Origin) :
    retryPolicy.Follows (attemptsOf env seed o ls) := by
  obtain ⟨v, made, -⟩ := attempts_run run o
  exact Option.isSome_iff_exists.mpr ⟨v, made⟩

/-- The attempts at every request are a history of the retry policy: each comes not before the wait
    that the one before it calls for, they are numbered in order, and they come to an end. -/
theorem attempts_follow (run : Run env seed ls w) (o : Origin) :
    retryPolicy.Follows (attemptsOf env seed o ls) ∧
      (attemptsOf env seed o ls).map Retrying.Attempt.number =
        List.range (attemptsOf env seed o ls).length ∧
      (attemptsOf env seed o ls).length ≤ maxRetryCount.toNat + 2 :=
  ⟨attempts_history run o, (attempts_history run o).numbered, (attempts_history run o).length_le⟩

/-- Refused at first, then queued, and not acknowledged in time. -/
def secondAttempts : List Turn :=
  [.give (.cause ⟨1, .publish "topic" .level1 [1]⟩), .refusing [.send] (.handle .sendPublish),
    .handle .publishStatus, .give (.advance resendDelay), .task 0, .handle .sendPublish,
    .handle .publishStatus, .give (.advance commandTimeout), .task 0, .task 0,
    .handle .publishStatus, .task 0, .handle .sendPublish]

theorem attempts_follow_secondAttempts : ∃ w,
    Run plainEnv 0 (schedule plainEnv (init plainEnv 0) secondAttempts) w ∧
      attemptsOf plainEnv 0 ⟨1, .publish "topic" .level1 [1]⟩
          (schedule plainEnv (init plainEnv 0) secondAttempts) =
        [⟨0, 0, false⟩, ⟨1, 1000, true⟩, ⟨2, 6000, true⟩] ∧
      (attemptsOf plainEnv 0 ⟨1, .publish "topic" .level1 [1]⟩
        (schedule plainEnv (init plainEnv 0) secondAttempts)).length ≤ maxRetryCount.toNat + 2 := by
  obtain ⟨w, run, attempts⟩ : ∃ w,
      Run plainEnv 0 (schedule plainEnv (init plainEnv 0) secondAttempts) w ∧
        attemptsOf plainEnv 0 ⟨1, .publish "topic" .level1 [1]⟩
            (schedule plainEnv (init plainEnv 0) secondAttempts) =
          [⟨0, 0, false⟩, ⟨1, 1000, true⟩, ⟨2, 6000, true⟩] := ⟨_, rfl, by decide⟩
  exact ⟨w, run, attempts, (attempts_follow run _).2.2⟩

theorem queuingTimes_eq (run : Run env seed ls w) (retransmits : o.cause.Retransmits) :
    queuingTimes env seed o ls =
      ((attemptsOf env seed o ls).filter Retrying.Attempt.sent).map Retrying.Attempt.time := by
  refine exec_induction (motive := fun ls _ => queuingTimes env seed o ls =
    ((attemptsOf env seed o ls).filter Retrying.Attempt.sent).map Retrying.Attempt.time)
    rfl ?_ run
  intro ls w mv w' before same taken
  rw [queuingTimes, attemptsOf, follow_concat before, follow_concat before, List.filter_append,
    List.map_append, ← queuedAt_eq (genuine_run before) retransmits taken]
  exact congrArg (· ++ _) same

/-- Whatever happens to its packets, a request is sent again no earlier than `COMMAND_TIMEOUT` after
    it was sent. -/
theorem retransmissions_apart (run : Run env seed ls w) (retransmits : o.cause.Retransmits) :
    (queuingTimes env seed o ls).Pairwise fun earlier later => earlier + commandTimeout ≤ later := by
  have apart := (attempts_history run o).apart
  rw [queuingTimes_eq run retransmits, List.pairwise_map]
  refine (apart.filter _).imp_of_mem fun {a b} member _ apart => ?_
  have sent : a.sent := (List.mem_filter.mp member).2
  simp only [Retrying.Policy.wait, sent, if_true] at apart
  exact apart

theorem retransmissions_apart_secondAttempts : ∃ w,
    Run plainEnv 0 (schedule plainEnv (init plainEnv 0) secondAttempts) w ∧
      queuingTimes plainEnv 0 ⟨1, .publish "topic" .level1 [1]⟩
        (schedule plainEnv (init plainEnv 0) secondAttempts) = [1000, 6000] ∧
      (queuingTimes plainEnv 0 ⟨1, .publish "topic" .level1 [1]⟩
        (schedule plainEnv (init plainEnv 0) secondAttempts)).Pairwise
          fun earlier later => earlier + commandTimeout ≤ later := by
  obtain ⟨w, run, times⟩ : ∃ w,
      Run plainEnv 0 (schedule plainEnv (init plainEnv 0) secondAttempts) w ∧
        queuingTimes plainEnv 0 ⟨1, .publish "topic" .level1 [1]⟩
          (schedule plainEnv (init plainEnv 0) secondAttempts) = [1000, 6000] := ⟨_, rfl, by decide⟩
  exact ⟨w, run, times, retransmissions_apart run True.intro⟩

end Runs

end ActixMqtt
