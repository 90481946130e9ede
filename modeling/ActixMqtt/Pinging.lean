import ActixMqtt.Connecting
import ActixMqtt.Watching

/-! # Pings

Each tick of the interval asks whether a ping is on-going by a read that also removes its
entry. A ping is sent again, and no second one is started beside it, as long as no tick
reads while a ping is in flight.
-/

namespace ActixMqtt

open ActorSystem

/-- The future of the check of a ping; `retryCount` is the counter of the retry. -/
def pingCheck (retryCount : UInt16) : Future :=
  .statusCheck .pingStatus .pingreq 0 .isSome (.sendPing retryCount)

/-- What the attempt notes whose retry has this counter. -/
def pingNote (o : Origin) (retryCount : UInt16) : Msg :=
  ⟨o, .unitStatus (createUnitStatus 0 (retryCount - 1)) none⟩

def Future.pings : Future → Bool
  | .statusCheck .pingStatus _ _ _ _ => true
  | _ => false

/-- The message, at actor `a`, carries a ping on. -/
def Body.pings : Actor → Body → Bool
  | .pingreq, .request (.sendPing _) => true
  | _, b => b.reply.any Future.pings

/-- The task carries a ping on, or is a tick that has found none on-going. -/
def Job.pings : Job → Bool
  | .resend _ _ (.sendPing _) => true
  | .timer _ _ future | .spawned future => future.pings
  | .resumed (.pingPending _) (.unitStatus none) => true
  | .resumed future (.unitStatus (some _)) | .resumed future (.error _) => future.pings
  | _ => false

def Pinging (o : Origin) (w : ClientWorld) : Prop :=
  (∃ a, ∃ m ∈ w.mail a, m.origin = o ∧ m.body.pings a) ∨ ∃ t ∈ w.tasks, t.origin = o ∧ t.job.pings

/-- A tick asks whether a ping is on-going. -/
def readsForTick : Label Actor Msg Task Input → Bool
  | .take .pingStatus ⟨_, .unitStatus _ (some (.pingPending _))⟩ => true
  | _ => false

/-- No tick reads the entry while a ping is in flight or after the client has been asked to stop. -/
def pingsApart (w : ClientWorld) (mv : ClientMove) : Prop :=
  readsForTick mv.label → (∀ a, ∀ m ∈ w.mail a, ¬ m.body.pings a) ∧ (∀ t ∈ w.tasks, ¬ t.job.pings) ∧
    ¬ stopRequested w

instance (w : ClientWorld) (mv : ClientMove) : Decidable (pingsApart w mv) :=
  inferInstanceAs (Decidable (_ → _ ∧ _ ∧ _))

/-! ## No tick is sent again -/

def Request.firstTick : Request → Prop
  | .pingreq lastRetryCount => lastRetryCount = 0
  | _ => True

def Future.firstTick : Future → Prop
  | .pingConnected lastRetryCount | .pingPending lastRetryCount => lastRetryCount = 0
  | _ => True

/-- Every tick is tried for the first time, and the timers of checks of pings are PingreqActor's. -/
def ticking : Local Actor Msg Task Event where
  mail _ m := match m.body with
    | .request req => req.firstTick
    | .publishStatus _ (some future) | .unitStatus _ (some future) | .statusExistence _ future =>
        future.firstTick
    | _ => True
  task t := match t.job with
    | .resend _ _ req => req.firstTick
    | .notify notice => notice.request.firstTick
    | .timer _ owner future => future.firstTick ∧ (future.pings → owner = some .pingreq)
    | .spawned future | .resumed future _ => future.firstTick
  event _ := True

theorem ticking_keeps (env : Env) : ticking.Keeps (system env) := by
  rintro a ⟨o, b⟩ holds t left
  simp only [system, orphan] at left
  split at left
  · obtain rfl := List.mem_singleton.mp left
    exact holds
  · obtain rfl := List.mem_singleton.mp left
    exact holds
  · obtain rfl := List.mem_singleton.mp left
    exact holds
  · cases left

theorem ticking_init (env : Env) (seed : Nat) : ticking.Holds (init env seed) := by
  refine ⟨fun a m member => ?_, fun t member => ?_, fun e member => True.intro⟩
  · simp only [init] at member
    split at member
    · obtain ⟨recipient, -, rfl⟩ := List.mem_map.mp member
      exact True.intro
    · cases member
  · obtain rfl := List.mem_singleton.mp member
    exact rfl

section Ticking

variable {env : Env} {w w' : ClientWorld} {mv : ClientMove} {s : State} {es : Out} {ctx : Ctx}
  {o : Origin}

theorem Produces.ticking {a : Actor} {b : Body} {e : ClientEffect}
    (produces : Produces env ctx s b e) (source : ActixMqtt.ticking.mail a ⟨o, b⟩) :
    ActixMqtt.ticking.effect e := by
  cases produces with
  | note attempts => cases attempts <;> exact True.intro
  | check attempts =>
      cases attempts with
      | sendPing lastRetryCount self below => exact ⟨True.intro, fun _ => congrArg some self⟩
      | _ => exact ⟨True.intro, fun pings => by cases pings⟩
  | resend retries =>
      cases retries with
      | attempt attempts => cases attempts <;> exact True.intro
      | _ => exact True.intro
  | giveUp gives => cases gives <;> exact True.intro
  | response packet n response =>
      unfold responseTo at response
      split at response <;> cases response <;> exact True.intro
  | answer | unitAnswer | existence | ping => exact source
  | connectTimer msg self => exact ⟨True.intro, fun pings => by cases pings⟩
  | _ => exact True.intro

theorem Continues.ticking {future : Future} {answer : Answer} {e : ClientEffect}
    (continues : Continues ctx future answer e) (source : future.firstTick)
    (awaits : ctx.origin.cause.Awaits future) (fits : answer.Fits future) :
    ActixMqtt.ticking.effect e := by
  cases continues with
  | checked status self id check retryMsg answer passes =>
      obtain ⟨-, known⟩ := awaits
      cases known <;> exact True.intro
  | timeout => cases fits
  | pingPending lastRetryCount answer => exact source
  | timer id n packet answer known => exact ⟨True.intro, fun pings => by cases pings⟩
  | _ => exact True.intro

theorem ticking_step (genuine : genuine.Holds w) (holds : ticking.Holds w)
    (taken : clientStep env w mv = some w') : ticking.Holds w' := by
  obtain ⟨s, es, reacted, -⟩ := World.fire_eq_some.mp taken
  have source := holds.source reacted
  have known := genuine.source reacted
  refine holds.fire (ticking_keeps env) reacted taken (fun e member => ?_)
  obtain ⟨label, full⟩ := mv
  cases reaction_causes reacted e member with
  | take a m produces => exact produces.ticking source
  | run t runs =>
      obtain ⟨o, job⟩ := t
      cases runs with
      | resend deadline dst req => exact source
      | timer deadline owner future => exact source.1
      | notify notice produces => exact produces.ticking (o := o) (a := .pingreq) source
      | closed future refused => exact source
      | waits future refused => exact source
      | asks future accepts =>
          cases future with
          | statusCheck status self id check retryMsg => cases status <;> exact True.intro
          | _ => exact source
      | resumed future answer continues => exact continues.ticking source known.1 known.2
  | arrive o arrives => cases arrives <;> first | exact True.intro | exact rfl
  | messageClosed => exact True.intro

end Ticking

/-! ## Where pings come from -/

section Pings

variable {env : Env} {w w' : ClientWorld} {mv : ClientMove} {s : State} {es : Out} {o : Origin}

/-- The effect carries a ping of `o` on. -/
def pingsFor (o : Origin) : ClientEffect → Prop
  | .post a m => m.origin = o ∧ m.body.pings a
  | .spawn t => t.origin = o ∧ t.job.pings
  | _ => False

theorem Body.pings_reply {a : Actor} {b : Body} (future : Future) (replies : b.reply = some future) :
    b.pings a = future.pings := by
  cases b with
  | request req => cases replies
  | _ =>
      unfold Body.pings
      simp [replies]

theorem resumed_pings {future : Future} {answer : Answer}
    (pings : (Job.resumed future answer).pings) (known : answer ≠ .unitStatus none ∨
      ∀ lastRetryCount, future ≠ .pingPending lastRetryCount) : future.pings := by
  unfold Job.pings at pings
  split at pings
  · rename_i same
    cases same
  · rename_i same
    cases same
  · rename_i same
    cases same
  · rename_i same
    cases same
    rcases known with other | other
    · exact absurd rfl other
    · exact absurd rfl (other _)
  · rename_i same
    cases same
    exact pings
  · rename_i same
    cases same
    exact pings
  · cases pings

theorem Produces.pings {ctx : Ctx} {b : Body} {e : ClientEffect} (produces : Produces env ctx s b e)
    (pings : pingsFor o e) :
    ctx.origin = o ∧ (b.pings ctx.self ∨ ∃ op lastRetryCount,
      b = .unitStatus op (some (.pingPending lastRetryCount))) := by
  have silent {a : Actor} {b : Body} (quiet : b.reply = none) (request : ∀ n, b ≠ .request (.sendPing n))
      (pings : b.pings a) : False := by
    unfold Body.pings at pings
    split at pings
    · exact request _ rfl
    · simp [quiet] at pings
  cases produces with
  | note attempts =>
      cases attempts <;> exact (silent rfl (fun n same => by cases same) pings.2).elim
  | giveUp gives =>
      cases gives <;> exact (silent rfl (fun n same => by cases same) pings.2).elim
  | response packet n response =>
      unfold responseTo at response
      split at response <;> cases response <;>
        exact (silent rfl (fun n same => by cases same) pings.2).elim
  | check attempts =>
      cases attempts with
      | sendPing n self below => exact ⟨pings.1, .inl (self ▸ rfl)⟩
      | _ => cases pings.2
  | resend retries =>
      refine ⟨pings.1, .inl ?_⟩
      obtain ⟨-, pings⟩ := pings
      cases retries with
      | attempt attempts =>
          cases attempts with
          | sendPing n self below => exact self ▸ rfl
          | _ => cases pings
      | _ => cases pings
  | answer op future self =>
      refine ⟨pings.1, .inl ?_⟩
      rw [Body.pings_reply future rfl]
      exact resumed_pings pings.2 (.inl fun same => by cases same)
  | unitAnswer op future status =>
      refine ⟨pings.1, ?_⟩
      by_cases tick : ∃ lastRetryCount, future = .pingPending lastRetryCount
      · obtain ⟨lastRetryCount, rfl⟩ := tick
        exact .inr ⟨op, lastRetryCount, rfl⟩
      · refine .inl ?_
        rw [Body.pings_reply future rfl]
        exact resumed_pings pings.2 (.inr fun lastRetryCount same => tick ⟨lastRetryCount, same⟩)
  | existence id future found =>
      refine ⟨pings.1, .inl ?_⟩
      rw [Body.pings_reply future rfl]
      exact resumed_pings pings.2 (.inl fun same => by cases same)
  | _ =>
      first
        | exact pings.elim
        | exact (silent rfl (fun n same => by cases same) pings.2).elim
        | cases pings.2

theorem pingStatusKnown_sendPing {ctx : Ctx} {lastRetryCount : UInt16} {answer : Answer} {m : Msg}
    (posted : .post .pingreq m ∈ PingreqActor.pingStatusKnown ctx lastRetryCount answer) :
    answer = .unitStatus none := by
  unfold PingreqActor.pingStatusKnown at posted
  split at posted
  · rfl
  · unfold handleMailboxErrorWithResend at posted
    split at posted <;> simp [sendError, doSendStop, resend] at posted
  · cases posted

theorem Continues.pings {ctx : Ctx} {future : Future} {answer : Answer} {e : ClientEffect}
    (continues : Continues ctx future answer e) (member : e ∈ future.resume env ctx answer)
    (awaits : ctx.origin.cause.Awaits future) (fits : answer.Fits future) (pings : pingsFor o e) :
    ctx.origin = o ∧ (Job.resumed future answer).pings := by
  cases continues with
  | checked status self id check retryMsg answer passes =>
      refine ⟨pings.1, ?_⟩
      obtain ⟨-, known⟩ := awaits
      cases known with
      | sendPing n =>
          cases answer with
          | unitStatus status =>
              obtain ⟨found, rfl⟩ := Option.isSome_iff_exists.mp passes
              rfl
          | publishStatus status => cases fits
          | existence found | error e => cases passes
      | _ => cases pings.2
  | timeout => cases fits
  | sendPing lastRetryCount answer =>
      obtain rfl := pingStatusKnown_sendPing member
      exact ⟨pings.1, rfl⟩
  | _ =>
      first
        | exact pings.elim
        | cases pings.2

theorem pings_effect (genuine : genuine.Holds w)
    (reacted : w.reaction (system env) (w.results mv.full) mv.label = some (s, es))
    {e : ClientEffect} (member : e ∈ es) (pings : pingsFor o e) :
    Pinging o w ∨ ∃ op lastRetryCount, mv.label =
      .take .pingStatus ⟨o, .unitStatus op (some (.pingPending lastRetryCount))⟩ := by
  have known := genuine.source reacted
  obtain ⟨label, full⟩ := mv
  cases reaction_causes reacted e member with
  | take a m produces =>
      obtain ⟨o', b⟩ := m
      have head := List.mem_of_head? (World.reaction_take.mp reacted).2.1
      obtain ⟨rfl, here | ⟨op, n, rfl⟩⟩ := produces.pings pings
      · exact .inl (.inl ⟨a, _, head, rfl, here⟩)
      · obtain ⟨-, question⟩ := known
        obtain ⟨rfl, -⟩ := Prod.mk.inj question
        exact .inr ⟨op, n, rfl⟩
  | run t runs =>
      obtain ⟨o', job⟩ := t
      have there := (World.reaction_run.mp reacted).1
      have resumed : (resume env ⟨o', job⟩ (w.results full) w.state).2 = es :=
        congrArg Prod.snd (World.reaction_run.mp reacted).2.2
      refine .inl (.inr ⟨⟨o', job⟩, there, ?_⟩)
      cases runs with
      | resend deadline dst req =>
          obtain ⟨rfl, pings⟩ := pings
          refine ⟨rfl, ?_⟩
          cases req with
          | sendPing n => rfl
          | _ =>
              unfold Body.pings at pings
              split at pings
              · rename_i same
                cases same
              · cases pings
      | timer deadline owner future => exact pings
      | notify notice produces =>
          obtain ⟨-, here | ⟨op, n, same⟩⟩ := produces.pings pings
          · cases notice <;> cases here
          · cases same
      | closed future refused =>
          exact ⟨pings.1, resumed_pings pings.2 (.inl fun same => by cases same)⟩
      | waits future refused => exact pings
      | asks future accepts =>
          refine ⟨pings.1, ?_⟩
          have here := pings.2
          rw [Body.pings_reply future (Future.question_reply future)] at here
          exact here
      | resumed future answer continues =>
          rw [← resumed] at member
          exact continues.pings member known.1 known.2 pings
  | arrive o' arrives =>
      cases arrives <;> first | exact pings.elim | cases pings.2
  | messageClosed => exact pings.elim

theorem orphan_pings {m : Msg} {t : Task} (left : t ∈ orphan m) (pings : t.job.pings) (a : Actor) :
    m.origin = t.origin ∧ m.body.pings a := by
  obtain ⟨future, replies, rfl⟩ := orphan_reply left
  refine ⟨rfl, ?_⟩
  rw [Body.pings_reply future replies]
  exact resumed_pings pings (.inl fun same => by cases same)

/-- A ping in flight was in flight before, or a tick has just found none. -/
theorem pinging_step (genuine : genuine.Holds w) (taken : clientStep env w mv = some w')
    (pinging : Pinging o w') :
    Pinging o w ∨ ∃ op lastRetryCount, mv.label =
      .take .pingStatus ⟨o, .unitStatus op (some (.pingPending lastRetryCount))⟩ := by
  obtain ⟨s, es, reacted, -⟩ := World.fire_eq_some.mp taken
  rcases pinging with ⟨a, m, member, origin, pings⟩ | ⟨t, member, origin, pings⟩
  · rcases World.mem_mail_of_fire reacted taken member with before | posted
    · exact .inl (.inl ⟨a, m, before, origin, pings⟩)
    · exact pings_effect genuine reacted posted ⟨origin, pings⟩
  · rcases World.mem_tasks_of_fire reacted taken member with
      before | spawned | ⟨a, m, -, left, source⟩
    · exact .inl (.inr ⟨t, before, origin, pings⟩)
    · exact pings_effect genuine reacted spawned ⟨origin, pings⟩
    · obtain ⟨origin', pings'⟩ := orphan_pings left pings a
      rcases source with before | posted
      · exact .inl (.inl ⟨a, m, before, origin'.trans origin, pings'⟩)
      · exact pings_effect genuine reacted posted ⟨origin'.trans origin, pings'⟩

/-- Everything that carries a ping on stems from one tick. -/
def OnePing (w : ClientWorld) : Prop := ∀ o o', Pinging o w → Pinging o' w → o = o'

theorem not_pinging (apart : pingsApart w mv) (reads : readsForTick mv.label) (o : Origin) :
    ¬ Pinging o w := by
  obtain ⟨mail, tasks, -⟩ := apart reads
  rintro (⟨a, m, member, -, pings⟩ | ⟨t, member, -, pings⟩)
  · exact mail a m member pings
  · exact tasks t member pings

theorem onePing_step (genuine : genuine.Holds w) (one : OnePing w) (apart : pingsApart w mv)
    (taken : clientStep env w mv = some w') : OnePing w' := by
  intro o o' pinging pinging'
  rcases pinging_step genuine taken pinging with before | ⟨op, n, label⟩
  · rcases pinging_step genuine taken pinging' with before' | ⟨op, n, label⟩
    · exact one o o' before before'
    · exact absurd before (not_pinging apart (by rw [label]; rfl) o)
  · rcases pinging_step genuine taken pinging' with before' | ⟨op', n', label'⟩
    · exact absurd before' (not_pinging apart (by rw [label]; rfl) o')
    · rw [label] at label'
      cases label'
      rfl

/-! ## The messages of the status actor -/

/-- What a message does to the entry that a ping notes. -/
def Body.pingMark : Body → Mark UInt16
  | .unitStatus op _ => op.mark
  | _ => .keep

/-- A PINGRESP is registered. -/
def isPong (m : Msg) : Bool :=
  m.body.pingMark = .drop 0 &&
    match m.origin.cause with
    | .received .pingresp _ => true
    | _ => false

theorem isPong_mark {m : Msg} (pong : isPong m) : m.body.pingMark = .drop 0 := by
  simpa using (Bool.and_eq_true_iff.mp pong).1

theorem Produces.toPingStatus {ctx : Ctx} {b : Body} {m : Msg}
    (produces : Produces env ctx w.state b (.post .pingStatus m))
    (asked : b.Genuine ctx.origin.cause ctx.self) (first : ActixMqtt.ticking.mail ctx.self ⟨ctx.origin, b⟩) :
    (m.origin = ctx.origin ∧ ctx.self = .pingreq ∧ ∃ n, b = .request (.sendPing n)) ∨
      isPong m ∨ m.body.pingMark = .keep := by
  generalize shape : (Effect.post .pingStatus m : ClientEffect) = e at produces
  cases produces with
  | note attempts =>
      cases attempts with
      | sendPing n self' below =>
          cases shape
          exact .inl ⟨rfl, self', n, rfl⟩
      | _ => cases shape
  | giveUp gives =>
      cases gives with
      | sendPing n self' above =>
          cases shape
          exact .inl ⟨rfl, self', n, rfl⟩
      | pingreq n self' above =>
          obtain rfl : n = 0 := first
          exact absurd above (by decide)
      | _ => cases shape
  | response packet n response =>
      cases shape
      refine .inr (.inl ?_)
      obtain same | ⟨⟨message, cause⟩, -⟩ := asked
      · rw [same] at response
        cases response
      · unfold responseTo at response
        split at response <;> cases response
        have heard : ctx.origin.cause = .received .pingresp message := cause
        simp [isPong, Body.pingMark, StatusOperationMessage.mark, heard]
  | dispatch msg dst name self' target =>
      cases shape
      exact .inr (.inr rfl)
  | passStop recipient self' first member =>
      cases shape
      exact .inr (.inr rfl)
  | _ => cases shape

theorem pingStatus_posted {m : Msg} (genuine : genuine.Holds w) (ticking : ticking.Holds w)
    (reacted : w.reaction (system env) (w.results mv.full) mv.label = some (s, es))
    (posted : .post .pingStatus m ∈ es) :
    (∃ n, mv.label = .take .pingreq ⟨m.origin, .request (.sendPing n)⟩) ∨
      (∃ future, mv.label = .run ⟨m.origin, .spawned future⟩ ∧
        future.question = (.pingStatus, m.body)) ∨
      isPong m ∨ m.body.pingMark = .keep := by
  have source := ticking.source reacted
  cases post_step genuine reacted posted with
  | @handler self o b m handles produces =>
      have asked := handles.genuine genuine reacted
      rcases handles.label_eq with label | ⟨notice, label, rfl, rfl⟩
      · rw [label] at source
        rcases produces.toPingStatus asked source with ⟨rfl, rfl, n, rfl⟩ | other
        · exact .inl ⟨n, label⟩
        · exact .inr (.inr other)
      · rw [label] at source
        rcases produces.toPingStatus asked source with ⟨-, -, n, same⟩ | other
        · cases notice <;> cases same
        · exact .inr (.inr other)
  | asks o future b label awaits question => exact .inr (.inl ⟨future, label, question⟩)
  | note o id retryCount packet answer label qos told => cases told
  | resend | retry | pubrec | stop => exact .inr (.inr (.inr rfl))
  | arrives o label arrival =>
      generalize shape : (Effect.post .pingStatus m : ClientEffect) = e at arrival
      cases arrival <;> cases shape

/-! ## The note and the check -/

/-- What may wait behind the note of a ping until its check is answered. -/
def PingQueued (read m : Msg) : Prop :=
  m.body.pingMark ≠ .put 0 ∧ (m.body.pingMark = .drop 0 → isPong m ∨ m = read ∨
    ∃ op lastRetryCount, m.body = .unitStatus op (some (.pingPending lastRetryCount)))

/-- What may be handled between the note and the check. -/
def PingHandled (m : Msg) : Prop :=
  m.body.pingMark ≠ .put 0 ∧ (m.body.pingMark = .drop 0 → isPong m)

def pingRead (o : Origin) (n : UInt16) : Msg := ⟨o, (pingCheck n).question.2⟩

/-- Before a check that waits there is its note, and no other removal than that by a PINGRESP. -/
def PingNoted (w : ClientWorld) : Prop :=
  ∀ o n, w.live .pingStatus → Unanswered o (pingCheck n) w →
    Between .pingStatus (pingNote o n) (pingRead o n) (PingQueued (pingRead o n)) PingHandled w

theorem Unanswered.pinging {n : UInt16} (waits : Unanswered o (pingCheck n) w) : Pinging o w := by
  rcases waits with ⟨deadline, owner, member⟩ | member | member
  · exact .inr ⟨_, member, rfl, rfl⟩
  · exact .inr ⟨_, member, rfl, rfl⟩
  · exact .inl ⟨_, _, member, rfl, rfl⟩

theorem pingNoted_start {n k : UInt16} (single : successors o w ≤ 1)
    (reacted : w.reaction (system env) (w.results mv.full) mv.label = some (s, es))
    (taken : clientStep env w mv = some w') (alive : w'.live .pingStatus)
    (label : mv.label = .take .pingreq ⟨o, .request (.sendPing k)⟩)
    {e : ClientEffect} (member : e ∈ es) (asks : Asks o (pingCheck n) e) :
    Between .pingStatus (pingNote o n) (pingRead o n) (PingQueued (pingRead o n)) PingHandled w' := by
  have handles : Handles mv.label .pingreq o (.request (.sendPing k)) := by
    rw [label]
    exact .take _ _ _
  have produced : Produces env ⟨.pingreq, o, w.state.now, w.results mv.full⟩ w.state
      (.request (.sendPing k)) e := by
    have here := handleBody_produces env ⟨.pingreq, o, w.state.now, w.results mv.full⟩ w.state
      (.request (.sendPing k)) e
    rw [handles.reaction reacted] at here
    exact here member
  obtain ⟨-, rfl, att, attempts, checks⟩ := produced.asks rfl asks
  have begins : Begins env w mv es o (pingCheck n) .pingreq (.request (.sendPing k)) att :=
    ⟨handles, attempts, checks, member⟩
  refine Between.start reacted taken alive ?_ (begins.fresh single reacted nofun)
  obtain ⟨-, through⟩ := handles.through attempts reacted member rfl
  cases attempts with
  | sendPing k self below =>
      obtain rfl : k + 1 = n := by
        simpa [pingCheck] using checks
      simp [through, posts, pingNote]

/-- While the check of a ping waits, nothing else sets the entry, and a PINGRESP, the check and a
    tick are all that may remove it. -/
theorem pingQueued_step {n : UInt16} {m : Msg} (genuine : genuine.Holds w) (ticking : ticking.Holds w)
    (single : successors o w ≤ 1) (one : OnePing w) (taken : clientStep env w mv = some w')
    (reacted : w.reaction (system env) (w.results mv.full) mv.label = some (s, es))
    (before : Unanswered o (pingCheck n) w) (waits : Unanswered o (pingCheck n) w')
    (other : ∀ k, mv.label ≠ .take .pingreq ⟨o, .request (.sendPing k)⟩)
    (posted : .post .pingStatus m ∈ es) : PingQueued (pingRead o n) m := by
  rcases pingStatus_posted genuine ticking reacted posted with
    ⟨k, label⟩ | ⟨future, label, question⟩ | pong | quiet
  · refine absurd ?_ (other k)
    have there := (World.reaction_take.mp (label ▸ reacted)).2.1
    rw [one o m.origin before.pinging
      (.inl ⟨_, _, List.mem_of_head? there, rfl, rfl⟩)]
    exact label
  · have known := genuine.source reacted
    rw [label] at known
    obtain ⟨there, -⟩ := World.reaction_run.mp (label ▸ reacted)
    obtain ⟨o', b⟩ := m
    cases future with
    | statusCheck status self id check retryMsg =>
        obtain ⟨-, check⟩ := known
        cases check with
        | sendPing k =>
            obtain rfl : o = o' := one o o' before.pinging (.inr ⟨_, there, rfl, rfl⟩)
            have carries : carriesOn o mv.label := by
              rw [label]
              simp [carriesOn, Job.succeeds]
            obtain ⟨e, member, asks⟩ := unanswered_carried single reacted taken carries waits
            cases spawned_asks reacted label member asks
            obtain ⟨-, rfl⟩ := Prod.mk.inj question
            exact ⟨by simp [Body.pingMark, StatusOperationMessage.mark], fun _ => .inr (.inl rfl)⟩
        | _ => cases question
    | pingPending k =>
        obtain ⟨-, rfl⟩ := Prod.mk.inj question
        exact ⟨by simp [Body.pingMark, StatusOperationMessage.mark], fun _ => .inr (.inr ⟨_, k, rfl⟩)⟩
    | _ => cases question
  · exact ⟨by simp [isPong_mark pong], fun _ => .inl pong⟩
  · exact ⟨by simp [quiet], by simp [quiet]⟩

theorem pingNoted_step (genuine : genuine.Holds w) (ticking : ticking.Holds w)
    (single : ∀ o, successors o w ≤ 1) (one : OnePing w) (apart : pingsApart w mv)
    (noted : PingNoted w) (taken : clientStep env w mv = some w') : PingNoted w' := by
  intro o n alive waits
  obtain ⟨s, es, reacted, -⟩ := World.fire_eq_some.mp taken
  by_cases attempted : ∃ k, mv.label = .take .pingreq ⟨o, .request (.sendPing k)⟩
  · obtain ⟨k, label⟩ := attempted
    have carries : carriesOn o mv.label := by
      rw [label]
      simp [carriesOn, Body.succeeds]
    obtain ⟨e, member, asks⟩ := unanswered_carried (single o) reacted taken carries waits
    exact pingNoted_start (single o) reacted taken alive label member asks
  · have before : Unanswered o (pingCheck n) w := by
      rcases unanswered_step reacted taken rfl waits with before | ⟨self, b, att, begins⟩
      · exact before
      · obtain ⟨handles, attempts, check, -⟩ := begins
        cases attempts with
        | sendPing k self' below =>
            obtain rfl : self = .pingreq := self'
            rcases handles.label_eq with label | ⟨notice, label, owner, same⟩
            · exact absurd ⟨k, label⟩ attempted
            · cases notice <;> cases same
        | _ => cases check
    refine Between.fire reacted taken alive (fun m posted => ?_) (fun m label queued => ?_)
      (noted o n (World.fire_live_le taken alive) before)
    · exact pingQueued_step genuine ticking (single o) one taken reacted before waits
        (fun k label => attempted ⟨k, label⟩) (mem_posts.mp posted)
    · refine ⟨queued.1, fun drops => ?_⟩
      rcases queued.2 drops with pong | rfl | ⟨op, k, body⟩
      · exact pong
      · have carries : carriesOn o mv.label := by
          rw [label]
          exact Future.question_carriesOn o (pingCheck n)
        obtain ⟨e, member, asks⟩ := unanswered_carried (single o) reacted taken carries waits
        exact (read_silent reacted label member asks).elim
      · obtain ⟨o', b⟩ := m
        obtain rfl : b = _ := body
        exact absurd before.pinging (not_pinging apart (by rw [label]; rfl) o)

/-! ## What the check finds -/

def pingKeys (s : State) : Set UInt16 := {id | id ∈ s.pingStatus}

theorem pingKeys_step
    (reacted : w.reaction (system env) (w.results mv.full) mv.label = some (s, es)) :
    (∀ m, mv.label = .take .pingStatus m → pingKeys s = m.body.pingMark.on (pingKeys w.state)) ∧
      ((∀ m, mv.label ≠ .take .pingStatus m) → pingKeys s = pingKeys w.state) := by
  constructor
  · rintro ⟨o, b⟩ label
    obtain ⟨-, -, handled⟩ := World.reaction_take.mp (label ▸ reacted)
    obtain ⟨rfl, -⟩ := Prod.mk.inj handled
    cases b with
    | unitStatus op future => exact PacketStatusActor.handle_keys w.state.pingStatus op
    | _ => rfl
  · intro other
    rcases state_step reacted with ⟨a, m, label, changed⟩ | ⟨-, changed⟩
    · have apart : a ≠ .pingStatus := fun same => other m (same ▸ label)
      cases a
      case pingStatus => exact absurd rfl apart
      all_goals
        simp only [State.ChangedBy] at changed
        rw [pingKeys, pingKeys, changed]
    · rw [pingKeys, pingKeys, changed]

theorem pingKeys_run {seed : Nat} {ls : List ClientMove} (run : Run env seed ls w) :
    pingKeys w.state = settle ((handled .pingStatus w.log).reverse.map (·.body.pingMark)) ∅ := by
  refine settles_run (·.body.pingMark) pingKeys ?_ (fun _ _ _ _ reacted => pingKeys_step reacted) run
  simp [init, pingKeys]

theorem pingRead_found {seed : Nat} {ls : List ClientMove} {n : UInt16} (run : Run env seed ls w)
    (noted : PingNoted w) (alive : w.live .pingStatus)
    (next : (w.mail .pingStatus).head? = some (pingRead o n)) :
    ∃ later earlier, handled .pingStatus w.log = later ++ pingNote o n :: earlier ∧
      (∀ m ∈ later ++ w.mail .pingStatus, m.body.pingMark ≠ .put 0) ∧
      (0 ∈ w.state.pingStatus ↔ ¬ later.any isPong) := by
  have waits : Unanswered o (pingCheck n) w := .inr (.inr (List.mem_of_head? next))
  obtain ⟨later, earlier, order, quiet, calm⟩ := (noted o n alive waits).at_last next (fun same => by
    cases (Msg.mk.inj same).2)
  have unset : ∀ m ∈ later ++ w.mail .pingStatus, m.body.pingMark ≠ .put 0 := fun m member =>
    (List.mem_append.mp member).elim (fun old => (quiet m old).1) (fun new => (calm m new).1)
  refine ⟨later, earlier, order, unset, ?_⟩
  have keys : 0 ∈ pingKeys w.state ↔ ∀ m ∈ later, m.body.pingMark ≠ .drop 0 := by
    rw [pingKeys_run run, order]
    exact mem_settle_since (fun m => m.body.pingMark) (pingNote o n) rfl fun m member =>
      (quiet m member).1
  rw [show 0 ∈ w.state.pingStatus ↔ 0 ∈ pingKeys w.state from Iff.rfl, keys]
  constructor
  · intro kept removed
    obtain ⟨m, member, pong⟩ := List.any_eq_true.mp removed
    exact kept m member (isPong_mark pong)
  · intro kept m member drops
    exact kept (List.any_eq_true.mpr ⟨m, member, (quiet m member).2 drops⟩)

theorem pingRead_reaction {n : UInt16} (label : mv.label = .take .pingStatus (pingRead o n))
    (reacted : w.reaction (system env) (w.results mv.full) mv.label = some (s, es)) :
    es = [.spawn ⟨o, .resumed (pingCheck n) (.unitStatus (w.state.pingStatus.lookup 0))⟩] := by
  rw [label] at reacted
  have handled : (_, reply _ (.unitStatus (PacketStatusActor.handle w.state.pingStatus
      (.getAndRemovePacketStatus 0)).2) (some _)) = (s, es) := (World.reaction_take.mp reacted).2.2
  rw [PacketStatusActor.handle_getAndRemove] at handled
  exact (Prod.mk.inj handled).2.symm

/-! ## What becomes of a ping -/

/-- The parts of a ping's chain. -/
inductive PingAt (o : Origin) (w : ClientWorld) : Prop where
  | sending (n : UInt16) (there : onTheWay o .pingreq (.sendPing n) w)
  | timer (n : UInt16) (deadline : Nat)
      (there : ⟨o, .timer deadline (some .pingreq) (pingCheck n)⟩ ∈ w.tasks)
  | spawned (n : UInt16) (there : ⟨o, .spawned (pingCheck n)⟩ ∈ w.tasks)
  | reading (n : UInt16) (there : pingRead o n ∈ w.mail .pingStatus)
  | found (n : UInt16) (answer : Answer) (there : ⟨o, .resumed (pingCheck n) answer⟩ ∈ w.tasks)
      (pings : (Job.resumed (pingCheck n) answer).pings)
  | starting (lastRetryCount : UInt16)
      (there : ⟨o, .resumed (.pingPending lastRetryCount) (.unitStatus none)⟩ ∈ w.tasks)

theorem Future.pings_check {future : Future} (awaits : o.cause.Awaits future) (pings : future.pings) :
    ∃ n, future = pingCheck n := by
  unfold Future.pings at pings
  split at pings
  · obtain ⟨-, check⟩ := awaits
    cases check with
    | sendPing n => exact ⟨n, rfl⟩
  · cases pings

theorem Body.pings_cases {a : Actor} {b : Body} (pings : b.pings a) :
    (a = .pingreq ∧ ∃ n, b = .request (.sendPing n)) ∨
      ∃ future, b.reply = some future ∧ future.pings := by
  unfold Body.pings at pings
  split at pings
  · exact .inl ⟨rfl, _, rfl⟩
  · exact .inr (by simpa [Option.any_eq_true] using pings)

theorem pingAt_of_task {job : Job} (genuine : genuine.Holds w) (ticking : ticking.Holds w)
    (member : ⟨o, job⟩ ∈ w.tasks) (pings : job.pings) : PingAt o w := by
  have known := genuine.tasks _ member
  cases job with
  | resend deadline dst req =>
      cases req with
      | sendPing n =>
          obtain ⟨-, home⟩ := known
          cases home
          exact .sending n (.inl ⟨deadline, member⟩)
      | _ => cases pings
  | timer deadline owner future =>
      obtain rfl : owner = some .pingreq := (ticking.tasks _ member).2 pings
      obtain ⟨n, rfl⟩ := Future.pings_check known pings
      exact .timer n deadline member
  | spawned future =>
      obtain ⟨n, rfl⟩ := Future.pings_check known pings
      exact .spawned n member
  | resumed future answer =>
      by_cases tick : answer = .unitStatus none ∧ ∃ lastRetryCount, future = .pingPending lastRetryCount
      · obtain ⟨rfl, n, rfl⟩ := tick
        exact .starting n member
      · have waiting : future.pings := resumed_pings pings (by
          by_cases same : answer = .unitStatus none
          · exact .inr fun n same' => tick ⟨same, n, same'⟩
          · exact .inl same)
        obtain ⟨n, rfl⟩ := Future.pings_check known.1 waiting
        exact .found n answer member pings
  | notify notice => cases pings

theorem pingAt_iff (genuine : genuine.Holds w) (ticking : ticking.Holds w) :
    Pinging o w ↔ PingAt o w := by
  constructor
  · rintro (⟨a, ⟨o, b⟩, member, rfl, pings⟩ | ⟨⟨o, job⟩, member, rfl, pings⟩)
    · rcases Body.pings_cases pings with ⟨rfl, n, rfl⟩ | ⟨future, replies, pings⟩
      · exact .sending n (.inr member)
      · obtain ⟨awaits, question⟩ := (genuine.mail a _ member).of_reply replies
        obtain ⟨n, rfl⟩ := Future.pings_check awaits pings
        obtain ⟨rfl, rfl⟩ := Prod.mk.inj question
        exact .reading n member
    · exact pingAt_of_task genuine ticking member pings
  · intro there
    cases there with
    | sending n there =>
        rcases there with ⟨deadline, member⟩ | member
        · exact .inr ⟨_, member, rfl, rfl⟩
        · exact .inl ⟨_, _, member, rfl, rfl⟩
    | timer n deadline there | spawned n there => exact .inr ⟨_, there, rfl, rfl⟩
    | reading n there => exact .inl ⟨_, _, there, rfl, rfl⟩
    | found n answer there pings => exact .inr ⟨_, there, rfl, pings⟩
    | starting n there => exact .inr ⟨_, there, rfl, rfl⟩

/-- A PINGRESP has been registered since the last note of the chain. -/
def PingAnswered (o : Origin) (w : ClientWorld) : Prop :=
  ∃ n later earlier, handled .pingStatus w.log = later ++ pingNote o n :: earlier ∧
    later.any isPong ∧ ∀ m ∈ later ++ w.mail .pingStatus, m.origin = o → m.body.pingMark ≠ .put 0

/-- The retries of the chain are used up. -/
def PingExhausted (o : Origin) (w : ClientWorld) : Prop :=
  ∃ n, n > maxRetryCount ∧ .took .pingreq ⟨o, .request (.sendPing n)⟩ ∈ w.log

def PingOver (o : Origin) (w : ClientWorld) : Prop := PingAnswered o w ∨ PingExhausted o w

theorem pingOver_step (genuine : genuine.Holds w) (ticking : ticking.Holds w)
    (silent : ¬ Pinging o w) (ended : PingOver o w) (taken : clientStep env w mv = some w') :
    PingOver o w' := by
  obtain ⟨s, es, reacted, -⟩ := World.fire_eq_some.mp taken
  rcases ended with ⟨n, later, earlier, order, answered, unset⟩ | ⟨n, above, gaveUp⟩
  · have unset' : ∀ m ∈ w'.mail .pingStatus, m.origin = o → m.body.pingMark ≠ .put 0 := by
      intro m member origin
      rcases World.mem_mail_of_fire reacted taken member with before | posted
      · exact unset m (List.mem_append_right _ before) origin
      · rcases pingStatus_posted genuine ticking reacted posted with
          ⟨k, label⟩ | ⟨future, label, question⟩ | pong | quiet
        · have there := (World.reaction_take.mp (label ▸ reacted)).2.1
          exact absurd (.inl ⟨_, _, List.mem_of_head? there, origin, rfl⟩) silent
        · obtain ⟨o', b⟩ := m
          obtain rfl : b = future.question.2 := by rw [question]
          cases future with
          | statusCheck status self id check retryMsg =>
              cases status <;> simp [Future.question, Body.pingMark, StatusOperationMessage.mark]
          | _ => simp [Future.question, Body.pingMark, StatusOperationMessage.mark]
        · simp [isPong_mark pong]
        · simp [quiet]
    refine .inl ?_
    by_cases taking : ∃ m, mv.label = .take .pingStatus m
    · obtain ⟨m, label⟩ := taking
      refine ⟨n, m :: later, earlier, ?_, ?_, fun m' member origin => ?_⟩
      · rw [handled_take reacted taken label, order, List.cons_append]
      · simp [answered]
      · rcases List.mem_append.mp member with old | new
        · rcases List.mem_cons.mp old with rfl | old
          · have head := (World.reaction_take.mp (label ▸ reacted)).2.1
            exact unset _ (List.mem_append_right _ (List.mem_of_head? head)) origin
          · exact unset m' (List.mem_append_left _ old) origin
        · exact unset' m' new origin
    · refine ⟨n, later, earlier, ?_, answered, fun m member origin => ?_⟩
      · rw [handled_other reacted taken fun m same => taking ⟨m, same⟩, order]
      · rcases List.mem_append.mp member with old | new
        · exact unset m (List.mem_append_left _ old) origin
        · exact unset' m new origin
  · exact .inr ⟨n, above, (took_step taken).mpr (.inr gaveUp)⟩

theorem sendPing_onward {n : UInt16} (inv : StopsOnRequest w)
    (taken : clientStep env w mv = some w')
    (label : mv.label = .take .pingreq ⟨o, .request (.sendPing n)⟩) :
    PingAt o w' ∨ PingOver o w' ∨ stopRequested w' := by
  obtain ⟨s, es, reacted, -⟩ := World.fire_eq_some.mp taken
  by_cases above : n > maxRetryCount
  · exact .inr (.inl (.inr ⟨n, above, (took_step taken).mpr (.inl label)⟩))
  have handles : Handles mv.label .pingreq o (.request (.sendPing n)) := by
    rw [label]
    exact .take _ _ _
  have attempts : Attempts env ⟨.pingreq, o, w.state.now, w.results mv.full⟩ w.state
      (.request (.sendPing n)) _ := .sendPing n rfl above
  rcases attempts.reaction handles reacted with stop | ⟨retry, -⟩ | through
  · exact .inr (.inr (stopRequested_of_post inv taken reacted stop))
  · exact .inl (.sending (n + 1) (onTheWay_of_resend reacted taken retry))
  · cases alive : w'.live .pingreq with
    | true =>
        refine .inl (.timer (n + 1) (w.state.now + commandTimeout)
          (World.mem_tasks_of_spawn_fire reacted taken ?_ (by
            rw [through]
            simp [pingCheck])))
        intro a owned
        cases owned
        exact alive
    | false => exact .inr (.inr ((stopsOnRequest_step inv taken).stopped .pingreq rfl alive))

theorem found_onward {n : UInt16} {answer : Answer} (inv : StopsOnRequest w)
    (genuine : genuine.Holds w) (taken : clientStep env w mv = some w')
    (pings : (Job.resumed (pingCheck n) answer).pings)
    (label : mv.label = .run ⟨o, .resumed (pingCheck n) answer⟩) :
    PingAt o w' ∨ stopRequested w' := by
  obtain ⟨s, es, reacted, -⟩ := World.fire_eq_some.mp taken
  have known := genuine.source reacted
  rw [label] at known
  have resumed : (pingCheck n).resume env ⟨.pingreq, o, w.state.now, w.results mv.full⟩ answer = es :=
    congrArg Prod.snd (World.reaction_run.mp (label ▸ reacted)).2.2
  cases answer with
  | unitStatus status =>
      cases status with
      | none => cases pings
      | some status =>
          have posted : .post .pingreq ⟨o, .request (.sendPing n)⟩ ∈ es := by
            rw [← resumed]
            exact List.mem_singleton.mpr rfl
          rcases onTheWay_of_post inv rfl reacted taken posted with stop | there
          · exact .inr stop
          · exact .inl (.sending n there)
  | error e =>
      obtain rfl : e = .closed := known.2
      refine .inr (stopRequested_of_post inv taken reacted (o := o) ?_)
      rw [← resumed]
      simp [pingCheck, Future.resume, statusChecked, handleMailboxErrorWithResend, sendError,
        doSendStop]
  | _ => cases pings

theorem reading_onward {seed : Nat} {ls : List ClientMove} {n : UInt16} (run : Run env seed ls w)
    (noted : PingNoted w) (taken : clientStep env w mv = some w')
    (label : mv.label = .take .pingStatus (pingRead o n)) : PingAt o w' ∨ PingOver o w' := by
  obtain ⟨s, es, reacted, -⟩ := World.fire_eq_some.mp taken
  obtain ⟨alive, next, -⟩ := World.reaction_take.mp (label ▸ reacted)
  obtain ⟨later, earlier, order, unset, found⟩ := pingRead_found run noted alive next
  have answered := pingRead_reaction label reacted
  have spawned : ⟨o, .resumed (pingCheck n) (.unitStatus (w.state.pingStatus.lookup 0))⟩ ∈ w'.tasks :=
    World.mem_tasks_of_spawn_fire reacted taken (fun a owned => by cases owned) (by
      rw [answered]
      exact List.mem_singleton.mpr rfl)
  cases entry : w.state.pingStatus.lookup 0 with
  | some status =>
      rw [entry] at spawned
      exact .inl (.found n _ spawned rfl)
  | none =>
      have registered : later.any isPong := by
        by_contra none
        exact (AList.lookup_eq_none.mp entry) (found.mpr none)
      refine .inr (.inl ⟨n, pingRead o n :: later, earlier, ?_, ?_, fun m member _ => ?_⟩)
      · rw [handled_take reacted taken label, order, List.cons_append]
      · simp [registered]
      · rcases List.mem_append.mp member with old | new
        · rcases List.mem_cons.mp old with rfl | old
          · exact unset _ (List.mem_append_right _ (List.mem_of_head? next))
          · exact unset m (List.mem_append_left _ old)
        · rcases World.mem_mail_of_fire reacted taken new with before | posted
          · exact unset m (List.mem_append_right _ before)
          · simp [answered] at posted

theorem Pursued.pingAt {n : UInt16} (ticking : ticking.Holds w)
    (pursued : Pursued o (pingCheck n) w) : PingAt o w := by
  rcases pursued with ⟨deadline, owner, member, -⟩ | member | member
  · obtain rfl : owner = some .pingreq := (ticking.tasks _ member).2 rfl
    exact .timer n deadline member
  · exact .spawned n member
  · exact .reading n member

/-- A ping goes on until it is answered, its retries are used up, or the client is asked to stop. -/
theorem ping_onward {seed : Nat} {ls : List ClientMove} (run : Run env seed ls w)
    (inv : StopsOnRequest w) (genuine : genuine.Holds w) (ticking : ticking.Holds w)
    (noted : PingNoted w) (there : PingAt o w) (taken : clientStep env w mv = some w') :
    PingAt o w' ∨ PingOver o w' ∨ stopRequested w' := by
  obtain ⟨s, es, reacted, -⟩ := World.fire_eq_some.mp taken
  have waiting {n : UInt16} (pursued : Pursued o (pingCheck n) w) :
      PingAt o w' ∨ PingOver o w' ∨ stopRequested w' := by
    by_cases running : stopRequested w'
    · exact .inr (.inr running)
    · rcases pursued_step (stopsOnRequest_step inv taken) running rfl taken pursued with
        there | label
      · exact .inl (there.pingAt (ticking_step genuine ticking taken))
      · rcases reading_onward run noted taken label with there | ended
        · exact .inl there
        · exact .inr (.inl ended)
  cases there with
  | sending n there =>
      rcases onTheWay_step inv rfl taken there with stop | there | label
      · exact .inr (.inr stop)
      · exact .inl (.sending n there)
      · exact sendPing_onward inv taken label
  | timer n deadline there => exact waiting (.inl ⟨deadline, _, there, rfl⟩)
  | spawned n there => exact waiting (.inr (.inl there))
  | reading n there => exact waiting (.inr (.inr there))
  | found n answer there pings =>
      by_cases now : mv.label = .run ⟨o, .resumed (pingCheck n) answer⟩
      · rcases found_onward inv genuine taken pings now with there | stop
        · exact .inl there
        · exact .inr (.inr stop)
      · exact .inl (.found n answer
          (World.mem_tasks_fire taken (fun a owned => by cases owned) there now) pings)
  | starting k there =>
      by_cases now : mv.label = .run ⟨o, .resumed (.pingPending k) (.unitStatus none)⟩
      · have resumed : (resume env ⟨o, .resumed (.pingPending k) (.unitStatus none)⟩
            (w.results mv.full) w.state).2 = es :=
          congrArg Prod.snd (World.reaction_run.mp (now ▸ reacted)).2.2
        have posted : .post .pingreq ⟨o, .request (.sendPing 0)⟩ ∈ es := by
          rw [← resumed]
          exact List.mem_singleton.mpr rfl
        rcases onTheWay_of_post inv rfl reacted taken posted with stop | there
        · exact .inr (.inr stop)
        · exact .inl (.sending 0 there)
      · exact .inl (.starting k
          (World.mem_tasks_fire taken (fun a owned => by cases owned) there now))

/-! ## One ping at a time -/

theorem queued_pings (reacted : w.reaction (system env) (w.results mv.full) mv.label = some (s, es))
    (queued : .emit (.queued o .pingreq) ∈ es) : Pinging o w := by
  rcases queued_reaction reacted queued with ⟨a, b, handles, sends⟩ | ⟨id, packet, n, answer, -, same⟩
  · generalize shape : VariablePacket.pingreq = packet at sends
    cases sends with
    | attempt attempts =>
        cases attempts with
        | sendPing n self below =>
            obtain rfl : a = .pingreq := self
            rcases handles.label_eq with label | ⟨notice, label, owner, same⟩
            · have there := (World.reaction_take.mp (label ▸ reacted)).2.1
              exact .inl ⟨_, _, List.mem_of_head? there, rfl, rfl⟩
            · cases notice <;> cases same
        | _ => cases shape
    | _ => cases shape
  · cases same

/-- A tick has just found no ping on-going. -/
theorem starting_step {k : UInt16} (genuine : genuine.Holds w)
    (reacted : w.reaction (system env) (w.results mv.full) mv.label = some (s, es))
    (taken : clientStep env w mv = some w')
    (starts : ⟨o, .resumed (.pingPending k) (.unitStatus none)⟩ ∈ w'.tasks) :
    ⟨o, .resumed (.pingPending k) (.unitStatus none)⟩ ∈ w.tasks ∨ ∃ op,
      mv.label = .take .pingStatus ⟨o, .unitStatus op (some (.pingPending k))⟩ := by
  rcases World.mem_tasks_of_fire reacted taken starts with before | spawned | ⟨a, m, -, left, -⟩
  · exact .inl before
  · refine .inr ?_
    have known := genuine.source reacted
    obtain ⟨label, full⟩ := mv
    generalize shape : (Effect.spawn ⟨o, .resumed (.pingPending k) (.unitStatus none)⟩ :
      ClientEffect) = e at spawned
    cases reaction_causes reacted _ spawned with
    | take a m produces =>
        obtain ⟨o', b⟩ := m
        cases produces with
        | unitAnswer op future status =>
            cases shape
            obtain ⟨-, question⟩ := known
            obtain ⟨rfl, -⟩ := Prod.mk.inj question
            exact ⟨op, rfl⟩
        | _ => cases shape
    | run t runs =>
        obtain ⟨o', job⟩ := t
        cases runs with
        | notify notice produces => cases notice <;> cases produces <;> cases shape
        | resumed future answer continues => cases continues <;> cases shape
        | _ => cases shape
    | arrive o' arrives => cases arrives <;> cases shape
    | messageClosed => cases shape
  · obtain ⟨future, -, same⟩ := orphan_reply left
    cases same

theorem starting_unqueued {seed : Nat} {ls : List ClientMove} {k : UInt16} (run : Run env seed ls w)
    (starts : ⟨o, .resumed (.pingPending k) (.unitStatus none)⟩ ∈ w.tasks) :
    .emitted (.queued o .pingreq) ∉ w.log := by
  intro queued
  have ticked : o.cause = .tick := ((genuine_run run).tasks _ starts).1
  have retransmits : o.cause.Retransmits := by
    rw [ticked]
    exact True.intro
  have counted := ChainWeight.queuedFor_le_past retransmits
    fun packet member => (genuine_run run).log _ (mem_queuedFor member)
  have here : 0 < (queuedFor o w.log).length := by
    refine List.length_pos_of_mem (a := .pingreq) (List.mem_filterMap.mpr ⟨_, queued, ?_⟩)
    simp
  -- the start alone allows as many packets as an origin may cause
  have allowed : maxRetryCount.toNat + 1 ≤ (ChainWeight.left.only o).toWeight.flow w := by
    have share : (ChainWeight.left.only o).job o
        (.resumed (.pingPending k) (.unitStatus none)) ≤
          (w.tasks.map (ChainWeight.left.only o).toWeight.task).sum :=
      List.le_sum_of_mem (List.mem_map.mpr ⟨_, starts, rfl⟩)
    rw [ChainWeight.job_only, if_pos rfl] at share
    exact share.trans (Nat.le_add_left _ _)
  have total := left_le run o
  rw [ChainWeight.total] at total
  omega

/-- What holds while no tick reads the entry of a ping that is in flight. -/
structure PingsKept (w : ClientWorld) : Prop where
  genuine : genuine.Holds w
  ticking : ticking.Holds w
  stops : StopsOnRequest w
  one : OnePing w
  noted : PingNoted w
  onward : ∀ o, .emitted (.queued o .pingreq) ∈ w.log → Pinging o w ∨ PingOver o w ∨ stopRequested w
  alone : ∀ o k, ⟨o, .resumed (.pingPending k) (.unitStatus none)⟩ ∈ w.tasks →
    ∀ o', .emitted (.queued o' .pingreq) ∈ w.log → o' ≠ o → PingOver o' w

theorem not_pinging_init (env : Env) (seed : Nat) (o : Origin) : ¬ Pinging o (init env seed) := by
  rintro (⟨a, m, member, -, pings⟩ | ⟨t, member, -, pings⟩)
  · simp only [init] at member
    split at member
    · obtain ⟨recipient, -, rfl⟩ := List.mem_map.mp member
      rename_i same
      rw [same] at pings
      cases pings
    · cases member
  · obtain rfl := List.mem_singleton.mp member
    cases pings

theorem pingsKept_init (env : Env) (seed : Nat) : PingsKept (init env seed) where
  genuine := genuine_init env seed
  ticking := ticking_init env seed
  stops := stopsOnRequest_init env seed
  one o o' pinging := absurd pinging (not_pinging_init env seed o)
  noted o n alive waits := absurd waits.pinging (not_pinging_init env seed o)
  onward o queued := by cases queued
  alone o k starts o' queued := by cases queued

theorem pingsKept_step {seed : Nat} {ls : List ClientMove} (run : Run env seed ls w)
    (kept : PingsKept w) (apart : pingsApart w mv) (taken : clientStep env w mv = some w') :
    PingsKept w' := by
  obtain ⟨s, es, reacted, -⟩ := World.fire_eq_some.mp taken
  have genuine' := genuine_step kept.genuine taken
  have ticking' := ticking_step kept.genuine kept.ticking taken
  refine ⟨genuine', ticking', stopsOnRequest_step kept.stops taken,
    onePing_step kept.genuine kept.one apart taken,
    pingNoted_step kept.genuine kept.ticking (successors_le run) kept.one apart kept.noted taken,
    fun o queued => ?_, fun o k starts o' queued other => ?_⟩
  · have before : Pinging o w ∨ PingOver o w ∨ stopRequested w := by
      rcases (emitted_step reacted taken).mp queued with now | before
      · exact .inl (queued_pings reacted now)
      · exact kept.onward o before
    by_cases pinging : Pinging o w
    · rcases ping_onward run kept.stops kept.genuine kept.ticking kept.noted
        ((pingAt_iff kept.genuine kept.ticking).mp pinging) taken with there | ended
      · exact .inl ((pingAt_iff genuine' ticking').mpr there)
      · exact .inr ended
    · rcases before.resolve_left pinging with ended | stop
      · exact .inr (.inl (pingOver_step kept.genuine kept.ticking pinging ended taken))
      · exact .inr (.inr (stopRequested_step kept.stops taken stop))
  · rcases starting_step kept.genuine reacted taken starts with there | ⟨op, label⟩
    · have silent : ¬ Pinging o' w := fun pinging => other
        (kept.one o' o pinging ((pingAt_iff kept.genuine kept.ticking).mpr (.starting k there)))
      rcases (emitted_step reacted taken).mp queued with now | before
      · exact absurd (queued_pings reacted now) silent
      · exact pingOver_step kept.genuine kept.ticking silent (kept.alone o k there o' before other)
          taken
    · have reads : readsForTick mv.label := by
        rw [label]
        rfl
      have silent := not_pinging apart reads o'
      rcases (emitted_step reacted taken).mp queued with now | before
      · exact absurd (queued_pings reacted now) silent
      · have ended := ((kept.onward o' before).resolve_left silent).resolve_right (apart reads).2.2
        exact pingOver_step kept.genuine kept.ticking silent ended taken

end Pings

theorem pingsKept_run {env : Env} {seed : Nat} {ls : List ClientMove} {w : ClientWorld}
    (apart : Along (clientStep env) pingsApart (init env seed) ls) (run : Run env seed ls w) :
    PingsKept w := by
  have reached : (∃ ls, Run env seed ls w) ∧ PingsKept w := by
    refine exec_invariant (fun w => (∃ ls, Run env seed ls w) ∧ PingsKept w) ?_
      ⟨⟨[], rfl⟩, pingsKept_init env seed⟩ apart run
    rintro w mv w' ⟨⟨ls, run⟩, kept⟩ apart taken
    exact ⟨⟨_, run.step taken⟩, pingsKept_step run kept apart taken⟩
  exact reached.2

/-- While no tick reads the entry of a ping in flight, a check sends the ping again unless a PINGRESP
    has been registered since its note, and a tick starts a ping only when every earlier one has been
    answered or its retries are used up. -/
theorem ping_undisturbed {env : Env} {seed : Nat} {ls : List ClientMove} {w : ClientWorld}
    (apart : Along (clientStep env) pingsApart (init env seed) ls) (run : Run env seed ls w) :
    (∀ (mv : ClientMove) s es o n, mv.label = .take .pingStatus (pingRead o n) →
      w.reaction (system env) (w.results mv.full) mv.label = some (s, es) →
      ∃ later earlier answer, handled .pingStatus w.log = later ++ pingNote o n :: earlier ∧
        .spawn ⟨o, .resumed (pingCheck n) answer⟩ ∈ es ∧ ∀ ctx,
          (pingCheck n).resume env ctx answer =
            if later.any isPong then [] else [.post .pingreq ⟨ctx.origin, .request (.sendPing n)⟩]) ∧
      ∀ (mv : ClientMove) s es o k answer, mv.label = .run ⟨o, .resumed (.pingPending k) answer⟩ →
        w.reaction (system env) (w.results mv.full) mv.label = some (s, es) →
        .post .pingreq ⟨o, .request (.sendPing 0)⟩ ∈ es →
        ∀ o', .emitted (.queued o' .pingreq) ∈ w.log → PingOver o' w := by
  have kept := pingsKept_run apart run
  constructor
  · intro mv s es o n label reacted
    obtain ⟨alive, next, -⟩ := World.reaction_take.mp (label ▸ reacted)
    obtain ⟨later, earlier, order, -, found⟩ := pingRead_found run kept.noted alive next
    refine ⟨later, earlier, .unitStatus (w.state.pingStatus.lookup 0), order, ?_, fun ctx => ?_⟩
    · rw [pingRead_reaction label reacted]
      exact List.mem_singleton.mpr rfl
    · have known : ∀ e, Answer.unitStatus (w.state.pingStatus.lookup 0) ≠ .error e :=
        fun e same => by cases same
      have resumes : (0 ∈ w.state.pingStatus →
            (pingCheck n).resume env ctx (.unitStatus (w.state.pingStatus.lookup 0)) =
              [.post .pingreq ⟨ctx.origin, .request (.sendPing n)⟩]) ∧
          (0 ∉ w.state.pingStatus →
            (pingCheck n).resume env ctx (.unitStatus (w.state.pingStatus.lookup 0)) = []) :=
        resume_found rfl known ctx
      split
      · rename_i registered
        exact resumes.2 fun present => found.mp present registered
      · rename_i unanswered
        exact resumes.1 (found.mpr unanswered)
  · intro mv s es o k answer label reacted posted o' queued
    obtain ⟨there, -, resumed⟩ := World.reaction_run.mp (label ▸ reacted)
    obtain ⟨-, rfl⟩ := Prod.mk.inj resumed
    obtain rfl := pingStatusKnown_sendPing posted
    by_cases same : o' = o
    · subst same
      exact absurd queued (starting_unqueued run there)
    · exact kept.alone o k there o' queued same

def firstTicker : Origin := ⟨0, .tick⟩

/-- The first tick sends a ping, whose check comes after five seconds. -/
def pingUnanswered : List Turn :=
  acceptedConnect ++ [.task 1, .task 0, .handle .connectStatus, .task 0, .task 0,
    .handle .pingStatus, .task 0, .handle .pingreq, .handle .pingStatus,
    .give (.advance commandTimeout), .task 0, .task 0]

theorem ping_undisturbed_unanswered :
    ∃ w s es answer,
      Run plainEnv 0 (schedule plainEnv (init plainEnv 0) pingUnanswered) w ∧
        w.reaction (system plainEnv) (w.results fun _ => false)
          (.take .pingStatus (pingRead firstTicker 1)) = some (s, es) ∧
        .spawn ⟨firstTicker, .resumed (pingCheck 1) answer⟩ ∈ es ∧ ∀ ctx,
          (pingCheck 1).resume plainEnv ctx answer =
            [.post .pingreq ⟨ctx.origin, .request (.sendPing 1)⟩] := by
  obtain ⟨w, run, calm, s, es, reacted⟩ :
      ∃ w, Run plainEnv 0 (schedule plainEnv (init plainEnv 0) pingUnanswered) w ∧
        (handled .pingStatus w.log).any isPong = false ∧
        ∃ s es, w.reaction (system plainEnv) (w.results fun _ => false)
          (.take .pingStatus (pingRead firstTicker 1)) = some (s, es) :=
    ⟨_, rfl, by decide +kernel, _, _, rfl⟩
  obtain ⟨resent, -⟩ := ping_undisturbed (by decide +kernel) run
  obtain ⟨later, earlier, answer, order, spawned, resumes⟩ :=
    resent ⟨.take .pingStatus (pingRead firstTicker 1), fun _ => false⟩ s es firstTicker 1 rfl reacted
  refine ⟨w, s, es, answer, run, reacted, spawned, fun ctx => ?_⟩
  rw [resumes, if_neg]
  intro registered
  obtain ⟨m, member, pong⟩ := List.any_eq_true.mp registered
  rw [order, List.any_append, Bool.or_eq_false_iff] at calm
  exact List.any_eq_false.mp calm.1 m member pong

/-- The ping is sent again, and the next tick comes with the check of that. -/
def tickBeforeCheck : List Turn :=
  pingUnanswered ++ [.handle .pingStatus, .task 0, .handle .pingreq, .handle .pingStatus,
    .give (.advance commandTimeout), .give (.cause ⟨3, .tick⟩), .task 0, .task 0,
    .handle .connectStatus, .task 0, .task 0, .handle .pingStatus, .task 1, .task 0]

/-- The ping is given up, and the tick after that starts another one. -/
def tickAfterCheck : List Turn :=
  tickBeforeCheck ++ [.handle .pingStatus, .task 0, .task 0,
    .give (.advance (2 * commandTimeout)), .give (.cause ⟨4, .tick⟩), .task 0, .task 0,
    .handle .connectStatus, .task 0, .task 0, .handle .pingStatus]

/-- A tick removes the entry that the check of a ping without any answer looks for: the ping is not
    sent again, and a later tick starts another one. -/
theorem ping_disturbed :
    (∃ w s, Run plainEnv 0 (schedule plainEnv (init plainEnv 0) tickBeforeCheck) w ∧
      .emitted (.queued firstTicker .pingreq) ∈ w.log ∧
      (handled .pingStatus w.log).any isPong = false ∧ 2 ≤ maxRetryCount ∧
      w.reaction (system plainEnv) (w.results fun _ => false)
        (.take .pingStatus (pingRead firstTicker 2)) =
          some (s, [.spawn ⟨firstTicker, .resumed (pingCheck 2) (.unitStatus none)⟩]) ∧
      ∀ ctx, (pingCheck 2).resume plainEnv ctx (.unitStatus none) = []) ∧
    ∃ w s, Run plainEnv 0 (schedule plainEnv (init plainEnv 0) tickAfterCheck) w ∧
      .emitted (.queued firstTicker .pingreq) ∈ w.log ∧ ¬ PingOver firstTicker w ∧
      w.reaction (system plainEnv) (w.results fun _ => false)
        (.run ⟨⟨4, .tick⟩, .resumed (.pingPending 0) (.unitStatus none)⟩) =
          some (s, [.post .pingreq ⟨⟨4, .tick⟩, .request (.sendPing 0)⟩]) := by
  constructor
  · exact ⟨_, _, rfl, by decide +kernel, by decide +kernel, by decide, rfl, fun ctx => rfl⟩
  · obtain ⟨w, run, queued, silent, tried, s, reacted⟩ :
        ∃ w, Run plainEnv 0 (schedule plainEnv (init plainEnv 0) tickAfterCheck) w ∧
          .emitted (.queued firstTicker .pingreq) ∈ w.log ∧
          (handled .pingStatus w.log).any isPong = false ∧
          (∀ m ∈ handled .pingreq w.log, m ∈ ([⟨firstTicker, .request (.sendPing 1)⟩,
            ⟨firstTicker, .request (.sendPing 0)⟩] : List Msg)) ∧
          ∃ s, w.reaction (system plainEnv) (w.results fun _ => false)
            (.run ⟨⟨4, .tick⟩, .resumed (.pingPending 0) (.unitStatus none)⟩) =
              some (s, [.post .pingreq ⟨⟨4, .tick⟩, .request (.sendPing 0)⟩]) :=
      ⟨_, rfl, by decide +kernel, by decide +kernel, by decide +kernel, _, rfl⟩
    refine ⟨w, s, run, queued, ?_, reacted⟩
    rintro (⟨n, later, earlier, order, answered, -⟩ | ⟨n, above, took⟩)
    · rw [order, List.any_append, answered] at silent
      cases silent
    · have there := tried _ (mem_handled.mpr took)
      simp only [List.mem_cons, Msg.mk.injEq, true_and, Body.request.injEq, Request.sendPing.injEq,
        List.not_mem_nil, or_false] at there
      rcases there with rfl | rfl
      · exact absurd above (by decide)
      · exact absurd above (by decide)

end ActixMqtt
