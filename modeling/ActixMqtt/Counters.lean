import ActixMqtt.Watching

/-! # Retry counters

Every message that is sent again carries a counter. The actors that test it against
`MAX_RETRY_COUNT` increase it only below the cap. The response actors do not test it: each time
the mailbox of their status actor is full the counter goes up, without an end. While they meet
no full mailbox with a counter above the cap, no counter exceeds the cap by more than one.
-/

namespace ActixMqtt

open ActorSystem

/-! ## Where the counters are -/

def Request.counter : Request → Option UInt16
  | .publish msg => some msg.retryCount
  | .packet msg => some msg.retryCount
  | .batchSubscribe msg => some msg.retryCount
  | .batchUnsubscribe msg => some msg.retryCount
  | .pingreq lastRetryCount | .sendPing lastRetryCount => some lastRetryCount
  | .disconnect _ => none

/-- The counter of the message that a future sends again or acts for. -/
def Future.counter : Future → Option UInt16
  | .statusCheck _ _ _ _ retryMsg => retryMsg.counter
  | .publishLevel2 _ resendMsg => some resendMsg.retryCount
  | .recvLevel2 _ _ retryCount => some retryCount
  | .checkStatusPhase2 _ resendMsg => some resendMsg.retryCount
  | .pingConnected lastRetryCount | .pingPending lastRetryCount => some lastRetryCount
  | .connectAck => none

def Body.counter : Body → Option UInt16
  | .request req => req.counter
  | b => b.reply.bind Future.counter

def Job.counter : Job → Option UInt16
  | .resend _ _ req => req.counter
  | .timer _ _ future | .spawned future | .resumed future _ => future.counter
  | .notify notice => notice.request.counter

/-- The counter on which a handler executes `retry_count += 1`. -/
def increases (env : Env) (self : Actor) (s : State) (b : Body) : Option UInt16 :=
  match self, b with
  | .sendPublish, .request (.publish msg) =>
      if msg.retryCount > maxRetryCount ∨ (env.topicNameError msg.topic).isSome ∨
          msg.qos = .level0 then none
      else some msg.retryCount
  | .recvPublish, .request (.packet ⟨.publish packet, retryCount⟩) =>
      if retryCount > maxRetryCount ∨ packet.qos = .level0 then none else some retryCount
  | .pubrec, .request (.packet ⟨.pubrec _, retryCount⟩)
  | .pubrel, .request (.packet ⟨.pubrel _, retryCount⟩)
  | .pingreq, .request (.sendPing retryCount) =>
      if retryCount > maxRetryCount then none else some retryCount
  | .subscribe, .request (.batchSubscribe msg) =>
      if (SubscribeActor.createPacketAndIdFromMessage env msg s).1.isNone ∨
          msg.retryCount > maxRetryCount then none
      else some msg.retryCount
  | .unsubscribe, .request (.batchUnsubscribe msg) =>
      if (UnsubscribeActor.createPacketAndIdFromMessage env msg s).1.isNone ∨
          msg.retryCount > maxRetryCount then none
      else some msg.retryCount
  -- the response actors increase any counter
  | .puback, .request (.packet ⟨.puback _, retryCount⟩)
  | .pubcomp, .request (.packet ⟨.pubcomp _, retryCount⟩)
  | .suback, .request (.packet ⟨.suback _, retryCount⟩)
  | .unsuback, .request (.packet ⟨.unsuback _, retryCount⟩)
  | .pingresp, .request (.packet ⟨.pingresp, retryCount⟩) => some retryCount
  | _, _ => none

/-- The counters on which a step executes `+= 1`. -/
def increments (env : Env) (w : ClientWorld) (mv : ClientMove) : Option UInt16 :=
  match mv.label with
  | .take a m => increases env a w.state m.body
  | .run ⟨_, .notify notice⟩ => increases env notice.owner w.state (.request notice.request)
  | .run ⟨_, .resumed (.pingPending lastRetryCount) (.error _)⟩ => some lastRetryCount
  | _ => none

/-- The counter on which a step executes `-= 1`: a first delivery is refused. -/
def decrements (w : ClientWorld) (mv : ClientMove) : Option UInt16 :=
  match mv.label with
  | .run ⟨_, .resumed (.recvLevel2 _ _ retryCount) (.publishStatus none)⟩ =>
      if retryCount = 0 ∧ (w.results mv.full .message).isSome then some (retryCount + 1) else none
  | _ => none

/-- No response actor meets a full mailbox while it handles a message whose counter is above the
    cap. -/
def cappedRetry (w : ClientWorld) (mv : ClientMove) : Bool :=
  match mv.label with
  | .take a ⟨_, .request (.packet msg)⟩ =>
      match responseTo a msg.packet with
      | some (status, _) => !(msg.retryCount > maxRetryCount ∧ w.results mv.full status = some .full)
      | none => true
  | _ => true

/-! ## The bound -/

/-- At most one above the cap. -/
def Capped (counter : Option UInt16) : Prop :=
  ∀ n ∈ counter, n.toNat ≤ maxRetryCount.toNat + 1

def capped : Local Actor Msg Task Event where
  mail _ m := Capped m.body.counter
  task t := Capped t.job.counter
  event _ := True

theorem capped_none : Capped none := fun _ none => nomatch none

theorem capped_zero : Capped (some 0) := by
  intro n same
  obtain rfl := Option.some.inj same
  exact Nat.zero_le _

theorem capped_succ {n : UInt16} (below : ¬ n > maxRetryCount) : Capped (some (n + 1)) := by
  intro m same
  obtain rfl := Option.some.inj same
  have bound := retry_le.mp below
  rw [retry_succ below]
  exact Nat.succ_le_succ bound

theorem Body.counter_reply {b : Body} {future : Future} (replies : b.reply = some future) :
    b.counter = future.counter := by
  cases b with
  | publishStatus op reply | unitStatus op reply =>
      obtain rfl : reply = some future := replies
      rfl
  | statusExistence id reply =>
      obtain rfl : reply = future := Option.some.inj replies
      rfl
  | _ => cases replies

theorem capped_keeps (env : Env) : capped.Keeps (system env) := by
  intro a m holds t left
  obtain ⟨future, replies, rfl⟩ := orphan_reply left
  show Capped future.counter
  rw [← Body.counter_reply replies]
  exact holds

section Chain

variable {env : Env} {ctx : Ctx} {s : State}

theorem Attempts.capped {b : Body} {att : Attempt} (attempts : Attempts env ctx s b att) :
    Capped att.retry.counter ∧ Capped att.check.counter ∧ att.note.counter = none := by
  cases attempts with
  | publish1 msg self below valid qos | publish2 msg self below valid qos =>
      exact ⟨capped_succ below, capped_succ below, rfl⟩
  | pubrec id retryCount self below | pubrel id retryCount self below =>
      exact ⟨capped_succ below, capped_succ below, rfl⟩
  | subscribe msg self below valid | unsubscribe msg self below valid =>
      exact ⟨capped_succ below, capped_succ below, rfl⟩
  | sendPing lastRetryCount self below => exact ⟨capped_succ below, capped_succ below, rfl⟩

theorem responseTo_handleBody (env : Env) (s : State) (retryCount : UInt16) {packet : VariablePacket}
    {a : Actor} {op : Body} (response : responseTo ctx.self packet = some (a, op)) :
    ∃ tag, (handleBody env ctx (.request (.packet ⟨packet, retryCount⟩)) s).2 =
      trySend ctx a op (handleSendErrorWithResend ctx tag ctx.self (.packet ⟨packet, retryCount + 1⟩))
        [] := by
  obtain ⟨self, o, now, res⟩ := ctx
  unfold responseTo at response
  dsimp only at response
  split at response <;> cases response <;> exact ⟨_, rfl⟩

theorem response_resend {packet : VariablePacket} {retryCount : UInt16} {a : Actor} {op : Body} {t : Task}
    (response : responseTo ctx.self packet = some (a, op))
    (again : .spawn t ∈ (handleBody env ctx (.request (.packet ⟨packet, retryCount⟩)) s).2) :
    ctx.res a = some .full := by
  obtain ⟨tag, handled⟩ := responseTo_handleBody env s retryCount response
  rw [handled, trySend] at again
  cases refused : ctx.res a with
  | none => simp [refused] at again
  | some error =>
      cases error with
      | full => rfl
      | closed => simp [refused, handleSendErrorWithResend, sendError, doSendStop] at again

theorem Produces.capped {b : Body} {e : ClientEffect} (produces : Produces env ctx s b e)
    (source : Capped b.counter)
    (accepted : ∀ packet retryCount a op, b = .request (.packet ⟨packet, retryCount⟩) →
      responseTo ctx.self packet = some (a, op) → (∃ t, e = .spawn t) →
        ¬ retryCount > maxRetryCount) : capped.effect e := by
  cases produces with
  | note attempts =>
      show Capped _
      rw [attempts.capped.2.2]
      exact capped_none
  | check attempts => exact attempts.capped.2.1
  | resend retries =>
      cases retries with
      | attempt attempts => exact attempts.capped.1
      | recv1 packet id retryCount self below qos => exact capped_succ below
      | response packet retryCount response =>
          exact capped_succ (accepted packet retryCount _ _ rfl response ⟨_, rfl⟩)
      | disconnect msg self through => exact capped_none
  | giveUp gives => cases gives <;> exact capped_none
  | response packet retryCount response =>
      unfold responseTo at response
      split at response <;> cases response <;> exact capped_none
  | send | subscribe | unsubscribe | dispatch => exact capped_zero
  | recv2 | answer | unitAnswer | existence | ping => exact source
  | error | queued | accept | wrote => exact True.intro
  | halt | haltStop | leave | haltConnack => exact True.intro
  | _ => exact capped_none

theorem Continues.capped {future : Future} {answer : Answer} {e : ClientEffect}
    (continues : Continues ctx future answer e) (awaits : ctx.origin.cause.Awaits future)
    (fits : answer.Fits future) (source : Capped future.counter) : capped.effect e := by
  cases continues with
  | timeout future dst req => cases fits
  | resend id retryCount packet answer known => exact capped_succ awaits.2.2
  | timer id retryCount packet answer known => exact capped_succ awaits.2.2
  | redeliver | send | sendPing => exact capped_zero
  | checked | publishChecked | phase2 | pingPending => exact source
  | error | accept | queued => exact True.intro
  | _ => exact capped_none

theorem Runs.capped {res : Actor → Option SendError} {o : Origin} {job : Job} {e : ClientEffect}
    (runs : Runs env res s o job e) (genuine : job.Genuine o.cause) (source : Capped job.counter) :
    capped.effect e := by
  cases runs with
  | notify notice produces =>
      refine produces.capped source fun packet retryCount a op same => ?_
      cases notice <;> cases same
  | asks future accepts =>
      show Capped _
      rw [Body.counter_reply (Future.question_reply future)]
      exact source
  | resumed future answer continues => exact continues.capped genuine.1 genuine.2 source
  | _ => exact source

theorem Arrives.capped {o : Origin} {e : ClientEffect} (arrives : Arrives o e) : capped.effect e := by
  cases arrives with
  | publish | received | tick => exact capped_zero
  | error | haltRecv | haltSend => exact True.intro
  | _ => exact capped_none

theorem increases_counter {self : Actor} {b : Body} {n : UInt16}
    (increased : increases env self s b = some n) : b.counter = some n := by
  unfold increases at increased
  split at increased <;> first
    | (split at increased
       · cases increased
       · exact increased)
    | exact increased
    | cases increased

end Chain

section Step

variable {env : Env} {w w' : ClientWorld} {mv : ClientMove}

theorem capped_init (env : Env) (seed : Nat) : capped.Holds (init env seed) where
  mail a m member := by
    simp only [init] at member
    split at member
    · obtain ⟨recipient, -, rfl⟩ := List.mem_map.mp member
      exact capped_none
    · cases member
  tasks t member := by
    obtain rfl := List.mem_singleton.mp member
    exact capped_zero
  log e member := True.intro

theorem capped_step (genuine : genuine.Holds w) (holds : capped.Holds w) (ok : cappedRetry w mv)
    (taken : clientStep env w mv = some w') : capped.Holds w' := by
  obtain ⟨s, es, reacted, -⟩ := World.fire_eq_some.mp taken
  have source := holds.source reacted
  have fits := genuine.source reacted
  refine holds.fire (capped_keeps env) reacted taken fun e member => ?_
  obtain ⟨label, full⟩ := mv
  cases reaction_causes reacted e member with
  | take a m produces =>
      obtain ⟨o, b⟩ := m
      refine produces.capped source ?_
      rintro packet retryCount status op rfl response ⟨t, rfl⟩ above
      have handled : (handleBody env ⟨a, o, w.state.now, w.results full⟩
          (.request (.packet ⟨packet, retryCount⟩)) w.state).2 = es :=
        congrArg Prod.snd (World.reaction_take.mp reacted).2.2
      have refused : w.results full status = some .full :=
        response_resend response (handled.symm ▸ member)
      simp only [cappedRetry, response] at ok
      simp [above, refused] at ok
  | run t runs => exact runs.capped fits source
  | arrive o arrives => exact arrives.capped
  | messageClosed => exact True.intro

/-- Where all counters are capped, a step changes them within their range. -/
theorem increments_bounded (holds : capped.Holds w) (taken : clientStep env w mv = some w') :
    (∀ n ∈ increments env w mv, n.toNat + 1 < 2 ^ 16) ∧ ∀ n ∈ decrements w mv, 0 < n.toNat := by
  obtain ⟨s, es, reacted, -⟩ := World.fire_eq_some.mp taken
  have source := holds.source reacted
  have room {n : UInt16} {counter : Option UInt16} (capped : Capped counter) (same : counter = some n) :
      n.toNat + 1 < 2 ^ 16 := by
    have bound := capped n same
    have cap : maxRetryCount.toNat = 5 := rfl
    omega
  refine ⟨fun n member => ?_, fun n member => ?_⟩
  · unfold increments at member
    split at member
    · rename_i a m label
      rw [label] at source
      exact room source (increases_counter member)
    · rename_i o notice label
      rw [label] at source
      exact room source (increases_counter member)
    · rename_i o lastRetryCount e label
      rw [label] at source
      exact room source member
    · cases member
  · unfold decrements at member
    split at member
    · split at member
      · rename_i refused
        obtain rfl := Option.some.inj member
        rw [refused.1]
        exact Nat.one_pos
      · cases member
    · cases member

end Step

/-- While no response actor meets a full mailbox with a counter above the cap, no message that is
    enqueued or waits to be sent again carries a counter of more than one above the cap, and no
    step increases or decreases a counter beyond its range. -/
theorem counters_bounded {env : Env} {seed : Nat} {ls : List ClientMove} {w : ClientWorld}
    (allowed : Along (clientStep env) (fun w mv => cappedRetry w mv) (init env seed) ls)
    (run : Run env seed ls w) :
    (∀ a, ∀ m ∈ w.mail a, ∀ n ∈ m.body.counter, n.toNat ≤ maxRetryCount.toNat + 1) ∧
    (∀ t ∈ w.tasks, ∀ n ∈ t.job.counter, n.toNat ≤ maxRetryCount.toNat + 1) ∧
    ∀ mv w', clientStep env w mv = some w' →
      (∀ n ∈ increments env w mv, n.toNat + 1 < 2 ^ 16) ∧ ∀ n ∈ decrements w mv, 0 < n.toNat := by
  have invariant : genuine.Holds w ∧ capped.Holds w := by
    refine exec_invariant (fun w => genuine.Holds w ∧ capped.Holds w) ?_
      ⟨genuine_init env seed, capped_init env seed⟩ allowed run
    rintro w mv w' ⟨genuine, holds⟩ ok taken
    exact ⟨genuine_step genuine taken, capped_step genuine holds ok taken⟩
  exact ⟨invariant.2.mail, invariant.2.tasks, fun mv w' taken => increments_bounded invariant.2 taken⟩

/-- PubackActor meets a full mailbox six times. -/
def sixRefusals : List Turn :=
  [.give (.cause ⟨1, .received (.puback 5) 0⟩), .handle .dispatch] ++
    (List.replicate 6 [.refusing [.publishStatus] (.handle .puback), .give (.advance resendDelay),
      .task 0]).flatten

theorem counters_bounded_sixRefusals : ∃ w,
    Run plainEnv 0 (schedule plainEnv (init plainEnv 0) sixRefusals) w ∧
      (w.mail .puback).map (·.body.counter) = [some (maxRetryCount + 1)] ∧
      ∀ m ∈ w.mail .puback, ∀ n ∈ m.body.counter, n.toNat ≤ maxRetryCount.toNat + 1 := by
  obtain ⟨w, run, waiting⟩ : ∃ w,
      Run plainEnv 0 (schedule plainEnv (init plainEnv 0) sixRefusals) w ∧
        (w.mail .puback).map (·.body.counter) = [some (maxRetryCount + 1)] :=
    ⟨_, rfl, by decide +kernel⟩
  exact ⟨w, run, waiting, (counters_bounded (by decide +kernel) run).1 .puback⟩

theorem puback_refused {env : Env} {w : ClientWorld} {o : Origin} {id retryCount : UInt16}
    (alive : w.live .puback) (status : w.live .publishStatus)
    (waiting : w.mail .puback = [⟨o, .request (.packet ⟨.puback id, retryCount⟩)⟩]) :
    ∃ ls w', exec (clientStep env) w ls = some w' ∧ w'.live .puback ∧ w'.live .publishStatus ∧
      w'.mail .puback = [⟨o, .request (.packet ⟨.puback id, retryCount + 1⟩)⟩] := by
  let t : Task :=
    ⟨o, .resend (w.state.now + resendDelay) .puback (.packet ⟨.puback id, retryCount + 1⟩)⟩
  have refused : w.results (· = .publishStatus) .publishStatus = some .full := by
    simp [World.results, status]
  have handled : handle env .puback ⟨o, .request (.packet ⟨.puback id, retryCount⟩)⟩
      (w.results (· = .publishStatus)) w.state = (w.state, handleSendErrorWithResend
        ⟨.puback, o, w.state.now, w.results (· = .publishStatus)⟩ "PubackActor" .puback
          (.packet ⟨.puback id, retryCount + 1⟩) .full) := by
    simp only [handle, handleBody, PubackActor.receive, PubackActor.handle, implResponsePacketActor,
      resetPacketStatus, trySend, publishStatusRecipient, refused, getRetryMsg]
  obtain ⟨w₁, first, live₁, mail₁, tasks₁, now₁⟩ : ∃ w₁,
      clientStep env w ⟨.take .puback ⟨o, .request (.packet ⟨.puback id, retryCount⟩)⟩,
          (· = .publishStatus)⟩ = some w₁ ∧
        w₁.live = w.live ∧ w₁.mail .puback = (w.mail .puback).tail ∧ w₁.tasks = t :: w.tasks ∧
          w₁.state.now = w.state.now :=
    ⟨_, World.fire_eq_some.mpr ⟨_, _, World.reaction_take.mpr
      ⟨alive, congrArg List.head? waiting, handled⟩, rfl⟩, rfl,
      (Function.update_self .. : Function.update w.mail .puback (w.mail .puback).tail .puback = _),
      rfl, rfl⟩
  obtain ⟨w₂, second, live₂, mail₂, tasks₂, now₂⟩ : ∃ w₂,
      clientStep env w₁ ⟨.give (.advance resendDelay), fun _ => false⟩ = some w₂ ∧
        w₂.live = w₁.live ∧ w₂.mail = w₁.mail ∧ w₂.tasks = w₁.tasks ∧
          w₂.state.now = w₁.state.now + resendDelay := ⟨_, rfl, rfl, rfl, rfl, rfl⟩
  have due : t ∈ w₂.tasks ∧ (system env).ready t w₂.state ∧
      (system env).resume t (w₂.results fun _ => false) w₂.state =
        (w₂.state, [.post .puback ⟨o, .request (.packet ⟨.puback id, retryCount + 1⟩)⟩]) :=
    ⟨by rw [tasks₂, tasks₁]; exact List.mem_cons_self,
      decide_eq_true (by rw [now₂, now₁]), rfl⟩
  obtain ⟨w₃, third, rfl⟩ : ∃ w₃, clientStep env w₂ ⟨.run t, fun _ => false⟩ = some w₃ ∧
      w₃ = (w₂.consume w₂.state (.run t)).applyAll (system env)
        [.post .puback ⟨o, .request (.packet ⟨.puback id, retryCount + 1⟩)⟩] :=
    ⟨_, World.fire_eq_some.mpr ⟨_, _, World.reaction_run.mpr due, rfl⟩, rfl⟩
  have live₃ : w₂.live = w.live := live₂.trans live₁
  have alive₃ : (w₂.consume w₂.state (.run t)).live .puback := (congrFun live₃ _).trans alive
  have steps : exec (clientStep env) w [_, _, _] = some _ := exec_cons_eq_some.mpr ⟨_, first,
    exec_cons_eq_some.mpr ⟨_, second, exec_cons_eq_some.mpr ⟨_, third, rfl⟩⟩⟩
  refine ⟨_, _, steps, ?_, ?_, ?_⟩
  · rw [World.applyAll_live _ _ (by simp)]
    exact alive₃
  · rw [World.applyAll_live _ _ (by simp)]
    exact (congrFun live₃ _).trans status
  · refine (World.applyAll_mail _ _ alive₃ ?_).trans ?_
    · simp
    · show w₂.mail .puback ++ _ = _
      rw [mail₂, mail₁, waiting]
      rfl

/-- A PUBACK whose actor has met a full mailbox `n` times. -/
theorem puback_refused_times (n : Nat) :
    ∃ ls w, Run plainEnv 0 ls w ∧ w.live .puback ∧ w.live .publishStatus ∧
      w.mail .puback = [⟨⟨1, .received (.puback 5) 0⟩,
        .request (.packet ⟨.puback 5, UInt16.ofNat n⟩)⟩] := by
  induction n with
  | zero =>
      exact ⟨schedule plainEnv (init plainEnv 0)
        [.give (.cause ⟨1, .received (.puback 5) 0⟩), .handle .dispatch], _, rfl, rfl, rfl, rfl⟩
  | succ n ih =>
      obtain ⟨ls, w, run, alive, status, waiting⟩ := ih
      obtain ⟨more, w', refused, rest⟩ := puback_refused alive status waiting
      refine ⟨ls ++ more, w', ?_, ?_⟩
      · rw [Run] at run ⊢
        rw [exec_append, run]
        exact refused
      · rwa [UInt16.ofNat_add]

/-- After seven refusals the counter is two above the cap, and after 65535 it is increased beyond
    its range. -/
theorem counters_unbounded :
    (∃ ls w, Run plainEnv 0 ls w ∧ ∃ m ∈ w.mail .puback, ∃ n ∈ m.body.counter,
      n = maxRetryCount + 2) ∧
    ∃ ls w mv w', Run plainEnv 0 ls w ∧ clientStep plainEnv w mv = some w' ∧
      ∃ n ∈ increments plainEnv w mv, ¬ n.toNat + 1 < 2 ^ 16 := by
  constructor
  · obtain ⟨ls, w, run, -, -, waiting⟩ := puback_refused_times 7
    exact ⟨ls, w, run, _, by rw [waiting]; exact List.mem_singleton.mpr rfl, _, rfl, rfl⟩
  · obtain ⟨ls, w, run, alive, -, waiting⟩ := puback_refused_times 65535
    exact ⟨ls, w, ⟨.take .puback _, fun _ => false⟩, _, run,
      World.fire_eq_some.mpr ⟨_, _, World.reaction_take.mpr
        ⟨alive, congrArg List.head? waiting, rfl⟩, rfl⟩, _, rfl, by decide⟩

end ActixMqtt
