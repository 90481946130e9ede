import ActixMqtt.Client

/-! # What a step changes

Every actor keeps its private state to itself: a handler changes only the fields of
its own actor, and a future changes none. The inversion lemmas say what each kind
of step of a client does to its world.
-/

namespace ActixMqtt

open ActorSystem

/-- `s'` differs from `s` only in what actor `a` owns. -/
def State.ChangedBy (s s' : State) : Actor → Prop
  | .stop => s' = { s with stopRecipients := s'.stopRecipients, stopping := s'.stopping }
  | .disconnect =>
      s' = { s with
        packetSendFinished := s'.packetSendFinished
        pendingDisconnect := s'.pendingDisconnect }
  | .publishStatus => s' = { s with publishStatus := s'.publishStatus }
  | .subscribeStatus => s' = { s with subscribeStatus := s'.subscribeStatus }
  | .unsubscribeStatus => s' = { s with unsubscribeStatus := s'.unsubscribeStatus }
  | .connectStatus => s' = { s with connectStatus := s'.connectStatus }
  | .pingStatus => s' = { s with pingStatus := s'.pingStatus }
  | .sendPublish | .subscribe | .unsubscribe => s' = { s with counter := s'.counter }
  | _ => s' = s

theorem State.ChangedBy.serial {s s' : State} {a : Actor} (changed : s.ChangedBy s' a) :
    s'.serial = s.serial := by
  cases a <;> simp only [State.ChangedBy] at changed <;> rw [changed]

theorem State.ChangedBy.now {s s' : State} {a : Actor} (changed : s.ChangedBy s' a) :
    s'.now = s.now := by
  cases a <;> simp only [State.ChangedBy] at changed <;> rw [changed]

theorem State.ChangedBy.publishStatus {s s' : State} {a : Actor} (changed : s.ChangedBy s' a)
    (other : a ≠ .publishStatus) : s'.publishStatus = s.publishStatus := by
  cases a
  case publishStatus => exact absurd rfl other
  all_goals
    simp only [State.ChangedBy] at changed
    rw [changed]

theorem handleBody_changedBy (env : Env) (ctx : Ctx) (b : Body) (s : State) :
    s.ChangedBy (handleBody env ctx b s).1 ctx.self := by
  obtain ⟨a, o, now, res⟩ := ctx
  cases a <;> simp only [handleBody, State.ChangedBy]
  case stop =>
      unfold StopActor.receive
      split
      · rfl
      · unfold StopActor.handle
        split <;> rfl
      · rfl
  case disconnect =>
      unfold DisconnectActor.receive
      split
      · unfold DisconnectActor.handle
        split <;> rfl
      · unfold DisconnectActor.handlePacketSendStatus
        dsimp only
        split <;> rfl
      all_goals rfl
  case publishStatus =>
      unfold PublishStatusActor.receive
      split <;> rfl
  case subscribeStatus | unsubscribeStatus | connectStatus | pingStatus =>
      unfold unitStatusHandle
      split <;> rfl
  case sendPublish =>
      unfold SendPublishActor.receive
      split
      · unfold SendPublishActor.handle SendPublishActor.createPacketAndIdFromMessage
        split
        · rfl
        · rename_i msg _
          cases env.topicNameError msg.topic with
          | some e => rfl
          | none => cases msg.qos <;> rfl
      all_goals rfl
  case subscribe =>
      unfold SubscribeActor.receive
      split
      · rfl
      · simp only [SubscribeActor.handleBatch, SubscribeActor.createPacketAndIdFromMessage]
        split <;> rfl
      all_goals rfl
  case unsubscribe =>
      unfold UnsubscribeActor.receive
      split
      · rfl
      · simp only [UnsubscribeActor.handleBatch, UnsubscribeActor.createPacketAndIdFromMessage]
        split <;> rfl
      all_goals rfl
  case send =>
      unfold SendActor.receive
      split <;> rfl
  case recvPublish =>
      unfold RecvPublishActor.receive
      split <;> rfl
  case puback =>
      unfold PubackActor.receive
      split <;> rfl
  case pubrec =>
      unfold PubrecActor.receive
      split <;> rfl
  case pubrel =>
      unfold PubrelActor.receive
      split <;> rfl
  case pubcomp =>
      unfold PubcompActor.receive
      split <;> rfl
  case suback =>
      unfold SubackActor.receive
      split <;> rfl
  case unsuback =>
      unfold UnsubackActor.receive
      split <;> rfl
  case connect =>
      unfold ConnectActor.receive
      split <;> rfl
  case connack =>
      unfold ConnackActor.receive
      split <;> rfl
  case pingreq =>
      unfold PingreqActor.receive
      split <;> rfl
  case pingresp =>
      unfold PingrespActor.receive
      split <;> rfl
  case dispatch =>
      unfold DispatchActor.receive
      split <;> rfl
  case recv =>
      unfold RecvActor.receive
      split <;> rfl

/-- A task changes no state but the identifier counter. -/
theorem resume_changed (env : Env) (t : Task) (res : Actor → Option SendError) (s : State) :
    (resume env t res s).1 = { s with counter := (resume env t res s).1.counter } := by
  obtain ⟨o, job⟩ := t
  unfold resume
  cases job with
  | notify notice =>
      have changed := handleBody_changedBy env ⟨notice.owner, o, s.now, res⟩
        (.request notice.request) s
      cases notice with
      | batchSubscribe msg | batchUnsubscribe msg => exact changed
      | pingreq lastRetryCount =>
          rw [show (handleBody env ⟨_, o, s.now, res⟩ _ s).1 = s from changed]
  | spawned future =>
      dsimp only
      split <;> rfl
  | _ => rfl

theorem arrive_changed {env : Env} {o : Origin} {res : Actor → Option SendError} {s s' : State}
    {es : Out} (arrived : arrive env o res s = some (s', es)) :
    s' = { s with nextTick := s'.nextTick } := by
  unfold arrive at arrived
  cases cause : o.cause <;> simp only [cause, Option.ite_none_left_eq_some, Option.some.injEq,
    Prod.mk.injEq, reduceCtorEq] at arrived
  case tick =>
      obtain ⟨-, rfl, -⟩ := arrived
      rfl
  case received | parseError | writeError =>
      obtain ⟨-, rfl, -⟩ := arrived
      rfl
  all_goals
    obtain ⟨rfl, -⟩ := arrived
    rfl

theorem accept_cause {env : Env} {o : Origin} {res : Actor → Option SendError} {s s' : State}
    {es : Out} (accepted : accept env (.cause o) res s = some (s', es)) :
    s.serial ≤ o.serial ∧ s' = { s with serial := o.serial + 1, nextTick := s'.nextTick } := by
  simp only [accept, Option.ite_none_left_eq_some] at accepted
  exact ⟨Nat.le_of_not_lt accepted.1, arrive_changed accepted.2⟩

section Step

variable {env : Env} {w w' : ClientWorld} {mv : ClientMove}

/-- A step that handles a message changes what its actor owns; any other step changes only the
    clock and the counters. -/
theorem state_step {s : State} {es : Out}
    (reacted : w.reaction (system env) (w.results mv.full) mv.label = some (s, es)) :
    (∃ a m, mv.label = .take a m ∧ w.state.ChangedBy s a) ∨
      (∀ a m, mv.label ≠ .take a m) ∧
        s = { w.state with
          now := s.now, serial := s.serial, counter := s.counter, nextTick := s.nextTick } := by
  obtain ⟨label, full⟩ := mv
  cases label with
  | take a m =>
      have changed := handleBody_changedBy env ⟨a, m.origin, w.state.now, w.results full⟩ m.body
        w.state
      rw [show handleBody env _ m.body w.state = (s, es) from (World.reaction_take.mp reacted).2.2]
        at changed
      exact .inl ⟨a, m, rfl, changed⟩
  | run t =>
      refine .inr ⟨fun a m same => (nomatch same), ?_⟩
      have changed := resume_changed env t (w.results full) w.state
      rw [show resume env t _ w.state = (s, es) from (World.reaction_run.mp reacted).2.2] at changed
      rw [show s = _ from changed]
  | give i =>
      refine .inr ⟨fun a m same => (nomatch same), ?_⟩
      have accepted : accept env i (w.results full) w.state = some (s, es) := reacted
      cases i with
      | cause o => rw [(accept_cause accepted).2]
      | messageClosed | nextIdElsewhere | advance duration =>
          simp only [accept, Option.some.injEq, Prod.mk.injEq] at accepted
          obtain ⟨rfl, -⟩ := accepted
          rfl

theorem serial_step (taken : clientStep env w mv = some w') :
    (∀ o, mv.label = .give (.cause o) →
      w.state.serial ≤ o.serial ∧ w'.state.serial = o.serial + 1) ∧
    ((∀ o, mv.label ≠ .give (.cause o)) → w'.state.serial = w.state.serial) := by
  obtain ⟨s, es, reacted, -⟩ := World.fire_eq_some.mp taken
  rw [World.fire_state reacted taken]
  obtain ⟨label, full⟩ := mv
  cases label with
  | take a m =>
      refine ⟨fun o same => (nomatch same), fun _ => ?_⟩
      obtain ⟨-, -, handled⟩ := World.reaction_take.mp reacted
      have changed := handleBody_changedBy env ⟨a, m.origin, w.state.now, w.results full⟩ m.body
        w.state
      rw [show handleBody env _ m.body w.state = (s, es) from handled] at changed
      exact changed.serial
  | run t =>
      refine ⟨fun o same => (nomatch same), fun _ => ?_⟩
      obtain ⟨-, -, resumed⟩ := World.reaction_run.mp reacted
      have changed := resume_changed env t (w.results full) w.state
      rw [show resume env t _ w.state = (s, es) from resumed] at changed
      rw [show s = _ from changed]
  | give i =>
      have accepted : accept env i (w.results full) w.state = some (s, es) := reacted
      cases i with
      | cause o =>
          obtain ⟨unused, changed⟩ := accept_cause accepted
          refine ⟨fun o' same => ?_, fun other => absurd rfl (other o)⟩
          cases same
          exact ⟨unused, by rw [changed]⟩
      | messageClosed | nextIdElsewhere | advance duration =>
          refine ⟨fun o same => (nomatch same), fun _ => ?_⟩
          simp only [accept, Option.some.injEq, Prod.mk.injEq] at accepted
          obtain ⟨rfl, -⟩ := accepted
          rfl

theorem serial_grows (taken : clientStep env w mv = some w') :
    w.state.serial ≤ w'.state.serial ∧
      ∀ o, mv.label = .give (.cause o) → o.serial < w'.state.serial := by
  obtain ⟨fresh, kept⟩ := serial_step taken
  by_cases given : ∃ o, mv.label = .give (.cause o)
  · obtain ⟨o, label⟩ := given
    obtain ⟨unused, next⟩ := fresh o label
    refine ⟨by omega, fun o' label' => ?_⟩
    cases label.symm.trans label'
    omega
  · exact ⟨Nat.le_of_eq (kept fun o label => given ⟨o, label⟩).symm,
      fun o label => absurd ⟨o, label⟩ given⟩

/-- How long a step takes. -/
def elapsed : Label Actor Msg Task Input → ℕ
  | .give (.advance duration) => duration
  | _ => 0

theorem clock_step (taken : clientStep env w mv = some w') :
    w'.state.now = w.state.now + elapsed mv.label := by
  obtain ⟨s, es, reacted, -⟩ := World.fire_eq_some.mp taken
  rw [World.fire_state reacted taken]
  obtain ⟨label, full⟩ := mv
  cases label with
  | take a m =>
      have changed := handleBody_changedBy env ⟨a, m.origin, w.state.now, w.results full⟩ m.body
        w.state
      rw [show handleBody env _ m.body w.state = (s, es) from (World.reaction_take.mp reacted).2.2]
        at changed
      exact changed.now
  | run t =>
      have changed := resume_changed env t (w.results full) w.state
      rw [show resume env t _ w.state = (s, es) from (World.reaction_run.mp reacted).2.2] at changed
      rw [show s = _ from changed]
      rfl
  | give i =>
      have accepted : accept env i (w.results full) w.state = some (s, es) := reacted
      cases i with
      | cause o =>
          rw [(accept_cause accepted).2]
          rfl
      | messageClosed | nextIdElsewhere | advance duration =>
          simp only [accept, Option.some.injEq, Prod.mk.injEq] at accepted
          obtain ⟨rfl, -⟩ := accepted
          rfl

theorem clock_grows (taken : clientStep env w mv = some w') : w.state.now ≤ w'.state.now := by
  rw [clock_step taken]
  exact Nat.le_add_right _ _

end Step

end ActixMqtt
