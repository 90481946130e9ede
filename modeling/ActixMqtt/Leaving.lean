import ActixMqtt.Disconnecting
import ActixMqtt.Ending

/-! # Leaving

A call of `disconnect` is not forgotten: the client is asked to stop, or DisconnectActor notes that
the call waits, or has it before it. So a client on which `disconnect` was called and that has come
to rest without ending holds an entry of a publish that nothing removes any more.
-/

namespace ActixMqtt

open ActorSystem

/-- A call of `disconnect` has been handed to DisconnectActor. -/
def leaving (log : ClientLog) : Prop := ∃ n msg, .gave (.cause ⟨n, .disconnect msg⟩) ∈ log

/-- DisconnectActor has not forgotten a call. -/
def remembered (w : ClientWorld) : Prop :=
  w.state.pendingDisconnect ∨ ∃ o msg, ⟨o, .request (.disconnect msg)⟩ ∈ w.mail .disconnect

section Step

variable {env : Env} {seed : ℕ} {ls : List ClientMove} {w w' : ClientWorld} {mv : ClientMove}
  {s : State} {es : Out}

theorem call_handled {o : Origin} {msg : Disconnect} (run : Run env seed ls w)
    (taken : clientStep env w mv = some w')
    (label : mv.label = .take .disconnect ⟨o, .request (.disconnect msg)⟩) :
    stopRequested w' ∨ w'.state.pendingDisconnect := by
  obtain ⟨s, es, reacted, -⟩ := World.fire_eq_some.mp taken
  by_cases through : letsThrough w mv
  · obtain ⟨o', asked⟩ := disconnect_asks reacted through
    exact .inl (stopRequested_of_post (stopsOnRequest_run run) taken reacted asked)
  · have noted := disconnect_reaction label reacted
    rw [if_neg (by simpa [letsThrough, label] using through)] at noted
    exact .inr (by rw [World.fire_state reacted taken, noted.2])

theorem report_handled {o : Origin} {msg : PacketSendStatus} (pending : w.state.pendingDisconnect)
    (label : mv.label = .take .disconnect ⟨o, .packetSendStatus msg⟩)
    (reacted : w.reaction (system env) (w.results mv.full) mv.label = some (s, es)) :
    s.pendingDisconnect ∨ .post .disconnect ⟨o, .request (.disconnect ⟨true⟩)⟩ ∈ es := by
  have handled : DisconnectActor.handlePacketSendStatus
    ⟨.disconnect, o, w.state.now, w.results mv.full⟩ msg w.state = (s, es) :=
      (World.reaction_take.mp (label ▸ reacted)).2.2
  unfold DisconnectActor.handlePacketSendStatus at handled
  dsimp only at handled
  split at handled
  · obtain ⟨-, rfl⟩ := Prod.mk.inj handled
    exact .inr List.mem_cons_self
  · obtain ⟨rfl, -⟩ := Prod.mk.inj handled
    exact .inl pending

theorem remembered_step (run : Run env seed ls w) (taken : clientStep env w mv = some w')
    (alive : w'.live .disconnect) (before : remembered w) : stopRequested w' ∨ remembered w' := by
  obtain ⟨s, es, reacted, -⟩ := World.fire_eq_some.mp taken
  have state := World.fire_state reacted taken
  by_cases call : ∃ o msg, mv.label = .take .disconnect ⟨o, .request (.disconnect msg)⟩
  · obtain ⟨o, msg, label⟩ := call
    exact (call_handled run taken label).imp_right .inl
  · rcases before with pending | ⟨o, msg, waiting⟩
    · right
      by_cases handles : ∃ m, mv.label = .take .disconnect m
      · obtain ⟨⟨o, b⟩, label⟩ := handles
        by_cases report : ∃ msg, b = .packetSendStatus msg
        · obtain ⟨msg, rfl⟩ := report
          rcases report_handled pending label reacted with kept | again
          · exact .inl (state ▸ kept)
          · exact .inr ⟨o, ⟨true⟩, World.mem_mail_of_post reacted taken alive again⟩
        · refine .inl ?_
          rw [state, idle_reaction label reacted (not_exists.mp report)
            fun msg same => call ⟨o, msg, same ▸ label⟩]
          exact pending
      · refine .inl ?_
        rw [state, (disconnect_state (not_exists.mp handles) reacted).2]
        exact pending
    · exact .inr (.inr ⟨o, msg, World.mem_mail_fire taken alive waiting
        fun label => call ⟨o, msg, label⟩⟩)

theorem leaving_run (run : Run env seed ls w) : leaving w.log → stopRequested w ∨ remembered w := by
  refine exec_induction
    (motive := fun _ w => leaving w.log → stopRequested w ∨ remembered w) ?_ ?_ run
  · rintro ⟨n, msg, given⟩
    cases given
  · rintro ls w mv w' before kept taken ⟨n, msg, given⟩
    obtain ⟨s, es, reacted, -⟩ := World.fire_eq_some.mp taken
    cases alive : w'.live .disconnect with
    | false => exact .inl ((forcing_run (Run.step before taken)).left alive)
    | true =>
        rcases (gave_step taken).mp given with label | old
        · exact .inr (.inr ⟨_, msg,
            World.mem_mail_of_post reacted taken alive (disconnect_given label reacted)⟩)
        · rcases kept ⟨n, msg, old⟩ with requested | before'
          · exact .inl (stopRequested_step (stopsOnRequest_run before) taken requested)
          · exact remembered_step before taken alive before'

/-- A client on which `disconnect` was called and that is at rest has ended, or it waits for an
    entry of the publish status map. -/
theorem hangs_on_entries (run : Run env seed ls w) (rest : AtRest w) (called : leaving w.log) :
    Ended env w ∨ Running env w ∧ w.live .disconnect ∧ w.state.pendingDisconnect ∧
      w.state.publishStatus.keys ≠ [] := by
  by_cases requested : stopRequested w
  · exact .inl (rest.ended run requested)
  have alive : w.live .disconnect :=
    Bool.of_not_eq_false fun dead => requested ((forcing_run run).left dead)
  have pending : w.state.pendingDisconnect := by
    refine ((leaving_run run called).resolve_left requested).resolve_right ?_
    rintro ⟨o, msg, waiting⟩
    rw [rest.1 .disconnect] at waiting
    cases waiting
  refine .inr ⟨running_unless_requested run requested, alive, pending, fun empty => ?_⟩
  have attentive := attentive_run run
  have known := (attentive.informed alive).report
  rw [reports, rest.1 .disconnect, empty] at known
  have unfinished := attentive.unfinished alive pending
  have known : w.state.packetSendFinished = true := known
  rw [known] at unfinished
  cases unfinished

end Step

/-- The first attempt at a publish finds the mailbox of SendActor full, and the second takes a new
    identifier. -/
def forgottenEntry : List Turn :=
  idle ++ [.give (.cause ⟨1, .publish "topic" .level1 [1]⟩), .refusing [.send] (.handle .sendPublish),
    .handle .publishStatus, .handle .disconnect, .give (.advance resendDelay), .task 0,
    .handle .sendPublish, .handle .publishStatus, .handle .disconnect, .handle .send,
    .give (.cause ⟨2, .received (.puback 2) 0⟩), .handle .dispatch, .handle .puback,
    .handle .publishStatus, .handle .disconnect,
    .give (.cause ⟨3, .disconnect ⟨false⟩⟩), .handle .disconnect,
    .give (.advance commandTimeout), .task 0, .task 0, .handle .publishStatus, .handle .disconnect,
    .task 0]

theorem hangs_on_entries_forgottenEntry : ∃ w,
    Run plainEnv 0 (schedule plainEnv (init plainEnv 0) forgottenEntry) w ∧ AtRest w ∧
      Running plainEnv w ∧ w.state.pendingDisconnect ∧ w.state.publishStatus.keys = [1] := by
  obtain ⟨w, run, drained, done, called, alive, left⟩ : ∃ w,
      Run plainEnv 0 (schedule plainEnv (init plainEnv 0) forgottenEntry) w ∧
        (∀ a, w.mail a = []) ∧ w.tasks = [] ∧
        .gave (.cause ⟨3, .disconnect ⟨false⟩⟩) ∈ w.log ∧ w.live .stop = true ∧
        w.state.publishStatus.keys = [1] :=
    ⟨_, rfl, fun a => by cases a <;> rfl, rfl, by decide +kernel, by decide +kernel,
      by decide +kernel⟩
  rcases hangs_on_entries run ⟨drained, done⟩ ⟨3, ⟨false⟩, called⟩ with ended |
    ⟨running, -, pending, -⟩
  · rw [ended.1] at alive
    cases alive
  · exact ⟨w, run, ⟨drained, done⟩, running, pending, left⟩

end ActixMqtt
