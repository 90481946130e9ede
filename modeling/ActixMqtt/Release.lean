import ActixMqtt.Stopping

/-! # The second half of level 2

PubrecActor answers a PUBREC by a PUBREL, notes `pendingComp`, and looks at the entry again
after `COMMAND_TIMEOUT`. The check it schedules tests for `pendingRec`. A PUBREL is therefore
queued again exactly where the check happens to read an entry in that phase.
-/

namespace ActixMqtt

open ActorSystem

/-- The future of PubrecActor's timer; `retryCount` is the counter of the retry. -/
def releaseFuture (id retryCount : UInt16) : Future :=
  .statusCheck .publishStatus .pubrec id (.isPending .pendingRec) (.packet ⟨.pubrec id, retryCount⟩)

/-- The same check as the status actor gets it. -/
def releaseCheck (o : Origin) (id retryCount : UInt16) : Msg :=
  ⟨o, .publishStatus (.getAndRemovePacketStatus id) (some (releaseFuture id retryCount))⟩

/-- The status actor has removed the entry of `id` for a PUBCOMP since PubrecActor last handled the
    PUBREC of `o`. -/
def completed (o : Origin) (id : UInt16) : ClientLog → Bool
  | [] => false
  | .took .pubrec m :: log => m.origin ≠ o && completed o id log
  | .took .publishStatus ⟨⟨_, .received (.pubcomp _) _⟩, .publishStatus (.removePacketStatus id') _⟩ ::
      log => id' = id || completed o id log
  | _ :: log => completed o id log

/-- A check of PubrecActor that is to be followed by a retry finds the phase it tests for. -/
def pendingRecFound (w : ClientWorld) (mv : ClientMove) : Bool :=
  match mv.label with
  | .take .publishStatus ⟨o, .publishStatus (.getAndRemovePacketStatus id)
      (some (.statusCheck .publishStatus .pubrec _ _ (.packet ⟨_, retryCount⟩)))⟩ =>
      retryCount > maxRetryCount || completed o id w.log ||
        (w.state.publishStatus.lookup id).map (·.payload) = some .pendingRec
  | _ => true

/-- PubrecActor is about to be told to queue PUBREL(id) for `o` again. -/
def releaseInFlight (o : Origin) (id : UInt16) (w : ClientWorld) : Prop :=
  (∃ retryCount answer, ⟨o, .resumed (releaseFuture id retryCount) answer⟩ ∈ w.tasks ∧
      (StatusCheck.isPending .pendingRec).passes answer) ∨
    ∃ retryCount, onTheWay o .pubrec (.packet ⟨.pubrec id, retryCount⟩) w

/-- What has become of a check that was answered before the part `later` of the history. -/
def Released (o : Origin) (id : UInt16) (later : ClientLog) (w : ClientWorld) : Prop :=
  .emitted (.queued o (.pubrel id)) ∈ later ∨ releaseInFlight o id w ∨
    ∃ retryCount, retryCount > maxRetryCount ∧
      .took .pubrec ⟨o, .request (.packet ⟨.pubrec id, retryCount⟩)⟩ ∈ later

section Step

variable {env : Env} {w w' : ClientWorld} {mv : ClientMove} {s : State} {es : Out} {o : Origin}
  {id : UInt16} {later : ClientLog}

theorem released_check {retryCount : UInt16} {full : Actor → Bool}
    (taken : clientStep env w ⟨.take .publishStatus (releaseCheck o id retryCount), full⟩ = some w')
    (found : (w.state.publishStatus.lookup id).map (·.payload) = some .pendingRec) :
    releaseInFlight o id w' := by
  obtain ⟨s, es, reacted, -⟩ := World.fire_eq_some.mp taken
  obtain ⟨status, lookup, pending⟩ := Option.map_eq_some_iff.mp found
  refine .inl ⟨retryCount, .publishStatus (some status), ?_, by simp [StatusCheck.passes, pending]⟩
  refine World.mem_tasks_of_spawn_fire reacted taken (fun a owned => by cases owned) ?_
  simp [(publishStatus_reaction reacted).2, PacketStatusActor.handle_getAndRemove, lookup]

theorem released_onTheWay {retryCount : UInt16} (inv : StopsOnRequest w)
    (taken : clientStep env w mv = some w')
    (reacted : w.reaction (system env) (w.results mv.full) mv.label = some (s, es))
    (there : onTheWay o .pubrec (.packet ⟨.pubrec id, retryCount⟩) w) :
    stopRequested w' ∨
      Released o id ((emits es).reverse.map .emitted ++ mv.label.record :: later) w' := by
  rcases onTheWay_step inv rfl taken there with stop | there | label
  · exact .inl stop
  · exact .inr (.inr (.inl (.inr ⟨retryCount, there⟩)))
  · by_cases above : retryCount > maxRetryCount
    · refine .inr (.inr (.inr ⟨retryCount, above, ?_⟩))
      simp [label, Label.record]
    · rcases (Attempts.pubrec id retryCount rfl above).reaction (.take .pubrec o _)
          (label ▸ reacted) with stop | ⟨again, -⟩ | rfl
      · exact .inl (stopRequested_of_post inv taken reacted stop)
      · exact .inr (.inr (.inl (.inr ⟨_, onTheWay_of_resend reacted taken again⟩)))
      · exact .inr (.inl (by simp [emits]))

theorem released_step (inv : StopsOnRequest w) (taken : clientStep env w mv = some w')
    (reacted : w.reaction (system env) (w.results mv.full) mv.label = some (s, es))
    (released : Released o id later w) :
    stopRequested w' ∨
      Released o id ((emits es).reverse.map .emitted ++ mv.label.record :: later) w' := by
  rcases released with queued | (⟨retryCount, answer, member, passes⟩ | ⟨retryCount, there⟩) |
    ⟨retryCount, above, gaveUp⟩
  · exact .inr (.inl (by simp [queued]))
  · by_cases now : mv.label = .run ⟨o, .resumed (releaseFuture id retryCount) answer⟩
    · have resumed := (World.reaction_run.mp (now ▸ reacted)).2.2
      have posted : .post .pubrec ⟨o, .request (.packet ⟨.pubrec id, retryCount⟩)⟩ ∈ es := by
        rw [← (Prod.mk.inj resumed).2]
        cases answer with
        | error e => cases passes
        | _ => simp [releaseFuture, Future.resume, statusChecked, passes]
      exact (onTheWay_of_post inv rfl reacted taken posted).imp_right
        fun there => .inr (.inl (.inr ⟨retryCount, there⟩))
    · exact .inr (.inr (.inl (.inl ⟨retryCount, answer,
        World.mem_tasks_fire taken (fun a owned => by cases owned) member now, passes⟩)))
  · exact released_onTheWay inv taken reacted there
  · exact .inr (.inr (.inr ⟨retryCount, above, by simp [gaveUp]⟩))

end Step

/-- When the checks of PubrecActor find the phase they test for, each check that is answered before
    PUBCOMP leads to another PUBREL: it has been queued, PubrecActor is about to be told, or the
    retries are used up, until the client is asked to stop. -/
theorem pubrel_retransmitted {env : Env} {seed : Nat} {ls : List ClientMove} {w : ClientWorld}
    (allowed : Along (clientStep env) (fun w mv => pendingRecFound w mv) (init env seed) ls)
    (run : Run env seed ls w) {o : Origin} {id retryCount : UInt16} {later earlier : ClientLog}
    (answered : w.log = later ++ .took .publishStatus (releaseCheck o id retryCount) :: earlier)
    (below : ¬ retryCount > maxRetryCount) (awaited : ¬ completed o id earlier)
    (running : ¬ stopRequested w) : Released o id later w := by
  have invariant : StopsOnRequest w ∧ ∀ o id retryCount later earlier,
      w.log = later ++ .took .publishStatus (releaseCheck o id retryCount) :: earlier →
      ¬ retryCount > maxRetryCount → ¬ completed o id earlier →
      stopRequested w ∨ Released o id later w := by
    refine exec_invariant (fun w => StopsOnRequest w ∧ ∀ o id retryCount later earlier,
      w.log = later ++ .took .publishStatus (releaseCheck o id retryCount) :: earlier →
      ¬ retryCount > maxRetryCount → ¬ completed o id earlier →
      stopRequested w ∨ Released o id later w) ?_ ⟨stopsOnRequest_init env seed, ?_⟩ allowed run
    · rintro w mv w' ⟨inv, backed⟩ found taken
      refine ⟨stopsOnRequest_step inv taken, ?_⟩
      intro o id retryCount later earlier split below awaited
      obtain ⟨s, es, reacted, -⟩ := World.fire_eq_some.mp taken
      rcases World.fire_split reacted taken (fun e same => by cases same) split with
        ⟨now, rfl, -⟩ | ⟨before, split', rfl⟩
      · obtain ⟨label, full⟩ := mv
        cases label with
        | take a m =>
            cases now
            refine .inr (.inr (.inl (released_check taken ?_)))
            simpa [pendingRecFound, releaseCheck, releaseFuture, below, awaited] using found
        | run t | give i => cases now
      · rcases backed o id retryCount before earlier split' below awaited with stop | released
        · exact .inl (stopRequested_step inv taken stop)
        · exact released_step inv taken reacted released
    · intro o id retryCount later earlier split
      simp [init] at split
  exact (invariant.2 o id retryCount later earlier answered below awaited).resolve_left running

/-- A PUBREL that is not answered. -/
def lostPubrel : List Turn :=
  [.give (.cause ⟨1, .publish "topic" .level2 [1]⟩), .handle .sendPublish, .handle .publishStatus,
    .give (.cause ⟨2, .received (.pubrec 1) 0⟩), .handle .dispatch, .handle .pubrec,
    .handle .publishStatus, .give (.advance commandTimeout), .task 0, .task 0,
    .handle .publishStatus]

/-- The counter of identifiers wraps around after its last value: a second message goes out under
    the identifier of the first one, whose PUBREL is not answered. -/
def wrappedIdentifier : List Turn :=
  [.give (.cause ⟨1, .publish "topic" .level2 [1]⟩), .handle .sendPublish, .handle .publishStatus,
    .give (.cause ⟨2, .received (.pubrec 1) 0⟩), .handle .dispatch, .handle .pubrec,
    .handle .publishStatus, .give (.cause ⟨3, .publish "topic" .level2 [2]⟩),
    .handle .sendPublish, .handle .publishStatus, .give (.advance commandTimeout), .task 1, .task 0,
    .handle .publishStatus]

theorem pubrel_retransmitted_wrappedIdentifier :
    ∃ w, Run plainEnv 18446744073709551615
        (schedule plainEnv (init plainEnv 18446744073709551615) wrappedIdentifier) w ∧
      Released ⟨2, .received (.pubrec 1) 0⟩ 1 [] w := by
  obtain ⟨w, run, answered, awaited, running⟩ :
      ∃ w, Run plainEnv 18446744073709551615
          (schedule plainEnv (init plainEnv 18446744073709551615) wrappedIdentifier) w ∧
        w.log = .took .publishStatus (releaseCheck ⟨2, .received (.pubrec 1) 0⟩ 1 1) :: w.log.tail ∧
        ¬ completed ⟨2, .received (.pubrec 1) 0⟩ 1 w.log.tail ∧ ¬ stopRequested w :=
    ⟨_, rfl, by decide +kernel, by decide +kernel, by decide +kernel⟩
  exact ⟨w, run, pubrel_retransmitted (by decide +kernel) run answered (by decide) awaited running⟩

/-- The check reads the phase that PubrecActor itself has noted, and nothing is queued again. -/
theorem pubrel_not_retransmitted :
    ∃ w, Run plainEnv 0 (schedule plainEnv (init plainEnv 0) lostPubrel) w ∧
      w.log = .took .publishStatus (releaseCheck ⟨2, .received (.pubrec 1) 0⟩ 1 1) :: w.log.tail ∧
      ¬ completed ⟨2, .received (.pubrec 1) 0⟩ 1 w.log.tail ∧ ¬ stopRequested w ∧
      ¬ Released ⟨2, .received (.pubrec 1) 0⟩ 1 [] w := by
  obtain ⟨w, run, answered, awaited, running, left, idle⟩ :
      ∃ w, Run plainEnv 0 (schedule plainEnv (init plainEnv 0) lostPubrel) w ∧
        w.log = .took .publishStatus (releaseCheck ⟨2, .received (.pubrec 1) 0⟩ 1 1) :: w.log.tail ∧
        ¬ completed ⟨2, .received (.pubrec 1) 0⟩ 1 w.log.tail ∧ ¬ stopRequested w ∧
        w.tasks = [⟨⟨2, .received (.pubrec 1) 0⟩, .resumed (releaseFuture 1 1)
            (.publishStatus (some ⟨1, 0, .pendingComp⟩))⟩,
          ⟨⟨1, .publish "topic" .level2 [1]⟩, .timer commandTimeout (some .sendPublish)
            (.publishLevel2 1 ⟨"topic", .level2, [1], 1⟩)⟩,
          ⟨⟨0, .tick⟩, .notify (.pingreq 0)⟩] ∧
        w.mail .pubrec = [] :=
    ⟨_, rfl, by decide, by decide, by decide, by decide, by decide⟩
  refine ⟨w, run, answered, awaited, running, ?_⟩
  rintro (queued | (⟨retryCount, answer, member, passes⟩ | ⟨retryCount, ⟨deadline, member⟩ | member⟩) |
    ⟨retryCount, above, gaveUp⟩)
  · cases queued
  · simp only [left, List.mem_cons, Task.mk.injEq, Job.resumed.injEq] at member
    obtain ⟨-, -, rfl⟩ | member := member
    · cases passes
    · simp at member
  · simp [left] at member
  · simp [idle] at member
  · cases gaveUp

end ActixMqtt
