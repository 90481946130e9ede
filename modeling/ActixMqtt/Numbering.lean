import ActixMqtt.Cycle
import ActixMqtt.Pipeline

/-! # The numbers of packets

Every PUBLISH above level 0, SUBSCRIBE and UNSUBSCRIBE that is queued, retransmissions
included, has the identifier that `next_id` returned in that very step. What the queue shows
of them is therefore a part of one sequence of calls, in the order of the calls.
-/

namespace ActixMqtt

open ActorSystem

/-- The identifier that the client chose for a packet. -/
def VariablePacket.chosenId : VariablePacket → Option UInt16
  | .publish ⟨_, .level1 id, _⟩ | .publish ⟨_, .level2 id, _⟩ => some id
  | .subscribe id _ | .unsubscribe id _ => some id
  | _ => none

def Event.chosenId : Event → Option UInt16
  | .queued _ packet => packet.chosenId
  | _ => none

/-- The identifiers chosen for the packets queued in a run, oldest first. -/
def chosenIds (log : ClientLog) : List UInt16 := (eventsOf log).filterMap Event.chosenId

section Step

variable {env : Env} {seed : ℕ} {ls front : List ClientMove} {w w' : ClientWorld}
  {mv : ClientMove} {s : State} {es : Out}

theorem Attempt.chosen (att : Attempt) (ctx : Ctx) (statusTag sendTag : String) :
    ((emits (att.out ctx statusTag sendTag)).filterMap Event.chosenId).Sublist
      att.packet.chosenId.toList := by
  have silent (tag : String) (e : SendError) : (emits (handleSendErrorWithResend ctx tag ctx.self
      att.retry e)).filterMap Event.chosenId = [] := by
    cases e <;> rfl
  unfold Attempt.out trySend trySendPacket
  cases ctx.res att.status with
  | some e => exact (silent statusTag e).symm ▸ List.nil_sublist _
  | none =>
      cases ctx.res .send with
      | some e => exact (silent sendTag e).symm ▸ List.nil_sublist _
      | none =>
          show ([Event.queued ctx.origin att.packet].filterMap Event.chosenId).Sublist _
          cases chosen : att.packet.chosenId <;> simp [Event.chosenId, chosen]

theorem Attempts.chosen {a : Actor} {o : Origin} {b : Body} {att : Attempt}
    (handles : Handles mv.label a o b)
    (attempts : Attempts env ⟨a, o, w.state.now, w.results mv.full⟩ w.state b att) {id : UInt16}
    (chosen : att.packet.chosenId = some id) : issued env w mv = [id] := by
  suffices takes : takesId env mv ∧ (w.state.nextId env).1 = id by
    obtain ⟨takes, rfl⟩ := takes
    refine if_pos ?_
    unfold callsNextId
    split
    · rfl
    · exact takes
  rw [takesId_handled handles]
  cases attempts with
  | publish1 msg self below valid qos | publish2 msg self below valid qos =>
      obtain rfl : a = .sendPublish := self
      exact ⟨by simp [takesId, below, valid, qos], Option.some.inj chosen⟩
  | subscribe msg self below valid =>
      obtain rfl : a = .subscribe := self
      exact ⟨by simpa [takesId] using valid, Option.some.inj chosen⟩
  | unsubscribe msg self below valid =>
      obtain rfl : a = .unsubscribe := self
      exact ⟨by simpa [takesId] using valid, Option.some.inj chosen⟩
  | pubrec | pubrel | sendPing => cases chosen

theorem chosen_law
    (reacted : w.reaction (system env) (w.results mv.full) mv.label = some (s, es)) :
    ((emits es).filterMap Event.chosenId).Sublist (issued env w mv) := by
  by_cases noted : ∃ o packet id, .emit (.queued o packet) ∈ es ∧ packet.chosenId = some id
  · obtain ⟨o, packet, id, queued, chosen⟩ := noted
    rcases queued_reaction reacted queued with ⟨a, b, handles, sends⟩ | ⟨_, _, _, _, -, rfl⟩
    · cases sends with
      | attempt attempts =>
          obtain ⟨statusTag, sendTag, same⟩ := attempts.handleBody_eq
          rw [handles.reaction reacted] at same
          obtain rfl : es = _ := same
          rw [attempts.chosen handles chosen]
          exact (Attempt.chosen _ _ statusTag sendTag).trans (by rw [chosen]; exact .refl _)
      | publish0 | puback | disconnect | connect => cases chosen
    · cases chosen
  · rw [List.filterMap_eq_nil_iff.mpr fun e emitted => ?_]
    · exact List.nil_sublist _
    · cases e with
      | queued o packet =>
          by_contra some
          obtain ⟨id, chosen⟩ := Option.ne_none_iff_exists'.mp some
          exact noted ⟨o, packet, id, mem_emits.mp emitted, chosen⟩
      | _ => rfl

/-- The packets that a run queues are numbered by its calls of `next_id`, in this order. -/
theorem chosen_run (run : exec (clientStep env) w ls = some w') :
    ∃ more, chosenIds w'.log = chosenIds w.log ++ more ∧
      more.Sublist (follow (clientStep env) (issued env) w ls) := by
  induction ls generalizing w with
  | nil =>
      cases run
      exact ⟨[], (List.append_nil _).symm, List.Sublist.refl _⟩
  | cons mv ls ih =>
      obtain ⟨mid, taken, rest⟩ := exec_cons_eq_some.mp run
      obtain ⟨s, es, reacted, -⟩ := World.fire_eq_some.mp taken
      obtain ⟨more, longer, numbered⟩ := ih rest
      refine ⟨(emits es).filterMap Event.chosenId ++ more, ?_, ?_⟩
      · rw [longer, chosenIds, chosenIds, eventsOf_step reacted taken, List.filterMap_append,
          List.append_assoc]
      · simp only [follow, taken]
        exact (chosen_law reacted).append numbered

/-- From any state a client can reach, the packets queued while `next_id` is called at most 65535
    times have different identifiers until its counter wraps around, and none is 0. What is sent
    again has another identifier than before. -/
theorem chosen_distinct (word : seed < 2 ^ env.wordBits) (run : Run env seed front w)
    (further : exec (clientStep env) w ls = some w')
    (short : (follow (clientStep env) (issued env) w ls).length ≤ 65535)
    (unwrapped : w.state.counter + (follow (clientStep env) (issued env) w ls).length ≤
      2 ^ env.wordBits) :
    ∃ more, chosenIds w'.log = chosenIds w.log ++ more ∧ more.Nodup ∧
      ∀ id ∈ more, 1 ≤ id.toNat ∧ id.toNat ≤ 65535 := by
  obtain ⟨more, longer, numbered⟩ := chosen_run further
  refine ⟨more, longer, ?_, fun id member => ?_⟩
  · exact ((issued_nodup_iff word run further short).mpr (.inl unwrapped)).sublist numbered
  · have returned := numbered.subset member
    rw [issued_run further] at returned
    exact nextIds_bounds returned

end Step

/-- A message is sent again while a subscription is made. -/
def againAndSubscribe : List Turn :=
  latePubrec ++ [.give (.cause ⟨2, .subscribe ⟨"topic", .level1⟩⟩), .handle .subscribe, .task 0]

theorem chosen_distinct_againAndSubscribe : ∃ w more,
    Run plainEnv 0 (schedule plainEnv (init plainEnv 0) againAndSubscribe) w ∧
      chosenIds w.log = [1, 2, 3] ∧ chosenIds w.log = chosenIds (init plainEnv 0).log ++ more ∧
      more.Nodup := by
  obtain ⟨w, run, numbers, calls⟩ : ∃ w,
      Run plainEnv 0 (schedule plainEnv (init plainEnv 0) againAndSubscribe) w ∧
        chosenIds w.log = [1, 2, 3] ∧
        (follow (clientStep plainEnv) (issued plainEnv) (init plainEnv 0)
          (schedule plainEnv (init plainEnv 0) againAndSubscribe)).length = 3 :=
    ⟨_, rfl, by decide, by decide⟩
  have start : Run plainEnv 0 [] (init plainEnv 0) := rfl
  obtain ⟨more, longer, distinct, -⟩ := chosen_distinct (by decide) start run
    (by rw [calls]; decide) (by rw [calls]; decide)
  exact ⟨w, more, run, numbers, longer, distinct⟩

end ActixMqtt
