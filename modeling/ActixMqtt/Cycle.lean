import ActixMqtt.Arithmetic.Wrapping
import ActixMqtt.Timely

/-! # The cycle of identifiers

`next_id` counts modulo the machine word and returns the count modulo 65535. No word is a
multiple of 65535, so the cycle breaks where the counter wraps around; everywhere else
65535 calls in a row return different identifiers.
-/

namespace ActixMqtt

open ActorSystem

/-- What `calls` calls of `next_id` return, one after the other. -/
def nextIds (wordBits : Nat) : Nat → Nat → List UInt16
  | _, 0 => []
  | counter, calls + 1 =>
      let (id, counter) := nextId wordBits counter
      id :: nextIds wordBits counter calls

section Calls

variable {wordBits counter : Nat}

theorem nextIds_eq (wordBits counter calls : Nat) :
    nextIds wordBits counter calls =
      ((WrappingCounter.values (2 ^ wordBits) counter calls).map (· % 65535)).map
        fun residue => UInt16.ofNat (residue + 1) := by
  induction calls generalizing counter with
  | zero => rfl
  | succ calls ih =>
      simp only [nextIds, nextId, ih]
      rfl

theorem nextIds_drop (word : counter < 2 ^ wordBits) (before calls : Nat) :
    (nextIds wordBits counter (before + calls)).drop before =
      nextIds wordBits ((counter + before) % 2 ^ wordBits) calls := by
  rw [nextIds_eq, nextIds_eq, ← List.map_drop, ← List.map_drop, WrappingCounter.drop_values word]

theorem toNat_identifier {residue : Nat} (below : residue < 65535) :
    (UInt16.ofNat (residue + 1)).toNat = residue + 1 := by
  rw [UInt16.toNat_ofNat', Nat.mod_eq_of_lt (by omega)]

theorem nextIds_bounds {calls : Nat} {id : UInt16} (returned : id ∈ nextIds wordBits counter calls) :
    1 ≤ id.toNat ∧ id.toNat ≤ 65535 := by
  simp only [nextIds_eq, List.mem_map] at returned
  obtain ⟨-, ⟨value, -, rfl⟩, rfl⟩ := returned
  have below := Nat.mod_lt value (show 0 < 65535 by decide)
  rw [toNat_identifier below]
  omega

theorem word_remains (wordBits : Nat) : ¬ 65535 ∣ 2 ^ wordBits := by
  intro divides
  have coprime : Nat.Coprime 65535 (2 ^ wordBits) := Nat.Coprime.pow_right wordBits (by decide)
  exact absurd (coprime.eq_one_of_dvd divides) (by decide)

/-- At most 65535 calls return different identifiers until the counter wraps around. -/
theorem nextIds_nodup_iff (word : counter < 2 ^ wordBits) {calls : Nat} (short : calls ≤ 65535) :
    (nextIds wordBits counter calls).Nodup ↔
      counter + calls ≤ 2 ^ wordBits ∨ calls ≤ 2 ^ wordBits % 65535 := by
  have cast : (nextIds wordBits counter calls).Nodup ↔
      ((WrappingCounter.values (2 ^ wordBits) counter calls).map (· % 65535)).Nodup := by
    rw [nextIds_eq]
    refine ⟨List.Nodup.of_map _, List.Nodup.map_on ?_⟩
    intro residue member residue' member' same
    obtain ⟨value, -, rfl⟩ := List.mem_map.mp member
    obtain ⟨value', -, rfl⟩ := List.mem_map.mp member'
    have equal := congrArg UInt16.toNat same
    rw [toNat_identifier (Nat.mod_lt _ (by decide)), toNat_identifier (Nat.mod_lt _ (by decide))]
      at equal
    exact Nat.succ.inj equal
  rw [cast, WrappingCounter.nodup_residues_iff word short]
  simp [word_remains]

theorem word_remainder (divides : 16 ∣ wordBits) : 2 ^ wordBits % 65535 = 1 := by
  obtain ⟨k, rfl⟩ := divides
  rw [Nat.pow_mul, Nat.pow_mod]
  simp

theorem nextIds_wrap (divides : 16 ∣ wordBits) (positive : 0 < wordBits) (calls : Nat) :
    nextIds wordBits (2 ^ wordBits - 1) (calls + 2) = 1 :: 1 :: nextIds wordBits 1 calls := by
  have remainder := word_remainder divides
  have large : 1 < 2 ^ wordBits := Nat.one_lt_two_pow positive.ne'
  have last : (2 ^ wordBits - 1) % 65535 = 0 := by omega
  have wraps : 2 ^ wordBits - 1 + 1 = 2 ^ wordBits := by omega
  simp [nextIds, nextId, last, wraps, Nat.mod_eq_of_lt large]

end Calls

/-- A window of 65535 calls returns each identifier once if and only if the counter does not wrap
    around before its last call. -/
theorem identifiers_distinct {wordBits seed : Nat} (word : seed < 2 ^ wordBits)
    (calls before : Nat) :
    (∀ id ∈ nextIds wordBits seed calls, 1 ≤ id.toNat ∧ id.toNat ≤ 65535) ∧
      (((nextIds wordBits seed (before + 65535)).drop before).Nodup ↔
        (seed + before) % 2 ^ wordBits + 65535 ≤ 2 ^ wordBits) := by
  refine ⟨fun id returned => nextIds_bounds returned, ?_⟩
  have remainder := Nat.mod_lt (2 ^ wordBits) (show 0 < 65535 by decide)
  rw [nextIds_drop word, nextIds_nodup_iff (Nat.mod_lt _ (by omega)) le_rfl]
  exact or_iff_left (by omega)

/-- The last window of a word of 64 bits before the wrap. -/
theorem identifiers_distinct_lastWindow :
    ((nextIds 64 (2 ^ 64 - 65535) (0 + 65535)).drop 0).Nodup :=
  (identifiers_distinct (by decide) 0 0).2.mpr (by decide)

/-- The counter starts at `usize::MAX`, and the first two calls return the same identifier. -/
theorem identifier_repeated :
    ¬ ((nextIds 64 (2 ^ 64 - 1) (0 + 65535)).drop 0).Nodup ∧
      ¬ ((nextIds 32 (2 ^ 32 - 1) (0 + 65535)).drop 0).Nodup := by
  have repeated {wordBits : Nat} (divides : 16 ∣ wordBits) (positive : 0 < wordBits) :
      ¬ ((nextIds wordBits (2 ^ wordBits - 1) (0 + 65535)).drop 0).Nodup := by
    rw [show 0 + 65535 = 65533 + 2 by decide, nextIds_wrap divides positive, List.drop_zero]
    simp
  exact ⟨repeated (by decide) (by decide), repeated (by decide) (by decide)⟩

/-! ## The calls of a run

All clients of a process draw on one counter, so a run of one of them sees every call. -/

/-- `next_id` is called, by a handler or for another client of the process. -/
def callsNextId (env : Env) (mv : ClientMove) : Bool :=
  match mv.label with
  | .give .nextIdElsewhere => true
  | _ => takesId env mv

/-- What `next_id` returns in a step. -/
def issued (env : Env) (w : ClientWorld) (mv : ClientMove) : List UInt16 :=
  if callsNextId env mv then [(w.state.nextId env).1] else []

section Handlers

variable (env : Env) (ctx : Ctx) (s : State)

theorem SendPublishActor.handle_counter (msg : Publish) :
    (handle env ctx msg s).1.counter =
      if !(msg.retryCount > maxRetryCount) && (env.topicNameError msg.topic).isNone &&
        msg.qos ≠ .level0 then (s.nextId env).2.counter else s.counter := by
  unfold handle createPacketAndIdFromMessage
  by_cases above : msg.retryCount > maxRetryCount
  · simp [above]
  · rcases Option.eq_none_or_eq_some (env.topicNameError msg.topic) with valid | ⟨e, invalid⟩
    · cases msg.qos <;> simp [above, valid]
    · simp [above, invalid]

theorem SubscribeActor.handleBatch_counter (msg : BatchSubscribe) :
    (handleBatch env ctx msg s).1.counter =
      if msg.subscriptions.any fun sub => (env.topicFilterError sub.topic).isNone then
        (s.nextId env).2.counter else s.counter := by
  simp only [handleBatch, createPacketAndIdFromMessage]
  split <;> simp_all

theorem UnsubscribeActor.handleBatch_counter (msg : BatchUnsubscribe) :
    (handleBatch env ctx msg s).1.counter =
      if msg.topics.any fun topic => (env.topicFilterError topic).isNone then
        (s.nextId env).2.counter else s.counter := by
  simp only [handleBatch, createPacketAndIdFromMessage]
  split <;> simp_all

theorem handleBody_takes (b : Body) (full : Actor → Bool) :
    (handleBody env ctx b s).1.counter =
      if takesId env ⟨.take ctx.self ⟨ctx.origin, b⟩, full⟩ then (s.nextId env).2.counter
      else s.counter := by
  have changed := handleBody_changedBy env ctx b s
  obtain ⟨self, o, now, res⟩ := ctx
  cases self
  case sendPublish =>
      cases b with
      | request req =>
          cases req with
          | publish msg => exact SendPublishActor.handle_counter env _ s msg
          | _ => rfl
      | _ => rfl
  case subscribe =>
      cases b with
      | request req =>
          cases req with
          | batchSubscribe msg => exact SubscribeActor.handleBatch_counter env _ s msg
          | _ => rfl
      | _ => rfl
  case unsubscribe =>
      cases b with
      | request req =>
          cases req with
          | batchUnsubscribe msg => exact UnsubscribeActor.handleBatch_counter env _ s msg
          | _ => rfl
      | _ => rfl
  all_goals
    simp only [State.ChangedBy] at changed
    rw [changed]
    rfl

end Handlers

section Runs

variable {env : Env} {seed : Nat} {w w' : ClientWorld} {mv : ClientMove} {ls : List ClientMove}

theorem counter_handled {s : State} {es : Out} {label : Label Actor Msg Task Input}
    {full : Actor → Bool} {a : Actor} {o : Origin} {b : Body} (handles : Handles label a o b)
    (reacted : w.reaction (system env) (w.results full) label = some (s, es)) :
    s.counter = if takesId env ⟨label, full⟩ then (nextId env.wordBits w.state.counter).2
      else w.state.counter := by
  have handled := handleBody_takes env ⟨a, o, w.state.now, w.results full⟩ w.state b full
  rw [handles.reaction reacted] at handled
  rw [takesId_handled handles]
  exact handled

theorem counter_step (taken : clientStep env w mv = some w') :
    w'.state.counter =
      if callsNextId env mv then (nextId env.wordBits w.state.counter).2 else w.state.counter := by
  obtain ⟨s, es, reacted, -⟩ := World.fire_eq_some.mp taken
  rw [World.fire_state reacted taken]
  obtain ⟨label, full⟩ := mv
  cases label with
  | take a m => exact counter_handled (.take a m.origin m.body) reacted
  | run t =>
      obtain ⟨o, job⟩ := t
      obtain ⟨-, -, resumed⟩ := World.reaction_run.mp reacted
      cases job with
      | notify notice => exact counter_handled (.notify o notice) reacted
      | spawned future =>
          simp only [system, resume] at resumed
          split at resumed <;> cases resumed <;> rfl
      | resend deadline dst req | timer deadline owner future | resumed future answer =>
          cases resumed
          rfl
  | give i =>
      have accepted : accept env i (w.results full) w.state = some (s, es) := reacted
      cases i with
      | cause o =>
          rw [(accept_cause accepted).2]
          rfl
      | messageClosed | nextIdElsewhere | advance duration =>
          cases accepted
          rfl

theorem issued_run (run : exec (clientStep env) w ls = some w') :
    follow (clientStep env) (issued env) w ls =
      nextIds env.wordBits w.state.counter (follow (clientStep env) (issued env) w ls).length := by
  induction ls generalizing w with
  | nil => rfl
  | cons mv ls ih =>
      obtain ⟨mid, taken, rest⟩ := exec_cons_eq_some.mp run
      have counted := counter_step taken
      simp only [follow, taken, issued]
      by_cases calls : callsNextId env mv
      · rw [if_pos calls] at counted ⊢
        have later := ih rest
        rw [counted] at later
        exact congrArg (_ :: ·) later
      · rw [if_neg calls] at counted ⊢
        rw [← counted]
        exact ih rest

theorem counter_run (word : seed < 2 ^ env.wordBits) (run : Run env seed ls w) :
    w.state.counter < 2 ^ env.wordBits := by
  have preserved (w : ClientWorld) (mv : ClientMove) (w' : ClientWorld)
      (bound : w.state.counter < 2 ^ env.wordBits) (taken : clientStep env w mv = some w') :
      w'.state.counter < 2 ^ env.wordBits := by
    rw [counter_step taken]
    split
    · exact WrappingCounter.next_lt bound
    · exact bound
  exact exec_preserves preserved word run

theorem issued_nodup_iff {front : List ClientMove} (word : seed < 2 ^ env.wordBits)
    (run : Run env seed front w) (further : exec (clientStep env) w ls = some w')
    (short : (follow (clientStep env) (issued env) w ls).length ≤ 65535) :
    (follow (clientStep env) (issued env) w ls).Nodup ↔
      w.state.counter + (follow (clientStep env) (issued env) w ls).length ≤ 2 ^ env.wordBits ∨
        (follow (clientStep env) (issued env) w ls).length ≤ 2 ^ env.wordBits % 65535 := by
  rw [← nextIds_nodup_iff (counter_run word run) short, ← issued_run further]

/-- An identifier is returned again only when 65535 calls have been made since, or the counter has
    wrapped around. -/
theorem issued_again {front : List ClientMove} {mv' : ClientMove} {w₁ w₂ : ClientWorld}
    (word : seed < 2 ^ env.wordBits) (run : Run env seed front w)
    (first : clientStep env w mv = some w₁) (between : exec (clientStep env) w₁ ls = some w₂)
    (second : clientStep env w₂ mv' = some w') (calls : callsNextId env mv)
    (calls' : callsNextId env mv') (same : (w.state.nextId env).1 = (w₂.state.nextId env).1) :
    65535 ≤ (follow (clientStep env) (issued env) w (mv :: ls)).length ∨
      2 ^ env.wordBits ≤
        w.state.counter + (follow (clientStep env) (issued env) w (mv :: ls)).length := by
  have through : exec (clientStep env) w (mv :: ls) = some w₂ :=
    exec_cons_eq_some.mpr ⟨w₁, first, between⟩
  have whole : exec (clientStep env) w (mv :: ls ++ [mv']) = some w' :=
    exec_concat_eq_some.mpr ⟨w₂, through, second⟩
  have last : follow (clientStep env) (issued env) w (mv :: ls ++ [mv']) =
      follow (clientStep env) (issued env) w (mv :: ls) ++ [(w₂.state.nextId env).1] := by
    rw [follow_concat through, issued, if_pos calls']
  have head : (w₂.state.nextId env).1 ∈ follow (clientStep env) (issued env) w (mv :: ls) := by
    simp [follow, issued, calls, same]
  have length : (follow (clientStep env) (issued env) w (mv :: ls ++ [mv'])).length =
      (follow (clientStep env) (issued env) w (mv :: ls)).length + 1 := by
    rw [last, List.length_append, List.length_singleton]
  by_contra others
  obtain ⟨short, unwrapped⟩ := not_or.mp others
  have distinct := (issued_nodup_iff word run whole (by omega)).mpr (.inl (by omega))
  rw [last] at distinct
  exact (List.nodup_append.mp distinct).2.2 _ head _ List.mem_cons_self rfl

end Runs

end ActixMqtt
