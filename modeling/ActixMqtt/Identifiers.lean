import ActixMqtt.Timely

/-! # New identifiers

`next_id` counts and never looks at the status maps, and the broker chooses the identifiers
of its own packets. A request overwrites the entry of another flow exactly when it is given
an identifier that was noted before and whose removal has not been asked for since.
-/

namespace ActixMqtt

open ActorSystem

/-- The user asks for something that needs an identifier of its own. -/
def Cause.isRequest : Cause → Bool
  | .publish _ _ _ | .subscribe _ | .unsubscribe _ => true
  | _ => false

/-- The status that an actor sets for the identifier it has taken from `next_id`. -/
def Msg.setsFresh (a : Actor) (id : UInt16) (m : Msg) : Bool :=
  m.body.mark a = .put id && m.origin.cause.isRequest

/-- The status actor at which the step notes an identifier from `next_id`. -/
def opens (env : Env) (w : ClientWorld) (mv : ClientMove) : Option Actor :=
  let accepting (status : Actor) : Option Actor :=
    if w.results mv.full status = none then some status else none
  match mv.label with
  | .take .sendPublish ⟨_, .request (.publish msg)⟩ =>
      if msg.qos = .level0 || msg.retryCount > maxRetryCount ||
        (env.topicNameError msg.topic).isSome then none else accepting .publishStatus
  | .take .subscribe ⟨_, .request (.batchSubscribe msg)⟩ | .run ⟨_, .notify (.batchSubscribe msg)⟩ =>
      if msg.retryCount > maxRetryCount ||
        (msg.subscriptions.filter fun sub => (env.topicFilterError sub.topic).isNone).isEmpty
      then none else accepting .subscribeStatus
  | .take .unsubscribe ⟨_, .request (.batchUnsubscribe msg)⟩
  | .run ⟨_, .notify (.batchUnsubscribe msg)⟩ =>
      if msg.retryCount > maxRetryCount ||
        (msg.topics.filter fun topic => (env.topicFilterError topic).isNone).isEmpty
      then none else accepting .unsubscribeStatus
  | _ => none

theorem opens_handled {env : Env} {w : ClientWorld} {mv : ClientMove} {a : Actor} {o : Origin}
    {b : Body} (handles : Handles mv.label a o b) :
    opens env w mv = opens env w ⟨.take a ⟨o, b⟩, mv.full⟩ :=
  handles.alike (f := fun label => opens env w ⟨label, mv.full⟩) fun o notice => by
    cases notice <;> rfl

/-- The last message about the identifier that the status actor was sent notes it. -/
def pending (a : Actor) (id : UInt16) (w : ClientWorld) : Bool :=
  ((inbox a w).map (·.body.mark a)).reverse.find? (fun mark => mark = .put id || mark = .drop id) =
    some (.put id)

/-- The identifier from `next_id` is that of a flow that is still pending. -/
def collides (env : Env) (w : ClientWorld) (mv : ClientMove) : Bool :=
  (opens env w mv).any fun a => pending a (w.state.nextId env).1 w

/-- A status actor sets the status of a new identifier, which is already a key of its map. -/
def overwrites (w : ClientWorld) (mv : ClientMove) : Prop :=
  ∃ a m id, mv.label = .take a m ∧ m.setsFresh a id ∧ id ∈ statusKeys w.state a

theorem pending_iff {env : Env} {seed : Nat} {ls : List ClientMove} {w : ClientWorld}
    (run : Run env seed ls w) {a : Actor} {id : UInt16} : pending a id w ↔ id ∈ settled w a := by
  rw [settled, statusKeys_run run a, ← settle_append, ← List.map_append, ← inbox,
    mem_settle_iff_last]
  simp [pending]

section Step

variable {env : Env} {w w' : ClientWorld} {mv : ClientMove} {s : State} {es : Out} {a : Actor}
  {id : UInt16} {m : Msg}

theorem Attempt.posts_out {att : Attempt} (ctx : Ctx) (statusTag sendTag : String)
    (apart : att.status ≠ .send) (other : att.status ≠ .stop) :
    posts att.status (att.out ctx statusTag sendTag) =
      if ctx.res att.status = none then [⟨ctx.origin, att.note⟩] else [] := by
  unfold Attempt.out trySend trySendPacket
  cases ctx.res att.status with
  | some e =>
      cases e <;> simp [handleSendErrorWithResend, sendError, doSendStop, resend, posts, other.symm]
  | none =>
      cases ctx.res .send with
      | some e =>
          cases e <;>
            simp [handleSendErrorWithResend, sendError, doSendStop, resend, posts, other.symm]
      | none => simp [queuePacket, posts, apart.symm]

theorem put_source (holds : genuine.Holds w)
    (reacted : w.reaction (system env) (w.results mv.full) mv.label = some (s, es))
    (posted : .post a m ∈ es) (puts : m.body.mark a = .put id) :
    (opens env w mv = some a ∧ (w.state.nextId env).1 = id ∧ posts a es = [m]) ∨
      (a = .publishStatus ∧ ∃ packet n, m.origin.cause = .received packet n ∧
        packet.identifier = some id) := by
  rcases put_step holds reacted posted puts with
    ⟨self, o, b, att, handles, attempts, rfl, rfl⟩ | ⟨rfl, o, packet, n, answer, qos, label⟩
  · have source := handles.genuine holds reacted
    obtain ⟨accepts, sent⟩ : w.results mv.full att.status = none ∧
        posts att.status es = [⟨o, att.note⟩] := by
      obtain ⟨statusTag, sendTag, attempted⟩ := attempts.handleBody_eq
      rw [handles.reaction reacted] at attempted
      obtain rfl : es = _ := attempted
      have apart : att.status ≠ .send ∧ att.status ≠ .stop := by
        constructor <;> intro same <;> rw [same] at puts <;> cases puts
      have sent := Attempt.posts_out ⟨self, o, w.state.now, w.results mv.full⟩ statusTag sendTag
        apart.1 apart.2
      have member := mem_posts.mpr posted
      rw [sent] at member ⊢
      split at member
      · rename_i accepts
        exact ⟨accepts, if_pos accepts⟩
      · cases member
    cases attempts with
    | publish1 msg self' below valid qos | publish2 msg self' below valid qos =>
        obtain rfl : self = .sendPublish := self'
        refine .inl ⟨?_, Mark.put.inj puts, sent⟩
        rw [opens_handled handles]
        simp [opens, below, valid, qos, accepts]
    | subscribe msg self' below valid =>
        obtain rfl : self = .subscribe := self'
        refine .inl ⟨?_, Mark.put.inj puts, sent⟩
        rw [opens_handled handles]
        simp [opens, below, valid, accepts]
    | unsubscribe msg self' below valid =>
        obtain rfl : self = .unsubscribe := self'
        refine .inl ⟨?_, Mark.put.inj puts, sent⟩
        rw [opens_handled handles]
        simp [opens, below, valid, accepts]
    | pubrec id' retryCount self' below =>
        obtain rfl : self = .pubrec := self'
        obtain same | ⟨⟨n, cause⟩, -⟩ := source
        · cases same
        · exact .inr ⟨rfl, _, n, cause, congrArg some (Mark.put.inj puts)⟩
    | pubrel id' retryCount self' below => cases puts
    | sendPing lastRetryCount self' below => cases puts
  · have source := holds.source reacted
    rw [label] at source
    obtain ⟨⟨⟨n, cause⟩, -⟩, -⟩ := source
    have stems := origin_step reacted posted rfl
    rw [label] at stems
    obtain rfl : o = m.origin := Option.some.inj stems
    exact .inr ⟨rfl, _, n, cause, by simp [VariablePacket.identifier, qos]⟩

theorem fresh_step (holds : genuine.Holds w)
    (reacted : w.reaction (system env) (w.results mv.full) mv.label = some (s, es))
    (posted : .post a m ∈ es) (sets : m.setsFresh a id) :
    opens env w mv = some a ∧ (w.state.nextId env).1 = id ∧ posts a es = [m] := by
  obtain ⟨puts, asked⟩ : m.body.mark a = .put id ∧ m.origin.cause.isRequest := by
    simpa [Msg.setsFresh] using sets
  rcases put_source holds reacted posted puts with opened | ⟨-, packet, n, cause, -⟩
  · exact opened
  · rw [cause] at asked
    cases asked

theorem closed_run {seed : Nat} {ls : List ClientMove} (run : Run env seed ls w) (a : Actor) :
    w.live a = false → w.mail a = [] := by
  have preserved (w : ClientWorld) (mv : ClientMove) (w' : ClientWorld)
      (empty : w.live a = false → w.mail a = []) (taken : clientStep env w mv = some w') :
      w'.live a = false → w'.mail a = [] := by
    obtain ⟨s, es, reacted, -⟩ := World.fire_eq_some.mp taken
    exact closed_fire reacted taken empty
  refine exec_preserves preserved ?_ run
  cases a <;> simp [init]

/-- The identifiers of requests that wait at a status actor will be new to its map. -/
def Unclashing (w : ClientWorld) : Prop :=
  ∀ a m id front back, w.mail a = front ++ m :: back → m.setsFresh a id →
    id ∉ settle (front.map (·.body.mark a)) (statusKeys w.state a)

theorem unclashing_step {seed : Nat} {ls : List ClientMove} (run : Run env seed ls w)
    (held : Unclashing w) (open' : ¬ collides env w mv) (taken : clientStep env w mv = some w') :
    Unclashing w' := by
  intro a m id front back mail sets
  obtain ⟨s, es, reacted, -⟩ := World.fire_eq_some.mp taken
  have state := World.fire_state reacted taken
  obtain ⟨handled, kept⟩ := statusKeys_step (a := a) reacted
  have alive : w'.live a := by
    by_contra dead
    rw [closed_run (run.step taken) a (Bool.eq_false_of_not_eq_true dead)] at mail
    simp at mail
  -- the mailbox before the step without the message that is handled, and the keys then
  obtain ⟨rest, after, settles, waited⟩ : ∃ rest, w'.mail a = rest ++ posts a es ∧
      settle (rest.map (·.body.mark a)) (statusKeys s a) = settled w a ∧
      ∀ front m back, rest = front ++ m :: back → m.setsFresh a id →
        id ∉ settle (front.map (·.body.mark a)) (statusKeys s a) := by
    rcases World.fire_mail reacted taken alive with ⟨m₀, rest, label, before, after⟩ | ⟨other, after⟩
    · refine ⟨rest, after, ?_, fun front m back split sets => ?_⟩
      · rw [settled, before, List.map_cons, settle_cons, handled m₀ label]
      · have := held a m id (m₀ :: front) back (by rw [before, split]; rfl) sets
        rwa [handled m₀ label]
    · refine ⟨w.mail a, after, by rw [settled, kept other], fun front m back split sets => ?_⟩
      rw [kept other]
      exact held a m id front back split sets
  rw [state]
  rw [after] at mail
  have split : (∃ between, front = rest ++ between ∧ posts a es = between ++ m :: back) ∨
      ∃ back', rest = front ++ m :: back' := by
    rcases List.append_eq_append_iff.mp mail with behind | ⟨between, split, posted⟩
    · exact .inl behind
    · cases between with
      | nil => exact .inl ⟨[], by simp [split], posted.symm⟩
      | cons m' between =>
          obtain ⟨rfl, -⟩ := List.cons.inj posted
          exact .inr ⟨between, split⟩
  rcases split with ⟨between, split, posted⟩ | ⟨back', split⟩
  · -- the message is sent in this step
    have member : .post a m ∈ es := mem_posts.mp (by simp [posted])
    obtain ⟨opened, rfl, sent⟩ := fresh_step (genuine_run run) reacted member sets
    obtain rfl : between = [] := by
      rw [sent] at posted
      cases between with
      | nil => rfl
      | cons m' between => simp at posted
    rw [split, List.append_nil, settles]
    intro left
    exact open' (by simp [collides, opened, pending_iff run, left])
  · exact waited front m back' split sets

theorem init_unnoted (env : Env) (seed : Nat) (waits : m ∈ (init env seed).mail a) :
    m.body.mark a ≠ .put id := by
  simp only [init] at waits
  split at waits
  · obtain ⟨recipient, -, rfl⟩ := List.mem_map.mp waits
    intro puts
    cases a <;> cases puts
  · cases waits

/-- A status that a status actor has been sent is about a packet from the broker, or a step of the
    run has taken its identifier from `next_id`. -/
theorem noted_run {seed : Nat} {ls : List ClientMove} (run : Run env seed ls w)
    (member : m ∈ inbox a w) (puts : m.body.mark a = .put id) :
    (a = .publishStatus ∧ ∃ packet n, m.origin.cause = .received packet n ∧
        packet.identifier = some id) ∨
      ∃ front mv₀ back w₀, ls = front ++ mv₀ :: back ∧ Run env seed front w₀ ∧
        opens env w₀ mv₀ = some a ∧ (w₀.state.nextId env).1 = id := by
  refine exec_induction (motive := fun ls w => ∀ m ∈ inbox a w, m.body.mark a = .put id →
    (a = .publishStatus ∧ ∃ packet n, m.origin.cause = .received packet n ∧
        packet.identifier = some id) ∨
      ∃ front mv₀ back w₀, ls = front ++ mv₀ :: back ∧ Run env seed front w₀ ∧
        opens env w₀ mv₀ = some a ∧ (w₀.state.nextId env).1 = id) ?_ ?_ run m member puts
  · intro m member puts
    refine absurd puts (init_unnoted env seed ?_)
    simpa [inbox, init, handled] using member
  · intro ls w mv w' run held taken m member puts
    obtain ⟨s, es, reacted, -⟩ := World.fire_eq_some.mp taken
    rcases mem_inbox_fire reacted taken member with before | posted
    · refine (held m before puts).imp_right ?_
      rintro ⟨front, mv₀, back, w₀, rfl, rest⟩
      exact ⟨front, mv₀, back ++ [mv], w₀, by simp, rest⟩
    · rcases put_source (genuine_run run) reacted posted puts with ⟨opened, same, -⟩ | borne
      · exact .inr ⟨ls, mv, [], w, rfl, run, opened, same⟩
      · exact .inl borne

end Step

theorem nextId_counter {env : Env} {s s' : State} (same : (s.nextId env).1 = (s'.nextId env).1) :
    s.counter % 65535 = s'.counter % 65535 := by
  have bound := Nat.mod_lt s.counter (show 0 < 65535 by decide)
  have bound' := Nat.mod_lt s'.counter (show 0 < 65535 by decide)
  have equal := congrArg UInt16.toNat same
  simp only [State.nextId, nextId, UInt16.toNat_ofNat'] at equal
  omega

/-- A new identifier is not a key of the map it is written to in any run in which no request is given
    the identifier of a pending flow. Such a flow is one of the broker, or of an earlier request that
    was given the same identifier because the counter has come round. -/
theorem new_identifiers {env : Env} {seed : Nat} {ls : List ClientMove} {w : ClientWorld}
    (run : Run env seed ls w) :
    (Along (clientStep env) (fun w mv => ¬ collides env w mv) (init env seed) ls →
      Along (clientStep env) (fun w mv => ¬ overwrites w mv) (init env seed) ls) ∧
    ∀ mv, collides env w mv → ∃ a, opens env w mv = some a ∧
      ((a = .publishStatus ∧ ∃ m ∈ inbox a w, ∃ packet n, m.origin.cause = .received packet n ∧
          packet.identifier = some (w.state.nextId env).1) ∨
        ∃ front mv₀ back w₀, ls = front ++ mv₀ :: back ∧ Run env seed front w₀ ∧
          opens env w₀ mv₀ = some a ∧ w₀.state.counter % 65535 = w.state.counter % 65535) := by
  constructor
  · intro free
    refine Along.of_invariant (fun w => (∃ ls, Run env seed ls w) ∧ Unclashing w)
      ?_ ?_ ⟨⟨[], rfl⟩, ?_⟩ free run
    · rintro w mv w' ⟨⟨ls, run⟩, held⟩ open' taken
      exact ⟨⟨_, run.step taken⟩, unclashing_step run held open' taken⟩
    · rintro w mv w' ⟨-, held⟩ taken ⟨a, m, id, label, sets, known⟩
      obtain ⟨s, es, reacted, -⟩ := World.fire_eq_some.mp taken
      have head := (World.reaction_take.mp (label ▸ reacted)).2.1
      exact held a m id [] (w.mail a).tail (List.eq_cons_of_mem_head? head) sets known
    · intro a m id front back mail sets
      have puts : m.body.mark a = .put id := by
        simpa using (Bool.and_eq_true_iff.mp sets).1
      exact absurd puts (init_unnoted env seed (by simp [mail]))
  · intro mv clash
    obtain ⟨a, opened, left⟩ : ∃ a, opens env w mv = some a ∧
        pending a (w.state.nextId env).1 w := by
      simpa only [collides, Option.any_eq_true] using clash
    refine ⟨a, opened, ?_⟩
    have member := List.mem_of_find?_eq_some (of_decide_eq_true left)
    obtain ⟨m, member, puts⟩ := List.mem_map.mp (List.mem_reverse.mp member)
    rcases noted_run run member puts with ⟨same, borne⟩ | ⟨front, mv₀, back, w₀, split, run₀, rest⟩
    · exact .inl ⟨same, m, member, borne⟩
    · exact .inr ⟨front, mv₀, back, w₀, split, run₀, rest.1, nextId_counter rest.2⟩

/-- The entry of the first publish is removed before the counter has come round. -/
def acknowledgedBefore : List Turn :=
  [.give (.cause ⟨1, .publish "topic" .level1 [1]⟩), .handle .sendPublish, .handle .publishStatus,
    .give (.cause ⟨2, .received (.puback 1) 0⟩), .handle .dispatch, .handle .puback,
    .handle .publishStatus, .give (.cause ⟨3, .publish "topic" .level1 [2]⟩), .handle .sendPublish,
    .handle .publishStatus]

theorem new_identifiers_acknowledgedBefore :
    ∃ w, Run plainEnv 18446744073709551615
        (schedule plainEnv (init plainEnv 18446744073709551615) acknowledgedBefore) w ∧
      Along (clientStep plainEnv) (fun w mv => ¬ overwrites w mv) (init plainEnv 18446744073709551615)
        (schedule plainEnv (init plainEnv 18446744073709551615) acknowledgedBefore) := by
  obtain ⟨w, run⟩ : ∃ w, Run plainEnv 18446744073709551615
      (schedule plainEnv (init plainEnv 18446744073709551615) acknowledgedBefore) w := ⟨_, rfl⟩
  exact ⟨w, run, (new_identifiers run).1 (by decide +kernel)⟩

/-- The broker opens a level 2 exchange under the identifier that `next_id` returns next. -/
def brokersIdentifier : List Turn :=
  [.give (.cause ⟨1, .received (.publish ⟨"topic", .level2 1, [1]⟩) 0⟩), .handle .dispatch,
    .handle .recvPublish, .task 0, .handle .publishStatus, .task 0, .handle .publishStatus,
    .give (.cause ⟨2, .publish "topic" .level1 [2]⟩), .handle .sendPublish]

/-- The machine word wraps around, and two publishes get the same identifier. -/
def wrappedCounter : List Turn :=
  [.give (.cause ⟨1, .publish "topic" .level1 [1]⟩), .handle .sendPublish, .handle .publishStatus,
    .give (.cause ⟨2, .publish "topic" .level1 [2]⟩), .handle .sendPublish]

/-- The status of the second of them is set. -/
def secondStatus : ClientMove where
  label := .take .publishStatus ⟨⟨2, .publish "topic" .level1 [2]⟩,
    .publishStatus (.setPacketStatus 1 ⟨1, 0, .pendingAck⟩) none⟩
  full _ := false

/-- A publish replaces the entry of an exchange of the broker, and that of another publish. -/
theorem identifier_taken :
    (∃ w w', Run plainEnv 0 (schedule plainEnv (init plainEnv 0) brokersIdentifier) w ∧
      clientStep plainEnv w secondStatus = some w' ∧ overwrites w secondStatus) ∧
    ∃ w w', Run plainEnv 18446744073709551615
        (schedule plainEnv (init plainEnv 18446744073709551615) wrappedCounter) w ∧
      clientStep plainEnv w secondStatus = some w' ∧ overwrites w secondStatus := by
  have replaces {w : ClientWorld} (known : 1 ∈ w.state.publishStatus) : overwrites w secondStatus :=
    ⟨_, _, 1, rfl, by decide, known⟩
  exact ⟨⟨_, _, rfl, rfl, replaces (by decide +kernel)⟩,
    ⟨_, _, rfl, rfl, replaces (by decide +kernel)⟩⟩

end ActixMqtt
