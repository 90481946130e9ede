import ActixMqtt.Actors.Inbox
import ActixMqtt.Genuine
import ActixMqtt.Handles
import ActixMqtt.Stopping

/-! # The stop broadcast

StopActor passes the first StopMessage on to everyone who has been added before it, stops
itself and passes no other one on. The actors that are told stop in turn; of them only
RecvActor sends a StopMessage, back to StopActor, so the broadcast causes finitely many.
-/

namespace ActixMqtt

open ActorSystem

/-- Whom the effects send a StopMessage, in order. -/
def stopsOf (es : Out) : List Actor :=
  es.filterMap fun
    | .post dst m => if m.body = .stop then some dst else none
    | _ => none

@[simp] theorem stopsOf_append (es fs : Out) : stopsOf (es ++ fs) = stopsOf es ++ stopsOf fs :=
  List.filterMap_append

theorem mem_stopsOf {a : Actor} {es : Out} : a ∈ stopsOf es ↔ ∃ o, .post a ⟨o, .stop⟩ ∈ es := by
  simp only [stopsOf, List.mem_filterMap]
  constructor
  · rintro ⟨e, member, same⟩
    split at same
    · rename_i dst m
      obtain ⟨o, b⟩ := m
      obtain ⟨rfl, rfl⟩ : b = .stop ∧ dst = a := by simpa using same
      exact ⟨o, member⟩
    · cases same
  · rintro ⟨o, member⟩
    exact ⟨_, member, by simp⟩

theorem stopsOf_posts (o : Origin) (recipients : List Actor) :
    stopsOf (recipients.map fun recipient => .post recipient ⟨o, .stop⟩) = recipients := by
  simp [stopsOf, List.filterMap_map]

namespace StopActor

/-- StopActor handles messages one after another. -/
def respond : State → List (Ctx × Body) → State × Out
  | s, [] => (s, [])
  | s, (ctx, b) :: ms =>
      let (s, es) := StopActor.receive ctx s b
      let (s, fs) := respond s ms
      (s, es ++ fs)

/-- The recipients that are added. -/
def added (ms : List (Ctx × Body)) : List Actor :=
  ms.filterMap fun
    | (_, .addStopRecipient recipient) => some recipient
    | _ => none

theorem respond_append (s : State) (front back : List (Ctx × Body)) :
    (respond s (front ++ back)).2 = (respond s front).2 ++ (respond (respond s front).1 back).2 := by
  induction front generalizing s with
  | nil => rfl
  | cons m front ih =>
      obtain ⟨ctx, b⟩ := m
      simp only [List.cons_append, respond, ih, List.append_assoc]

theorem respond_unasked {s : State} {ms : List (Ctx × Body)} (unasked : ∀ m ∈ ms, m.2 ≠ .stop) :
    (respond s ms).2 = [] ∧ (respond s ms).1.stopping = s.stopping ∧
      (respond s ms).1.stopRecipients = s.stopRecipients ++ added ms := by
  induction ms generalizing s with
  | nil => exact ⟨rfl, rfl, (List.append_nil _).symm⟩
  | cons m ms ih =>
      obtain ⟨ctx, b⟩ := m
      obtain ⟨here, later⟩ := List.forall_mem_cons.mp unasked
      cases b with
      | addStopRecipient recipient =>
          obtain ⟨silent, running, noted⟩ := ih (s := addStopRecipient recipient s) later
          refine ⟨silent, running, noted.trans ?_⟩
          exact List.append_assoc ..
      | stop => exact absurd rfl here
      | _ => exact ih later

theorem respond_stopping {s : State} (stopping : s.stopping) (ms : List (Ctx × Body)) :
    (respond s ms).2 = [] := by
  induction ms generalizing s with
  | nil => rfl
  | cons m ms ih =>
      obtain ⟨ctx, b⟩ := m
      cases b with
      | stop =>
          simp only [respond, StopActor.receive, handle, stopping, if_true, List.nil_append]
          exact ih stopping
      | addStopRecipient recipient => exact ih (s := addStopRecipient recipient s) stopping
      | _ => exact ih stopping

/-- The first StopMessage goes to everyone who was added before it, and nothing is sent after it. -/
theorem respond_stops {s : State} (running : s.stopping = false) {front : List (Ctx × Body)}
    (unasked : ∀ m ∈ front, m.2 ≠ .stop) (ctx : Ctx) (back : List (Ctx × Body)) :
    stopsOf (respond s (front ++ (ctx, .stop) :: back)).2 = s.stopRecipients ++ added front := by
  obtain ⟨silent, kept, noted⟩ := respond_unasked (s := s) unasked
  rw [respond_append, silent, List.nil_append]
  simp only [respond, StopActor.receive, handle, kept, running, Bool.false_eq_true, if_false]
  rw [respond_stopping rfl, List.append_nil, stopsOf_append, stopsOf_posts, noted]
  exact List.append_nil _

end StopActor

/-! ## In a run -/

/-- Whom a step sends a StopMessage. -/
def stopsSent (env : Env) (w : ClientWorld) (mv : ClientMove) : List Actor :=
  match w.reaction (system env) (w.results mv.full) mv.label with
  | some (_, es) => stopsOf es
  | none => []

/-- Whom an actor sends a StopMessage while it handles one. -/
def stopsPassed (env : Env) (w : ClientWorld) (mv : ClientMove) : List Actor :=
  match mv.label with
  | .take _ ⟨_, .stop⟩ => stopsSent env w mv
  | _ => []

/-- The recipients of all StopMessages of a run. -/
def stops (env : Env) (seed : Nat) (ls : List ClientMove) : List Actor :=
  follow (clientStep env) (stopsSent env) (init env seed) ls

/-- The recipients of the StopMessages that StopMessages cause. -/
def cascade (env : Env) (seed : Nat) (ls : List ClientMove) : List Actor :=
  follow (clientStep env) (stopsPassed env) (init env seed) ls

theorem stopRecipients_nodup (env : Env) : (stopRecipients env).Nodup := by
  cases clientStop : env.clientStop <;> simp [stopRecipients, clientStop]

theorem stopRecipients_apart {env : Env} {a : Actor} (registered : a ∈ stopRecipients env) :
    a ≠ .stop ∧ a ≠ .connect := by
  cases clientStop : env.clientStop <;> simp [stopRecipients, clientStop] at registered <;>
    constructor <;> rintro rfl <;> simp at registered

section Step

variable {env : Env} {w w' : ClientWorld} {mv : ClientMove} {s : State} {es : Out}

theorem stopsSent_eq
    (reacted : w.reaction (system env) (w.results mv.full) mv.label = some (s, es)) :
    stopsSent env w mv = stopsOf es := by
  simp only [stopsSent, reacted]

theorem Produces.toStop {ctx : Ctx} {b : Body} {m : Msg}
    (produces : Produces env ctx s b (.post .stop m)) : m.body = .stop := by
  cases produces.signals rfl with
  | askStop | passStop => rfl

theorem toStop_step {m : Msg} (holds : genuine.Holds w)
    (reacted : w.reaction (system env) (w.results mv.full) mv.label = some (s, es))
    (posted : .post .stop m ∈ es) : m.body = .stop := by
  cases post_step holds reacted posted with
  | handler handles produces => exact produces.toStop
  | asks o future b label awaits question =>
      exact absurd (congrArg Prod.fst question) awaits.asked.2.2.2.2
  | resend o deadline req label asks home => exact absurd rfl (Request.home_ne home).2.2.2
  | retry o future answer req label asks home other =>
      exact absurd rfl (Request.home_ne home).2.2.2
  | note o id retryCount packet answer label qos told => cases told
  | pubrec o id retryCount packet answer label told => cases told
  | stop o told => rfl
  | arrives o label arrives =>
      generalize shape : (Effect.post .stop m : ClientEffect) = e at arrives
      cases arrives <;> cases shape
      rfl

theorem stop_handled (ctx : Ctx) (other : ctx.self ≠ .stop) :
    stopsOf (handleBody env ctx .stop s).2 = if ctx.self = .recv then [.stop] else [] := by
  obtain ⟨a, o, now, res⟩ := ctx
  cases a <;> first
    | rfl
    | exact absurd rfl other

theorem stop_kept (reacted : w.reaction (system env) (w.results mv.full) mv.label = some (s, es))
    (other : ∀ m, mv.label ≠ .take .stop m) :
    s.stopping = w.state.stopping ∧ s.stopRecipients = w.state.stopRecipients := by
  rcases state_step reacted with ⟨a, m, label, changed⟩ | ⟨-, changed⟩
  · cases a
    case stop => exact absurd label (other m)
    all_goals
      simp only [State.ChangedBy] at changed
      rw [changed]
      exact ⟨rfl, rfl⟩
  · rw [changed]
    exact ⟨rfl, rfl⟩

theorem stops_kept (reacted : w.reaction (system env) (w.results mv.full) mv.label = some (s, es))
    (other : ∀ m, mv.label ≠ .take .stop m) {a : Actor} (registered : a ∈ stopRecipients env) :
    (stopsOf es).count a = 0 := by
  refine List.count_eq_zero.mpr fun told => ?_
  obtain ⟨o, posted⟩ := mem_stopsOf.mp told
  obtain ⟨m, label, -⟩ := stops_step reacted posted (stopRecipients_apart registered) rfl
  exact other m label

theorem recv_kept (taken : clientStep env w mv = some w') :
    (if w.live .recv then 0 else 1) ≤ if w'.live .recv then 0 else 1 := by
  cases after : w'.live .recv with
  | true => simp [World.fire_live_le taken after]
  | false => split <;> simp

/-- A StopMessage that another actor handles causes at most one, and only when RecvActor stops. -/
theorem passed_kept (reacted : w.reaction (system env) (w.results mv.full) mv.label = some (s, es))
    (taken : clientStep env w mv = some w') (other : ∀ m, mv.label ≠ .take .stop m) :
    (stopsPassed env w mv).length + (if w.live .recv then 0 else 1) ≤
      if w'.live .recv then 0 else 1 := by
  have silent (none : stopsPassed env w mv = []) : (stopsPassed env w mv).length +
      (if w.live .recv then 0 else 1) ≤ if w'.live .recv then 0 else 1 := by
    rw [none, List.length_nil, Nat.zero_add]
    exact recv_kept taken
  by_cases told : ∃ a o, mv.label = .take a ⟨o, .stop⟩
  · obtain ⟨a, o, label⟩ := told
    have apart : a ≠ .stop := by
      rintro rfl
      exact other _ label
    obtain ⟨alive, -, handled⟩ := World.reaction_take.mp (label ▸ reacted)
    have passed : stopsPassed env w mv = if a = .recv then [.stop] else [] := by
      simp only [stopsPassed, label]
      rw [stopsSent_eq reacted, ← (Prod.mk.inj handled).2]
      exact stop_handled ⟨a, o, w.state.now, w.results mv.full⟩ apart
    by_cases recv : a = .recv
    · subst recv
      have halted : .halt .recv ∈ es := by
        rw [← (Prod.mk.inj handled).2]
        exact List.mem_cons_self
      obtain ⟨s', es', reacted', rfl⟩ := World.fire_eq_some.mp taken
      obtain ⟨rfl, rfl⟩ := Prod.mk.inj (Option.some.inj (reacted.symm.trans reacted'))
      rw [passed, World.applyAll_halted _ _ halted, alive]
      simp
    · exact silent (by rw [passed, if_neg recv])
  · refine silent ?_
    unfold stopsPassed
    split
    · rename_i a o label
      exact absurd ⟨a, o, label⟩ told
    · rfl

end Step

/-- How far the broadcast of a run has come. -/
structure Broadcasting (env : Env) (seed : Nat) (ls : List ClientMove) (w : ClientWorld) : Prop where
  waiting : w.state.stopping = false → w.live .stop ∧ ∃ adds rest,
    w.mail .stop = adds.map (fun recipient => ⟨setupOrigin, .addStopRecipient recipient⟩) ++ rest ∧
      (∀ m ∈ rest, m.body = .stop) ∧ w.state.stopRecipients ++ adds = stopRecipients env
  dead : w.state.stopping → w.live .stop = false
  began : w.state.stopping ↔ .stop ∈ (handled .stop w.log).map Msg.body
  sent : ∀ a ∈ stopRecipients env,
    (stops env seed ls).count a = if w.state.stopping then 1 else 0
  passed : (cascade env seed ls).length ≤
    (if w.state.stopping then (stopRecipients env).length else 0) + if w.live .recv then 0 else 1

theorem broadcasting_init (env : Env) (seed : Nat) : Broadcasting env seed [] (init env seed) where
  waiting _ := ⟨rfl, stopRecipients env, [], (List.append_nil _).symm,
    fun _ member => (nomatch member), rfl⟩
  dead stopping := nomatch stopping
  began := ⟨fun stopping => (nomatch stopping), fun member => (nomatch member)⟩
  sent _ _ := rfl
  passed := Nat.zero_le _

section Step

variable {env : Env} {seed : Nat} {ls : List ClientMove} {w w' : ClientWorld} {mv : ClientMove}
  {s : State} {es : Out}

theorem stops_concat (run : Run env seed ls w)
    (reacted : w.reaction (system env) (w.results mv.full) mv.label = some (s, es)) :
    stops env seed (ls ++ [mv]) = stops env seed ls ++ stopsOf es := by
  rw [stops, follow_concat run, stopsSent_eq reacted]
  rfl

theorem cascade_concat (run : Run env seed ls w) :
    cascade env seed (ls ++ [mv]) = cascade env seed ls ++ stopsPassed env w mv :=
  follow_concat run

theorem broadcasting_other (held : Broadcasting env seed ls w) (run : Run env seed ls w)
    (taken : clientStep env w mv = some w') (other : ∀ m, mv.label ≠ .take .stop m) :
    Broadcasting env seed (ls ++ [mv]) w' := by
  obtain ⟨s, es, reacted, -⟩ := World.fire_eq_some.mp taken
  obtain ⟨stopping, recipients⟩ := stop_kept reacted other
  have running : .halt .stop ∉ es := fun halted => by
    rcases halts_step reacted halted (.inr rfl) with ⟨m, label, -⟩ | ⟨same, -⟩
    · exact other m label
    · cases same
  have alive := World.fire_live reacted taken running
  rw [← World.fire_state reacted taken] at stopping recipients
  refine ⟨fun calm => ?_, fun ended => ?_, ?_, fun a registered => ?_, ?_⟩
  · obtain ⟨lives, adds, rest, mail, told, registered⟩ := held.waiting (stopping ▸ calm)
    refine ⟨alive.trans lives, adds, rest ++ posts .stop es, ?_, ?_, recipients ▸ registered⟩
    · rcases World.fire_mail reacted taken (alive.trans lives) with ⟨m, -, label, -⟩ | ⟨-, grown⟩
      · exact absurd label (other m)
      · rw [grown, mail, List.append_assoc]
    · intro m member
      rcases List.mem_append.mp member with before | posted
      · exact told m before
      · exact toStop_step (genuine_run run) reacted (mem_posts.mp posted)
  · exact alive.trans (held.dead (stopping ▸ ended))
  · rw [stopping, handled_other reacted taken other]
    exact held.began
  · rw [stops_concat run reacted, List.count_append, stops_kept reacted other registered, stopping]
    exact held.sent a registered
  · have before := held.passed
    have now := passed_kept reacted taken other
    rw [cascade_concat run, List.length_append, stopping]
    omega

theorem broadcasting_added {recipient : Actor} {adds : List Actor} {rest : List Msg}
    (held : Broadcasting env seed ls w) (run : Run env seed ls w)
    (taken : clientStep env w mv = some w')
    (label : mv.label = .take .stop ⟨setupOrigin, .addStopRecipient recipient⟩)
    (running : w.state.stopping = false)
    (mail : w.mail .stop = (recipient :: adds).map (fun recipient =>
      ⟨setupOrigin, .addStopRecipient recipient⟩) ++ rest)
    (told : ∀ m ∈ rest, m.body = .stop)
    (registered : w.state.stopRecipients ++ recipient :: adds = stopRecipients env) :
    Broadcasting env seed (ls ++ [mv]) w' := by
  obtain ⟨s, es, reacted, -⟩ := World.fire_eq_some.mp taken
  obtain ⟨alive, -, handled⟩ := World.reaction_take.mp (label ▸ reacted)
  have state := World.fire_state reacted taken
  have still := recv_kept taken
  have passed := held.passed
  rw [running] at passed
  obtain ⟨rfl, rfl⟩ : StopActor.addStopRecipient recipient w.state = s ∧ [] = es :=
    Prod.mk.inj handled
  have lives : w'.live .stop := by
    rw [World.fire_live reacted taken (by simp)]
    exact alive
  have silent : stopsPassed env w mv = [] := by
    simp only [stopsPassed, label]
  refine ⟨fun _ => ⟨lives, adds, rest, ?_, told, ?_⟩, fun ended => ?_, ?_, fun a member => ?_, ?_⟩
  · rcases World.fire_mail reacted taken lives with ⟨m, rest', label', mail', left⟩ | ⟨none, -⟩
    · rw [mail] at mail'
      rw [left, ← (List.cons.inj mail').2]
      exact List.append_nil _
    · exact absurd label (none _)
  · rw [state, ← registered]
    exact List.append_assoc ..
  · rw [state] at ended
    exact absurd ended (by simp [StopActor.addStopRecipient, running])
  · rw [state, handled_take reacted taken label, List.map_cons, List.mem_cons,
      or_iff_right (by simp)]
    exact held.began
  · rw [stops_concat run reacted, state]
    exact (congrArg _ (List.append_nil _)).trans (held.sent a member)
  · rw [cascade_concat run, silent, List.append_nil, state]
    exact passed.trans (Nat.add_le_add (by simp [StopActor.addStopRecipient, running]) still)

/-- The first StopMessage, when every recipient has been added. -/
theorem broadcasting_first {o : Origin} (held : Broadcasting env seed ls w)
    (run : Run env seed ls w) (taken : clientStep env w mv = some w')
    (label : mv.label = .take .stop ⟨o, .stop⟩) (running : w.state.stopping = false)
    (registered : w.state.stopRecipients = stopRecipients env) :
    Broadcasting env seed (ls ++ [mv]) w' := by
  obtain ⟨s, es, reacted, -⟩ := World.fire_eq_some.mp taken
  obtain ⟨-, -, handled⟩ := World.reaction_take.mp (label ▸ reacted)
  have state := World.fire_state reacted taken
  have still := recv_kept taken
  have passed := held.passed
  rw [running] at passed
  obtain ⟨rfl, rfl⟩ : { w.state with stopping := true } = s ∧
      w.state.stopRecipients.map (fun recipient => .post recipient ⟨o, .stop⟩) ++
        [.halt .stop] = es := by
    have handled : StopActor.handle ⟨.stop, o, w.state.now, w.results mv.full⟩ w.state =
        (s, es) := handled
    simpa only [StopActor.handle, running, Bool.false_eq_true, if_false, Prod.mk.injEq]
      using handled
  have whom : stopsOf (w.state.stopRecipients.map
      (fun recipient => .post recipient ⟨o, .stop⟩) ++ [.halt .stop]) = stopRecipients env := by
    rw [stopsOf_append, stopsOf_posts, ← registered]
    exact List.append_nil _
  have ends : w'.live .stop = false := by
    obtain ⟨s', es', reacted', rfl⟩ := World.fire_eq_some.mp taken
    obtain ⟨rfl, rfl⟩ := Prod.mk.inj (Option.some.inj (reacted.symm.trans reacted'))
    exact World.applyAll_halted _ _ (by simp)
  refine ⟨fun calm => ?_, fun _ => ends, ?_, fun a member => ?_, ?_⟩
  · rw [state] at calm
    cases calm
  · rw [state, handled_take reacted taken label]
    simp
  · have none : (stops env seed ls).count a = 0 := by
      simpa only [running, Bool.false_eq_true, if_false] using held.sent a member
    rw [stops_concat run reacted, List.count_append, none, whom, Nat.zero_add, state]
    exact List.count_eq_one_of_mem (stopRecipients_nodup env) member
  · have here : stopsPassed env w mv = stopRecipients env := by
      simp only [stopsPassed, label]
      rw [stopsSent_eq reacted, whom]
    rw [cascade_concat run, List.length_append, here, state]
    simp only [if_true, Bool.false_eq_true, if_false] at passed ⊢
    omega

theorem broadcasting_stop {m : Msg} (held : Broadcasting env seed ls w) (run : Run env seed ls w)
    (taken : clientStep env w mv = some w') (label : mv.label = .take .stop m) :
    Broadcasting env seed (ls ++ [mv]) w' := by
  obtain ⟨s, es, reacted, -⟩ := World.fire_eq_some.mp taken
  obtain ⟨alive, head, -⟩ := World.reaction_take.mp (label ▸ reacted)
  have running : w.state.stopping = false := by
    refine Bool.eq_false_iff.mpr fun stopping => ?_
    rw [held.dead stopping] at alive
    cases alive
  obtain ⟨-, adds, rest, mail, told, registered⟩ := held.waiting running
  rw [mail] at head
  cases adds with
  | cons recipient adds =>
      obtain rfl : _ = m := Option.some.inj head
      exact broadcasting_added held run taken label running mail told registered
  | nil =>
      obtain ⟨o, b⟩ := m
      obtain rfl : b = .stop := told _ (List.mem_of_mem_head? head)
      rw [List.append_nil] at registered
      exact broadcasting_first held run taken label running registered

theorem broadcasting_step (held : Broadcasting env seed ls w) (run : Run env seed ls w)
    (taken : clientStep env w mv = some w') : Broadcasting env seed (ls ++ [mv]) w' := by
  by_cases stop : ∃ m, mv.label = .take .stop m
  · obtain ⟨m, label⟩ := stop
    exact broadcasting_stop held run taken label
  · exact broadcasting_other held run taken (not_exists.mp stop)

end Step

theorem broadcasting_run {env : Env} {seed : Nat} {ls : List ClientMove} {w : ClientWorld}
    (run : Run env seed ls w) : Broadcasting env seed ls w :=
  exec_induction (broadcasting_init env seed)
    (fun _ _ _ _ run held taken => broadcasting_step held run taken) run

/-- StopActor sends a StopMessage once to each recipient that was added before the first one it
    handles, whatever it handles then. In a run that is every registered actor, from whomever the
    StopMessages come, and they cause at most one more. -/
theorem stop_broadcast {env : Env} {seed : Nat} {ls : List ClientMove} {w : ClientWorld}
    (run : Run env seed ls w) :
    (∀ (s : State) (front back : List (Ctx × Body)) (ctx : Ctx), s.stopping = false →
      s.stopRecipients = [] → (∀ m ∈ front, m.2 ≠ .stop) →
        stopsOf (StopActor.respond s front).2 = [] ∧
          stopsOf (StopActor.respond s (front ++ (ctx, .stop) :: back)).2 =
            StopActor.added front) ∧
    (∀ a ∈ stopRecipients env, (stops env seed ls).count a =
      if .stop ∈ (handled .stop w.log).map Msg.body then 1 else 0) ∧
    (cascade env seed ls).length ≤ (stopRecipients env).length + 1 := by
  have held := broadcasting_run run
  refine ⟨fun s front back ctx running fresh unasked => ⟨?_, ?_⟩, fun a registered => ?_, ?_⟩
  · rw [(StopActor.respond_unasked unasked).1]
    rfl
  · rw [StopActor.respond_stops running unasked, fresh, List.nil_append]
  · rw [held.sent a registered]
    exact if_congr held.began rfl rfl
  · refine held.passed.trans (Nat.add_le_add ?_ ?_) <;> split <;> simp

/-- Two parties ask for the stop, and RecvActor asks once more. -/
def stopTwice : List Turn :=
  [.give (.cause ⟨1, .disconnect ⟨true⟩⟩), .handle .disconnect,
    .give (.cause ⟨2, .parseError "end of stream"⟩)] ++ stopAll

theorem stop_broadcast_stopTwice :
    ∃ w, Run plainEnv 0 (schedule plainEnv (init plainEnv 0) stopTwice) w ∧
      ∀ a ∈ stopRecipients plainEnv,
        (stops plainEnv 0 (schedule plainEnv (init plainEnv 0) stopTwice)).count a = 1 := by
  obtain ⟨w, run, asked⟩ :
      ∃ w, Run plainEnv 0 (schedule plainEnv (init plainEnv 0) stopTwice) w ∧
        .stop ∈ (handled .stop w.log).map Msg.body :=
    ⟨_, rfl, by decide +kernel⟩
  refine ⟨w, run, fun a registered => ?_⟩
  rw [(stop_broadcast run).2.1 a registered, if_pos asked]

end ActixMqtt
