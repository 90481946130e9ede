import ActixMqtt.Actors.World

/-! # Facts about everything in flight

A `Local` fact speaks about single messages, tasks and events. It holds of a world
when it holds of everything in the mailboxes, the pool of tasks and the history.
A step keeps it when the effects of the step have it.
-/

namespace ActorSystem

structure Local (A M T E : Type) where
  mail : A → M → Prop
  task : T → Prop
  event : E → Prop

variable {A M T I E S : Type}

namespace Local

def effect (P : Local A M T E) : Effect A M T E → Prop
  | .post dst m => P.mail dst m
  | .spawn t => P.task t
  | .emit e => P.event e
  | .halt _ => True

/-- What the label of a step consumes has the fact. -/
def source (P : Local A M T E) : Label A M T I → Prop
  | .take a m => P.mail a m
  | .run t => P.task t
  | .give _ => True

structure Holds (P : Local A M T E) (w : World A M T I E S) : Prop where
  mail : ∀ a, ∀ m ∈ w.mail a, P.mail a m
  tasks : ∀ t ∈ w.tasks, P.task t
  log : ∀ e, .emitted e ∈ w.log → P.event e

/-- What is left of a dropped message has the fact when the message has it. -/
def Keeps (P : Local A M T E) (sys : System A M T I E S) : Prop :=
  ∀ a m, P.mail a m → ∀ t ∈ sys.orphan m, P.task t

variable {P : Local A M T E}

theorem Holds.mono {Q : Local A M T E} {w : World A M T I E S} (holds : P.Holds w)
    (mail : ∀ a m, P.mail a m → Q.mail a m) (task : ∀ t, P.task t → Q.task t)
    (event : ∀ e, P.event e → Q.event e) : Q.Holds w where
  mail a m member := mail a m (holds.mail a m member)
  tasks t member := task t (holds.tasks t member)
  log e member := event e (holds.log e member)

variable [DecidableEq A] {sys : System A M T I E S}

theorem Holds.applyAll {w : World A M T I E S} (holds : P.Holds w) (keeps : P.Keeps sys)
    {es : List (Effect A M T E)} (effects : ∀ e ∈ es, P.effect e) : P.Holds (w.applyAll sys es) where
  mail a m member := by
    rcases World.mem_mail_applyAll sys w member with before | posted
    · exact holds.mail a m before
    · exact effects _ posted
  tasks t member := by
    rcases World.mem_tasks_applyAll sys w member with before | spawned | ⟨a, m, _, left, source⟩
    · exact holds.tasks t before
    · exact effects _ spawned
    · rcases source with before | posted
      · exact keeps a m (holds.mail a m before) t left
      · exact keeps a m (effects _ posted) t left
  log e member := by
    rw [World.applyAll_log, List.mem_append, List.mem_map] at member
    rcases member with ⟨e', emitted, same⟩ | before
    · cases same
      exact effects _ (mem_emits.mp (List.mem_reverse.mp emitted))
    · exact holds.log e before

variable [DecidableEq M] [DecidableEq T]

omit [DecidableEq M] in
theorem Holds.consume {w : World A M T I E S} (holds : P.Holds w) (s : S) (l : Label A M T I) :
    P.Holds (w.consume s l) := by
  cases l with
  | take a m =>
      refine ⟨fun b m' member => ?_, holds.tasks, fun e member => ?_⟩
      · by_cases same : b = a
        · subst same
          simp only [World.consume, Function.update_self] at member
          exact holds.mail b m' (List.mem_of_mem_tail member)
        · simp only [World.consume, Function.update_of_ne same] at member
          exact holds.mail b m' member
      · exact holds.log e ((List.mem_cons.mp member).resolve_left (by simp))
  | run t =>
      exact ⟨holds.mail, fun t' member => holds.tasks t' (List.mem_of_mem_erase member),
        fun e member => holds.log e ((List.mem_cons.mp member).resolve_left (by simp))⟩
  | give i =>
      exact ⟨holds.mail, holds.tasks,
        fun e member => holds.log e ((List.mem_cons.mp member).resolve_left (by simp))⟩

omit [DecidableEq A] in
theorem Holds.source {w : World A M T I E S} (holds : P.Holds w) {res : A → Option SendError}
    {l : Label A M T I} {s : S} {es : List (Effect A M T E)}
    (reacted : w.reaction sys res l = some (s, es)) : P.source l := by
  cases l with
  | take a m =>
      exact holds.mail a m (List.mem_of_mem_head? (World.reaction_take.mp reacted).2.1)
  | run t => exact holds.tasks t (World.reaction_run.mp reacted).1
  | give i => exact True.intro

/-- A step whose effects have the fact keeps it. -/
theorem Holds.fire {w w' : World A M T I E S} (holds : P.Holds w) (keeps : P.Keeps sys)
    {res : A → Option SendError} {l : Label A M T I} {s : S} {es : List (Effect A M T E)}
    (reacted : w.reaction sys res l = some (s, es)) (fired : w.fire sys res l = some w')
    (effects : ∀ e ∈ es, P.effect e) : P.Holds w' := by
  obtain ⟨s', es', reacted', rfl⟩ := World.fire_eq_some.mp fired
  obtain ⟨rfl, rfl⟩ := Prod.mk.inj (Option.some.inj (reacted.symm.trans reacted'))
  exact (holds.consume s l).applyAll keeps effects

theorem Holds.ran_fire {w w' : World A M T I E S} (holds : P.Holds w)
    {res : A → Option SendError} {l : Label A M T I} {s : S} {es : List (Effect A M T E)}
    (reacted : w.reaction sys res l = some (s, es)) (fired : w.fire sys res l = some w')
    (past : ∀ t, .ran t ∈ w.log → P.task t) (t : T) (ran : .ran t ∈ w'.log) : P.task t := by
  rw [World.fire_log reacted fired, List.mem_append, List.mem_cons] at ran
  rcases ran with emitted | here | before
  · obtain ⟨e, -, same⟩ := List.mem_map.mp emitted
    cases same
  · cases l with
    | run t' =>
        cases here
        exact holds.source reacted
    | take a m | give i => cases here
  · exact past t before

end Local

end ActorSystem
