import Mathlib.Algebra.BigOperators.Group.Finset.Piecewise
import Mathlib.Algebra.BigOperators.Group.List.Basic
import Mathlib.Algebra.GroupWithZero.Nat
import Mathlib.Algebra.Order.Group.Nat
import Mathlib.Algebra.Order.BigOperators.Group.List
import ActixMqtt.Actors.World

/-! # Potentials

A weight values what is in flight (messages and tasks) and what has been emitted.
When a handler's effects never weigh more than what the step consumes, up to an
excess, the total of a world grows by at most that excess. This is how a bounded
number of events is read off local laws of the handlers.
-/

namespace ActorSystem

structure Weight (A M T E : Type) where
  mail : A → M → Nat
  task : T → Nat
  event : E → Nat

variable {A M T I E S : Type}

theorem sum_indicator {α : Type} (p : α → Bool) (l : List α) :
    (l.map fun x => if p x then 1 else 0).sum = l.countP p := by
  induction l with
  | nil => rfl
  | cons x xs ih => rw [List.map_cons, List.sum_cons, ih, List.countP_cons, Nat.add_comm]

namespace Weight

variable (wt : Weight A M T E)

def effect : Effect A M T E → Nat
  | .post dst m => wt.mail dst m
  | .spawn t => wt.task t
  | .emit e => wt.event e
  | .halt _ => 0

def effects (es : List (Effect A M T E)) : Nat := (es.map wt.effect).sum

def events (es : List E) : Nat := (es.map wt.event).sum

def record : Record A M T I E → Nat
  | .emitted e => wt.event e
  | _ => 0

/-- The weight of the history of a world. -/
def past (log : List (Record A M T I E)) : Nat := (log.map wt.record).sum

/-- What a step consumes. -/
def cost : Label A M T I → Nat
  | .take a m => wt.mail a m
  | .run t => wt.task t
  | .give _ => 0

def box (a : A) (ms : List M) : Nat := (ms.map (wt.mail a)).sum

/-- The weight of what is in flight. -/
def flow [Fintype A] (w : World A M T I E S) : Nat :=
  ∑ a, wt.box a (w.mail a) + (w.tasks.map wt.task).sum

/-- No message weighs less than what is left of it when its mailbox is closed. -/
def Keeps (sys : System A M T I E S) : Prop :=
  ∀ a m, ((sys.orphan m).map wt.task).sum ≤ wt.mail a m

@[simp] theorem effects_nil : wt.effects [] = 0 := rfl

@[simp] theorem effects_cons (e : Effect A M T E) (es : List (Effect A M T E)) :
    wt.effects (e :: es) = wt.effect e + wt.effects es := rfl

@[simp] theorem effects_append (es fs : List (Effect A M T E)) :
    wt.effects (es ++ fs) = wt.effects es + wt.effects fs := by
  simp [effects]

theorem past_emitted (es : List E) (log : List (Record A M T I E)) :
    wt.past (es.reverse.map .emitted ++ log) = wt.events es + wt.past log := by
  simp [past, events, record, Function.comp_def]

theorem box_tail {a : A} {m : M} {ms : List M} (head : ms.head? = some m) :
    wt.box a ms.tail + wt.mail a m = wt.box a ms := by
  cases ms with
  | nil => simp at head
  | cons m' ms =>
      obtain rfl : m' = m := by simpa using head
      simp [box, Nat.add_comm]

theorem tasks_erase [DecidableEq T] {t : T} {ts : List T} (member : t ∈ ts) :
    ((ts.erase t).map wt.task).sum + wt.task t = (ts.map wt.task).sum := by
  rw [((List.perm_cons_erase member).map wt.task).sum_eq, List.map_cons, List.sum_cons,
    Nat.add_comm]

theorem tasks_filter_le (p : T → Bool) (ts : List T) :
    ((ts.filter p).map wt.task).sum ≤ (ts.map wt.task).sum :=
  (List.filter_sublist.map wt.task).sum_le_sum (fun _ _ => Nat.zero_le _)

variable [DecidableEq A] [Fintype A]

theorem box_update (mail : A → List M) (a : A) (ms : List M) :
    (∑ b, wt.box b (Function.update mail a ms b)) + wt.box a (mail a) =
      (∑ b, wt.box b (mail b)) + wt.box a ms := by
  have shape : (fun b => wt.box b (Function.update mail a ms b)) =
      Function.update (fun b => wt.box b (mail b)) a (wt.box a ms) := by
    funext b
    by_cases same : b = a
    · subst same
      simp
    · simp [Function.update_of_ne same]
  rw [shape, Finset.sum_update_of_mem (Finset.mem_univ a),
    ← Finset.add_sum_erase _ _ (Finset.mem_univ a), Finset.sdiff_singleton_eq_erase]
  omega

theorem flow_apply_le {sys : System A M T I E S} (keeps : wt.Keeps sys) (w : World A M T I E S)
    (e : Effect A M T E) :
    wt.flow (w.apply sys e) + wt.past (w.apply sys e).log ≤
      wt.flow w + wt.past w.log + wt.effect e := by
  cases e with
  | post dst m =>
      simp only [World.apply, effect]
      split
      · have moved := wt.box_update w.mail dst (w.mail dst ++ [m])
        have share : wt.box dst (w.mail dst ++ [m]) = wt.box dst (w.mail dst) + wt.mail dst m := by
          simp [box]
        simp only [flow]
        omega
      · omega
  | spawn t =>
      simp only [World.apply, effect, flow, List.map_cons, List.sum_cons]
      omega
  | emit e =>
      simp only [World.apply, effect, flow, past, List.map_cons, List.sum_cons, record]
      omega
  | halt a =>
      have moved := wt.box_update w.mail a []
      have empty : wt.box a [] = 0 := rfl
      have kept := wt.tasks_filter_le (sys.owner · ≠ some a) w.tasks
      have orphans : (((w.mail a).flatMap sys.orphan).map wt.task).sum ≤ wt.box a (w.mail a) := by
        induction w.mail a with
        | nil => exact Nat.le_refl 0
        | cons m ms ih =>
            have here := keeps a m
            simp only [List.flatMap_cons, List.map_append, List.sum_append, box, List.map_cons,
              List.sum_cons] at ih ⊢
            omega
      simp only [World.apply, effect, flow, List.map_append, List.sum_append]
      omega

theorem flow_applyAll_le {sys : System A M T I E S} (keeps : wt.Keeps sys)
    (w : World A M T I E S) (es : List (Effect A M T E)) :
    wt.flow (w.applyAll sys es) + wt.past (w.applyAll sys es).log ≤
      wt.flow w + wt.past w.log + wt.effects es := by
  induction es generalizing w with
  | nil => exact Nat.le_refl _
  | cons e es ih =>
      have first := wt.flow_apply_le keeps w e
      have rest := ih (w.apply sys e)
      simp only [World.applyAll_cons, effects_cons]
      omega

variable [DecidableEq M] [DecidableEq T]

theorem flow_consume {sys : System A M T I E S} {w : World A M T I E S}
    {res : A → Option SendError} {l : Label A M T I} {s : S} {es : List (Effect A M T E)}
    (reacted : w.reaction sys res l = some (s, es)) :
    wt.flow (w.consume s l) + wt.cost l = wt.flow w := by
  cases l with
  | take a m =>
      have head := (World.reaction_take.mp reacted).2.1
      have moved := wt.box_update w.mail a (w.mail a).tail
      have share := wt.box_tail (a := a) head
      simp only [flow, World.consume, cost]
      omega
  | run t =>
      have share := wt.tasks_erase (World.reaction_run.mp reacted).1
      simp only [flow, World.consume, cost]
      omega
  | give i => rfl

theorem total_fire {sys : System A M T I E S} (keeps : wt.Keeps sys) {w w' : World A M T I E S}
    {res : A → Option SendError} {l : Label A M T I} {s : S} {es : List (Effect A M T E)}
    (reacted : w.reaction sys res l = some (s, es)) (fired : w.fire sys res l = some w') :
    wt.flow w' + wt.past w'.log + wt.cost l ≤ wt.flow w + wt.past w.log + wt.effects es := by
  obtain ⟨s', es', reacted', rfl⟩ := World.fire_eq_some.mp fired
  obtain ⟨rfl, rfl⟩ := Prod.mk.inj (Option.some.inj (reacted.symm.trans reacted'))
  have applied := wt.flow_applyAll_le keeps (w.consume s l) es
  have consumed := wt.flow_consume reacted
  have noted : wt.past (w.consume s l).log = wt.past w.log := by
    cases l <;> simp [World.consume, past, record]
  omega

/-- A step adds at most `excess` to the total when its effects weigh at most `excess` more than
    what it consumes. -/
theorem total_fire_le {sys : System A M T I E S} (keeps : wt.Keeps sys)
    {w w' : World A M T I E S} {res : A → Option SendError} {l : Label A M T I} {s : S}
    {es : List (Effect A M T E)} {excess : Nat}
    (reacted : w.reaction sys res l = some (s, es)) (fired : w.fire sys res l = some w')
    (law : wt.effects es ≤ wt.cost l + excess) :
    wt.flow w' + wt.past w'.log ≤ wt.flow w + wt.past w.log + excess := by
  have balance := wt.total_fire keeps reacted fired
  omega

/-- The same law for what is in flight and the events of this step alone. -/
theorem flow_fire_le {sys : System A M T I E S} (keeps : wt.Keeps sys)
    {w w' : World A M T I E S} {res : A → Option SendError} {l : Label A M T I} {s : S}
    {es : List (Effect A M T E)} {excess : Nat}
    (reacted : w.reaction sys res l = some (s, es)) (fired : w.fire sys res l = some w')
    (law : wt.effects es ≤ wt.cost l + excess) :
    wt.flow w' + wt.events (emits es) ≤ wt.flow w + excess := by
  have total := wt.total_fire_le keeps reacted fired law
  obtain ⟨s', es', reacted', rfl⟩ := World.fire_eq_some.mp fired
  obtain ⟨rfl, rfl⟩ := Prod.mk.inj (Option.some.inj (reacted.symm.trans reacted'))
  rw [World.applyAll_log, past_emitted] at total
  have noted : wt.past (w.consume s l).log = wt.past w.log := by
    cases l <;> simp [World.consume, past, record]
  omega

end Weight

end ActorSystem
