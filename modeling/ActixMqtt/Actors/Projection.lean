import Mathlib.Data.Multiset.Filter
import ActixMqtt.Actors.Everywhere
import ActixMqtt.Actors.Runs

/-! # Parts of a world

A `Lens` shows some of the actors of a world, some of their messages, an image of some of
the tasks and some of the events. What it shows of a world, a `Glimpse`, changes by what it
shows of a step and of its effects, and by nothing else. Two worlds of which two lenses show
the same therefore go on looking the same as long as their steps do.
-/

namespace ActorSystem

structure Lens (A M T E : Type) where
  actor : A → Bool
  msg : M → Bool
  task : T → Option T
  event : E → Bool

/-- `past` lists the tasks that ran and the events, newest first. -/
structure Glimpse (A M T E : Type) where
  live : A → Bool
  mail : A → List M
  tasks : Multiset T
  past : List (T ⊕ E)

variable {A M T I J E S R : Type}

namespace Glimpse

variable [DecidableEq A]

def apply (owner : T → Option A) (orphan : M → List T) (g : Glimpse A M T E) :
    Effect A M T E → Glimpse A M T E
  | .post dst m =>
      if g.live dst then { g with mail := Function.update g.mail dst (g.mail dst ++ [m]) } else g
  | .spawn t => { g with tasks := t ::ₘ g.tasks }
  | .emit e => { g with past := .inr e :: g.past }
  | .halt a =>
      { g with
        live := Function.update g.live a false
        mail := Function.update g.mail a []
        tasks := ((g.mail a).flatMap orphan : List T) + g.tasks.filter (owner · ≠ some a) }

def consume [DecidableEq T] (g : Glimpse A M T E) : Label A M T I → Glimpse A M T E
  | .take a _ => { g with mail := Function.update g.mail a (g.mail a).tail }
  | .run t => { g with tasks := g.tasks.erase t, past := .inl t :: g.past }
  | .give _ => g

end Glimpse

namespace Lens

def effect (L : Lens A M T E) : Effect A M T E → Option (Effect A M T E)
  | .post a m => if L.actor a && L.msg m then some (.post a m) else none
  | .spawn t => (L.task t).map .spawn
  | .emit e => if L.event e then some (.emit e) else none
  | .halt a => if L.actor a then some (.halt a) else none

/-- What is shown of a step; the inputs of the environment are not. -/
def label (L : Lens A M T E) : Label A M T I → Option (Label A M T J)
  | .take a m => if L.actor a && L.msg m then some (.take a m) else none
  | .run t => (L.task t).map .run
  | .give _ => none

def record (L : Lens A M T E) : Record A M T I E → Option (T ⊕ E)
  | .ran t => (L.task t).map .inl
  | .emitted e => if L.event e then some (.inr e) else none
  | _ => none

def box (L : Lens A M T E) (a : A) (ms : List M) : List M :=
  if L.actor a then ms.filter L.msg else []

def of (L : Lens A M T E) (w : World A M T I E S) : Glimpse A M T E where
  live a := L.actor a && w.live a
  mail a := L.box a (w.mail a)
  tasks := (w.tasks.filterMap L.task : List T)
  past := w.log.filterMap L.record

/-- Hidden messages leave hidden tasks behind, and so do hidden actors; a shown message of a shown
    actor leaves what it would leave behind in the glimpse. A shown task has a shown owner. -/
structure Fits (L : Lens A M T E) (sys : System A M T I E S) (P : Local A M T E) : Prop where
  shown : ∀ a m, P.mail a m → L.actor a → L.msg m → (sys.orphan m).filterMap L.task = sys.orphan m
  hidden : ∀ a m, P.mail a m → ¬ (L.actor a ∧ L.msg m) → (sys.orphan m).filterMap L.task = []
  owner : ∀ t t', P.task t → L.task t = some t' →
    sys.owner t' = sys.owner t ∧ ∀ a, sys.owner t = some a → L.actor a

theorem box_nil (L : Lens A M T E) (a : A) : L.box a [] = [] := by
  unfold box
  split <;> rfl

section Orphans

variable {L : Lens A M T E} {sys : System A M T I E S} {P : Local A M T E}

theorem filterMap_orphans (fits : L.Fits sys P) {a : A} {ms : List M} (known : ∀ m ∈ ms, P.mail a m)
    (shown : L.actor a) :
    (ms.flatMap sys.orphan).filterMap L.task = (ms.filter L.msg).flatMap sys.orphan := by
  induction ms with
  | nil => rfl
  | cons m ms ih =>
      have rest := ih (fun m member => known m (List.mem_cons_of_mem _ member))
      have here := known m List.mem_cons_self
      rw [List.flatMap_cons, List.filterMap_append, rest, List.filter_cons]
      by_cases visible : L.msg m
      · rw [if_pos visible, List.flatMap_cons, fits.shown a m here shown visible]
      · rw [if_neg visible, fits.hidden a m here (fun both => visible both.2), List.nil_append]

theorem filterMap_hidden_orphans (fits : L.Fits sys P) {a : A} {ms : List M}
    (known : ∀ m ∈ ms, P.mail a m) (hidden : ¬ L.actor a) :
    (ms.flatMap sys.orphan).filterMap L.task = [] := by
  induction ms with
  | nil => rfl
  | cons m ms ih =>
      rw [List.flatMap_cons, List.filterMap_append,
        ih (fun m member => known m (List.mem_cons_of_mem _ member)),
        fits.hidden a m (known m List.mem_cons_self) (fun both => hidden both.1), List.append_nil]

variable [DecidableEq A]

theorem filterMap_cancel (fits : L.Fits sys P) {a : A} {ts : List T} (known : ∀ t ∈ ts, P.task t) :
    (ts.filter (sys.owner · ≠ some a)).filterMap L.task =
      (ts.filterMap L.task).filter (sys.owner · ≠ some a) := by
  induction ts with
  | nil => rfl
  | cons t ts ih =>
      have rest := ih (fun t member => known t (List.mem_cons_of_mem _ member))
      cases image : L.task t with
      | none =>
          rw [List.filterMap_cons_none image, ← rest, List.filter_cons]
          split
          · exact List.filterMap_cons_none image
          · rfl
      | some t' =>
          have same := (fits.owner t t' (known t List.mem_cons_self) image).1
          rw [List.filterMap_cons_some image, List.filter_cons, List.filter_cons, same]
          split
          · rw [List.filterMap_cons_some image, rest]
          · exact rest

theorem filter_hidden_owner (fits : L.Fits sys P) {a : A} {ts : List T}
    (known : ∀ t ∈ ts, P.task t) (hidden : ¬ L.actor a) :
    (ts.filterMap L.task).filter (sys.owner · ≠ some a) = ts.filterMap L.task := by
  refine List.filter_eq_self.mpr fun t' member => ?_
  obtain ⟨t, there, image⟩ := List.mem_filterMap.mp member
  obtain ⟨same, shown⟩ := fits.owner t t' (known t there) image
  exact decide_eq_true fun owned => hidden (shown a (same ▸ owned))

end Orphans

section Apply

variable [DecidableEq A] {L : Lens A M T E} {sys : System A M T I E S}
  {P : Local A M T E} {w : World A M T I E S}

theorem box_update (L : Lens A M T E) (mail : A → List M) (a : A) (ms : List M) :
    (fun b => L.box b (Function.update mail a ms b)) =
      Function.update (fun b => L.box b (mail b)) a (L.box a ms) :=
  funext fun b => Function.apply_update (fun b ms => L.box b ms) mail a ms b

theorem of_apply (fits : L.Fits sys P) (holds : P.Holds w) (e : Effect A M T E) :
    L.of (w.apply sys e) =
      (L.effect e).elim (L.of w) (Glimpse.apply sys.owner sys.orphan (L.of w)) := by
  cases e with
  | post dst m =>
      by_cases alive : w.live dst
      · have shown : L.of (w.apply sys (.post dst m)) =
            { L.of w with
              mail := Function.update (L.of w).mail dst (L.box dst (w.mail dst ++ [m])) } := by
          simp only [World.apply, if_pos alive, of, box_update]
        rw [shown]
        by_cases both : L.actor dst && L.msg m
        · obtain ⟨actor, visible⟩ := (Bool.and_eq_true _ _).mp both
          simp [effect, of, Glimpse.apply, box, actor, visible, alive]
        · have same : L.box dst (w.mail dst ++ [m]) = L.box dst (w.mail dst) := by
            simp only [box]
            split
            · rename_i actor
              rw [List.filter_append, List.filter_cons_of_neg (by simpa [actor] using both)]
              simp
            · rfl
          rw [same, effect, if_neg both]
          exact congrArg (fun mail => { L.of w with mail := mail }) (Function.update_eq_self dst _)
      · have dead : L.of (w.apply sys (.post dst m)) = L.of w := by
          simp only [World.apply, if_neg alive]
        rw [dead]
        simp only [effect]
        split
        · simp [Glimpse.apply, of, alive]
        · rfl
  | spawn t =>
      cases image : L.task t <;> simp [World.apply, effect, of, Glimpse.apply, image]
  | emit e =>
      cases shown : L.event e <;> simp [World.apply, effect, of, Glimpse.apply, record, shown]
  | halt a =>
      have live : (fun b => L.actor b && Function.update w.live a false b) =
          Function.update (fun b => L.actor b && w.live b) a false := by
        funext b
        rw [Function.apply_update (fun b alive => L.actor b && alive) w.live a false b,
          Bool.and_false]
      have after : L.of (w.apply sys (.halt a)) =
          { L.of w with
            live := Function.update (L.of w).live a false
            mail := Function.update (L.of w).mail a []
            tasks := (((w.mail a).flatMap sys.orphan).filterMap L.task ++
              (w.tasks.filterMap L.task).filter (sys.owner · ≠ some a) : List T) } := by
        simp only [World.apply, of, live, box_update, List.filterMap_append,
          filterMap_cancel fits holds.tasks, box_nil]
      by_cases shown : L.actor a
      · rw [after, filterMap_orphans fits (holds.mail a) shown, effect, if_pos shown]
        simp [Glimpse.apply, of, box, shown]
      · rw [after, filterMap_hidden_orphans fits (holds.mail a) shown, List.nil_append,
          filter_hidden_owner fits holds.tasks shown, effect, if_neg shown,
          Function.update_eq_self_iff.mpr (by simp [of, shown]),
          Function.update_eq_self_iff.mpr (by simp [of, box, shown])]
        rfl

theorem of_applyAll (fits : L.Fits sys P) (keeps : P.Keeps sys) (holds : P.Holds w)
    {es : List (Effect A M T E)} (effects : ∀ e ∈ es, P.effect e) :
    L.of (w.applyAll sys es) =
      (es.filterMap L.effect).foldl (Glimpse.apply sys.owner sys.orphan) (L.of w) := by
  induction es generalizing w with
  | nil => rfl
  | cons e es ih =>
      have first : P.Holds (w.apply sys e) := show P.Holds (w.applyAll sys [e]) from
        holds.applyAll keeps fun e' member => by
          rw [List.mem_singleton.mp member]
          exact effects e List.mem_cons_self
      rw [World.applyAll_cons,
        ih first (fun e' member => effects e' (List.mem_cons_of_mem _ member)),
        of_apply fits holds e]
      cases shown : L.effect e with
      | none => rw [List.filterMap_cons_none shown, Option.elim_none]
      | some e' => rw [List.filterMap_cons_some shown, List.foldl_cons, Option.elim_some]

end Apply

/-! ## Two worlds that look the same -/

section Same

variable {L L' : Lens A M T E} {w : World A M T I E S} {v : World A M T J E R}

/-- A shown message that can be taken in one world can be taken in the other one, if it hides none
    of the messages. -/
theorem take_enabled (same : L.of w = L'.of v) {a : A} {m : M} (actor : L.actor a)
    (actor' : L'.actor a) (msg : L.msg m) (all : ∀ m, L'.msg m) (alive : w.live a)
    (head : (w.mail a).head? = some m) : v.live a ∧ (v.mail a).head? = some m := by
  have live : (L.actor a && w.live a) = (L'.actor a && v.live a) :=
    congrFun (congrArg Glimpse.live same) a
  have mail : L.box a (w.mail a) = L'.box a (v.mail a) := congrFun (congrArg Glimpse.mail same) a
  obtain ⟨rest, filled⟩ := List.head?_eq_some_iff.mp head
  rw [box, if_pos actor, filled, List.filter_cons_of_pos msg, box, if_pos actor',
    List.filter_eq_self.mpr fun m _ => all m] at mail
  refine ⟨by simpa [actor, actor', alive] using live, ?_⟩
  rw [← mail, List.head?_cons]

theorem run_enabled (same : L.of w = L'.of v) {t t' : T} (member : t ∈ w.tasks)
    (image : L.task t = some t') : ∃ u ∈ v.tasks, L'.task u = some t' := by
  have tasks : ((w.tasks.filterMap L.task : List T) : Multiset T) =
    (v.tasks.filterMap L'.task : List T) := congrArg Glimpse.tasks same
  have there : t' ∈ ((w.tasks.filterMap L.task : List T) : Multiset T) :=
    Multiset.mem_coe.mpr (List.mem_filterMap.mpr ⟨t, member, image⟩)
  rw [tasks] at there
  exact List.mem_filterMap.mp (Multiset.mem_coe.mp there)

end Same

section Fire

variable [DecidableEq A] [DecidableEq M] [DecidableEq T] {L : Lens A M T E}
  {sys : System A M T I E S} {P : Local A M T E} {w w' : World A M T I E S}
  {res : A → Option SendError} {l : Label A M T I} {s : S} {es : List (Effect A M T E)}

omit [DecidableEq A] [DecidableEq M] in
theorem filterMap_erase_none {t : T} {ts : List T} (image : L.task t = none) :
    (ts.erase t).filterMap L.task = ts.filterMap L.task := by
  induction ts with
  | nil => rfl
  | cons t' ts ih =>
      by_cases same : t' = t
      · subst same
        rw [List.erase_cons_head, List.filterMap_cons_none image]
      · rw [List.erase_cons_tail (by simpa using same), List.filterMap_cons, List.filterMap_cons, ih]

omit [DecidableEq A] [DecidableEq M] in
theorem filterMap_erase {t t' : T} {ts : List T} (member : t ∈ ts) (image : L.task t = some t') :
    ((ts.erase t).filterMap L.task : Multiset T) = (ts.filterMap L.task : Multiset T).erase t' := by
  have same : (ts.filterMap L.task : Multiset T) = t' ::ₘ ((ts.erase t).filterMap L.task : List T) := by
    rw [Multiset.cons_coe, ← List.filterMap_cons_some image]
    exact Multiset.coe_eq_coe.mpr ((List.perm_cons_erase member).filterMap L.task)
  rw [same, Multiset.erase_cons_head]

theorem of_consume (reacted : w.reaction sys res l = some (s, es)) :
    L.of (w.consume s l) =
      (L.label l : Option (Label A M T J)).elim (L.of w) (L.of w).consume := by
  cases l with
  | take a m =>
      obtain ⟨rest, mail⟩ := List.head?_eq_some_iff.mp (World.reaction_take.mp reacted).2.1
      have past : (Record.took a m :: w.log).filterMap L.record = w.log.filterMap L.record :=
        List.filterMap_cons_none rfl
      have after : L.of (w.consume s (.take a m)) =
          { L.of w with mail := Function.update (L.of w).mail a (L.box a rest) } := by
        simp only [World.consume, of, box_update, mail, List.tail_cons, past]
      rw [after]
      by_cases both : L.actor a && L.msg m
      · obtain ⟨actor, visible⟩ := (Bool.and_eq_true _ _).mp both
        simp [label, Glimpse.consume, of, box, actor, visible, mail]
      · have same : L.box a rest = (L.of w).mail a := by
          simp only [of, box, mail]
          split
          · rename_i actor
            rw [List.filter_cons_of_neg (by simpa [actor] using both)]
          · rfl
        rw [same, Function.update_eq_self, label, if_neg both]
        rfl
  | run t =>
      have member := (World.reaction_run.mp reacted).1
      cases image : L.task t with
      | none =>
          have past : (Record.ran t :: w.log).filterMap L.record = w.log.filterMap L.record :=
            List.filterMap_cons_none (by rw [record, image, Option.map_none])
          simp only [World.consume, of, filterMap_erase_none image, past, label, image,
            Option.map_none, Option.elim_none]
      | some t' =>
          have past : (Record.ran t :: w.log).filterMap L.record =
              .inl t' :: w.log.filterMap L.record :=
            List.filterMap_cons_some (by rw [record, image, Option.map_some])
          simp only [World.consume, of, filterMap_erase member image, past, label, image,
            Option.map_some, Option.elim_some, Glimpse.consume]
  | give i =>
      have past : (Record.gave i :: w.log).filterMap L.record = w.log.filterMap L.record :=
        List.filterMap_cons_none rfl
      simp only [World.consume, of, past, label, Option.elim_none]

/-- A glimpse changes by what is shown of a step and of its effects. -/
theorem of_fire (fits : L.Fits sys P) (keeps : P.Keeps sys) (holds : P.Holds w)
    (reacted : w.reaction sys res l = some (s, es)) (fired : w.fire sys res l = some w')
    (effects : ∀ e ∈ es, P.effect e) :
    L.of w' = (es.filterMap L.effect).foldl (Glimpse.apply sys.owner sys.orphan)
      ((L.label l : Option (Label A M T J)).elim (L.of w) (L.of w).consume) := by
  obtain ⟨s', es', reacted', rfl⟩ := World.fire_eq_some.mp fired
  obtain ⟨rfl, rfl⟩ := Prod.mk.inj (Option.some.inj (reacted.symm.trans reacted'))
  rw [of_applyAll fits keeps (holds.consume s l) effects, of_consume reacted]

/-- A world whose inputs let effects in as they stand looks, once they are in, as the effects say. -/
theorem exec_enter {κ : Type} {L' : Lens A M T E} {sys' : System A M T J E S}
    {step : World A M T J E S → κ → Option (World A M T J E S)} {v : World A M T J E S}
    {enter : Effect A M T E → Option κ} (fits : L'.Fits sys' P) (keeps : P.Keeps sys')
    (lets : ∀ e k, enter e = some k → ∃ res i, (∀ v, step v k = v.fire sys' res (.give i)) ∧
      ∀ s, sys'.accept i res s = some (s, [e]))
    (holds : P.Holds v) (effects : ∀ e ∈ es, P.effect e)
    (seen : ∀ e ∈ es, L.effect e = none ∧ enter e = none ∨
      (enter e).isSome ∧ L.effect e = some e ∧ L'.effect e = some e) :
    ∃ v', exec step v (es.filterMap enter) = some v' ∧ P.Holds v' ∧ v'.state = v.state ∧
      L'.of v' = (es.filterMap L.effect).foldl (Glimpse.apply sys'.owner sys'.orphan) (L'.of v) := by
  induction es generalizing v with
  | nil => exact ⟨v, rfl, holds, rfl, rfl⟩
  | cons e es ih =>
      obtain ⟨known, effects⟩ := List.forall_mem_cons.mp effects
      obtain ⟨first, seen⟩ := List.forall_mem_cons.mp seen
      rcases first with ⟨hidden, absent⟩ | ⟨entering, shown, shown'⟩
      · rw [List.filterMap_cons_none hidden, List.filterMap_cons_none absent]
        exact ih holds effects seen
      · obtain ⟨k, entering⟩ := Option.isSome_iff_exists.mp entering
        obtain ⟨res, i, moves, accepts⟩ := lets e k entering
        have reacted : v.reaction sys' res (.give i) = some (v.state, [e]) := accepts v.state
        obtain ⟨v₁, entered⟩ : ∃ v₁, v.fire sys' res (.give i) = some v₁ :=
          ⟨_, World.fire_eq_some.mpr ⟨_, _, reacted, rfl⟩⟩
        have single : ∀ e' ∈ [e], P.effect e' := fun e' member => by
          rw [List.mem_singleton.mp member]
          exact known
        obtain ⟨v', run, holds', state, glimpse⟩ :=
          ih (holds.fire keeps reacted entered single) effects seen
        refine ⟨v', ?_, holds', state.trans (World.fire_state reacted entered), ?_⟩
        · rw [List.filterMap_cons_some entering]
          exact exec_cons_eq_some.mpr ⟨v₁, (moves v).trans entered, run⟩
        · rw [glimpse, List.filterMap_cons_some shown, List.foldl_cons,
            of_fire (J := J) fits keeps holds reacted entered single,
            List.filterMap_cons_some shown']
          rfl

end Fire

end Lens

end ActorSystem
