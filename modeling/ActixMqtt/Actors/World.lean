import Mathlib.Logic.Function.Basic
import Mathlib.Data.List.Basic
import ActixMqtt.Actors.Runs

/-! # Worlds of mailboxes and tasks

An actor runtime seen from outside. Every actor owns a FIFO mailbox; beside the
mailboxes there is a pool of tasks (timers, sleeping or spawned futures) of which
any ready one may run next. One step handles the oldest message of one mailbox,
runs one task, or accepts one input from the environment. Handlers are pure: they
return the effects they cause, in order, and `World.apply` carries an effect out.

Whether a bounded mailbox is full is not computed from its length: each step names
the mailboxes that refuse a message during it, so a run may contain any pattern of
refusals. A mailbox is closed exactly when its actor has stopped.
-/

namespace ActorSystem

/-- Why a message was not accepted by a mailbox. -/
inductive SendError where
  | full
  | closed
  deriving DecidableEq, Repr

/-- What actor code does to the world around it. -/
inductive Effect (A M T E : Type) where
  /-- Enqueue `m` at actor `dst`; lost when `dst` has stopped. -/
  | post (dst : A) (m : M)
  | spawn (t : T)
  | emit (e : E)
  /-- Stop the actor: its mailbox closes and its own timers are cancelled. -/
  | halt (a : A)

/-- One entry of the history of a world. -/
inductive Record (A M T I E : Type) where
  | took (a : A) (m : M)
  | ran (t : T)
  | gave (i : I)
  | emitted (e : E)
  deriving DecidableEq

/-- `log` is the history of the world, newest entry first. -/
structure World (A M T I E S : Type) where
  live : A → Bool
  mail : A → List M
  tasks : List T
  log : List (Record A M T I E)
  state : S

/-- Which step is taken. -/
inductive Label (A M T I : Type) where
  | take (a : A) (m : M)
  | run (t : T)
  | give (i : I)

/-- What the history notes of a step before its effects. -/
def Label.record {A M T I E : Type} : Label A M T I → Record A M T I E
  | .take a m => .took a m
  | .run t => .ran t
  | .give i => .gave i

/-- A step and the mailboxes that are full while it is taken. -/
structure Move (A M T I : Type) where
  label : Label A M T I
  full : A → Bool

structure System (A M T I E S : Type) where
  handle : A → M → (A → Option SendError) → S → S × List (Effect A M T E)
  resume : T → (A → Option SendError) → S → S × List (Effect A M T E)
  /-- `none` where the environment cannot act this way now. -/
  accept : I → (A → Option SendError) → S → Option (S × List (Effect A M T E))
  ready : T → S → Bool
  /-- The actor whose stop cancels the task. -/
  owner : T → Option A
  /-- What is left of a message that is dropped with its mailbox. -/
  orphan : M → List T

variable {A M T I E S : Type} [DecidableEq A]

/-- The messages `es` enqueues at `a`, oldest first. -/
def posts (a : A) (es : List (Effect A M T E)) : List M :=
  es.filterMap fun
    | .post dst m => if dst = a then some m else none
    | _ => none

def emits (es : List (Effect A M T E)) : List E :=
  es.filterMap fun
    | .emit e => some e
    | _ => none

theorem mem_posts {a : A} {m : M} {es : List (Effect A M T E)} :
    m ∈ posts a es ↔ .post a m ∈ es := by
  simp only [posts, List.mem_filterMap]
  constructor
  · rintro ⟨e, member, same⟩
    cases e <;> simp_all
  · intro member
    exact ⟨_, member, by simp⟩

omit [DecidableEq A] in
theorem mem_emits {x : E} {es : List (Effect A M T E)} : x ∈ emits es ↔ .emit x ∈ es := by
  simp only [emits, List.mem_filterMap]
  constructor
  · rintro ⟨e, member, same⟩
    cases e <;> simp_all
  · intro member
    exact ⟨_, member, rfl⟩

namespace World

/-- What a try_send to each mailbox returns during a step; `none` is success. -/
def results (w : World A M T I E S) (full : A → Bool) (a : A) : Option SendError :=
  if w.live a then if full a then some .full else none else some .closed

/-- Carry out one effect. -/
def apply (sys : System A M T I E S) (w : World A M T I E S) :
    Effect A M T E → World A M T I E S
  | .post dst m =>
      if w.live dst then { w with mail := Function.update w.mail dst (w.mail dst ++ [m]) } else w
  | .spawn t => { w with tasks := t :: w.tasks }
  | .emit e => { w with log := .emitted e :: w.log }
  | .halt a =>
      { w with
        live := Function.update w.live a false
        mail := Function.update w.mail a []
        tasks := (w.mail a).flatMap sys.orphan ++ w.tasks.filter (sys.owner · ≠ some a) }

def applyAll (sys : System A M T I E S) (w : World A M T I E S)
    (es : List (Effect A M T E)) : World A M T I E S :=
  es.foldl (apply sys) w

variable [DecidableEq M] [DecidableEq T]

/-- The new private state and the effects of a step, when the step is enabled. -/
def reaction (sys : System A M T I E S) (w : World A M T I E S)
    (res : A → Option SendError) : Label A M T I → Option (S × List (Effect A M T E))
  | .take a m =>
      if w.live a ∧ (w.mail a).head? = some m then some (sys.handle a m res w.state) else none
  | .run t => if t ∈ w.tasks ∧ sys.ready t w.state then some (sys.resume t res w.state) else none
  | .give i => sys.accept i res w.state

/-- Remove what the step consumes, note it in the history and install the new state. -/
def consume (w : World A M T I E S) (s : S) : Label A M T I → World A M T I E S
  | .take a m =>
      { w with
        mail := Function.update w.mail a (w.mail a).tail
        log := .took a m :: w.log
        state := s }
  | .run t => { w with tasks := w.tasks.erase t, log := .ran t :: w.log, state := s }
  | .give i => { w with log := .gave i :: w.log, state := s }

/-- A step under given results of its sends. -/
def fire (sys : System A M T I E S) (w : World A M T I E S) (res : A → Option SendError)
    (l : Label A M T I) : Option (World A M T I E S) :=
  (w.reaction sys res l).map fun r => (w.consume r.1 l).applyAll sys r.2

/-- A step of the closed system: a send fails exactly when the receiver is full or stopped. -/
def step (sys : System A M T I E S) (w : World A M T I E S) (mv : Move A M T I) :
    Option (World A M T I E S) :=
  w.fire sys (w.results mv.full) mv.label

end World

section Apply

variable (sys : System A M T I E S) (w : World A M T I E S)

@[simp] theorem World.applyAll_nil : w.applyAll sys [] = w := rfl

@[simp] theorem World.applyAll_cons (e : Effect A M T E) (es : List (Effect A M T E)) :
    w.applyAll sys (e :: es) = (w.apply sys e).applyAll sys es := rfl

@[simp] theorem World.apply_state (e : Effect A M T E) : (w.apply sys e).state = w.state := by
  cases e with
  | post dst m =>
      simp only [World.apply]
      split <;> rfl
  | spawn t | emit e | halt a => rfl

@[simp] theorem World.applyAll_state (es : List (Effect A M T E)) :
    (w.applyAll sys es).state = w.state := by
  induction es generalizing w with
  | nil => rfl
  | cons e es ih => rw [World.applyAll_cons, ih, World.apply_state]

theorem World.applyAll_log (es : List (Effect A M T E)) :
    (w.applyAll sys es).log = (emits es).reverse.map Record.emitted ++ w.log := by
  induction es generalizing w with
  | nil => rfl
  | cons e es ih =>
      rw [World.applyAll_cons, ih]
      cases e with
      | post dst m =>
          simp only [World.apply, emits, List.filterMap_cons]
          split <;> rfl
      | spawn t | halt a => rfl
      | emit e => simp [World.apply, emits]

theorem World.apply_live_of_ne {a : A} {e : Effect A M T E} (other : e ≠ .halt a) :
    (w.apply sys e).live a = w.live a := by
  cases e with
  | post dst m =>
      simp only [World.apply]
      split <;> rfl
  | spawn t | emit e => rfl
  | halt b => exact Function.update_of_ne (fun same => other (by rw [same])) _ _

theorem World.applyAll_live {a : A} {es : List (Effect A M T E)} (running : .halt a ∉ es) :
    (w.applyAll sys es).live a = w.live a := by
  induction es generalizing w with
  | nil => rfl
  | cons e es ih =>
      have here : e ≠ .halt a := fun same => running (by simp [same])
      have later : .halt a ∉ es := fun member => running (List.mem_cons_of_mem _ member)
      rw [World.applyAll_cons, ih _ later, World.apply_live_of_ne sys w here]

theorem World.apply_live_le {a : A} (e : Effect A M T E) (alive : (w.apply sys e).live a) :
    w.live a := by
  cases e with
  | post dst m =>
      simp only [World.apply] at alive
      split at alive <;> exact alive
  | spawn t | emit e => exact alive
  | halt b =>
      by_cases same : a = b
      · subst same
        simp [World.apply] at alive
      · simpa [World.apply, Function.update_of_ne same] using alive

theorem World.applyAll_live_le {a : A} {es : List (Effect A M T E)}
    (alive : (w.applyAll sys es).live a) : w.live a := by
  induction es generalizing w with
  | nil => exact alive
  | cons e es ih => exact World.apply_live_le sys w e (ih _ alive)

theorem World.applyAll_halted {a : A} {es : List (Effect A M T E)} (halted : .halt a ∈ es) :
    (w.applyAll sys es).live a = false := by
  induction es generalizing w with
  | nil => simp at halted
  | cons e es ih =>
      rcases List.mem_cons.mp halted with rfl | later
      · rw [World.applyAll_cons]
        by_contra alive
        have := World.applyAll_live_le sys _ (Bool.of_not_eq_false alive)
        simp [World.apply] at this
      · exact ih _ later

/-- The mailbox of a live actor that no effect halts grows by exactly the messages posted to it. -/
theorem World.applyAll_mail {a : A} {es : List (Effect A M T E)} (alive : w.live a)
    (running : .halt a ∉ es) : (w.applyAll sys es).mail a = w.mail a ++ posts a es := by
  induction es generalizing w with
  | nil => simp [posts]
  | cons e es ih =>
      have here : e ≠ .halt a := fun same => running (by simp [same])
      have later : .halt a ∉ es := fun member => running (List.mem_cons_of_mem _ member)
      rw [World.applyAll_cons, ih _ (by rwa [World.apply_live_of_ne sys w here]) later]
      cases e with
      | post dst m =>
          by_cases same : dst = a
          · subst same
            simp [World.apply, alive, posts]
          · have apart : a ≠ dst := fun h => same h.symm
            simp only [World.apply, posts, List.filterMap_cons, if_neg same]
            split <;> simp [Function.update_of_ne apart]
      | spawn t | emit e => simp [World.apply, posts]
      | halt b =>
          have apart : a ≠ b := fun h => here (by rw [h])
          simp [World.apply, posts, Function.update_of_ne apart]

theorem World.applyAll_mail_sublist (a : A) (es : List (Effect A M T E)) :
    ((w.applyAll sys es).mail a).Sublist (w.mail a ++ posts a es) := by
  induction es generalizing w with
  | nil => simp [posts]
  | cons e es ih =>
      refine (ih (w.apply sys e)).trans ?_
      cases e with
      | post dst m =>
          by_cases same : dst = a
          · subst same
            cases alive : w.live dst <;> simp [World.apply, alive, posts]
          · have apart : a ≠ dst := fun h => same h.symm
            simp only [World.apply, posts, List.filterMap_cons, if_neg same]
            split <;> simp [Function.update_of_ne apart]
      | spawn t | emit e => simp [World.apply, posts]
      | halt b =>
          refine List.Sublist.append ?_ (List.Sublist.refl _)
          by_cases same : a = b
          · simp [World.apply, same]
          · simp [World.apply, Function.update_of_ne same]

theorem World.mem_mail_applyAll {a : A} {m : M} {es : List (Effect A M T E)}
    (member : m ∈ (w.applyAll sys es).mail a) : m ∈ w.mail a ∨ .post a m ∈ es := by
  induction es generalizing w with
  | nil => exact .inl member
  | cons e es ih =>
      rcases ih _ member with before | posted
      · cases e with
        | post dst m' =>
            simp only [World.apply] at before
            split at before
            · by_cases same : a = dst
              · subst same
                simp only [Function.update_self, List.mem_append, List.mem_singleton] at before
                rcases before with before | rfl
                · exact .inl before
                · exact .inr (by simp)
              · exact .inl (by simpa [Function.update_of_ne same] using before)
            · exact .inl before
        | spawn t | emit e => exact .inl before
        | halt b =>
            by_cases same : a = b
            · subst same
              simp [World.apply] at before
            · exact .inl (by simpa [World.apply, Function.update_of_ne same] using before)
      · exact .inr (List.mem_cons_of_mem _ posted)

theorem World.mem_tasks_applyAll {t : T} {es : List (Effect A M T E)}
    (member : t ∈ (w.applyAll sys es).tasks) :
    t ∈ w.tasks ∨ .spawn t ∈ es ∨
      ∃ a m, .halt a ∈ es ∧ t ∈ sys.orphan m ∧ (m ∈ w.mail a ∨ .post a m ∈ es) := by
  induction es generalizing w with
  | nil => exact .inl member
  | cons e es ih =>
      rcases ih _ member with before | spawned | ⟨a, m, halted, left, source⟩
      · cases e with
        | post dst m =>
            simp only [World.apply] at before
            split at before <;> exact .inl before
        | spawn t' =>
            rcases List.mem_cons.mp before with rfl | before
            · exact .inr (.inl (by simp))
            · exact .inl before
        | emit e => exact .inl before
        | halt a =>
            rcases List.mem_append.mp before with left | kept
            · obtain ⟨m, source, left⟩ := List.mem_flatMap.mp left
              exact .inr (.inr ⟨a, m, by simp, left, .inl source⟩)
            · exact .inl (List.mem_filter.mp kept).1
      · exact .inr (.inl (List.mem_cons_of_mem _ spawned))
      · refine .inr (.inr ⟨a, m, List.mem_cons_of_mem _ halted, left, ?_⟩)
        rcases source with before | posted
        · have source : m ∈ w.mail a ∨ .post a m ∈ [e] :=
            World.mem_mail_applyAll sys w before
          rcases source with before | posted
          · exact .inl before
          · exact .inr (by simpa using .inl (List.mem_singleton.mp posted))
        · exact .inr (List.mem_cons_of_mem _ posted)

theorem World.mem_tasks_of_mem {t : T} {es : List (Effect A M T E)} (member : t ∈ w.tasks)
    (running : ∀ a, .halt a ∈ es → sys.owner t ≠ some a) :
    t ∈ (w.applyAll sys es).tasks := by
  induction es generalizing w with
  | nil => exact member
  | cons e es ih =>
      refine ih _ ?_ (fun a halted => running a (List.mem_cons_of_mem _ halted))
      cases e with
      | post dst m =>
          simp only [World.apply]
          split <;> exact member
      | spawn t' => exact List.mem_cons_of_mem _ member
      | emit e => exact member
      | halt a =>
          exact List.mem_append_right _
            (List.mem_filter.mpr ⟨member, by simpa using running a (by simp)⟩)

theorem World.mem_tasks_of_spawn {t : T} {es : List (Effect A M T E)} (spawned : .spawn t ∈ es)
    (running : ∀ a, .halt a ∈ es → sys.owner t ≠ some a) :
    t ∈ (w.applyAll sys es).tasks := by
  induction es generalizing w with
  | nil => simp at spawned
  | cons e es ih =>
      have tail : ∀ a, .halt a ∈ es → sys.owner t ≠ some a :=
        fun a halted => running a (List.mem_cons_of_mem _ halted)
      rcases List.mem_cons.mp spawned with rfl | later
      · exact World.mem_tasks_of_mem sys (w.apply sys (.spawn t)) List.mem_cons_self tail
      · exact ih _ later tail

end Apply

section Fire

variable [DecidableEq M] [DecidableEq T] {sys : System A M T I E S} {w w' : World A M T I E S}
  {res : A → Option SendError} {l : Label A M T I}

theorem World.fire_eq_some :
    w.fire sys res l = some w' ↔
      ∃ s es, w.reaction sys res l = some (s, es) ∧ w' = (w.consume s l).applyAll sys es := by
  simp only [World.fire, Option.map_eq_some_iff, Prod.exists]
  constructor
  · rintro ⟨s, es, reacted, same⟩
    exact ⟨s, es, reacted, same.symm⟩
  · rintro ⟨s, es, reacted, same⟩
    exact ⟨s, es, reacted, same.symm⟩

omit [DecidableEq A] in
theorem World.reaction_take {a : A} {m : M} {s : S} {es : List (Effect A M T E)} :
    w.reaction sys res (.take a m) = some (s, es) ↔
      w.live a ∧ (w.mail a).head? = some m ∧ sys.handle a m res w.state = (s, es) := by
  simp only [World.reaction]
  split <;> rename_i enabled
  · simp [enabled.1, enabled.2]
  · simp only [reduceCtorEq, false_iff]
    exact fun ⟨alive, head, _⟩ => enabled ⟨alive, head⟩

omit [DecidableEq A] in
theorem World.reaction_run {t : T} {s : S} {es : List (Effect A M T E)} :
    w.reaction sys res (.run t) = some (s, es) ↔
      t ∈ w.tasks ∧ sys.ready t w.state ∧ sys.resume t res w.state = (s, es) := by
  simp only [World.reaction]
  split <;> rename_i enabled
  · simp [enabled.1, enabled.2]
  · simp only [reduceCtorEq, false_iff]
    exact fun ⟨member, due, _⟩ => enabled ⟨member, due⟩

theorem World.fire_log {s : S} {es : List (Effect A M T E)}
    (reacted : w.reaction sys res l = some (s, es)) (fired : w.fire sys res l = some w') :
    w'.log = (emits es).reverse.map Record.emitted ++ l.record :: w.log := by
  obtain ⟨s', es', reacted', rfl⟩ := World.fire_eq_some.mp fired
  obtain ⟨rfl, rfl⟩ := Prod.mk.inj (Option.some.inj (reacted.symm.trans reacted'))
  rw [World.applyAll_log]
  cases l <;> rfl

/-- What is counted of the history when steps themselves are not counted. -/
theorem World.fire_countP {s : S} {es : List (Effect A M T E)}
    (reacted : w.reaction sys res l = some (s, es)) (fired : w.fire sys res l = some w')
    {p : Record A M T I E → Bool} (noted : p l.record = false) :
    w'.log.countP p = w.log.countP p + (emits es).countP fun e => p (.emitted e) := by
  rw [World.fire_log reacted fired, List.countP_append, List.countP_map, List.countP_reverse,
    List.countP_cons_of_neg (by simp [noted]), Nat.add_comm]
  rfl

theorem World.fire_state {s : S} {es : List (Effect A M T E)}
    (reacted : w.reaction sys res l = some (s, es)) (fired : w.fire sys res l = some w') :
    w'.state = s := by
  obtain ⟨s', es', reacted', rfl⟩ := World.fire_eq_some.mp fired
  obtain ⟨rfl, rfl⟩ := Prod.mk.inj (Option.some.inj (reacted.symm.trans reacted'))
  rw [World.applyAll_state]
  cases l <;> rfl

theorem World.mem_mail_fire {a : A} {m : M} (fired : w.fire sys res l = some w')
    (alive : w'.live a) (member : m ∈ w.mail a) (other : l ≠ .take a m) : m ∈ w'.mail a := by
  obtain ⟨s, es, reacted, rfl⟩ := World.fire_eq_some.mp fired
  have running : .halt a ∉ es := fun halted => by
    rw [World.applyAll_halted sys _ halted] at alive
    cases alive
  rw [World.applyAll_mail sys _ (World.applyAll_live_le sys _ alive) running]
  refine List.mem_append_left _ ?_
  cases l with
  | take b m' =>
      by_cases same : a = b
      · subst same
        have head := (World.reaction_take.mp reacted).2.1
        simp only [World.consume, Function.update_self]
        cases rest : w.mail a with
        | nil => simp [rest] at member
        | cons first later =>
            rw [rest] at member head
            obtain rfl : first = m' := by simpa using head
            exact (List.mem_cons.mp member).resolve_left (fun same => other (by rw [same]))
      · simpa [World.consume, Function.update_of_ne same] using member
  | run t | give i => exact member

theorem World.mem_mail_of_post {a : A} {m : M} {s : S} {es : List (Effect A M T E)}
    (reacted : w.reaction sys res l = some (s, es)) (fired : w.fire sys res l = some w')
    (alive : w'.live a) (posted : .post a m ∈ es) : m ∈ w'.mail a := by
  obtain ⟨s', es', reacted', rfl⟩ := World.fire_eq_some.mp fired
  obtain ⟨rfl, rfl⟩ := Prod.mk.inj (Option.some.inj (reacted.symm.trans reacted'))
  have running : .halt a ∉ es := fun halted => by
    rw [World.applyAll_halted sys _ halted] at alive
    cases alive
  rw [World.applyAll_mail sys _ (World.applyAll_live_le sys _ alive) running]
  exact List.mem_append_right _ (mem_posts.mpr posted)

theorem World.mem_tasks_fire {t : T} (fired : w.fire sys res l = some w')
    (alive : ∀ a, sys.owner t = some a → w'.live a) (member : t ∈ w.tasks)
    (other : l ≠ .run t) : t ∈ w'.tasks := by
  obtain ⟨s, es, reacted, rfl⟩ := World.fire_eq_some.mp fired
  refine World.mem_tasks_of_mem sys _ ?_ (fun a halted owned => ?_)
  · cases l with
    | run t' => exact (List.mem_erase_of_ne (fun same => other (by rw [same]))).mpr member
    | take a m | give i => exact member
  · have lives := alive a owned
    rw [World.applyAll_halted sys _ halted] at lives
    cases lives

theorem World.mem_tasks_of_spawn_fire {t : T} {s : S} {es : List (Effect A M T E)}
    (reacted : w.reaction sys res l = some (s, es)) (fired : w.fire sys res l = some w')
    (alive : ∀ a, sys.owner t = some a → w'.live a) (spawned : .spawn t ∈ es) :
    t ∈ w'.tasks := by
  obtain ⟨s', es', reacted', rfl⟩ := World.fire_eq_some.mp fired
  obtain ⟨rfl, rfl⟩ := Prod.mk.inj (Option.some.inj (reacted.symm.trans reacted'))
  refine World.mem_tasks_of_spawn sys _ spawned (fun a halted owned => ?_)
  have lives := alive a owned
  rw [World.applyAll_halted sys _ halted] at lives
  cases lives

theorem World.fire_live_le {a : A} (fired : w.fire sys res l = some w') (alive : w'.live a) :
    w.live a := by
  obtain ⟨s, es, reacted, rfl⟩ := World.fire_eq_some.mp fired
  have := World.applyAll_live_le sys _ alive
  cases l <;> exact this

theorem World.fire_dead {a : A} (fired : w.fire sys res l = some w') (dead : w.live a = false) :
    w'.live a = false := by
  cases alive : w'.live a with
  | false => rfl
  | true => rw [← dead, World.fire_live_le fired alive]

theorem World.fire_live {a : A} {s : S} {es : List (Effect A M T E)}
    (reacted : w.reaction sys res l = some (s, es)) (fired : w.fire sys res l = some w')
    (running : .halt a ∉ es) : w'.live a = w.live a := by
  obtain ⟨s', es', reacted', rfl⟩ := World.fire_eq_some.mp fired
  obtain ⟨rfl, rfl⟩ := Prod.mk.inj (Option.some.inj (reacted.symm.trans reacted'))
  rw [World.applyAll_live sys _ running]
  cases l <;> rfl

theorem World.not_halt_of_live {a : A} {s : S} {es : List (Effect A M T E)}
    (reacted : w.reaction sys res l = some (s, es)) (fired : w.fire sys res l = some w')
    (alive : w'.live a) : .halt a ∉ es := by
  intro halted
  obtain ⟨s', es', reacted', rfl⟩ := World.fire_eq_some.mp fired
  obtain ⟨rfl, rfl⟩ := Prod.mk.inj (Option.some.inj (reacted.symm.trans reacted'))
  rw [World.applyAll_halted sys _ halted] at alive
  cases alive

theorem World.mem_mail_of_fire {a : A} {m : M} {s : S} {es : List (Effect A M T E)}
    (reacted : w.reaction sys res l = some (s, es)) (fired : w.fire sys res l = some w')
    (member : m ∈ w'.mail a) : m ∈ w.mail a ∨ .post a m ∈ es := by
  obtain ⟨s', es', reacted', rfl⟩ := World.fire_eq_some.mp fired
  obtain ⟨rfl, rfl⟩ := Prod.mk.inj (Option.some.inj (reacted.symm.trans reacted'))
  refine (World.mem_mail_applyAll sys _ member).imp_left (fun before => ?_)
  cases l with
  | take b m' =>
      by_cases same : a = b
      · subst same
        simp only [World.consume, Function.update_self] at before
        exact List.mem_of_mem_tail before
      · simpa [World.consume, Function.update_of_ne same] using before
  | run t | give i => exact before

/-- What a step leaves in the pool was there before, has just been spawned, or is what a stop left of
    a message. -/
theorem World.mem_tasks_of_fire {t : T} {s : S} {es : List (Effect A M T E)}
    (reacted : w.reaction sys res l = some (s, es)) (fired : w.fire sys res l = some w')
    (member : t ∈ w'.tasks) :
    t ∈ w.tasks ∨ .spawn t ∈ es ∨
      ∃ a m, .halt a ∈ es ∧ t ∈ sys.orphan m ∧ (m ∈ w.mail a ∨ .post a m ∈ es) := by
  obtain ⟨s', es', reacted', rfl⟩ := World.fire_eq_some.mp fired
  obtain ⟨rfl, rfl⟩ := Prod.mk.inj (Option.some.inj (reacted.symm.trans reacted'))
  have kept {a : A} {m : M} (before : m ∈ (w.consume s l).mail a) : m ∈ w.mail a := by
    cases l with
    | take b m' =>
        by_cases same : a = b
        · subst same
          simp only [World.consume, Function.update_self] at before
          exact List.mem_of_mem_tail before
        · simpa [World.consume, Function.update_of_ne same] using before
    | run t | give i => exact before
  rcases World.mem_tasks_applyAll sys _ member with before | spawned | ⟨a, m, halted, left, source⟩
  · refine .inl ?_
    cases l with
    | run t' => exact List.mem_of_mem_erase before
    | take b m | give i => exact before
  · exact .inr (.inl spawned)
  · exact .inr (.inr ⟨a, m, halted, left, source.imp_left kept⟩)

/-- The mailbox of an actor that lives on: what was in it and not taken, then what is posted. -/
theorem World.fire_mail {a : A} {s : S} {es : List (Effect A M T E)}
    (reacted : w.reaction sys res l = some (s, es)) (fired : w.fire sys res l = some w')
    (alive : w'.live a) :
    (∃ m rest, l = .take a m ∧ w.mail a = m :: rest ∧ w'.mail a = rest ++ posts a es) ∨
      (∀ m, l ≠ .take a m) ∧ w'.mail a = w.mail a ++ posts a es := by
  have running : .halt a ∉ es := World.not_halt_of_live reacted fired alive
  obtain ⟨s', es', reacted', rfl⟩ := World.fire_eq_some.mp fired
  obtain ⟨rfl, rfl⟩ := Prod.mk.inj (Option.some.inj (reacted.symm.trans reacted'))
  rw [World.applyAll_mail sys _ (World.applyAll_live_le sys _ alive) running]
  cases l with
  | take b m =>
      by_cases same : a = b
      · subst same
        refine .inl ⟨m, (w.mail a).tail, rfl, ?_, by simp [World.consume]⟩
        exact (List.cons_head?_tail (World.reaction_take.mp reacted).2.1).symm
      · refine .inr ⟨fun m' taken => same ?_, by simp [World.consume, Function.update_of_ne same]⟩
        cases taken
        rfl
  | run t | give i => exact .inr ⟨fun m taken => (nomatch taken), rfl⟩

theorem World.fire_mail_sublist {s : S} {es : List (Effect A M T E)}
    (reacted : w.reaction sys res l = some (s, es)) (fired : w.fire sys res l = some w') (a : A) :
    (w'.mail a).Sublist ((w.consume s l).mail a ++ posts a es) := by
  obtain ⟨s', es', reacted', rfl⟩ := World.fire_eq_some.mp fired
  obtain ⟨rfl, rfl⟩ := Prod.mk.inj (Option.some.inj (reacted.symm.trans reacted'))
  exact World.applyAll_mail_sublist sys _ a _

/-- Where a step that the history notes stands after one more step: it is this step, or it was
    noted before. -/
theorem World.fire_split {s : S} {es : List (Effect A M T E)} {r : Record A M T I E}
    {later earlier : List (Record A M T I E)}
    (reacted : w.reaction sys res l = some (s, es)) (fired : w.fire sys res l = some w')
    (noted : ∀ e, r ≠ .emitted e) (split : w'.log = later ++ r :: earlier) :
    (r = l.record ∧ earlier = w.log ∧ later = (emits es).reverse.map .emitted) ∨
      ∃ before, w.log = before ++ r :: earlier ∧
        later = (emits es).reverse.map .emitted ++ l.record :: before := by
  rw [World.fire_log reacted fired, List.append_eq_append_iff] at split
  rcases split with ⟨mid, rfl, same⟩ | ⟨mid, front, same⟩
  · cases mid with
    | nil =>
        obtain ⟨rfl, rfl⟩ := List.cons.inj same
        exact .inl ⟨rfl, rfl, List.append_nil _⟩
    | cons first before =>
        obtain ⟨rfl, rest⟩ := List.cons.inj same
        exact .inr ⟨before, rest, rfl⟩
  · cases mid with
    | nil =>
        obtain ⟨rfl, rfl⟩ := List.cons.inj same
        exact .inl ⟨rfl, rfl, by rw [front, List.append_nil]⟩
    | cons first before =>
        obtain ⟨rfl, -⟩ := List.cons.inj same
        have member : r ∈ (emits es).reverse.map Record.emitted := by simp [front]
        obtain ⟨e, -, rfl⟩ := List.mem_map.mp member
        exact absurd rfl (noted e)

/-- Where an event stands after a step: it stood there before, or the step emitted it, after the
    events in `front`. -/
theorem World.fire_split_emitted {s : S} {es : List (Effect A M T E)} {e : E}
    {later earlier : List (Record A M T I E)}
    (reacted : w.reaction sys res l = some (s, es)) (fired : w.fire sys res l = some w')
    (split : w'.log = later ++ .emitted e :: earlier) :
    (∃ before, w.log = before ++ .emitted e :: earlier) ∨
      ∃ front back, emits es = front ++ e :: back ∧
        earlier = front.reverse.map .emitted ++ l.record :: w.log := by
  have other : l.record ≠ (.emitted e : Record A M T I E) := by cases l <;> simp [Label.record]
  rw [World.fire_log reacted fired, List.append_eq_append_iff] at split
  rcases split with ⟨mid, -, same⟩ | ⟨mid, front, same⟩
  · cases mid with
    | nil => exact absurd (List.cons.inj same).1 other
    | cons first before => exact .inl ⟨before, (List.cons.inj same).2⟩
  · cases mid with
    | nil => exact absurd (List.cons.inj same).1.symm other
    | cons first rest =>
        obtain ⟨rfl, rfl⟩ := List.cons.inj same
        obtain ⟨newer, older, split, -, tail⟩ := List.map_eq_append_iff.mp front
        obtain ⟨e', older, rfl, named, rfl⟩ := List.map_eq_cons_iff.mp tail
        cases named
        refine .inr ⟨older.reverse, newer.reverse, ?_, by rw [List.reverse_reverse]; rfl⟩
        rw [← List.reverse_reverse (emits es), split]
        simp

end Fire

/-! ## Handles

An actor sends to a mailbox through a handle of its own. A message that finds the mailbox full is
accepted all the same, but it parks its handle, and only a parked handle is refused. So a mailbox
refuses nobody's first message, however many messages of others are in it.
-/

section Handles

variable [DecidableEq M] [DecidableEq T] (sys : System A M T I E S)

/-- Actor `a`, which handles a message in this step, hands one to `b`. -/
def World.Hands (a b : A) (w : World A M T I E S) (mv : Move A M T I) : Prop :=
  ∃ m s es m', mv.label = .take a m ∧
    w.reaction sys (w.results mv.full) mv.label = some (s, es) ∧ .post b m' ∈ es

/-- In the move that follows `moves`, an actor is refused only where it has sent a message before. -/
def RefusesParked (start : World A M T I E S) (moves : List (Move A M T I)) (mv : Move A M T I) :
    Prop :=
  ∀ a m b, mv.label = .take a m → mv.full b →
    Sometime (World.step sys) (World.Hands sys a b) start moves

end Handles

end ActorSystem
