import ActixMqtt.Actors.Potential

/-! # Effort

How many steps a system may still take by itself, valued message by message and task by
task; the stock values what the private state holds back. Where every step pays for
itself out of what it consumes, up to the budget of its move, the length of a run is
bounded by its budgets, and a system that is left alone comes to rest.
-/

namespace ActorSystem

variable {A M T I E S : Type}

/-- A step that the system takes by itself. -/
def Label.internal : Label A M T I → Bool
  | .give _ => false
  | .take _ _ | .run _ => true

structure Effort (A M T S : Type) where
  mail : A → M → ℕ
  task : T → ℕ
  stock : S → ℕ

namespace Effort

variable (ef : Effort A M T S)

/-- Events cause no steps. -/
def weight : Weight A M T E := ⟨ef.mail, ef.task, fun _ => 0⟩

/-- The steps that a world may still take by itself. -/
def left [Fintype A] (w : World A M T I E S) : ℕ :=
  (ef.weight : Weight A M T E).flow w + ef.stock w.state

/-- What a step leaves behind, and the step itself, is paid for by what it consumes and by its
    budget. -/
def Pays (w : World A M T I E S) (l : Label A M T I) (s : S) (es : List (Effect A M T E))
    (budget : ℕ) : Prop :=
  ef.weight.effects es + ef.stock s + (if l.internal then 1 else 0) ≤
    (ef.weight : Weight A M T E).cost l + ef.stock w.state + budget

variable {ef} [DecidableEq A] [Fintype A] [DecidableEq M] [DecidableEq T]
  {sys : System A M T I E S} {w w' : World A M T I E S}

theorem left_fire_le (keeps : (ef.weight : Weight A M T E).Keeps sys) {res : A → Option SendError}
    {l : Label A M T I} {s : S} {es : List (Effect A M T E)} {budget : ℕ}
    (reacted : w.reaction sys res l = some (s, es)) (fired : w.fire sys res l = some w')
    (pays : ef.Pays w l s es budget) :
    ef.left w' + (if l.internal then 1 else 0) ≤ ef.left w + budget := by
  have flow := (ef.weight : Weight A M T E).total_fire keeps reacted fired
  have silent (log : List (Record A M T I E)) : (ef.weight : Weight A M T E).past log = 0 := by
    refine List.sum_eq_zero fun n member => ?_
    obtain ⟨r, -, rfl⟩ := List.mem_map.mp member
    cases r <;> rfl
  have state := World.fire_state reacted fired
  rw [silent, silent] at flow
  simp only [Pays, left, state] at pays ⊢
  omega

/-- The steps of a run are paid for by what is left at its beginning and by its budgets. -/
theorem run_le {inv : World A M T I E S → Prop} {budget : Move A M T I → ℕ}
    (keeps : (ef.weight : Weight A M T E).Keeps sys)
    (preserved : ∀ w mv w', inv w → w.step sys mv = some w' → inv w')
    (pays : ∀ w mv s es, inv w → w.reaction sys (w.results mv.full) mv.label = some (s, es) →
      ef.Pays w mv.label s es (budget mv))
    {moves : List (Move A M T I)} (start : inv w)
    (run : exec (World.step sys) w moves = some w') :
    ef.left w' + moves.countP (·.label.internal) ≤ ef.left w + (moves.map budget).sum := by
  induction moves generalizing w with
  | nil =>
      cases run
      exact Nat.le_refl _
  | cons mv moves ih =>
      obtain ⟨mid, taken, rest⟩ := exec_cons_eq_some.mp run
      obtain ⟨s, es, reacted, -⟩ := World.fire_eq_some.mp taken
      have first := left_fire_le keeps reacted taken (pays w mv s es start reacted)
      have later := ih (preserved w mv mid start taken) rest
      rw [List.countP_cons, List.map_cons, List.sum_cons]
      omega

end Effort

end ActorSystem
