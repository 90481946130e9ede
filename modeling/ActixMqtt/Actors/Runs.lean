import Mathlib.Data.Option.Basic
import Mathlib.Data.List.Induction

/-! # Finite runs of a partial step function

A machine is a function `step : σ → ℓ → Option σ`: the label says which step is
taken, `none` that it is not enabled. A run is a list of labels. The rules below
lift what one step preserves to whole runs, for runs all of whose steps meet a
condition, and follow one machine by another step for step.
-/

namespace ActorSystem

variable {σ τ ℓ κ : Type*}

/-- Take the steps the labels name, in order. -/
def exec (step : σ → ℓ → Option σ) : σ → List ℓ → Option σ
  | w, [] => some w
  | w, l :: ls => (step w l).bind fun w' => exec step w' ls

/-- Every step of the run is taken in a state where `cond` allows it. -/
def Along (step : σ → ℓ → Option σ) (cond : σ → ℓ → Prop) : σ → List ℓ → Prop
  | _, [] => True
  | w, l :: ls => cond w l ∧ ∀ w', step w l = some w' → Along step cond w' ls

variable {step : σ → ℓ → Option σ} {cond : σ → ℓ → Prop}

theorem exec_cons_eq_some {w w' : σ} {l : ℓ} {ls : List ℓ} :
    exec step w (l :: ls) = some w' ↔
      ∃ mid, step w l = some mid ∧ exec step mid ls = some w' := by
  simp only [exec, Option.bind_eq_some_iff]

theorem exec_append (w : σ) (front back : List ℓ) :
    exec step w (front ++ back) =
      (exec step w front).bind fun mid => exec step mid back := by
  induction front generalizing w with
  | nil => rfl
  | cons l ls ih =>
      simp only [List.cons_append, exec, Option.bind_assoc]
      exact congrArg _ (funext ih)

theorem exec_concat_eq_some {w w' : σ} {l : ℓ} {ls : List ℓ} :
    exec step w (ls ++ [l]) = some w' ↔
      ∃ mid, exec step w ls = some mid ∧ step mid l = some w' := by
  simp [exec_append, Option.bind_eq_some_iff, exec]

instance Along.decidable [∀ w l, Decidable (cond w l)] :
    ∀ w ls, Decidable (Along step cond w ls)
  | _, [] => isTrue True.intro
  | w, l :: ls =>
      match taken : step w l with
      | none => decidable_of_iff (cond w l)
          ⟨fun ok => ⟨ok, fun w' same => by rw [taken] at same; cases same⟩, And.left⟩
      | some w' =>
          have := Along.decidable w' ls
          decidable_of_iff (cond w l ∧ Along step cond w' ls)
            ⟨fun ok => ⟨ok.1, fun w'' same => Option.some.inj (taken.symm.trans same) ▸ ok.2⟩,
              fun run => ⟨run.1, run.2 w' taken⟩⟩

theorem Along.of_forall (always : ∀ w l, cond w l) (w : σ) (ls : List ℓ) :
    Along step cond w ls := by
  induction ls generalizing w with
  | nil => exact True.intro
  | cons l ls ih => exact ⟨always w l, fun w' _ => ih w'⟩

theorem Along.front {w : σ} {front back : List ℓ} (run : Along step cond w (front ++ back)) :
    Along step cond w front := by
  induction front generalizing w with
  | nil => exact True.intro
  | cons l ls ih => exact ⟨run.1, fun w' taken => ih (run.2 w' taken)⟩

/-- What every allowed step preserves holds at the end of every allowed run. -/
theorem exec_invariant (inv : σ → Prop)
    (preserved : ∀ w l w', inv w → cond w l → step w l = some w' → inv w')
    {w w' : σ} {ls : List ℓ} (start : inv w) (allowed : Along step cond w ls)
    (run : exec step w ls = some w') : inv w' := by
  induction ls generalizing w with
  | nil =>
      cases run
      exact start
  | cons l ls ih =>
      obtain ⟨mid, taken, rest⟩ := exec_cons_eq_some.mp run
      exact ih (preserved w l mid start allowed.1 taken) (allowed.2 mid taken) rest

theorem exec_preserves {inv : σ → Prop}
    (preserved : ∀ w l w', inv w → step w l = some w' → inv w')
    {w w' : σ} {ls : List ℓ} (start : inv w) (run : exec step w ls = some w') : inv w' :=
  exec_invariant inv (fun w l w' h (_ : True) => preserved w l w' h) start
    (Along.of_forall (fun _ _ => True.intro) w ls) run

/-- What holds of a run when it holds of the run without its last step. -/
theorem exec_induction {start : σ} {motive : List ℓ → σ → Prop} (nil : motive [] start)
    (concat : ∀ ls w l w', exec step start ls = some w → motive ls w → step w l = some w' →
      motive (ls ++ [l]) w')
    {w : σ} {ls : List ℓ} (run : exec step start ls = some w) : motive ls w := by
  induction ls using List.reverseRecOn generalizing w with
  | nil =>
      cases run
      exact nil
  | append_singleton ls l ih =>
      obtain ⟨mid, before, taken⟩ := exec_concat_eq_some.mp run
      exact concat ls mid l w before (ih before) taken

theorem Along.with_invariant {inv : σ → Prop}
    (preserved : ∀ w l w', inv w → step w l = some w' → inv w') {w : σ} {ls : List ℓ}
    (start : inv w) (allowed : Along step cond w ls) :
    Along step (fun w l => inv w ∧ cond w l) w ls := by
  induction ls generalizing w with
  | nil => exact True.intro
  | cons l ls ih =>
      exact ⟨⟨start, allowed.1⟩,
        fun w' taken => ih (preserved w l w' start taken) (allowed.2 w' taken)⟩

theorem Along.of_invariant (inv : σ → Prop) {cond' : σ → ℓ → Prop}
    (preserved : ∀ w l w', inv w → cond w l → step w l = some w' → inv w')
    (meets : ∀ w l w', inv w → step w l = some w' → cond' w l) {w w' : σ} {ls : List ℓ}
    (start : inv w) (allowed : Along step cond w ls) (run : exec step w ls = some w') :
    Along step cond' w ls := by
  induction ls generalizing w with
  | nil => exact True.intro
  | cons l ls ih =>
      obtain ⟨mid, taken, rest⟩ := exec_cons_eq_some.mp run
      refine ⟨meets w l mid start taken, fun w'' taken' => ?_⟩
      obtain rfl : mid = w'' := Option.some.inj (taken.symm.trans taken')
      exact ih (preserved w l mid start allowed.1 taken) (allowed.2 mid taken) rest

/-- Some step of the run is taken in a state where `cond` holds of it. -/
def Sometime (step : σ → ℓ → Option σ) (cond : σ → ℓ → Prop) : σ → List ℓ → Prop
  | _, [] => False
  | w, l :: ls => cond w l ∨ ∃ w', step w l = some w' ∧ Sometime step cond w' ls

instance Sometime.decidable [∀ w l, Decidable (cond w l)] :
    ∀ w ls, Decidable (Sometime step cond w ls)
  | _, [] => isFalse id
  | w, l :: ls =>
      match taken : step w l with
      | none => decidable_of_iff (cond w l)
          ⟨.inl, fun once => once.resolve_right fun ⟨w', same, _⟩ => by
            rw [taken] at same
            cases same⟩
      | some w' =>
          have := Sometime.decidable w' ls
          decidable_of_iff (cond w l ∨ Sometime step cond w' ls)
            ⟨Or.imp_right fun later => ⟨w', taken, later⟩,
              Or.imp_right fun ⟨w'', same, later⟩ => Option.some.inj (taken.symm.trans same) ▸ later⟩

theorem Sometime.imp {cond' : σ → ℓ → Prop} (weaker : ∀ w l, cond w l → cond' w l) {w : σ}
    {ls : List ℓ} (once : Sometime step cond w ls) : Sometime step cond' w ls := by
  induction ls generalizing w with
  | nil => exact once
  | cons l ls ih =>
      rcases once with now | ⟨w', taken, later⟩
      · exact .inl (weaker w l now)
      · exact .inr ⟨w', taken, ih later⟩

/-- What starts to hold in the steps where `cond` holds, and in no others, holds at the end of a run
    when `cond` held sometime. -/
theorem exec_sometime {inv p : σ → Prop}
    (preserved : ∀ w l w', inv w → step w l = some w' → inv w')
    (marked : ∀ w l w', inv w → step w l = some w' → (p w' ↔ p w ∨ cond w l))
    {w w' : σ} {ls : List ℓ} (start : inv w) (run : exec step w ls = some w') :
    p w' ↔ p w ∨ Sometime step cond w ls := by
  induction ls generalizing w with
  | nil =>
      cases run
      simp [Sometime]
  | cons l ls ih =>
      obtain ⟨mid, taken, rest⟩ := exec_cons_eq_some.mp run
      rw [ih (preserved w l mid start taken) rest, marked w l mid start taken, or_assoc]
      simp [Sometime, taken]

/-- The labels a second machine takes while it follows a run of the first. -/
def follow (step : σ → ℓ → Option σ) (image : σ → ℓ → List κ) : σ → List ℓ → List κ
  | _, [] => []
  | w, l :: ls => image w l ++
      match step w l with
      | some w' => follow step image w' ls
      | none => []

theorem follow_append {step : σ → ℓ → Option σ} {image : σ → ℓ → List κ} (w : σ)
    (front back : List ℓ) :
    ∃ rest, follow step image w (front ++ back) = follow step image w front ++ rest := by
  induction front generalizing w with
  | nil => exact ⟨_, rfl⟩
  | cons l ls ih =>
      simp only [List.cons_append, follow, List.append_assoc]
      cases step w l with
      | none => exact ⟨[], rfl⟩
      | some w' =>
          obtain ⟨rest, split⟩ := ih w'
          exact ⟨rest, congrArg _ split⟩

theorem follow_concat {step : σ → ℓ → Option σ} {image : σ → ℓ → List κ} {w mid : σ} {l : ℓ}
    {ls : List ℓ} (run : exec step w ls = some mid) :
    follow step image w (ls ++ [l]) = follow step image w ls ++ image mid l := by
  induction ls generalizing w with
  | nil =>
      cases run
      simp only [List.nil_append, follow]
      split <;> simp
  | cons l' ls ih =>
      obtain ⟨next, taken, rest⟩ := exec_cons_eq_some.mp run
      simp only [List.cons_append, follow, taken, ih rest, List.append_assoc]

theorem mem_follow {step : σ → ℓ → Option σ} {image : σ → ℓ → List κ} {w : σ} {ls : List ℓ} {k : κ}
    (member : k ∈ follow step image w ls) : ∃ w l, k ∈ image w l := by
  induction ls generalizing w with
  | nil => cases member
  | cons l ls ih =>
      simp only [follow, List.mem_append] at member
      rcases member with here | later
      · exact ⟨w, l, here⟩
      · split at later
        · exact ih later
        · cases later

/-- If the second machine can follow every allowed step, it can follow every allowed run. -/
theorem exec_follow {step' : τ → κ → Option τ} {image : σ → ℓ → List κ} {rel : σ → τ → Prop}
    (matched : ∀ w l w' v, rel w v → cond w l → step w l = some w' →
      ∃ v', exec step' v (image w l) = some v' ∧ rel w' v')
    {w w' : σ} {v : τ} {ls : List ℓ} (start : rel w v) (allowed : Along step cond w ls)
    (run : exec step w ls = some w') :
    ∃ v', exec step' v (follow step image w ls) = some v' ∧ rel w' v' := by
  induction ls generalizing w v with
  | nil =>
      cases run
      exact ⟨v, rfl, start⟩
  | cons l ls ih =>
      obtain ⟨mid, taken, rest⟩ := exec_cons_eq_some.mp run
      obtain ⟨v₁, first, related⟩ := matched w l mid v start allowed.1 taken
      obtain ⟨v', later, final⟩ := ih related (allowed.2 mid taken) rest
      refine ⟨v', ?_, final⟩
      simp only [follow, taken, exec_append, first, Option.bind_some, later]

end ActorSystem
