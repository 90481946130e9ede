import Mathlib.Data.List.Induction
import Mathlib.Data.Set.Insert

/-! # The set a queue of updates settles to

Updates put a key into a set or drop one. A queue of updates that has not been worked
off yet determines the set there will be in the end: `settle`. What holds of this set
need not be proved again while the queue moves.
-/

namespace ActorSystem

variable {κ : Type*}

inductive Mark (κ : Type*) where
  | put (k : κ)
  | drop (k : κ)
  | keep
  deriving DecidableEq, Repr

def Mark.on : Mark κ → Set κ → Set κ
  | .put k, keys => insert k keys
  | .drop k, keys => keys \ {k}
  | .keep, keys => keys

/-- Carry out a queue of updates, the first one first. -/
def settle (marks : List (Mark κ)) (keys : Set κ) : Set κ :=
  marks.foldl (fun keys mark => mark.on keys) keys

@[simp] theorem settle_nil (keys : Set κ) : settle [] keys = keys := rfl

@[simp] theorem settle_cons (mark : Mark κ) (marks : List (Mark κ)) (keys : Set κ) :
    settle (mark :: marks) keys = settle marks (mark.on keys) := rfl

theorem settle_append (front back : List (Mark κ)) (keys : Set κ) :
    settle (front ++ back) keys = settle back (settle front keys) := List.foldl_append

theorem mem_settle_of_mem {marks : List (Mark κ)} {keys : Set κ} {k : κ} (known : k ∈ keys)
    (kept : .drop k ∉ marks) : k ∈ settle marks keys := by
  induction marks generalizing keys with
  | nil => exact known
  | cons mark marks ih =>
      obtain ⟨here, later⟩ := not_or.mp (mt List.mem_cons.mpr kept)
      refine ih ?_ later
      cases mark with
      | put k' => exact Set.mem_insert_of_mem k' known
      | drop k' => exact ⟨known, fun same => here (congrArg Mark.drop same)⟩
      | keep => exact known

theorem mem_settle_cases {marks : List (Mark κ)} {keys : Set κ} {k : κ}
    (left : k ∈ settle marks keys) : .put k ∈ marks ∨ k ∈ keys ∧ .drop k ∉ marks := by
  induction marks generalizing keys with
  | nil => exact .inr ⟨left, List.not_mem_nil⟩
  | cons mark marks ih =>
      rcases ih left with put | ⟨known, kept⟩
      · exact .inl (List.mem_cons_of_mem mark put)
      · cases mark with
        | put k' =>
            rcases known with rfl | known
            · exact .inl List.mem_cons_self
            · exact .inr ⟨known, by simpa using kept⟩
        | drop k' =>
            obtain ⟨known, other⟩ := known
            exact .inr ⟨known, by simpa using ⟨other, kept⟩⟩
        | keep => exact .inr ⟨known, by simpa using kept⟩

/-- Of the updates of a key the last one counts. -/
theorem mem_settle_iff_last [DecidableEq κ] {marks : List (Mark κ)} {k : κ} :
    k ∈ settle marks ∅ ↔
      marks.reverse.find? (fun mark => mark = .put k || mark = .drop k) = some (.put k) := by
  induction marks using List.reverseRecOn with
  | nil => simp
  | append_singleton marks mark ih =>
      rw [settle_append, settle_cons, settle_nil, List.reverse_append, List.reverse_singleton,
        List.singleton_append, List.find?_cons]
      cases mark with
      | put k' =>
          by_cases same : k' = k
          · simp [Mark.on, same]
          · simp [Mark.on, same, Ne.symm same, ih]
      | drop k' =>
          by_cases same : k' = k
          · simp [Mark.on, same]
          · simp [Mark.on, same, Ne.symm same, ih]
      | keep => simpa [Mark.on] using ih

end ActorSystem
