import Mathlib.Data.List.Range
import ActixMqtt.Actors.Runs

/-! # Retrying with a cap

A sender that attempts one task again and again. Attempts are numbered from zero. An
attempt that was sent is followed by the next one not before a timeout, one that was not
not before a shorter pause, and an attempt beyond the cap sends nothing and is the last.
The sender may stop attempting at any time, so every beginning of a history is a history.
-/

namespace Retrying

open ActorSystem

structure Policy where
  cap : ℕ
  /-- From an attempt that was sent to the next. -/
  timeout : ℕ
  /-- From an attempt that was not sent to the next. -/
  pause : ℕ
  shorter : pause ≤ timeout

structure Attempt where
  number : ℕ
  time : ℕ
  sent : Bool
  deriving DecidableEq, Repr

/-- The number of the next attempt and the earliest time for it. -/
structure State where
  number : ℕ
  earliest : ℕ
  deriving DecidableEq, Repr

def start : State := ⟨0, 0⟩

namespace Policy

variable (p : Policy)

/-- How long the next attempt is put off. -/
def wait (a : Attempt) : ℕ := if a.sent then p.timeout else p.pause

def step (s : State) (a : Attempt) : Option State :=
  if a.number = s.number ∧ s.earliest ≤ a.time ∧ a.number ≤ p.cap + 1 ∧
      (a.sent → a.number ≤ p.cap) then
    some ⟨s.number + 1, a.time + p.wait a⟩
  else none

/-- The attempts that a sender may make, in order. -/
def Follows (history : List Attempt) : Prop := (exec p.step start history).isSome

variable {p} {s s' : State} {a : Attempt} {history : List Attempt}

theorem step_eq_some : p.step s a = some s' ↔
    (a.number = s.number ∧ s.earliest ≤ a.time ∧ a.number ≤ p.cap + 1 ∧
      (a.sent → a.number ≤ p.cap)) ∧ s' = ⟨s.number + 1, a.time + p.wait a⟩ := by
  unfold step
  split
  · rename_i allowed
    rw [and_iff_right allowed, Option.some.injEq]
    exact eq_comm
  · rename_i refused
    simp only [reduceCtorEq, refused, false_and]

/-- What is known of a history: its attempts are numbered in order, each waits for those before it,
    and only attempts within the cap are sent. -/
structure Orderly (p : Policy) (history : List Attempt) (s : State) : Prop where
  numbered : history.map Attempt.number = List.range history.length
  next : s.number = history.length
  apart : history.Pairwise fun a b => a.time + p.wait a ≤ b.time
  due : ∀ a ∈ history, a.time + p.wait a ≤ s.earliest
  capped : ∀ a ∈ history, a.number ≤ p.cap + 1 ∧ (a.sent → a.number ≤ p.cap)

theorem orderly_start : p.Orderly [] start where
  numbered := rfl
  next := rfl
  apart := .nil
  due := by simp
  capped := by simp

theorem Orderly.step (orderly : p.Orderly history s) (taken : p.step s a = some s') :
    p.Orderly (history ++ [a]) s' := by
  obtain ⟨⟨number, late, within, capped⟩, rfl⟩ := step_eq_some.mp taken
  have number := number.trans orderly.next
  have behind : ∀ b ∈ history, b.time + p.wait b ≤ a.time :=
    fun b member => (orderly.due b member).trans late
  constructor
  · rw [List.map_append, orderly.numbered, List.map_singleton, number, List.length_append,
      List.length_singleton, List.range_succ]
  · rw [List.length_append, List.length_singleton, orderly.next]
  · refine List.pairwise_append.mpr ⟨orderly.apart, List.pairwise_singleton _ _, ?_⟩
    intro b member c last
    obtain rfl := List.mem_singleton.mp last
    exact behind b member
  · intro b member
    rcases List.mem_append.mp member with before | last
    · exact (behind b before).trans (Nat.le_add_right _ _)
    · obtain rfl := List.mem_singleton.mp last
      exact Nat.le_refl _
  · intro b member
    rcases List.mem_append.mp member with before | last
    · exact orderly.capped b before
    · obtain rfl := List.mem_singleton.mp last
      exact ⟨within, capped⟩

theorem orderly_of_exec (run : exec p.step start history = some s) : p.Orderly history s :=
  exec_induction (motive := p.Orderly) orderly_start
    (fun _ _ _ _ _ orderly taken => orderly.step taken) run

theorem Follows.orderly (follows : p.Follows history) : ∃ s, p.Orderly history s := by
  obtain ⟨s, run⟩ := Option.isSome_iff_exists.mp follows
  exact ⟨s, orderly_of_exec run⟩

theorem Follows.numbered (follows : p.Follows history) :
    history.map Attempt.number = List.range history.length :=
  follows.orderly.elim fun _ orderly => orderly.numbered

/-- Every attempt waits for all attempts before it. -/
theorem Follows.apart (follows : p.Follows history) :
    history.Pairwise fun a b => a.time + p.wait a ≤ b.time :=
  follows.orderly.elim fun _ orderly => orderly.apart

theorem Follows.capped (follows : p.Follows history) :
    ∀ a ∈ history, a.number ≤ p.cap + 1 ∧ (a.sent → a.number ≤ p.cap) :=
  follows.orderly.elim fun _ orderly => orderly.capped

/-- There are at most the attempts within the cap and the one that gives up. -/
theorem Follows.length_le (follows : p.Follows history) : history.length ≤ p.cap + 2 := by
  by_contra long
  have last : history.length - 1 ∈ history.map Attempt.number := by
    rw [follows.numbered, List.mem_range]
    omega
  obtain ⟨a, member, number⟩ := List.mem_map.mp last
  have bound := (follows.capped a member).1
  omega

end Policy

end Retrying
