import Mathlib.Data.List.Nodup

/-! # Counters that wrap around

A counter counts up to a modulus `M` and starts again at zero; what it hands out is its
value modulo a period `n`. Two calls less than a period apart hand out the same residue
only across a wrap, and only when their distance is the remainder of the two moduli.
-/

namespace WrappingCounter

variable {M n c i j k l : ℕ}

def next (M c : ℕ) : ℕ := (c + 1) % M

/-- The values a counter has before each of `l` calls. -/
def values (M : ℕ) : ℕ → ℕ → List ℕ
  | _, 0 => []
  | c, l + 1 => c :: values M (next M c) l

theorem next_lt (start : c < M) : next M c < M := Nat.mod_lt _ (Nat.zero_lt_of_lt start)

theorem next_add (M c i : ℕ) : (next M c + i) % M = (c + (i + 1)) % M := by
  rw [next, Nat.mod_add_mod, Nat.add_assoc, Nat.add_comm 1 i]

theorem values_eq (start : c < M) (l : ℕ) :
    values M c l = (List.range l).map fun i => (c + i) % M := by
  induction l generalizing c with
  | zero => rfl
  | succ l ih =>
      rw [values, ih (next_lt start), List.range_succ_eq_map, List.map_cons, List.map_map, Nat.add_zero,
        Nat.mod_eq_of_lt start]
      exact congrArg (c :: ·) (List.map_congr_left fun i _ => next_add M c i)

theorem drop_values (start : c < M) (k l : ℕ) :
    (values M c (k + l)).drop k = values M ((c + k) % M) l := by
  induction k generalizing c with
  | zero => rw [Nat.zero_add, List.drop_zero, Nat.add_zero, Nat.mod_eq_of_lt start]
  | succ k ih =>
      rw [Nat.add_right_comm, values, List.drop_succ_cons, ih (next_lt start), next_add]

theorem mod_add_cancel_iff (x y a n : ℕ) : (x + a) % n = (y + a) % n ↔ x % n = y % n := by
  have integers := Int.emod_add_cancel_right (m := (x : Int)) (n := (n : Int)) (k := (y : Int)) a
  exact_mod_cast integers

theorem residue_eq_iff (before : i < j) (short : j - i < n) (once : c + j < 2 * M) :
    (c + i) % M % n = (c + j) % M % n ↔ c + i < M ∧ M ≤ c + j ∧ M % n = j - i := by
  have apart (a b : ℕ) (lt : a < b) (near : b - a < n) : a % n ≠ b % n := by
    intro same
    have divides : n ∣ b - a := Nat.dvd_of_mod_eq_zero (Nat.sub_mod_eq_zero_of_mod_eq same.symm)
    exact absurd (Nat.le_of_dvd (by omega) divides) (by omega)
  by_cases wrapped : c + i < M ∧ M ≤ c + j
  · obtain ⟨unwrapped, wraps⟩ := wrapped
    have here : (c + i) % M = c + i := Nat.mod_eq_of_lt unwrapped
    have there : (c + j) % M = c + j - M := by
      rw [Nat.mod_eq_sub_mod wraps, Nat.mod_eq_of_lt (by omega)]
    rw [here, there]
    -- both residues are shifted by the number of calls before the wrap
    calc (c + i) % n = (c + j - M) % n
        ↔ (c + i + (M - (c + i))) % n = (c + j - M + (M - (c + i))) % n :=
          (mod_add_cancel_iff _ _ _ _).symm
      _ ↔ M % n = (j - i) % n := by
          rw [show c + i + (M - (c + i)) = M by omega,
            show c + j - M + (M - (c + i)) = j - i by omega]
      _ ↔ c + i < M ∧ M ≤ c + j ∧ M % n = j - i := by
          rw [Nat.mod_eq_of_lt short]
          simp [unwrapped, wraps]
  · -- without a wrap between them the values are as far apart as the calls
    refine iff_of_false ?_ fun ⟨unwrapped, wraps, _⟩ => wrapped ⟨unwrapped, wraps⟩
    rcases Nat.lt_or_ge (c + j) M with unwrapped | wraps
    · rw [Nat.mod_eq_of_lt unwrapped, Nat.mod_eq_of_lt (show c + i < M by omega)]
      exact apart _ _ (by omega) (by omega)
    · have wraps' : M ≤ c + i := by omega
      have here : (c + i) % M = c + i - M := by
        rw [Nat.mod_eq_sub_mod wraps', Nat.mod_eq_of_lt (by omega)]
      have there : (c + j) % M = c + j - M := by
        rw [Nat.mod_eq_sub_mod wraps, Nat.mod_eq_of_lt (by omega)]
      rw [here, there]
      exact apart _ _ (by omega) (by omega)

theorem nodup_residues (start : c < M) (n l : ℕ) :
    ((values M c l).map (· % n)).Nodup ↔
      ∀ i j, i < j → j < l → (c + i) % M % n ≠ (c + j) % M % n := by
  rw [values_eq start, List.map_map, List.nodup_map_iff_inj_on List.nodup_range]
  simp only [List.mem_range, Function.comp_apply]
  constructor
  · intro inj i j before bound same
    exact absurd (inj i (Nat.lt_trans before bound) j bound same) (Nat.ne_of_lt before)
  · intro apart i inI j inJ same
    rcases Nat.lt_trichotomy i j with before | equal | after
    · exact absurd same (apart i j before inJ)
    · exact equal
    · exact absurd same.symm (apart j i after inI)

/-- At most a period of calls hands out different residues in three cases only: they end before the
    counter wraps, the period divides the modulus, or they are no more than the remainder. -/
theorem nodup_residues_iff (start : c < M) (short : l ≤ n) :
    ((values M c l).map (· % n)).Nodup ↔ c + l ≤ M ∨ n ∣ M ∨ l ≤ M % n := by
  rw [nodup_residues start]
  constructor
  · intro apart
    by_contra others
    obtain ⟨wraps, remains, exceeds⟩ : M < c + l ∧ ¬ n ∣ M ∧ M % n < l := by
      simpa only [not_or, Nat.not_le] using others
    have positive : 0 < M % n := Nat.pos_of_ne_zero fun zero => remains (Nat.dvd_of_mod_eq_zero zero)
    have within : M % n ≤ M := Nat.mod_le M n
    -- the last call before the wrap that still has a partner after it
    refine apart (M - c - M % n) (M - c - M % n + M % n) (by omega) (by omega) ?_
    exact (residue_eq_iff (by omega) (by omega) (by omega)).mpr ⟨by omega, by omega, by omega⟩
  · intro ways i j before bound same
    have once : c + j < 2 * M := by
      rcases ways with unwrapped | divides | remainder
      · omega
      · have := Nat.le_of_dvd (Nat.zero_lt_of_lt start) divides
        omega
      · have := Nat.mod_le M n
        omega
    obtain ⟨-, wraps, distance⟩ := (residue_eq_iff before (by omega) once).mp same
    rcases ways with unwrapped | divides | remainder
    · omega
    · rw [Nat.mod_eq_zero_of_dvd divides] at distance
      omega
    · omega

end WrappingCounter
