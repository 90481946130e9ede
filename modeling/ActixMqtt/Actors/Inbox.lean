import ActixMqtt.Actors.Settling
import ActixMqtt.Actors.World

/-! # What an actor handles, in order

The messages that an actor has handled and those that wait in its mailbox form one
list, which only grows at its end while the actor lives. What is added later is handled
later.
-/

namespace ActorSystem

variable {A M T I E S : Type} [DecidableEq A]

/-- The messages that `a` has handled, newest first. -/
def handled (a : A) (log : List (Record A M T I E)) : List M :=
  log.filterMap fun
    | .took b m => if b = a then some m else none
    | _ => none

/-- The messages of `a` in the order in which it has handled them or will. -/
def inbox (a : A) (w : World A M T I E S) : List M := (handled a w.log).reverse ++ w.mail a

/-- Since its messages were `start`, `more` have been added; an actor that stops loses the end. -/
def Grown (a : A) (start more : List M) (w : World A M T I E S) : Prop :=
  (w.live a → inbox a w = start ++ more) ∧
    (w.live a = false → w.mail a = [] ∧ inbox a w <+: start ++ more)

/-- `first` waits ahead of `last` and what follows it has `P`, or it has been handled and what was
    handled since has `Q`. -/
def Between (a : A) (first last : M) (P Q : M → Prop) (w : World A M T I E S) : Prop :=
  (∃ front back, w.mail a = front ++ first :: back ∧ last ∉ front ∧ ∀ m ∈ back, P m) ∨
    ∃ later earlier, handled a w.log = later ++ first :: earlier ∧ (∀ m ∈ later, Q m) ∧
      ∀ m ∈ w.mail a, P m

theorem mem_handled {a : A} {m : M} {log : List (Record A M T I E)} :
    m ∈ handled a log ↔ .took a m ∈ log := by
  simp only [handled, List.mem_filterMap]
  constructor
  · rintro ⟨r, member, same⟩
    cases r with
    | took b m' =>
        simp only [Option.ite_none_right_eq_some, Option.some.injEq] at same
        obtain ⟨rfl, rfl⟩ := same
        exact member
    | ran t | gave i | emitted e => cases same
  · intro member
    exact ⟨_, member, if_pos rfl⟩

section Fire

variable [DecidableEq M] [DecidableEq T] {sys : System A M T I E S} {w w' : World A M T I E S}
  {res : A → Option SendError} {l : Label A M T I} {s : S} {es : List (Effect A M T E)} {a : A}

theorem handled_take {m : M} (reacted : w.reaction sys res l = some (s, es))
    (fired : w.fire sys res l = some w') (taken : l = .take a m) :
    handled a w'.log = m :: handled a w.log := by
  rw [World.fire_log reacted fired, taken, handled, List.filterMap_append,
    List.filterMap_eq_nil_iff.mpr]
  · simp [Label.record, handled]
  · intro r emitted
    obtain ⟨e, -, rfl⟩ := List.mem_map.mp emitted
    rfl

theorem handled_other (reacted : w.reaction sys res l = some (s, es))
    (fired : w.fire sys res l = some w') (other : ∀ m, l ≠ .take a m) :
    handled a w'.log = handled a w.log := by
  rw [World.fire_log reacted fired, handled, List.filterMap_append, List.filterMap_eq_nil_iff.mpr]
  · cases l with
    | take b m =>
        have apart : b ≠ a := fun same => other m (by rw [same])
        simp [Label.record, handled, apart]
    | run t | give i => simp [Label.record, handled]
  · intro r emitted
    obtain ⟨e, -, rfl⟩ := List.mem_map.mp emitted
    rfl

/-- While the actor lives, nothing happens to its messages but that some are added. -/
theorem inbox_fire (reacted : w.reaction sys res l = some (s, es))
    (fired : w.fire sys res l = some w') (alive : w'.live a) :
    inbox a w' = inbox a w ++ posts a es := by
  rcases World.fire_mail reacted fired alive with ⟨m, rest, taken, before, after⟩ | ⟨other, after⟩
  · simp [inbox, handled_take reacted fired taken, before, after]
  · simp [inbox, handled_other reacted fired other, after]

theorem mem_inbox_fire {m : M} (reacted : w.reaction sys res l = some (s, es))
    (fired : w.fire sys res l = some w') (member : m ∈ inbox a w') :
    m ∈ inbox a w ∨ .post a m ∈ es := by
  rcases List.mem_append.mp member with past | waits
  · by_cases taken : ∃ m, l = .take a m
    · obtain ⟨m', taken⟩ := taken
      have head := (World.reaction_take.mp (taken ▸ reacted)).2.1
      rw [handled_take reacted fired taken, List.reverse_cons, List.mem_append,
        List.mem_singleton] at past
      rcases past with before | rfl
      · exact .inl (List.mem_append_left _ before)
      · exact .inl (List.mem_append_right _ (List.mem_of_mem_head? head))
    · rw [handled_other reacted fired fun m' same => taken ⟨m', same⟩] at past
      exact .inl (List.mem_append_left _ past)
  · exact (World.mem_mail_of_fire reacted fired waits).imp_left (List.mem_append_right _)

omit [DecidableEq M] [DecidableEq T] in
theorem closed_applyAll (empty : w.live a = false → w.mail a = []) (es : List (Effect A M T E))
    (dead : (w.applyAll sys es).live a = false) : (w.applyAll sys es).mail a = [] := by
  induction es generalizing w with
  | nil => exact empty dead
  | cons e es ih =>
      refine ih (w := w.apply sys e) (fun dead => ?_) dead
      cases e with
      | post dst m =>
          have stopped : w.live a = false := by
            rwa [World.apply_live_of_ne sys w (by simp)] at dead
          simp only [World.apply]
          split
          · rename_i alive
            have apart : a ≠ dst := by
              rintro rfl
              simp [stopped] at alive
            simp [Function.update_of_ne apart, empty stopped]
          · exact empty stopped
      | spawn t | emit e => exact empty dead
      | halt b =>
          by_cases same : a = b
          · simp [World.apply, same]
          · simp only [World.apply, Function.update_of_ne same] at dead ⊢
            exact empty dead

theorem closed_fire (reacted : w.reaction sys res l = some (s, es))
    (fired : w.fire sys res l = some w') (empty : w.live a = false → w.mail a = [])
    (dead : w'.live a = false) : w'.mail a = [] := by
  obtain ⟨s', es', reacted', rfl⟩ := World.fire_eq_some.mp fired
  refine closed_applyAll (fun dead => ?_) _ dead
  cases l with
  | take b m =>
      by_cases same : a = b
      · subst same
        simp [World.consume, empty dead]
      · simp only [World.consume, Function.update_of_ne same]
        exact empty dead
  | run t | give i => exact empty dead

theorem inbox_begins (reacted : w.reaction sys res l = some (s, es))
    (fired : w.fire sys res l = some w') (empty : w.live a = false → w.mail a = [])
    (dead : w'.live a = false) : inbox a w' <+: inbox a w := by
  rw [inbox, closed_fire reacted fired empty dead, List.append_nil]
  by_cases taken : ∃ m, l = .take a m
  · obtain ⟨m, taken⟩ := taken
    have head := (World.reaction_take.mp (taken ▸ reacted)).2.1
    rw [handled_take reacted fired taken, inbox, ← List.cons_head?_tail head]
    simp
  · rw [handled_other reacted fired fun m same => taken ⟨m, same⟩]
    exact List.prefix_append _ _

omit [DecidableEq M] [DecidableEq T] in
theorem Grown.beginning {start more : List M} (grown : Grown a start more w) :
    inbox a w <+: start ++ more := by
  by_cases alive : w.live a
  · simp [grown.1 alive]
  · exact (grown.2 (Bool.eq_false_of_not_eq_true alive)).2

theorem Grown.fire {start more : List M} (grown : Grown a start more w)
    (reacted : w.reaction sys res l = some (s, es)) (fired : w.fire sys res l = some w') :
    Grown a start (more ++ posts a es) w' := by
  constructor
  · intro alive
    rw [inbox_fire reacted fired alive, grown.1 (World.fire_live_le fired alive), List.append_assoc]
  · intro dead
    have empty : w.live a = false → w.mail a = [] := fun stopped => (grown.2 stopped).1
    have kept : inbox a w' <+: start ++ more :=
      (inbox_begins reacted fired empty dead).trans grown.beginning
    refine ⟨closed_fire reacted fired empty dead, ?_⟩
    rw [← List.append_assoc]
    exact kept.trans (List.prefix_append _ _)

theorem Grown.step {start : List M} {mv : Move A M T I} (grown : ∃ more, Grown a start more w)
    (taken : w.step sys mv = some w') : ∃ more, Grown a start more w' := by
  obtain ⟨more, grown⟩ := grown
  obtain ⟨s, es, reacted, -⟩ := World.fire_eq_some.mp taken
  exact ⟨more ++ posts a es, grown.fire reacted taken⟩

/-- What stands behind the messages of an actor stays between them and all later ones. -/
theorem Grown.later {start : List M} {moves : List (Move A M T I)} (grown : Grown a start [] w)
    (later : exec (World.step sys) w moves = some w') : ∃ more, Grown a start more w' :=
  exec_preserves (fun _ _ _ => Grown.step) ⟨[], grown⟩ later

theorem Between.start {first last : M} {P Q : M → Prop}
    (reacted : w.reaction sys res l = some (s, es)) (fired : w.fire sys res l = some w')
    (alive : w'.live a) (posted : posts a es = [first]) (fresh : last ∉ w.mail a) :
    Between a first last P Q w' := by
  rcases World.fire_mail reacted fired alive with ⟨m, rest, -, before, after⟩ | ⟨-, after⟩
  · refine .inl ⟨rest, [], by rw [after, posted], fun member => fresh ?_, by simp⟩
    rw [before]
    exact List.mem_cons_of_mem m member
  · exact .inl ⟨w.mail a, [], by rw [after, posted], fresh, by simp⟩

theorem Between.fire {first last : M} {P Q : M → Prop}
    (reacted : w.reaction sys res l = some (s, es)) (fired : w.fire sys res l = some w')
    (alive : w'.live a) (posted : ∀ m ∈ posts a es, P m)
    (taken : ∀ m, l = .take a m → P m → Q m) (between : Between a first last P Q w) :
    Between a first last P Q w' := by
  rcases World.fire_mail reacted fired alive with ⟨m, rest, label, before, after⟩ | ⟨other, after⟩
  · have heard := handled_take reacted fired label
    rcases between with ⟨front, back, mail, fresh, calm⟩ | ⟨later, earlier, past, quiet, calm⟩
    · rw [before] at mail
      cases front with
      | nil =>
          obtain ⟨rfl, rfl⟩ := List.cons.inj mail
          refine .inr ⟨[], _, heard, by simp, fun m' member => ?_⟩
          rw [after] at member
          exact (List.mem_append.mp member).elim (calm m') (posted m')
      | cons m' front =>
          obtain ⟨rfl, rfl⟩ := List.cons.inj mail
          refine .inl ⟨front, back ++ posts a es, by simp [after],
            fun member => fresh (List.mem_cons_of_mem m member), fun m' member => ?_⟩
          exact (List.mem_append.mp member).elim (calm m') (posted m')
    · rw [before] at calm
      refine .inr ⟨m :: later, earlier, by simp [heard, past], fun m' member => ?_,
        fun m' member => ?_⟩
      · rcases List.mem_cons.mp member with rfl | old
        · exact taken m' label (calm m' List.mem_cons_self)
        · exact quiet m' old
      · rw [after] at member
        exact (List.mem_append.mp member).elim (fun old => calm m' (List.mem_cons_of_mem m old))
          (posted m')
  · have heard := handled_other reacted fired other
    rcases between with ⟨front, back, mail, fresh, calm⟩ | ⟨later, earlier, past, quiet, calm⟩
    · refine .inl ⟨front, back ++ posts a es, by simp [after, mail], fresh, fun m member => ?_⟩
      exact (List.mem_append.mp member).elim (calm m) (posted m)
    · refine .inr ⟨later, earlier, by rw [heard, past], quiet, fun m member => ?_⟩
      rw [after] at member
      exact (List.mem_append.mp member).elim (calm m) (posted m)

omit [DecidableEq M] [DecidableEq T] in
theorem Between.at_last {first last : M} {P Q : M → Prop} (between : Between a first last P Q w)
    (next : (w.mail a).head? = some last) (apart : first ≠ last) :
    ∃ later earlier, handled a w.log = later ++ first :: earlier ∧ (∀ m ∈ later, Q m) ∧
      ∀ m ∈ w.mail a, P m := by
  rcases between with ⟨front, back, mail, fresh, -⟩ | ⟨later, earlier, past, quiet, calm⟩
  · rw [mail] at next
    cases front with
    | nil => exact absurd (Option.some.inj next) apart
    | cons m front =>
        obtain rfl : m = last := Option.some.inj next
        exact absurd List.mem_cons_self fresh
  · exact ⟨later, earlier, past, quiet, calm⟩

/-- A set of keys that the actor alone updates, and only as its messages say, is what the messages
    it has handled make of it. -/
theorem settles_fire {κ : Type*} (mark : M → Mark κ) (keys : S → Set κ) {start : Set κ}
    (reacted : w.reaction sys res l = some (s, es)) (fired : w.fire sys res l = some w')
    (updates : ∀ m, l = .take a m → keys s = (mark m).on (keys w.state))
    (keeps : (∀ m, l ≠ .take a m) → keys s = keys w.state)
    (settles : keys w.state = settle ((handled a w.log).reverse.map mark) start) :
    keys w'.state = settle ((handled a w'.log).reverse.map mark) start := by
  rw [World.fire_state reacted fired]
  by_cases taken : ∃ m, l = .take a m
  · obtain ⟨m, taken⟩ := taken
    rw [handled_take reacted fired taken, updates m taken, settles, List.reverse_cons,
      List.map_append, settle_append]
    rfl
  · have other : ∀ m, l ≠ .take a m := fun m same => taken ⟨m, same⟩
    rw [handled_other reacted fired other, keeps other, settles]

end Fire

theorem split_behind {first m : M} {before more front rest : List M}
    (same : front ++ m :: rest = before ++ first :: more) (fresh : m ∉ before) (apart : m ≠ first) :
    ∃ between, front = before ++ first :: between ∧ more = between ++ m :: rest := by
  rcases List.append_eq_append_iff.mp same with ⟨ahead, old, rest⟩ | ⟨behind, before, rest⟩
  · cases ahead with
    | nil => exact absurd (List.cons.inj rest).1 apart
    | cons m' ahead =>
        obtain ⟨rfl, -⟩ := List.cons.inj rest
        exact absurd (old ▸ List.mem_append_right _ List.mem_cons_self) fresh
  · cases behind with
    | nil => exact absurd (List.cons.inj rest).1.symm apart
    | cons m' behind =>
        obtain ⟨rfl, split⟩ := List.cons.inj rest
        exact ⟨behind, before, split⟩

/-- What was handled before a later message includes all that was ahead of it. -/
theorem Grown.earlier {w₀ w : World A M T I E S} {a : A} {first m : M} {more later earlier : List M}
    (grown : Grown a (inbox a w₀ ++ [first]) more w)
    (since : handled a w.log = (later ++ m :: earlier) ++ handled a w₀.log)
    (fresh : m ∉ w₀.mail a) (apart : m ≠ first) :
    ∃ between rest, earlier.reverse = w₀.mail a ++ first :: between ∧
      more = between ++ m :: rest := by
  obtain ⟨lost, whole⟩ := grown.beginning
  have same : earlier.reverse ++ m :: (later.reverse ++ w.mail a ++ lost) =
      w₀.mail a ++ first :: more := by
    simpa [inbox, since] using whole
  obtain ⟨between, front, back⟩ := split_behind same fresh apart
  exact ⟨between, _, front, back⟩

theorem mem_settle_since {κ : Type*} (mark : M → Mark κ) {start : Set κ} {k : κ} (first : M)
    {later earlier : List M} (puts : mark first = .put k) (once : ∀ m ∈ later, mark m ≠ .put k) :
    k ∈ settle ((later ++ first :: earlier).reverse.map mark) start ↔
      ∀ m ∈ later, mark m ≠ .drop k := by
  simp only [List.reverse_append, List.reverse_cons, List.append_assoc, List.map_append,
    settle_append, List.map_cons, List.map_nil, settle_cons, settle_nil, puts]
  constructor
  · intro left m member drops
    rcases mem_settle_cases left with put | ⟨-, kept⟩
    · obtain ⟨m', member', puts'⟩ := List.mem_map.mp put
      exact once m' (List.mem_reverse.mp member') puts'
    · exact kept (List.mem_map.mpr ⟨m, List.mem_reverse.mpr member, drops⟩)
  · intro kept
    refine mem_settle_of_mem (Set.mem_insert k _) fun dropped => ?_
    obtain ⟨m, member, drops⟩ := List.mem_map.mp dropped
    exact kept m (List.mem_reverse.mp member) drops

end ActorSystem
